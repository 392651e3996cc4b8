/-
**Header fields.**

Fields stand in the order in which they were added; names are in lower case, and one name may stand
before several values.

* `readable?`: the text of a value, if all its bytes are visible ASCII, blanks or tabs;
* `writable?`: the bytes of a text, if a field value may hold them;
* `first?`, `set`, `add`: the first value of a name, one value in place of all, one value more;
* `toDict`: the last readable value of every name.
-/

import TryConfirmCancel.Bytes.Utf8
import TryConfirmCancel.Dict
import TryConfirmCancel.Text.Ascii

namespace TryConfirmCancel

/-- Header fields in order. -/
structure Headers where
  fields : List (String × Bytes)
  deriving DecidableEq, Inhabited

namespace Headers

/-- A byte that is read as text. -/
def isReadable (byte : UInt8) : Bool := (0x20 ≤ byte && byte ≤ 0x7e) || byte == 0x09

/-- A byte that may stand in a field value. -/
def isWritable (byte : UInt8) : Bool := (0x20 ≤ byte && byte != 0x7f) || byte == 0x09

/-- The text of a readable value. -/
def readable? (value : Bytes) : Option String := if value.all isReadable then Utf8.text? value else none

/-- The bytes of a text that may stand in a field. -/
def writable? (text : String) : Option Bytes :=
  if (Utf8.ofText text).all isWritable then some (Utf8.ofText text) else none

def empty : Headers := ⟨[]⟩

/-- The first value of a name. -/
def first? (headers : Headers) (name : String) : Option Bytes :=
  (headers.fields.find? (·.1 == name)).map Prod.snd

/-- A field behind the others, its name in lower case. -/
def add (headers : Headers) (name : String) (value : Bytes) : Headers :=
  ⟨headers.fields ++ [(Text.lowered name, value)]⟩

/-- One value in place of all that a name has. -/
def set (headers : Headers) (name : String) (value : Bytes) : Headers :=
  ⟨headers.fields.filter (·.1 != name) ++ [(name, value)]⟩

def ofList (fields : List (String × Bytes)) : Headers :=
  fields.foldl (fun headers field => headers.add field.1 field.2) empty

/-- The first value of a name, as text. -/
def firstText? (headers : Headers) (name : String) : Option String := (headers.first? name).bind readable?

def texts (headers : Headers) : List (String × String) :=
  headers.fields.filterMap fun field => (readable? field.2).map fun text => (field.1, text)

/-- The last readable value of every name. -/
def toDict (headers : Headers) : Dict String := .ofList headers.texts

end Headers

end TryConfirmCancel
