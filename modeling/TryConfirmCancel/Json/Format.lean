/-
**How a type stands in JSON.**

A format pairs a writer with a reader.

* `Format.reread`: a text read as a type and written again.
-/

import TryConfirmCancel.Json.Reader

namespace TryConfirmCancel.Json

/-- How values of a type are written and read. -/
structure Format (α : Type) where
  write : α → Value
  reader : Reader α

namespace Format

variable {α : Type}

/-- The compact text of a value. -/
def text (format : Format α) (value : α) : String := (format.write value).text

/-- The compact text of a value in UTF-8. -/
def bytes (format : Format α) (value : α) : Bytes := Utf8.ofText (format.text value)

/-- A text read as a type and written again. -/
def reread (format : Format α) (text : String) : Option String :=
  (format.reader.ofText? text).map format.text

def value : Format Value := ⟨id, .value⟩

def strings : Format (List String) := ⟨.strings, .list .string⟩

end Format

end TryConfirmCancel.Json
