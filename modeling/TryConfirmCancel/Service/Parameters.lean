/-
**The arguments of Try as texts.**

The coordinator keeps the arguments and sends them back to Confirm and Cancel. Each argument is one
JSON text, so no argument can run into its neighbours.

* `Parameters.encode`: the texts of an argument list, which must have the form of an array;
* `Parameters.decode`: every text is read on its own, then the list of values as the type that the
  service expects;
* `Parameters.toBytes`, `Parameters.ofBytes`: the texts as one JSON array, and back.
-/

import TryConfirmCancel.Failure
import TryConfirmCancel.Json.Datum
import TryConfirmCancel.Json.Format

namespace TryConfirmCancel

/-- Arguments, one JSON text each. -/
structure Parameters where
  texts : List String
  deriving DecidableEq, Repr, Inhabited

/-- Why arguments cannot be written or read. -/
inductive ParametersFault
  /-- The data has no form in JSON. -/
  | unwritable
  /-- The data is no array. -/
  | notSequence (found : String)
  /-- The text at a position is no JSON. -/
  | entry (position : Nat)
  /-- The values do not have the type that is expected. -/
  | types
  /-- The bytes are no JSON array of strings. -/
  | notTexts
  deriving DecidableEq, Repr

/-- A fault as the failure of a call. -/
def ParametersFault.failure : ParametersFault → Failure
  | .unwritable => .codec "JSON error: key must be a string"
  | .notSequence found => .codec s!"parameters must serialize as a sequence, got {found}"
  | .entry position => .undecodable s!"parameter {position}: not JSON"
  | .types => .undecodable "parameters: not of the expected types"
  | .notTexts => .undecodable "parameter list: not an array of strings"

def Json.Value.kind : Json.Value → String
  | .null => "null"
  | .bool _ => "a boolean"
  | .number _ => "a number"
  | .string _ => "a string"
  | .array _ => "an array"
  | .object _ => "an object"

namespace Parameters

def none : Parameters := ⟨[]⟩

/-- The texts of an argument list. -/
def encode (arguments : Json.Datum) : Except ParametersFault Parameters :=
  match arguments.toValue? with
  | .none => .error .unwritable
  | .some (.array items) => .ok ⟨items.map Json.Value.text⟩
  | .some value => .error (.notSequence value.kind)

/-- The values of texts, of which the first stands at a position. -/
def valuesFrom (position : Nat) : List String → Except ParametersFault (List Json.Value)
  | [] => .ok []
  | text :: rest =>
    match Json.Reader.value.ofText? text with
    | .none => .error (.entry position)
    | .some value => (valuesFrom (position + 1) rest).map (value :: ·)

def decode {α : Type} (parameters : Parameters) (reader : Json.Reader α) : Except ParametersFault α := do
  let values ← valuesFrom 0 parameters.texts
  match reader.ofItems? values with
  | .none => .error .types
  | .some arguments => .ok arguments

/-- The texts as one JSON array. -/
def toBytes (parameters : Parameters) : Bytes := Json.Format.strings.bytes parameters.texts

/-- Reads a JSON array of texts; no bytes at all stand for no arguments. -/
def ofBytes (bytes : Bytes) : Except ParametersFault Parameters :=
  if bytes.isEmpty then .ok none
  else match Json.Format.strings.reader.ofBytes? bytes with
    | .none => .error .notTexts
    | .some texts => .ok ⟨texts⟩

end Parameters

end TryConfirmCancel
