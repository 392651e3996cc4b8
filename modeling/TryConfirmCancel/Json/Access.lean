/-
**Looking into JSON values.**

Every question has an answer: what is not there, or has another type, counts as null, zero, false or
empty.
-/

import TryConfirmCancel.Json.Value

namespace TryConfirmCancel.Json.Value

def members : Value → List (String × Value)
  | .object found => found
  | _ => []

def has (value : Value) (key : String) : Bool := (lookupEntry key value.members).isSome

def get (value : Value) (key : String) : Value := (lookupEntry key value.members).getD .null

def list : Value → List Value
  | .array items => items
  | _ => []

def item (value : Value) (position : Nat) : Value := value.list.getD position .null

def str? : Value → Option String
  | .string text => some text
  | _ => none

def str (value : Value) : String := value.str?.getD ""

def toInt : Value → Int
  | .number (.integer whole) => whole
  | _ => 0

def toNat (value : Value) : Nat := value.toInt.toNat

def toBool : Value → Bool
  | .bool truth => truth
  | _ => false

/-- A number as a floating-point number. -/
def toFloat : Value → Binary64
  | .number (.float parts) => parts
  | value => (Binary64.ofNat value.toInt.natAbs).withSign (value.toInt < 0)

def texts (value : Value) : Dict String := .ofList (value.members.map fun entry => (entry.1, entry.2.str))

end TryConfirmCancel.Json.Value
