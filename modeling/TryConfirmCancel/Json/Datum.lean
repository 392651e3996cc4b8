/-
**Data of a program, which may have no form in JSON.**

* `Datum.toValue?`: the JSON value of data. A number that is not finite becomes null; a key of a map
  has to be a text, an integer or a truth value, and is written as a text; any other key has no form;
* `Datum.ofValue`: JSON values as data.
-/

import TryConfirmCancel.Json.Value

namespace TryConfirmCancel.Json

/-- Data of a program. -/
inductive Datum
  | nothing
  | bool (value : Bool)
  | integer (value : Int)
  | float (value : Binary64)
  | text (value : String)
  | list (items : List Datum)
  | map (entries : List (Datum × Datum))
  deriving Inhabited

namespace Datum

/-- The text that stands for a key. -/
def key? : Datum → Option String
  | text value => some value
  | integer value => some (toString value)
  | bool value => some (toString value)
  | _ => none

mutual

/-- The JSON value of data, the members of objects in increasing order. -/
def toValue? : Datum → Option Value
  | nothing => some .null
  | bool value => some (.bool value)
  | integer value => some (.int value)
  | float value => some (.ofFloat value)
  | text value => some (.string value)
  | list items => (itemsToValues? items).map .array
  | map entries => (entriesToMembers? entries).map fun members => .ofDict (.ofList members)

def itemsToValues? : List Datum → Option (List Value)
  | [] => some []
  | item :: rest => do
    let value ← item.toValue?
    let values ← itemsToValues? rest
    some (value :: values)

/-- The members that entries of a map make. -/
def entriesToMembers? : List (Datum × Datum) → Option (List (String × Value))
  | [] => some []
  | (key, item) :: rest => do
    let name ← key.key?
    let value ← item.toValue?
    let members ← entriesToMembers? rest
    some ((name, value) :: members)

end

mutual

def ofValue : Value → Datum
  | .null => nothing
  | .bool value => bool value
  | .number (.integer value) => integer value
  | .number (.float value) => float value
  | .string value => text value
  | .array items => list (ofItems items)
  | .object members => map (ofMembers members)

def ofItems : List Value → List Datum
  | [] => []
  | item :: rest => ofValue item :: ofItems rest

/-- Members of an object as entries of a map. -/
def ofMembers : List (String × Value) → List (Datum × Datum)
  | [] => []
  | (key, value) :: rest => (text key, ofValue value) :: ofMembers rest

end

end Datum

end TryConfirmCancel.Json
