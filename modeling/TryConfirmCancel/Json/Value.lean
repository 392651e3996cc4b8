/-
**JSON values and how they are written.**

* `Value`: the members of an object stand in the order in which they are written;
* `Value.text`: the compact form, without white space;
* `Value.pretty`: the form for people, indented by two blanks a level;
* `Value.ordered`: the same data with the members of every object in increasing order.

A string escapes the quote, the backslash and the controls below U+0020, and nothing else.
-/

import TryConfirmCancel.Dict
import TryConfirmCancel.Number.Bounds
import TryConfirmCancel.Number.Shortest

namespace TryConfirmCancel.Json

/-- A number is an integer or a finite floating-point number. -/
inductive Number
  | integer (value : Int)
  | float (value : Binary64)
  deriving DecidableEq, Repr

/-- A JSON value. -/
inductive Value
  | null
  | bool (value : Bool)
  | number (value : Number)
  | string (value : String)
  | array (items : List Value)
  | object (members : List (String × Value))
  deriving Repr, Inhabited

def Value.int (value : Int) : Value := .number (.integer value)

/-- A natural number as a value. -/
def Value.nat (value : Nat) : Value := .number (.integer value)

/-- A floating-point number as a value; one that is not finite is null. -/
def Value.ofFloat (number : Binary64) : Value :=
  if number.isFinite then .number (.float number) else .null

def Value.strings (texts : List String) : Value := .array (texts.map .string)

def Value.ofDict (dict : Dict Value) : Value := .object dict.entries

/-- A dictionary of texts as an object. -/
def Value.ofTexts (dict : Dict String) : Value :=
  .object (dict.entries.map fun entry => (entry.1, .string entry.2))

/-- A text that may be missing. -/
def Value.ofText? : Option String → Value
  | none => .null
  | some text => .string text

/-- Numbers from 1e-5 to below 1e16 are written without an exponent. -/
def floatLayout : Shortest.Layout := ⟨-5, 15⟩

def Number.chars : Number → List Char
  | .integer (.ofNat value) => Nat.toDigits 10 value
  | .integer (.negSucc value) => '-' :: Nat.toDigits 10 (value + 1)
  | .float value => Shortest.render floatLayout value

/-- A digit below sixteen in lower case. -/
def hexChar (digit : Nat) : Char := if digit < 10 then .ofNat (digit + 48) else .ofNat (digit + 87)

/-- How one character stands inside a string. -/
def stringChar (char : Char) : List Char :=
  if char = '"' then ['\\', '"']
  else if char = '\\' then ['\\', '\\']
  else if 0x20 ≤ char.toNat then [char]
  else if char = '\x08' then ['\\', 'b']
  else if char = '\x0c' then ['\\', 'f']
  else if char = '\n' then ['\\', 'n']
  else if char = '\r' then ['\\', 'r']
  else if char = '\t' then ['\\', 't']
  else ['\\', 'u', '0', '0', hexChar (char.toNat / 16), hexChar (char.toNat % 16)]

/-- The characters of a string with its quotes. -/
def stringChars (text : String) : List Char := '"' :: (text.toList.flatMap stringChar ++ ['"'])

mutual

/-- The characters of a value in the compact form. -/
def Value.chars : Value → List Char
  | .null => ['n', 'u', 'l', 'l']
  | .bool true => ['t', 'r', 'u', 'e']
  | .bool false => ['f', 'a', 'l', 's', 'e']
  | .number value => value.chars
  | .string value => stringChars value
  | .array items => '[' :: (itemsChars items ++ [']'])
  | .object members => '\x7b' :: (membersChars members ++ ['\x7d'])

/-- Items with a comma between two. -/
def itemsChars : List Value → List Char
  | [] => []
  | item :: rest => item.chars ++ moreItemsChars rest

/-- Further items, each behind a comma. -/
def moreItemsChars : List Value → List Char
  | [] => []
  | item :: rest => ',' :: (item.chars ++ moreItemsChars rest)

/-- Members with a comma between two. -/
def membersChars : List (String × Value) → List Char
  | [] => []
  | (key, value) :: rest => stringChars key ++ ':' :: (value.chars ++ moreMembersChars rest)

/-- Further members, each behind a comma. -/
def moreMembersChars : List (String × Value) → List Char
  | [] => []
  | (key, value) :: rest => ',' :: (stringChars key ++ ':' :: (value.chars ++ moreMembersChars rest))

end

/-- The compact form of a value. -/
def Value.text (value : Value) : String := .ofList value.chars

/-- A line break and the blanks of a level. -/
def lineBreak (level : Nat) : List Char := '\n' :: List.replicate (2 * level) ' '

mutual

/-- The characters of a value whose line stands at a level. -/
def Value.prettyChars (level : Nat) : Value → List Char
  | .array [] => ['[', ']']
  | .array (item :: rest) =>
    '[' :: (lineBreak (level + 1) ++ item.prettyChars (level + 1) ++ prettyItems (level + 1) rest
      ++ lineBreak level ++ [']'])
  | .object [] => ['\x7b', '\x7d']
  | .object ((key, value) :: rest) =>
    '\x7b' :: (lineBreak (level + 1) ++ stringChars key ++ [':', ' '] ++ value.prettyChars (level + 1)
      ++ prettyMembers (level + 1) rest ++ lineBreak level ++ ['\x7d'])
  | .null => Value.null.chars
  | .bool value => (Value.bool value).chars
  | .number value => value.chars
  | .string value => stringChars value

/-- Further items, each on a line of its own. -/
def prettyItems (level : Nat) : List Value → List Char
  | [] => []
  | item :: rest => ',' :: (lineBreak level ++ item.prettyChars level ++ prettyItems level rest)

/-- Further members, each on a line of its own. -/
def prettyMembers (level : Nat) : List (String × Value) → List Char
  | [] => []
  | (key, value) :: rest =>
    ',' :: (lineBreak level ++ stringChars key ++ [':', ' '] ++ value.prettyChars level
      ++ prettyMembers level rest)

end

/-- The form of a value for people. -/
def Value.pretty (value : Value) : String := .ofList (value.prettyChars 0)

mutual

/-- The same data with the members of every object in increasing order; of equal keys the last wins. -/
def Value.ordered : Value → Value
  | .array items => .array (orderedItems items)
  | .object members => .object (orderedMembers members [])
  | value => value

/-- Items with their members in order. -/
def orderedItems : List Value → List Value
  | [] => []
  | item :: rest => item.ordered :: orderedItems rest

/-- Members put into order behind those before them. -/
def orderedMembers : List (String × Value) → List (String × Value) → List (String × Value)
  | [], members => members
  | (key, value) :: rest, members => orderedMembers rest (insertEntry key value.ordered members)

end

end TryConfirmCancel.Json
