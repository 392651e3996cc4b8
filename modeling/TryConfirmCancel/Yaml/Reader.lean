/-
**What YAML scalars mean.**

A scalar in quotes is a text. A plain one is null, a truth value, an integer, a floating-point
number or a text, whichever fits first; where a text is asked for, its characters are taken as they
stand. A mapping or a sequence may be left out altogether.

* `text?`, `flag?`, `count?`, `texts?`, `members?`: settings of one type;
* `value?`: any data.
-/

import TryConfirmCancel.Text.CodePoint
import TryConfirmCancel.Yaml.Node
import TryConfirmCancel.Json.Value

namespace TryConfirmCancel.Yaml

/-! ### Plain scalars -/

/-- The number that digits of a base spell, if there is one digit at least. -/
def numberOf? (base : Nat) (digits : List Char) : Option Nat := do
  let values ← digits.mapM fun char => (Text.hexDigit? char).filter (· < base)
  if values.isEmpty then none else some (values.foldl (fun number digit => number * base + digit) 0)

/-- A zero before further digits spells no number. -/
def hasLeadingZero (digits : List Char) : Bool :=
  match digits with
  | '0' :: rest => !rest.isEmpty && rest.all fun char => '0' ≤ char && char ≤ '9'
  | _ => false

/-- The magnitude of an integer without its sign. -/
def magnitude? (chars : List Char) : Option Nat :=
  match chars with
  | '0' :: 'x' :: digits => numberOf? 16 digits
  | '0' :: 'o' :: digits => numberOf? 8 digits
  | '0' :: 'b' :: digits => numberOf? 2 digits
  | digits => if hasLeadingZero digits then none else numberOf? 10 digits

/-- The integer that a plain scalar spells. -/
def integer? (text : String) : Option Int :=
  match text.toList with
  | '+' :: rest => (magnitude? rest).map fun magnitude => (magnitude : Int)
  | '-' :: rest => (magnitude? rest).map fun magnitude => -(magnitude : Int)
  | chars => (magnitude? chars).map fun magnitude => (magnitude : Int)

/-- The digits in front and what follows them. -/
def leadingDigits (chars : List Char) : List Char × List Char :=
  let isDigit (char : Char) : Bool := '0' ≤ char && char ≤ '9'
  (chars.takeWhile isDigit, chars.dropWhile isDigit)

/-- The exponent at the end of a number, if there is one. -/
def exponent? (chars : List Char) : Option Int :=
  match chars with
  | [] => some 0
  | letter :: rest =>
    if letter == 'e' || letter == 'E' then
      match rest with
      | '-' :: digits => (numberOf? 10 digits).map fun value => -(value : Int)
      | '+' :: digits => (numberOf? 10 digits).map fun value => (value : Int)
      | digits => (numberOf? 10 digits).map fun value => (value : Int)
    else none

/-- The floating-point number that digits with a point and an exponent spell. -/
def unsignedFloat? (negative : Bool) (chars : List Char) : Option Binary64 := do
  let (whole, behindWhole) := leadingDigits chars
  let (fraction, behind) := match behindWhole with
    | '.' :: rest => leadingDigits rest
    | rest => ([], rest)
  let exponent ← exponent? behind
  let digits ← numberOf? 10 (whole ++ fraction)
  let number := Binary64.ofDecimal negative digits (exponent - (fraction.length : Int))
  if number.isFinite then some number else none

/-- A floating-point number as data: none if the scalar spells no number, null if it is not finite. -/
def float? (text : String) : Option Json.Value :=
  if [".inf", ".Inf", ".INF", "+.inf", "+.Inf", "+.INF", "-.inf", "-.Inf", "-.INF", ".nan", ".NaN",
      ".NAN"].contains text then some .null
  else
    let number := match text.toList with
      | '+' :: rest => unsignedFloat? false rest
      | '-' :: rest => unsignedFloat? true rest
      | chars => unsignedFloat? false chars
    number.map .ofFloat

/-- The truth value that a plain scalar spells. -/
def boolean? (text : String) : Option Bool :=
  if ["true", "True", "TRUE"].contains text then some true
  else if ["false", "False", "FALSE"].contains text then some false
  else none

/-- A plain scalar that spells null. -/
def isNull (text : String) : Bool := text.isEmpty || ["null", "Null", "NULL", "~"].contains text

/-- Digits behind a zero, which are a text although they look like a number. -/
def isPaddedNumber (text : String) : Bool :=
  match text.toList with
  | '+' :: rest => hasLeadingZero rest
  | '-' :: rest => hasLeadingZero rest
  | chars => hasLeadingZero chars

/-- The data of a plain scalar; an integer beyond 64 bits that 128 bits would hold is refused. -/
def plainValue? (text : String) : Option Json.Value :=
  if isNull text then some .null
  else match boolean? text with
    | some truth => some (.bool truth)
    | none =>
      let asText : Option Json.Value := if isPaddedNumber text then some (.string text) else
        some ((float? text).getD (.string text))
      match integer? text with
      | none => asText
      | some value =>
        if minSigned64 ≤ value ∧ value ≤ (maxWord64 : Int) then some (.int value)
        else if minSigned128 ≤ value ∧ value ≤ (maxWord128 : Int) then none
        else asText

/-! ### Nodes -/

/-- A text; a plain scalar is taken as it stands. -/
def text? : Node → Option String
  | .scalar _ text => some text
  | _ => none

def flag? : Node → Option Bool
  | .scalar false text => boolean? text
  | _ => none

/-- A natural number not above a bound. -/
def count? (bound : Nat) : Node → Option Nat
  | .scalar false text =>
    (integer? text).bind fun value => if !text.startsWith "-" && value ≤ (bound : Int) then some value.toNat else none
  | _ => none

def texts? : Node → Option (List String)
  | .scalar false text => if text.isEmpty then some [] else none
  | .sequence items => items.mapM text?
  | _ => none

/-- Entries whose keys are scalars, with their values read. -/
def membersOf {α : Type} (read : Node → Option α) (entries : List (Node × Node)) :
    Option (List (String × α)) :=
  entries.mapM fun (key, node) => do
    let key ← text? key
    let value ← read node
    some (key, value)

def deepest : Nat := 128

/-- Any data in which so many collections may be nested. -/
def value? : Nat → Node → Option Json.Value
  | _, .scalar true text => some (.string text)
  | _, .scalar false text => plainValue? text
  | nesting + 1, .sequence items => (items.mapM (value? nesting)).map .array
  | nesting + 1, .mapping entries =>
    (membersOf (value? nesting) entries).map fun members => .ofDict (.ofList members)
  | 0, .sequence _ => none
  | 0, .mapping _ => none

/-- A mapping from texts to any data, itself within `nesting` collections. -/
def members? (nesting : Nat) : Node → Option (Dict Json.Value)
  | .scalar false text => if text.isEmpty then some ∅ else none
  | .mapping entries => (membersOf (value? nesting) entries).map Dict.ofList
  | _ => none

/-- The named settings of a document; none if one of them is repeated. -/
def settings? (names : List String) : Option Node → Option (List (String × Node))
  | none => some []
  | some (.scalar false text) => if text.isEmpty then some [] else none
  | some (.mapping entries) => do
    let keyed ← entries.mapM fun (key, node) => (text? key).map fun key => (key, node)
    let known := keyed.filter fun entry => names.contains entry.1
    if (known.map Prod.fst).eraseDups.length = known.length then some known else none
  | some _ => none

end TryConfirmCancel.Yaml
