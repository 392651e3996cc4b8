/-
**Unsigned numerals with a bound.**

* `parse`: an optional plus sign and ASCII digits, for a number not above a bound; the digits are
  checked from left to right, so of two faults the first one is reported;
* `render`: the decimal digits of a number.
-/

namespace TryConfirmCancel.Text.Numeral

/-- Why a text is no numeral of a bounded number. -/
inductive Fault
  | empty
  | invalidDigit
  | tooLarge
  deriving DecidableEq, Repr

def Fault.message : Fault → String
  | .empty => "cannot parse integer from empty string"
  | .invalidDigit => "invalid digit found in string"
  | .tooLarge => "number too large to fit in target type"

/-- The value of a decimal digit. -/
def digit? (char : Char) : Option Nat :=
  if '0' ≤ char ∧ char ≤ '9' then some (char.toNat - '0'.toNat) else none

/-- Reads further digits behind the number read so far. -/
def digits (bound : Nat) : Nat → List Char → Except Fault Nat
  | number, [] => .ok number
  | number, char :: rest =>
    match digit? char with
    | none => .error .invalidDigit
    | some value =>
      if number * 10 + value ≤ bound then digits bound (number * 10 + value) rest
      else .error .tooLarge

/-- Reads a number not above `bound`. -/
def parse (bound : Nat) (text : String) : Except Fault Nat :=
  match text.toList with
  | [] => .error .empty
  | ['+'] => .error .invalidDigit
  | '+' :: rest => digits bound 0 rest
  | chars => digits bound 0 chars

/-- The decimal digits of a number. -/
def render (number : Nat) : String := .ofList (Nat.toDigits 10 number)

end TryConfirmCancel.Text.Numeral
