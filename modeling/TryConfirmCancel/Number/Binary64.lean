/-
**Binary floating-point numbers of 64 bits, by exact arithmetic.**

A number is its bit pattern. Every operation takes the exact rational result and rounds it once:

* `ofRatio`: the number nearest to a ratio, a tie going to the even pattern;
* `ofDecimal`: the number nearest to a decimal;
* `ofNat`, `mul`, `div`: conversion, product and quotient, each rounded by `ofRatio`;
* `truncated`: the whole part, kept within a bound.
-/

namespace TryConfirmCancel

/-- A binary floating-point number, given by its 64 bits. -/
structure Binary64 where
  bits : UInt64
  deriving DecidableEq, Repr

namespace Binary64

/-- The pattern of infinity without its sign. -/
def infinityPattern : Nat := 0x7ff0000000000000

/-- The weight of the sign bit. -/
def signWeight : Nat := 0x8000000000000000

/-- The weight of the lowest bit of the exponent, below which the fraction stands. -/
def exponentWeight : Nat := 0x10000000000000

/-- A number from its sign and the pattern of its magnitude. -/
def ofPattern (negative : Bool) (pattern : Nat) : Binary64 :=
  ⟨.ofNat ((if negative then signWeight else 0) + min pattern infinityPattern)⟩

/-- A number below zero, or the negative zero. -/
def isNegative (number : Binary64) : Bool := signWeight ≤ number.bits.toNat

def pattern (number : Binary64) : Nat := number.bits.toNat % signWeight

def isFinite (number : Binary64) : Bool := number.pattern < infinityPattern

/-- The quotient rounded to the nearest natural number, a tie going to the even one. -/
def roundedQuotient (dividend divisor : Nat) : Nat :=
  let quotient := dividend / divisor
  let twice := 2 * (dividend % divisor)
  if twice < divisor then quotient
  else if divisor < twice then quotient + 1
  else quotient + quotient % 2

/-- `dividend / (divisor * 2 ^ exponent)` rounded. -/
def roundedAt (dividend divisor : Nat) (exponent : Int) : Nat :=
  match exponent with
  | .ofNat up => roundedQuotient dividend (divisor * Nat.pow 2 up)
  | .negSucc down => roundedQuotient (dividend * Nat.pow 2 (down + 1)) divisor

/-- The exponent of the last place of numbers near a positive ratio. -/
def lastPlace (dividend divisor : Nat) : Int :=
  let guess : Int := (dividend.log2 : Int) - (divisor.log2 : Int) - 52
  let reaches : Bool := match guess with
    | .ofNat up => divisor * Nat.pow 2 (up + 52) ≤ dividend
    | .negSucc down => divisor * exponentWeight ≤ dividend * Nat.pow 2 (down + 1)
  max (if reaches then guess else guess - 1) (-1074)

/-- The number nearest to `dividend / divisor`; one beyond the range is infinite. -/
def ofRatio (negative : Bool) (dividend divisor : Nat) : Binary64 :=
  if dividend = 0 then ofPattern negative 0
  else
    let exponent := lastPlace dividend divisor
    ofPattern negative ((exponent + 1074).toNat * exponentWeight + roundedAt dividend divisor exponent)

/-- The significand and the exponent of the last place of a finite magnitude. -/
def parts (number : Binary64) : Nat × Int :=
  let field : Nat := number.pattern / exponentWeight
  let fraction : Nat := number.pattern % exponentWeight
  if field = 0 then (fraction, -1074) else (fraction + exponentWeight, (field : Int) - 1075)

/-- A finite magnitude as a ratio. -/
def ratio (number : Binary64) : Nat × Nat :=
  match number.parts with
  | (significand, .ofNat up) => (significand * Nat.pow 2 up, 1)
  | (significand, .negSucc down) => (significand, Nat.pow 2 (down + 1))

/-- The number nearest to `digits * 10 ^ exponent`. A value far out of range is known to be zero or
infinite without its power of ten. -/
def ofDecimal (negative : Bool) (digits : Nat) (exponent : Int) : Binary64 :=
  let places : Int := exponent + (Nat.toDigits 10 digits).length
  if digits = 0 ∨ places < -400 then ofPattern negative 0
  else if 400 < places then ofPattern negative infinityPattern
  else match exponent with
    | .ofNat up => ofRatio negative (digits * Nat.pow 10 up) 1
    | .negSucc down => ofRatio negative digits (Nat.pow 10 (down + 1))

/-- The number nearest to a natural number. -/
def ofNat (number : Nat) : Binary64 := ofRatio false number 1

/-- The rounded product of finite numbers. -/
def mul (left right : Binary64) : Binary64 :=
  ofRatio (left.isNegative != right.isNegative) (left.ratio.1 * right.ratio.1) (left.ratio.2 * right.ratio.2)

/-- The rounded quotient of finite numbers, the second of which is not zero. -/
def div (left right : Binary64) : Binary64 :=
  ofRatio (left.isNegative != right.isNegative) (left.ratio.1 * right.ratio.2) (left.ratio.2 * right.ratio.1)

/-- The same magnitude with the given sign. -/
def withSign (negative : Bool) (number : Binary64) : Binary64 := ofPattern negative number.pattern

/-- The whole part of a number, zero if it is negative and `bound` if it is larger. -/
def truncated (bound : Nat) (number : Binary64) : Nat :=
  if infinityPattern < number.pattern || number.isNegative then 0
  else if number.isFinite then min bound (number.ratio.1 / number.ratio.2)
  else bound

example : ofRatio false 1 10 = ⟨0x3fb999999999999a⟩ := by decide +kernel

example : (ofNat 100).mul (ofNat 2) = ofNat 200 := by decide +kernel

example : ofRatio false 5 (Nat.pow 10 324) = ⟨1⟩ := by decide +kernel

end Binary64

end TryConfirmCancel
