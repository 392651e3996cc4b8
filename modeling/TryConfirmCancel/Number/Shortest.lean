/-
**The shortest decimal that reads back as a floating-point number.**

* `digits`: the fewest decimal digits whose value rounds to the number, the nearest such value
  where several have that many;
* `Layout`: the decisions of a format about where the point stands and how an exponent is written;
* `render`: the text of a finite number in a layout.
-/

import TryConfirmCancel.Number.Binary64

namespace TryConfirmCancel.Shortest

/-- A positive decimal `digits * 10 ^ exponent`. -/
structure Decimal where
  digits : Nat
  exponent : Int
  deriving DecidableEq, Repr

/-- The ratios that round to a positive number: all `2 * n / (4 * d)` between two bounds. -/
structure Interval where
  low : Nat
  value : Nat
  high : Nat
  divisor : Nat
  closed : Bool

/-- The interval of a positive finite number, all over one divisor. -/
def interval (number : Binary64) : Interval :=
  let (significand, exponent) := number.parts
  let below := if significand = Binary64.exponentWeight ∧ -1074 < exponent then 1 else 2
  let scale : Nat := match exponent with
    | .ofNat up => Nat.pow 2 up
    | .negSucc _ => 1
  let divisor : Nat := match exponent with
    | .ofNat _ => 4
    | .negSucc down => 4 * Nat.pow 2 (down + 1)
  { low := (4 * significand - below) * scale
    value := 4 * significand * scale
    high := (4 * significand + 2) * scale
    divisor
    closed := significand % 2 = 0 }

def Decimal.ratio (decimal : Decimal) : Nat × Nat :=
  match decimal.exponent with
  | .ofNat up => (decimal.digits * Nat.pow 10 up, 1)
  | .negSucc down => (decimal.digits, Nat.pow 10 (down + 1))

/-- A decimal rounds to the number of the interval. -/
def Interval.contains (range : Interval) (decimal : Decimal) : Bool :=
  let (dividend, divisor) := decimal.ratio
  if range.closed then
    range.low * divisor ≤ dividend * range.divisor && dividend * range.divisor ≤ range.high * divisor
  else
    range.low * divisor < dividend * range.divisor && dividend * range.divisor < range.high * divisor

/-- The distance of a decimal from the number, times the divisors of both. -/
def Interval.distance (range : Interval) (decimal : Decimal) : Nat :=
  let (dividend, divisor) := decimal.ratio
  let exact := range.value * divisor
  let near := dividend * range.divisor
  (exact - near) + (near - exact)

/-- A ratio is at least `10 ^ place`. -/
def reaches (dividend divisor : Nat) : Int → Bool
  | .ofNat up => divisor * Nat.pow 10 up ≤ dividend
  | .negSucc down => divisor ≤ dividend * Nat.pow 10 (down + 1)

/-- The exponent of the first digit of a positive ratio, searched upwards from `guess`. -/
def firstPlace (dividend divisor : Nat) : Nat → Int → Int
  | 0, guess => guess
  | fuel + 1, guess =>
    if reaches dividend divisor (guess + 1) then firstPlace dividend divisor fuel (guess + 1) else guess

/-- The neighbours of the number on the grid whose unit is `10 ^ place`. -/
def neighbours (range : Interval) (place : Int) : Decimal × Decimal :=
  let below := match place with
    | .ofNat up => range.value / (range.divisor * Nat.pow 10 up)
    | .negSucc down => range.value * Nat.pow 10 (down + 1) / range.divisor
  (⟨below, place⟩, ⟨below + 1, place⟩)

/-- Of the grids from `place` downwards, the first that has a decimal in the interval. -/
def search (range : Interval) : Nat → Int → Decimal
  | 0, place => (neighbours range place).1
  | fuel + 1, place =>
    let (below, above) := neighbours range place
    let nearer :=
      if range.distance below < range.distance above then below
      else if range.distance above < range.distance below then above
      else if below.digits % 2 = 0 then below else above
    if range.contains nearer then nearer
    else if range.contains below then below
    else if range.contains above then above
    else search range fuel (place - 1)

/-- The fewest digits whose value rounds to a positive finite number. -/
def decimal (number : Binary64) : Decimal :=
  let range := interval number
  let guess : Int := ((range.value.log2 : Int) - (range.divisor.log2 : Int) - 1) * 3 / 10 - 2
  search range 17 (firstPlace range.value range.divisor 30 guess)

/-- How a format writes a decimal. -/
structure Layout where
  /-- The least exponent of the first digit that is written without an exponent. -/
  leastPlain : Int
  greatestPlain : Int

/-- The digits of a decimal without trailing zeros, and the exponent of its first digit. -/
def Decimal.significant (decimal : Decimal) : List Char × Int :=
  let chars := Nat.toDigits 10 decimal.digits
  let kept := (chars.reverse.dropWhile (· == '0')).reverse
  (kept, decimal.exponent + (chars.length : Int) - 1)

/-- Digits with the point where the exponent of the first digit puts it. -/
def plain (digits : List Char) (exponent : Int) : List Char :=
  match exponent with
  | .ofNat up =>
    let whole := digits.take (up + 1)
    let padded := whole ++ List.replicate (up + 1 - whole.length) '0'
    match digits.drop (up + 1) with
    | [] => padded ++ ['.', '0']
    | fraction => padded ++ '.' :: fraction
  | .negSucc down => '0' :: '.' :: List.replicate down '0' ++ digits

/-- Digits with the point behind the first one and an exponent with its sign. -/
def scientific (digits : List Char) (exponent : Int) : List Char :=
  let mantissa := match digits with
    | [] => []
    | [digit] => [digit]
    | first :: rest => first :: '.' :: rest
  match exponent with
  | .ofNat up => mantissa ++ 'e' :: '+' :: Nat.toDigits 10 up
  | .negSucc down => mantissa ++ 'e' :: '-' :: Nat.toDigits 10 (down + 1)

/-- The text of a finite number. -/
def render (layout : Layout) (number : Binary64) : List Char :=
  let sign := if number.isNegative then ['-'] else []
  if number.pattern = 0 then sign ++ ['0', '.', '0']
  else
    let (digits, exponent) := (decimal number).significant
    if layout.leastPlain ≤ exponent ∧ exponent ≤ layout.greatestPlain then sign ++ plain digits exponent
    else sign ++ scientific digits exponent

end TryConfirmCancel.Shortest
