/-
**Identifiers of hops.**

An identifier is 32 lower-case hexadecimal digits of 128 bits, of which six are fixed: the digit at
position 13 is a 4, and the one at position 17 is 8, 9, a or b.
-/

namespace TryConfirmCancel.Identifier

/-- A digit below sixteen in lower case. -/
def digitChar (digit : Nat) : Char := if digit < 10 then .ofNat (digit + 48) else .ofNat (digit + 87)

/-- The lowest `count` hexadecimal digits of a number, the highest first. -/
def digits : Nat → Nat → List Nat
  | 0, _ => []
  | count + 1, number => digits count (number / 16) ++ [number % 16]

/-- The digit at a position, counted from zero, with its fixed bits. -/
def marked (position digit : Nat) : Nat :=
  if position = 12 then 4
  else if position = 16 then 8 + digit % 4
  else digit

/-- The identifier that random bits make. -/
def ofBits (bits : Nat) : String :=
  .ofList ((digits 32 bits).mapIdx fun position digit => digitChar (marked position digit))

end TryConfirmCancel.Identifier
