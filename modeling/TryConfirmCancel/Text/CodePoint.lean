/-
**Characters by their code points.**

* `hexDigit?`: the value of a hexadecimal digit in either case;
* `codePoint`: the character that a fixed number of hexadecimal digits gives.
-/

namespace TryConfirmCancel.Text

/-- The value of a hexadecimal digit. -/
def hexDigit? (char : Char) : Option Nat :=
  if '0' ≤ char ∧ char ≤ '9' then some (char.toNat - 48)
  else if 'a' ≤ char ∧ char ≤ 'f' then some (char.toNat - 87)
  else if 'A' ≤ char ∧ char ≤ 'F' then some (char.toNat - 55)
  else none

/-- The character with the code point that `count` digits give, and what follows them. -/
def codePoint (count : Nat) (chars : List Char) : Option (Char × List Char) := do
  let digits ← (chars.take count).mapM hexDigit?
  let code := digits.foldl (fun code digit => code * 16 + digit) 0
  if digits.length = count ∧ Nat.isValidChar code then some (.ofNat code, chars.drop count) else none

end TryConfirmCancel.Text
