/-
**White space and trimming.**

* `isBlank`: the characters with the Unicode property White_Space;
* `trim`: a text without the white space around it;
* `trim_blank_free`: a text that has none at either end is kept as it is.

U+200B and U+FEFF do not have the property, so they are never trimmed.
-/

namespace TryConfirmCancel.Text

/-- A character with the Unicode property White_Space, 25 in all. -/
def isBlank (char : Char) : Bool :=
  let code := char.toNat
  (9 ≤ code && code ≤ 13) || code == 0x20 || code == 0x85 || code == 0xa0 || code == 0x1680
    || (0x2000 ≤ code && code ≤ 0x200a) || code == 0x2028 || code == 0x2029 || code == 0x202f
    || code == 0x205f || code == 0x3000

/-- Characters without the white space in front of them. -/
def trimStart (chars : List Char) : List Char := chars.dropWhile isBlank

/-- Characters without the white space behind them. -/
def trimEnd (chars : List Char) : List Char := (chars.reverse.dropWhile isBlank).reverse

/-- A text without the white space around it. -/
def trim (text : String) : String := .ofList (trimEnd (trimStart text.toList))

/-- Nothing is dropped from characters that begin with one that is kept. -/
theorem dropWhile_of_head? {dropped : Char → Bool} {chars : List Char}
    (kept : ∀ char ∈ chars.head?, dropped char = false) : chars.dropWhile dropped = chars := by
  cases chars with
  | nil => rfl
  | cons char rest => simp [kept char (by simp)]

/-- A text with no white space at either end is kept. -/
theorem trim_blank_free {text : String} (front : ∀ char ∈ text.toList.head?, isBlank char = false)
    (back : ∀ char ∈ text.toList.getLast?, isBlank char = false) : trim text = text := by
  have last : ∀ char ∈ text.toList.reverse.head?, isBlank char = false := by simpa using back
  rw [trim, trimStart, dropWhile_of_head? front, trimEnd, dropWhile_of_head? last]
  simp

end TryConfirmCancel.Text
