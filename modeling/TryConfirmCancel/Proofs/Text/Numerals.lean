/-
**What a numeral spells.**

* `Spells`: a text is an optional plus sign and decimal digits that make a number;
* `parse_eq_ok_iff`: a text is read as a number just if it spells it and the bound is kept;
* `parse_render`: so a rendered number within the bound is read as itself.
-/

import TryConfirmCancel.Text.Numeral

namespace TryConfirmCancel.Text.Numeral

/-- A text spells a number: an optional plus sign, and digits of which there is at least one. -/
def Spells (text : String) (number : Nat) : Prop :=
  ∃ chars, chars ≠ [] ∧ (∀ char ∈ chars, char.isDigit = true) ∧ Nat.ofDigitChars 10 chars 0 = number ∧
    (text.toList = chars ∨ text.toList = '+' :: chars)

/-! ### Digits -/

theorem isDigit_iff {char : Char} : char.isDigit = true ↔ '0' ≤ char ∧ char ≤ '9' := by
  rw [Char.isDigit, Bool.and_eq_true, decide_eq_true_eq, decide_eq_true_eq]
  exact Iff.rfl

theorem digit?_of_isDigit {char : Char} (digit : char.isDigit = true) :
    digit? char = some (char.toNat - '0'.toNat) := by
  unfold digit?
  rw [if_pos (isDigit_iff.mp digit)]

theorem digit?_eq_none {char : Char} (other : ¬ char.isDigit = true) : digit? char = none := by
  unfold digit?
  rw [if_neg fun within => other (isDigit_iff.mpr within)]

/-- Further digits never make a number smaller. -/
theorem le_ofDigitChars (chars : List Char) (number : Nat) : number ≤ Nat.ofDigitChars 10 chars number := by
  induction chars generalizing number with
  | nil => exact Nat.le_refl _
  | cons char rest ih =>
    rw [Nat.ofDigitChars_cons]
    exact Nat.le_trans (by omega) (ih _)

/-- Characters are read behind a number just if they are digits and the bound is kept. -/
theorem digits_eq_ok_iff {bound start number : Nat} {chars : List Char} (within : start ≤ bound) :
    digits bound start chars = .ok number ↔
      (∀ char ∈ chars, char.isDigit = true) ∧ Nat.ofDigitChars 10 chars start = number ∧ number ≤ bound := by
  induction chars generalizing start with
  | nil =>
    rw [digits, Except.ok.injEq]
    refine ⟨fun same => ⟨by simp, same, same ▸ within⟩, fun read => read.2.1⟩
  | cons char rest ih =>
    rw [List.forall_mem_cons, Nat.ofDigitChars_cons, Nat.mul_comm 10 start]
    unfold digits
    by_cases digit : char.isDigit = true
    · rw [digit?_of_isDigit digit]
      show (if start * 10 + (char.toNat - '0'.toNat) ≤ bound then _ else _) = _ ↔ _
      by_cases fits : start * 10 + (char.toNat - '0'.toNat) ≤ bound
      · rw [if_pos fits, ih fits]
        simp only [digit, true_and]
      · rw [if_neg fits]
        refine ⟨fun read => (by cases read), fun ⟨_, made, kept⟩ => absurd ?_ fits⟩
        -- what is already too large stays so
        exact Nat.le_trans (le_ofDigitChars rest _) (made ▸ kept)
    · rw [digit?_eq_none digit]
      refine ⟨fun read => (by cases read), fun read => absurd read.1.1 digit⟩

/-! ### Numerals -/

/-- A text spells one number. -/
theorem Spells.unique {text : String} {number other : Nat} (spells : Spells text number)
    (spells' : Spells text other) : number = other := by
  obtain ⟨chars, -, digits, rfl, spelt⟩ := spells
  obtain ⟨chars', -, digits', rfl, spelt'⟩ := spells'
  have plus : ∀ rest : List Char, ¬ ∀ char ∈ '+' :: rest, char.isDigit = true := fun rest digits =>
    absurd (digits '+' List.mem_cons_self) (by decide)
  rcases spelt with same | same <;> rcases spelt' with same' | same' <;> rw [same] at same'
  · rw [same']
  · exact absurd (same' ▸ digits) (plus chars')
  · exact absurd (same' ▸ digits') (plus chars)
  · rw [(List.cons.inj same').2]

/-- **A text is read as a number just if it spells this number and the number keeps the bound.** -/
theorem parse_eq_ok_iff {bound number : Nat} {text : String} :
    parse bound text = .ok number ↔ Spells text number ∧ number ≤ bound := by
  have read {chars : List Char} := @digits_eq_ok_iff bound 0 number chars (Nat.zero_le bound)
  unfold parse Spells
  constructor
  · intro parsed
    split at parsed
    · cases parsed
    · cases parsed
    · rename_i rest bare chars
      obtain ⟨digits, made, kept⟩ := read.mp parsed
      exact ⟨⟨rest, bare, digits, made, .inr chars⟩, kept⟩
    · rename_i present _ _
      obtain ⟨digits, made, kept⟩ := read.mp parsed
      exact ⟨⟨_, present, digits, made, .inl rfl⟩, kept⟩
  · rintro ⟨⟨chars, present, digits, made, spelt⟩, kept⟩
    have parsed := read.mpr ⟨digits, made, kept⟩
    split
    · rename_i none
      rcases spelt with same | same
      · exact absurd (same.symm.trans none) present
      · exact absurd (same.symm.trans none) (List.cons_ne_nil _ _)
    · rename_i bare
      rcases spelt with same | same
      · exact absurd (digits '+' (by rw [← same, bare]; exact List.mem_cons_self)) (by decide)
      · exact absurd (List.cons.inj (same.symm.trans bare)).2 present
    · rename_i rest _ signed
      rcases spelt with same | same
      · exact absurd (digits '+' (by rw [← same, signed]; exact List.mem_cons_self)) (by decide)
      · rwa [← (List.cons.inj (same.symm.trans signed)).2]
    · rename_i _ _ unsigned
      rcases spelt with same | same
      · rwa [same]
      · exact absurd same (unsigned chars)

theorem spells_render (number : Nat) : Spells (render number) number := by
  refine ⟨Nat.toDigits 10 number, Nat.toDigits_ne_nil, ?_, Nat.ofDigitChars_ten_toDigits, .inl ?_⟩
  · exact fun _ member => Nat.isDigit_of_mem_toDigits (by decide) (by decide) member
  · rw [render, String.toList_ofList]

/-- A rendered number that is read at all is read as itself. -/
theorem eq_of_parse_render {bound number read : Nat} (found : parse bound (render number) = .ok read) :
    read = number :=
  (parse_eq_ok_iff.mp found).1.unique (spells_render number)

/-- A rendered number within the bound is read as itself. -/
theorem parse_render {bound number : Nat} (within : number ≤ bound) :
    parse bound (render number) = .ok number :=
  parse_eq_ok_iff.mpr ⟨spells_render number, within⟩

end TryConfirmCancel.Text.Numeral
