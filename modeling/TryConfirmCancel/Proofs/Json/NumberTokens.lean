/-
**Integers that were written are read back as one token.**

* `digitValues`: the values of the decimal digits of a number, which make the number again
  (`digitsValue_digitValues`) and do not begin with a zero that could be left out
  (`digitValues_no_leading_zero`);
* `significand_of_le`: digits whose number fits into 64 bits are all taken;
* `leadingToken_integer`: a written integer of 64 bits is one token with its value, if what follows
  could not be part of a number.
-/

import TryConfirmCancel.Json.Token
import TryConfirmCancel.Proofs.Bytes.Characters

namespace TryConfirmCancel.Json

open Utf8 (ofChars ofChars_cons encode_ascii)

/-! ### Decimal digits -/

/-- The values of the decimal digits of a number. -/
def digitValues (number : Nat) : List Nat := (Nat.toDigits 10 number).map fun char => char.toNat - 0x30

theorem isDigit_range {char : Char} (digit : char.isDigit) : 0x30 ≤ char.toNat ∧ char.toNat ≤ 0x39 := by
  simpa [Char.isDigit, UInt32.le_iff_toNat_le] using digit

theorem toDigits_range (number : Nat) : ∀ char ∈ Nat.toDigits 10 number,
    0x30 ≤ char.toNat ∧ char.toNat ≤ 0x39 :=
  fun _ member => isDigit_range (Nat.isDigit_of_mem_toDigits (by decide) (by decide) member)

theorem digitsValue_digitValues (number : Nat) : digitsValue (digitValues number) = number := by
  have fold : ∀ chars start, ((chars.map fun char : Char => char.toNat - 0x30).foldl
      (fun number digit => number * 10 + digit) start) = Nat.ofDigitChars 10 chars start := by
    intro chars
    induction chars with
    | nil => intro start; rfl
    | cons char chars ih =>
      intro start
      rw [List.map_cons, List.foldl_cons, ih, Nat.ofDigitChars_cons, Nat.mul_comm start 10]
      rfl
  rw [digitsValue, digitValues, fold, Nat.ofDigitChars_ten_toDigits]

theorem digitValues_ne_nil (number : Nat) : digitValues number ≠ [] := by
  simp [digitValues]

/-- The first digit of a positive number is no zero. -/
theorem head_digitValues {number : Nat} (positive : 0 < number) :
    ∃ first rest, digitValues number = first :: rest ∧ first ≠ 0 := by
  induction number using Nat.base_induction 10 (by decide) with
  | single number below =>
    refine ⟨number, [], ?_, Nat.pos_iff_ne_zero.mp positive⟩
    rw [digitValues, Nat.toDigits_of_lt_base below]
    simp [Nat.toNat_digitChar_sub_48_of_lt_ten below]
  | digit higher lowest below positive' ih =>
    obtain ⟨first, rest, digits, nonzero⟩ := ih positive'
    refine ⟨first, rest ++ (Nat.toDigits 10 lowest).map fun char => char.toNat - 0x30, ?_, nonzero⟩
    rw [digitValues, ← Nat.toDigits_append_toDigits (by decide) positive' below, List.map_append,
      ← List.cons_append, ← digits]
    rfl

/-- A number is not written with a zero that could be left out. -/
theorem digitValues_no_leading_zero (number : Nat) :
    (∃ digit, digitValues number = [digit]) ∨ ∃ first rest, digitValues number = first :: rest ∧ first ≠ 0 := by
  rcases Nat.eq_zero_or_pos number with rfl | positive
  · exact .inl ⟨0, rfl⟩
  · exact .inr (head_digitValues positive)

theorem le_foldl_digits (digits : List Nat) (start : Nat) :
    start ≤ digits.foldl (fun number digit => number * 10 + digit) start := by
  induction digits generalizing start with
  | nil => exact Nat.le_refl start
  | cons digit digits ih => exact Nat.le_trans (by omega) (ih (start * 10 + digit))

/-- Digits whose number fits into 64 bits are all taken. -/
theorem significand_of_le {digits : List Nat} {start : Nat}
    (fits : digits.foldl (fun number digit => number * 10 + digit) start ≤ maxWord64) :
    significand start digits = (digits.foldl (fun number digit => number * 10 + digit) start, 0) := by
  induction digits generalizing start with
  | nil => rfl
  | cons digit digits ih =>
    have within : start * 10 + digit ≤ maxWord64 := Nat.le_trans (le_foldl_digits digits _) fits
    rw [significand, if_pos within]
    exact ih fits

/-! ### Digits in front of other bytes -/

/-- What follows a number does not go on with it. -/
def EndsNumber (rest : Bytes) : Prop :=
  ∀ byte ∈ rest.head?, isDigit byte = false ∧ byte ≠ 0x2e ∧ byte ≠ 0x65 ∧ byte ≠ 0x45

theorem ofChars_digits {chars : List Char} (digits : ∀ char ∈ chars, char.toNat < 0x80) :
    ofChars chars = chars.map fun char => UInt8.ofNat char.toNat := by
  induction chars with
  | nil => rfl
  | cons char chars ih =>
    rw [ofChars_cons, encode_ascii (digits char (by simp)), ih fun other member => digits other (by simp [member])]
    rfl

theorem leadingDigits_written (number : Nat) {rest : Bytes} (ends : EndsNumber rest) :
    leadingDigits (ofChars (Nat.toDigits 10 number) ++ rest) = (digitValues number, rest) := by
  have range := toDigits_range number
  have small : ∀ char ∈ Nat.toDigits 10 number, (UInt8.ofNat char.toNat).toNat = char.toNat := by
    intro char member
    have := range char member
    rw [UInt8.toNat_ofNat']
    omega
  rw [ofChars_digits fun char member => by have := range char member; omega]
  have digits : ∀ byte ∈ (Nat.toDigits 10 number).map fun char => UInt8.ofNat char.toNat,
      isDigit byte = true := by
    intro byte member
    obtain ⟨char, inside, rfl⟩ := List.mem_map.mp member
    have := range char inside
    simp only [isDigit, Bool.and_eq_true, decide_eq_true_eq, UInt8.le_iff_toNat_le, small char inside]
    exact this
  have stop : rest.takeWhile isDigit = [] ∧ rest.dropWhile isDigit = rest := by
    cases rest with
    | nil => simp
    | cons byte rest => simp [(ends byte (by simp)).1]
  rw [leadingDigits, List.takeWhile_append_of_pos digits, List.dropWhile_append_of_pos digits, stop.1,
    stop.2, List.append_nil, List.map_map, digitValues]
  exact congrArg (·, rest) (List.map_congr_left fun char member => by
    simp only [Function.comp_apply, small char member])

theorem leadingWhole_written (number : Nat) {rest : Bytes} (ends : EndsNumber rest) :
    leadingWhole (ofChars (Nat.toDigits 10 number) ++ rest) = some (digitValues number, rest) := by
  rw [leadingWhole, leadingDigits_written number ends]
  rcases digitValues_no_leading_zero number with ⟨digit, same⟩ | ⟨first, others, same, nonzero⟩
  · rw [same]
    cases digit <;> rfl
  · rw [same]
    cases first with
    | zero => exact absurd rfl nonzero
    | succ first => rfl

theorem leadingFraction_none {rest : Bytes} (ends : EndsNumber rest) :
    leadingFraction rest = some ([], rest) := by
  cases rest with
  | nil => rfl
  | cons byte rest =>
    have noPoint := (ends byte (by simp)).2.1
    exact leadingFraction.eq_2 _ (by intros; simp_all)

theorem leadingExponent_none {rest : Bytes} (ends : EndsNumber rest) :
    leadingExponent rest = some (none, rest) := by
  cases rest with
  | nil => rfl
  | cons byte rest =>
    obtain ⟨-, -, noSmall, noCapital⟩ := ends byte (by simp)
    simp [leadingExponent, noSmall, noCapital]

/-- Digits are the whole part of a number without a fraction and an exponent. -/
theorem leadingNumeral_digits (number : Nat) {rest : Bytes} (ends : EndsNumber rest) :
    leadingNumeral (ofChars (Nat.toDigits 10 number) ++ rest)
      = some (⟨false, digitValues number, [], none⟩, rest) := by
  have noSign : ∀ others, ofChars (Nat.toDigits 10 number) ++ rest ≠ 0x2d :: others := by
    intro others same
    have read := leadingDigits_written number ends
    rw [same] at read
    exact digitValues_ne_nil number (congrArg Prod.fst read).symm
  rw [leadingNumeral.eq_2 _ noSign]
  simp only [leadingWhole_written number ends, leadingFraction_none ends, leadingExponent_none ends,
    Option.bind_eq_bind, Option.bind_some]

theorem leadingNumeral_minus (number : Nat) {rest : Bytes} (ends : EndsNumber rest) :
    leadingNumeral (0x2d :: (ofChars (Nat.toDigits 10 number) ++ rest))
      = some (⟨true, digitValues number, [], none⟩, rest) := by
  rw [leadingNumeral]
  simp only [leadingWhole_written number ends, leadingFraction_none ends, leadingExponent_none ends,
    Option.bind_eq_bind, Option.bind_some]

/-! ### What the digits mean -/

theorem meaning_digits {number : Nat} (fits : number ≤ maxWord64) :
    (Numeral.mk false (digitValues number) [] none).meaning = some (.integer number) := by
  have value := digitsValue_digitValues number
  rw [digitsValue] at value
  have taken := @significand_of_le (digitValues number) 0 (by rw [value]; exact fits)
  rw [value] at taken
  simp [Numeral.meaning, taken]

theorem meaning_minus {number : Nat} (positive : 1 ≤ number) (fits : minSigned64 ≤ -(number : Int)) :
    (Numeral.mk true (digitValues number) [] none).meaning = some (.integer (-(number : Int))) := by
  have value := digitsValue_digitValues number
  rw [digitsValue] at value
  have below : number ≤ maxWord64 := by
    simp only [minSigned64, maxWord64] at *
    omega
  have taken := @significand_of_le (digitValues number) 0 (by rw [value]; exact below)
  rw [value] at taken
  simp [Numeral.meaning, taken, positive, fits]

/-- What begins with a digit or a minus sign can only be a number. -/
theorem leadingToken_numeral {byte : UInt8} (start : isDigit byte = true ∨ byte = 0x2d) (rest : Bytes) :
    leadingToken (byte :: rest)
      = (leadingNumeral (byte :: rest)).map fun found => (.number found.1.meaning, found.2) := by
  have other : ∀ first : UInt8, first = byte → ¬ (isDigit first = true ∨ first = 0x2d) → False :=
    fun first same neither => neither (same ▸ start)
  unfold leadingToken
  split <;> first
    | rfl
    | (rename_i same; exact (other _ (List.cons.inj same).1.symm (by decide)).elim)

/-- An integer that fits into 64 bits, signed if it is negative. -/
def IsExact (value : Int) : Prop := minSigned64 ≤ value ∧ value ≤ maxWord64

/-- A written integer begins with a digit or a minus sign. -/
theorem integer_chars (value : Int) : ∃ byte bytes,
    ofChars (Number.integer value).chars = byte :: bytes ∧ (isDigit byte = true ∨ byte = 0x2d) := by
  cases value with
  | ofNat number =>
    obtain ⟨first, others, chars⟩ := List.exists_cons_of_ne_nil (Nat.toDigits_ne_nil (b := 10) (n := number))
    have range := toDigits_range number first (by simp [chars])
    refine ⟨.ofNat first.toNat, ofChars others, ?_, .inl ?_⟩
    · rw [Number.chars, chars, ofChars_cons, encode_ascii (by omega)]
      rfl
    · simp only [isDigit, Bool.and_eq_true, decide_eq_true_eq, UInt8.le_iff_toNat_le, UInt8.toNat_ofNat']
      rw [Nat.mod_eq_of_lt (by omega)]
      exact range
  | negSucc number => exact ⟨0x2d, ofChars (Nat.toDigits 10 (number + 1)), rfl, .inr rfl⟩

theorem leadingNumeral_integer {value : Int} (exact : IsExact value) {rest : Bytes} (ends : EndsNumber rest) :
    ∃ numeral, leadingNumeral (ofChars (Number.integer value).chars ++ rest) = some (numeral, rest)
      ∧ numeral.meaning = some (.integer value) := by
  cases value with
  | ofNat number => exact ⟨_, leadingNumeral_digits number ends, meaning_digits (Int.ofNat_le.mp exact.2)⟩
  | negSucc number =>
    have same : -((number + 1 : Nat) : Int) = .negSucc number := rfl
    have meaning := @meaning_minus (number + 1) (by omega) (by rw [same]; exact exact.1)
    exact ⟨_, leadingNumeral_minus (number + 1) ends, meaning⟩

/-- **A written integer is one token with its value.** -/
theorem leadingToken_integer {value : Int} (exact : IsExact value) {rest : Bytes} (ends : EndsNumber rest) :
    leadingToken (ofChars (Number.integer value).chars ++ rest)
      = some (.number (some (.integer value)), rest) := by
  obtain ⟨byte, bytes, written, start⟩ := integer_chars value
  obtain ⟨numeral, read, meaning⟩ := leadingNumeral_integer exact ends
  rw [written, List.cons_append] at read ⊢
  rw [leadingToken_numeral start, read, Option.map_some, meaning]

end TryConfirmCancel.Json
