/-
**Texts that a header carries unchanged.**

* `Portable`: every byte of the text is readable in a header, and no white space surrounds it;
* `portable_of_visible`: visible ASCII is portable, so identifiers and numerals are.
-/

import TryConfirmCancel.Hop.Identifier
import TryConfirmCancel.Hop.Propagation
import TryConfirmCancel.Proofs.Bytes.Characters
import TryConfirmCancel.Proofs.Json.NumberTokens
import TryConfirmCancel.Proofs.Text.Trimming

namespace TryConfirmCancel

/-- Visible ASCII with no white space around it, which a header carries unchanged. -/
structure Portable (text : String) : Prop where
  /-- Every byte is visible ASCII, a blank or a tab. -/
  readable : (Utf8.ofText text).all Headers.isReadable = true
  /-- No white space stands in front or behind. -/
  trimmed : Text.trim text = text

/-! ### Visible ASCII -/

def IsVisible (char : Char) : Prop := 0x21 ≤ char.toNat ∧ char.toNat ≤ 0x7e

theorem isBlank_of_visible {char : Char} (visible : IsVisible char) : Text.isBlank char = false := by
  obtain ⟨low, high⟩ := visible
  simp [Text.isBlank]
  omega

/-- Visible ASCII is portable. -/
theorem portable_of_visible {text : String} (visible : ∀ char ∈ text.toList, IsVisible char) :
    Portable text := by
  refine ⟨?_, Text.trim_blank_free ?_ ?_⟩
  · rw [List.all_eq_true, Utf8.ofText_eq_ofChars]
    intro byte member
    obtain ⟨char, inside, encoded⟩ := List.mem_flatMap.mp member
    obtain ⟨low, high⟩ := visible char inside
    rw [Utf8.encode_ascii (by omega), List.mem_singleton] at encoded
    have value : byte.toNat = char.toNat := by
      rw [encoded, UInt8.toNat_ofNat', Nat.mod_eq_of_lt (by omega)]
    simp only [Headers.isReadable, Bool.or_eq_true, Bool.and_eq_true, decide_eq_true_eq]
    refine .inl ⟨?_, ?_⟩
    · rw [UInt8.le_iff_toNat_le, value]
      exact Nat.le_trans (by decide) low
    · rw [UInt8.le_iff_toNat_le, value]
      exact high
  · exact fun char first => isBlank_of_visible (visible char (List.mem_of_mem_head? first))
  · exact fun char last => isBlank_of_visible (visible char (List.mem_of_getLast? last))

/-- A rendered number is portable. -/
theorem portable_render (number : Nat) : Portable (Text.Numeral.render number) := by
  refine portable_of_visible fun char member => ?_
  rw [Text.Numeral.render, String.toList_ofList] at member
  obtain ⟨low, high⟩ := Json.toDigits_range number char member
  exact ⟨by omega, by omega⟩

namespace Identifier

theorem isVisible_digitChar : ∀ digit < 16, IsVisible (digitChar digit) := by
  unfold IsVisible
  decide

theorem digits_lt (count number : Nat) : ∀ digit ∈ digits count number, digit < 16 := by
  induction count generalizing number with
  | zero => simp [digits]
  | succ count ih =>
    intro digit member
    rw [digits, List.mem_append, List.mem_singleton] at member
    rcases member with inside | rfl
    · exact ih _ digit inside
    · exact Nat.mod_lt _ (by decide)

theorem length_digits (count number : Nat) : (digits count number).length = count := by
  induction count generalizing number with
  | zero => rfl
  | succ count ih => rw [digits, List.length_append, ih, List.length_singleton]

theorem marked_lt {position digit : Nat} (below : digit < 16) : marked position digit < 16 := by
  unfold marked
  split
  · decide
  · split <;> omega

/-- An identifier is portable. -/
theorem portable_ofBits (bits : Nat) : Portable (ofBits bits) := by
  refine portable_of_visible fun char member => ?_
  rw [ofBits, String.toList_ofList] at member
  obtain ⟨position, within, rfl⟩ := List.mem_mapIdx.mp member
  exact isVisible_digitChar _ (marked_lt (digits_lt 32 bits _ (List.getElem_mem within)))

/-- An identifier is not empty. -/
theorem ofBits_ne_empty (bits : Nat) : ofBits bits ≠ "" := by
  intro empty
  have length := congrArg (fun text : String => text.toList.length) empty
  simp [ofBits, length_digits] at length

end Identifier

end TryConfirmCancel
