/-
**Texts are in the order of their bytes.**

* `encode_lt`: of two characters the lower one comes first in bytes, whatever follows;
* `ofText_lt`: so does the lower one of two texts.
-/

import TryConfirmCancel.Proofs.Bytes.Characters

namespace TryConfirmCancel.Utf8

/-! ### Bytes of two numbers -/

section Numbers

variable {low high : Nat}

theorem cons_lt_of_toNat (below : low % 256 < high % 256) (left right : Bytes) :
    UInt8.ofNat low :: left < UInt8.ofNat high :: right := by
  refine List.cons_lt_cons_iff.mpr (.inl ?_)
  rw [UInt8.lt_iff_toNat_lt, UInt8.toNat_ofNat', UInt8.toNat_ofNat']
  exact below

/-- The bytes before decide, and if these agree the byte with the lowest six bits does. -/
theorem continued_lt (front back : Bytes) (below : low < high)
    (earlier : low / 64 < high / 64 → ∀ left right : Bytes, front ++ left < back ++ right)
    (same : low / 64 = high / 64 → front = back) (left right : Bytes) :
    front ++ UInt8.ofNat (low % 64 + 128) :: left < back ++ UInt8.ofNat (high % 64 + 128) :: right := by
  by_cases before : low / 64 < high / 64
  · exact earlier before _ _
  · rw [same (by omega)]
    exact List.append_left_lt (cons_lt_of_toNat (by omega) left right)

/-- Two bytes: five bits and six. -/
theorem two_lt (below : low < high) (bound : high < 0x800) (left right : Bytes) :
    [UInt8.ofNat (low / 64 % 32 + 192), UInt8.ofNat (low % 64 + 128)] ++ left
      < [UInt8.ofNat (high / 64 % 32 + 192), UInt8.ofNat (high % 64 + 128)] ++ right :=
  continued_lt [_] [_] below (fun _ => cons_lt_of_toNat (by omega)) (fun same => by rw [same])
    left right

/-- Three bytes: four bits, and six twice. -/
theorem three_lt (below : low < high) (bound : high < 0x10000) (left right : Bytes) :
    [UInt8.ofNat (low / 4096 % 16 + 224), UInt8.ofNat (low / 64 % 64 + 128), UInt8.ofNat (low % 64 + 128)] ++ left
      < [UInt8.ofNat (high / 4096 % 16 + 224), UInt8.ofNat (high / 64 % 64 + 128),
          UInt8.ofNat (high % 64 + 128)] ++ right := by
  have shifted (number : Nat) : number / 4096 = number / 64 / 64 := by omega
  rw [shifted, shifted]
  refine continued_lt [_, _] [_, _] below (fun before => ?_) (fun same => by rw [same]) left right
  exact continued_lt [_] [_] before (fun _ => cons_lt_of_toNat (by omega))
    (fun same => by rw [same])

/-- Four bytes: three bits, and six three times. -/
theorem four_lt (below : low < high) (bound : high < 0x110000) (left right : Bytes) :
    [UInt8.ofNat (low / 262144 % 8 + 240), UInt8.ofNat (low / 4096 % 64 + 128), UInt8.ofNat (low / 64 % 64 + 128),
        UInt8.ofNat (low % 64 + 128)] ++ left
      < [UInt8.ofNat (high / 262144 % 8 + 240), UInt8.ofNat (high / 4096 % 64 + 128),
          UInt8.ofNat (high / 64 % 64 + 128), UInt8.ofNat (high % 64 + 128)] ++ right := by
  have shifted (number : Nat) : number / 4096 = number / 64 / 64 := by omega
  have shifted' (number : Nat) : number / 262144 = number / 64 / 64 / 64 := by omega
  rw [shifted, shifted, shifted', shifted']
  refine continued_lt [_, _, _] [_, _, _] below (fun before => ?_) (fun same => by rw [same])
    left right
  refine continued_lt [_, _] [_, _] before (fun before => ?_) (fun same => by rw [same])
  exact continued_lt [_] [_] before (fun _ => cons_lt_of_toNat (by omega))
    (fun same => by rw [same])

end Numbers

/-! ### Characters and texts -/

/-- A character of a lower number comes first in bytes as well, whatever follows. -/
theorem encode_lt {low high : Char} (below : low < high) (left right : Bytes) :
    String.utf8EncodeChar low ++ left < String.utf8EncodeChar high ++ right := by
  have less : low.val.toNat < high.val.toNat := below
  have bound : high.val.toNat < 0x110000 := by
    have valid := high.valid
    unfold UInt32.isValidChar Nat.isValidChar at valid
    omega
  unfold String.utf8EncodeChar
  simp only
  generalize low.val.toNat = number at less ⊢
  generalize high.val.toNat = number' at less bound ⊢
  -- Where the numbers of bytes differ, the first byte tells; where they agree, the numbers do.
  by_cases one : number ≤ 0x7f
  · rw [if_pos one]
    repeat' split
    all_goals exact cons_lt_of_toNat (by omega) _ _
  · rw [if_neg one, if_neg (by omega : ¬ number' ≤ 0x7f)]
    by_cases two : number ≤ 0x7ff
    · rw [if_pos two]
      by_cases two' : number' ≤ 0x7ff
      · rw [if_pos two']
        exact two_lt less (by omega) left right
      · rw [if_neg two']
        split <;> exact cons_lt_of_toNat (by omega) _ _
    · rw [if_neg two, if_neg (by omega : ¬ number' ≤ 0x7ff)]
      by_cases three : number ≤ 0xffff
      · rw [if_pos three]
        by_cases three' : number' ≤ 0xffff
        · rw [if_pos three']
          exact three_lt less (by omega) left right
        · rw [if_neg three']
          exact cons_lt_of_toNat (by omega) _ _
      · rw [if_neg three, if_neg (by omega : ¬ number' ≤ 0xffff)]
        exact four_lt less bound left right

theorem ofChars_lt {left right : List Char} (below : left < right) : ofChars left < ofChars right := by
  induction left generalizing right with
  | nil =>
    cases right with
    | nil => exact absurd below (List.lt_irrefl _)
    | cons char rest =>
      have present : String.utf8EncodeChar char ≠ [] := by
        unfold String.utf8EncodeChar
        simp only
        repeat' split
        all_goals exact List.cons_ne_nil _ _
      obtain ⟨byte, bytes, same⟩ := List.exists_cons_of_ne_nil present
      rw [ofChars_cons, same]
      exact List.nil_lt_cons _ _
  | cons char rest ih =>
    cases right with
    | nil => exact absurd below (List.not_lt_nil _)
    | cons char' rest' =>
      rw [ofChars_cons, ofChars_cons]
      rcases List.cons_lt_cons_iff.mp below with before | ⟨rfl, behind⟩
      · exact encode_lt before _ _
      · exact List.append_left_lt (ih behind)

/-- **Texts are in the order of their bytes.** -/
theorem ofText_lt {left right : String} (below : left < right) : ofText left < ofText right := by
  rw [ofText_eq_ofChars, ofText_eq_ofChars]
  exact ofChars_lt (String.lt_iff.mp below)

end TryConfirmCancel.Utf8
