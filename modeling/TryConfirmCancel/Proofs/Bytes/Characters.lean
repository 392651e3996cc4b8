/-
**The bytes of characters.**

* `Utf8.ofChars`: the bytes of characters one after the other, which a text has as well
  (`ofText_eq_ofChars`);
* `encode_ascii`, `le_of_mem_encode`: an ASCII character is one byte of its own number, and any other
  character has only bytes from 0x80 on.
-/

import TryConfirmCancel.Bytes.Utf8

namespace TryConfirmCancel.Utf8

def ofChars (chars : List Char) : Bytes := chars.flatMap String.utf8EncodeChar

@[simp]
theorem ofChars_nil : ofChars [] = [] := rfl

@[simp]
theorem ofChars_append (left right : List Char) : ofChars (left ++ right) = ofChars left ++ ofChars right :=
  List.flatMap_append

theorem ofChars_cons (char : Char) (rest : List Char) :
    ofChars (char :: rest) = String.utf8EncodeChar char ++ ofChars rest := rfl

theorem ofText_ofList (chars : List Char) : ofText (.ofList chars) = ofChars chars := by
  simp [ofText, ofChars, List.utf8Encode]

/-- The bytes of a text are those of its characters. -/
theorem ofText_eq_ofChars (text : String) : ofText text = ofChars text.toList := by
  rw [← ofText_ofList, String.ofList_toList]

/-- An ASCII character is one byte. -/
theorem encode_ascii {char : Char} (ascii : char.toNat < 0x80) :
    String.utf8EncodeChar char = [.ofNat char.toNat] := by
  have below : char.val.toNat ≤ 0x7f := Nat.le_of_lt_succ ascii
  simp only [String.utf8EncodeChar, if_pos below]
  rfl

/-- Every other character is made of bytes from 0x80 on. -/
theorem le_of_mem_encode {char : Char} (beyond : 0x80 ≤ char.toNat) {byte : UInt8}
    (member : byte ∈ String.utf8EncodeChar char) : 0x80 ≤ byte.toNat := by
  have above : ¬ char.val.toNat ≤ 0x7f := fun below => by
    have : char.toNat ≤ 0x7f := below
    omega
  unfold String.utf8EncodeChar at member
  simp only [above, if_false] at member
  split at member
  · simp only [List.mem_cons, List.not_mem_nil, or_false] at member
    rcases member with rfl | rfl <;> simp only [UInt8.toNat_ofNat'] <;> omega
  · split at member
    · simp only [List.mem_cons, List.not_mem_nil, or_false] at member
      rcases member with rfl | rfl | rfl <;> simp only [UInt8.toNat_ofNat'] <;> omega
    · simp only [List.mem_cons, List.not_mem_nil, or_false] at member
      rcases member with rfl | rfl | rfl | rfl <;> simp only [UInt8.toNat_ofNat'] <;> omega

end TryConfirmCancel.Utf8
