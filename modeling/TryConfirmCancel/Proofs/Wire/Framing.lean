/-
**A framed body comes apart as it was put together.**

* `number_bigEndian`: the highest byte first, the bytes of a number make that number again;
* `split_encode`: the length in front finds the end of the header, whatever stands in the tail;
* `decode_encode`: so the reader gets the tree of the header, and the tail is as it was.
-/

import Mathlib.Algebra.Group.Nat.Defs
import TryConfirmCancel.Proofs.Json.Tree
import TryConfirmCancel.Wire.Envelope

namespace TryConfirmCancel.Envelope

open Json

theorem number_append (bytes : Bytes) (byte : UInt8) :
    number (bytes ++ [byte]) = number bytes * 256 + byte.toNat := by
  simp [number, List.foldl_append]

/-- The bytes of a number make it again, as far as they reach. -/
theorem number_bigEndian (count value : Nat) : number (bigEndian count value) = value % 256 ^ count := by
  induction count generalizing value with
  | zero => simp [bigEndian, number, Nat.mod_one]
  | succ count ih =>
    have lowest : (UInt8.ofNat value).toNat = value % 256 := by simp
    rw [bigEndian, number_append, ih, lowest, Nat.pow_succ', Nat.mod_mul]
    omega

theorem length_bigEndian (count value : Nat) : (bigEndian count value).length = count := by
  induction count generalizing value with
  | zero => rfl
  | succ count ih => rw [bigEndian, List.length_append, ih, List.length_singleton]

/-- A length that fits is read as it was written. -/
theorem signed_bigEndian {length : Nat} (fits : length ≤ longestHeader) :
    signed (bigEndian lengthSize length) = length := by
  have bound : length < 256 ^ lengthSize := Nat.lt_of_le_of_lt fits (by decide)
  rw [signed, number_bigEndian, Nat.mod_eq_of_lt bound]
  exact if_pos fits

/-- What was put together: a header that is not too long, behind its length. -/
theorem encode_eq_ok {header : Value} {tail body : Bytes} (framed : encode header tail = .ok body) :
    (Utf8.ofText header.text).length ≤ longestHeader ∧
      bigEndian lengthSize (Utf8.ofText header.text).length ++ Utf8.ofText header.text ++ tail = body := by
  simp only [encode] at framed
  split at framed
  · rename_i fits
    exact ⟨fits, Except.ok.inj framed⟩
  · cases framed

/-- The length in front finds the end of the header. -/
theorem split_encode {header : Value} {tail body : Bytes} (framed : encode header tail = .ok body) :
    split body = .ok (Utf8.ofText header.text, tail) := by
  obtain ⟨fits, same⟩ := encode_eq_ok framed
  generalize Utf8.ofText header.text = text at fits same ⊢
  rw [List.append_assoc] at same
  have front : body.take lengthSize = bigEndian lengthSize text.length := by
    rw [← same, List.take_left' (length_bigEndian _ _)]
  have behind : body.drop lengthSize = text ++ tail := by
    rw [← same, List.drop_left' (length_bigEndian _ _)]
  have enough : ¬ body.length < lengthSize := by
    rw [← same, List.length_append, length_bigEndian]
    omega
  have within : ¬ (text ++ tail).length < text.length := by
    rw [List.length_append]
    omega
  rw [split, if_neg enough]
  simp only [front, behind, signed_bigEndian fits]
  rw [if_neg within, List.take_left, List.drop_left]

/-- **A framed body is read as the tree of its header, with the tail as it was.** -/
theorem decode_encode {α : Type} {header : Value} {tail body : Bytes} (integral : header.IsIntegral)
    (framed : encode header tail = .ok body) {reader : Reader α} {read : α}
    (understood : reader Reader.deepest (.ofValue header) = some read) :
    decode reader body = .ok (read, tail) := by
  have bytes : reader.ofBytes? (Utf8.ofText header.text) = some read := by
    rw [Reader.ofBytes?, ofBytes?_text integral, Option.bind_some, understood]
  rw [decode, split_encode framed]
  simp only [bind, Except.bind, bytes]

end TryConfirmCancel.Envelope
