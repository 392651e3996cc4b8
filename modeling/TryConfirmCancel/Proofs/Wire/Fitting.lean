/-
**Short messages fit into a frame.**

The length in front of a frame has 32 bits, so a header of two billion bytes has no frame. Every character of
a text takes six characters at most in JSON, and every character four bytes.

* `length_stringChars_le`, `length_integer_le`: how long a text and a number are in JSON;
* `Entrant.body_of_short`: an enrolment whose texts are no longer than a million characters has a body.
-/

import Mathlib.Data.Nat.Digits.Defs
import TryConfirmCancel.Proofs.Wire.Messages

namespace TryConfirmCancel

open Json

theorem length_stringChar_le (char : Char) : (stringChar char).length ≤ 6 := by
  unfold stringChar
  split_ifs <;> simp

theorem length_flatMap_stringChar_le (chars : List Char) :
    (chars.flatMap stringChar).length ≤ 6 * chars.length := by
  induction chars with
  | nil => simp
  | cons char chars ih =>
    have first := length_stringChar_le char
    rw [List.flatMap_cons, List.length_append, List.length_cons]
    omega

/-- A text in JSON, with its quotes. -/
theorem length_stringChars_le (text : String) : (stringChars text).length ≤ 6 * text.toList.length + 2 := by
  have inside := length_flatMap_stringChar_le text.toList
  rw [stringChars, List.length_cons, List.length_append, List.length_singleton]
  omega

/-- A number of 64 bits in JSON, with its sign. -/
theorem length_integer_le {value : Int} (range : minSigned64 ≤ value ∧ value ≤ maxSigned64) :
    (Number.integer value).chars.length ≤ 20 := by
  simp only [minSigned64, maxSigned64] at range
  cases value with
  | ofNat value =>
    have digits := Nat.toDigits_length 10 value 19 (by decide) (by simp at range; omega)
    simp only [Number.chars]
    omega
  | negSucc value =>
    have digits := Nat.toDigits_length 10 (value + 1) 19 (by decide) (by omega)
    simp only [Number.chars, List.length_cons]
    omega

theorem Utf8.length_ofChars_le (chars : List Char) : (ofChars chars).length ≤ 4 * chars.length := by
  induction chars with
  | nil => simp
  | cons char chars ih =>
    have first : (String.utf8EncodeChar char).length ≤ 4 := by
      rw [String.length_utf8EncodeChar]
      exact Char.utf8Size_le_four char
    rw [ofChars_cons, List.length_append, List.length_cons]
    omega

/-- A header that is short enough has a frame. -/
theorem Envelope.encode_of_short {header : Value} (short : 4 * header.chars.length ≤ longestHeader)
    (tail : Bytes) : ∃ body, encode header tail = .ok body := by
  have bytes : (Utf8.ofText header.text).length ≤ longestHeader := by
    rw [Value.text, Utf8.ofText_ofList]
    exact Nat.le_trans (Utf8.length_ofChars_le _) short
  rw [encode, if_pos bytes]
  exact ⟨_, rfl⟩

/-- A text of which even eight fit into a frame. -/
def IsShort (text : String) : Prop := text.toList.length ≤ 1000000

/-- **An enrolment of short texts has a body.** -/
theorem Entrant.body_of_short (entrant : Entrant) {service : String} {message : Enrolment}
    (range : minSigned64 ≤ message.requestTime ∧ message.requestTime ≤ maxSigned64)
    (short : ∀ text ∈ [service, message.participantAddress, message.parentXid, message.rootXid,
      message.branchXid, message.serviceName, message.headers], IsShort text) :
    ∃ body, entrant.body service message = .ok body := by
  refine Envelope.encode_of_short ?_ _
  have time := length_integer_le range
  have texts : ∀ text ∈ [service, message.participantAddress, message.parentXid, message.rootXid,
      message.branchXid, message.serviceName, message.headers], (stringChars text).length ≤ 6000002 := by
    intro text member
    have bound := length_stringChars_le text
    have limit : text.toList.length ≤ 1000000 := short text member
    omega
  simp only [List.forall_mem_cons] at texts
  obtain ⟨named, address, parent, root, branch, called, headers, -⟩ := texts
  have names : (["head", "service", "request", "participantAddress", "requestTime", "parentXid", "rootXid",
      "branchXid", "serviceName", "headers"].map fun name => (stringChars name).length).sum ≤ 200 := by
    decide
  simp only [List.map_cons, List.map_nil, List.sum_cons, List.sum_nil] at names
  simp only [Message.addressed, Message.head, Message.enrolment, Value.int, Value.chars, membersChars,
    moreMembersChars, List.length_cons, List.length_append, List.length_nil, Envelope.longestHeader, maxSigned32]
  omega

end TryConfirmCancel
