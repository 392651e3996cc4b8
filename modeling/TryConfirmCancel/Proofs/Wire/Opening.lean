/-
**Which bodies come apart, and into what.**

A body comes from outside and may hold anything. The length in front decides how it is cut, and the header decides
whether it is understood.

* `Envelope.lengthField?`: the number in front, as a word of 32 bits with a sign; `signed_eq_toInt`: it is read so;
* `Opening`: what comes of a body; `decode_opening`: every body opens so;
* `decode_eq_ok_iff`, `undecodable_of_decode`: it opens as a value just if all of it is there and understood;
* `encode_eq_error_iff`: a header is refused just if it is too long;
* `messages_open`: enrolments and callbacks go through a body as they are, and any other body is refused.
-/

import TryConfirmCancel.Proofs.Wire.Messages

namespace TryConfirmCancel

open Json

namespace Envelope

/-! ### The length in front -/

/-- The number that a body begins with: four bytes as one word, the highest first, with a sign. -/
def lengthField? : Bytes → Option Int
  | first :: second :: third :: fourth :: _ =>
    some (first.toBitVec ++ second.toBitVec ++ third.toBitVec ++ fourth.toBitVec).toInt
  | _ => none

/-- Bits side by side are the digits of a number. -/
theorem toNat_append_byte {width : Nat} (bits : BitVec width) (byte : UInt8) :
    (bits ++ byte.toBitVec).toNat = bits.toNat * 256 + byte.toNat := by
  rw [BitVec.toNat_append, ← Nat.shiftLeft_add_eq_or_of_lt byte.toBitVec.isLt, Nat.shiftLeft_eq]
  rfl

/-- **Four bytes are read in two's complement**, the highest first. -/
theorem signed_eq_toInt (first second third fourth : UInt8) : signed [first, second, third, fourth]
    = (first.toBitVec ++ second.toBitVec ++ third.toBitVec ++ fourth.toBitVec).toInt := by
  have digits : number [first, second, third, fourth]
      = (first.toBitVec ++ second.toBitVec ++ third.toBitVec ++ fourth.toBitVec).toNat := by
    rw [toNat_append_byte, toNat_append_byte, toNat_append_byte]
    simp [number]
  rw [signed, digits, BitVec.toInt_eq_toNat_cond]
  generalize (first.toBitVec ++ second.toBitVec ++ third.toBitVec ++ fourth.toBitVec).toNat = word
  by_cases low : word ≤ maxSigned32
  · rw [if_pos low]
    rw [maxSigned32] at low
    rw [if_pos (by omega)]
  · rw [if_neg low, maxWord32]
    rw [maxSigned32] at low
    rw [if_neg (by omega)]
    omega

theorem lengthField?_eq_some {body : Bytes} (long : 4 ≤ body.length) :
    lengthField? body = some (signed (body.take lengthSize)) := by
  match body, long with
  | first :: second :: third :: fourth :: rest, _ =>
    exact congrArg some (signed_eq_toInt first second third fourth).symm

/-! ### What comes of a body -/

/-- The bytes of a header of some length. -/
def headerOf (body : Bytes) (length : Nat) : Bytes := (body.drop 4).take length

section Opening

variable {α : Type} (reader : Reader α) (body : Bytes)

/-- What comes of a body: a value and a tail, or the fault that is found in it. -/
inductive Opening : Except EnvelopeFault (α × Bytes) → Prop
  | tooShort (short : body.length < 4) : Opening (.error (.tooShort body.length))
  | negative {field : Int} (read : lengthField? body = some field) (negative : field < 0) :
      Opening (.error (.negativeLength field))
  | truncated {length : Nat} (read : lengthField? body = some (length : Int)) (beyond : body.length < 4 + length) :
      Opening (.error (.truncated length body.length))
  | misread {length : Nat} (read : lengthField? body = some (length : Int)) (within : 4 + length ≤ body.length)
      (other : ∀ value, ¬ reader.Understands (headerOf body length) value) : Opening (.error .header)
  | opened {length : Nat} {value : α} (read : lengthField? body = some (length : Int))
      (within : 4 + length ≤ body.length) (understood : reader.Understands (headerOf body length) value) :
      Opening (.ok (value, body.drop (4 + length)))

/-- **Every body opens by the length in front of it.** -/
theorem decode_opening : Opening reader body (decode reader body) := by
  unfold decode split
  by_cases short : body.length < lengthSize
  · rw [if_pos short]
    exact .tooShort short
  · rw [if_neg short]
    have long : 4 ≤ body.length := Nat.le_of_not_lt short
    have read := lengthField?_eq_some long
    simp only
    cases field : signed (body.take lengthSize) with
    | negSucc less =>
      rw [field] at read
      exact .negative read (Int.negSucc_lt_zero less)
    | ofNat length =>
      rw [field] at read
      simp only
      by_cases beyond : (body.drop lengthSize).length < length
      · rw [if_pos beyond]
        refine .truncated read ?_
        rw [List.length_drop, lengthSize] at beyond
        omega
      · rw [if_neg beyond]
        have within : 4 + length ≤ body.length := by
          rw [List.length_drop, lengthSize] at beyond
          omega
        simp only [bind, Except.bind]
        cases header : reader.ofBytes? ((body.drop lengthSize).take length) with
        | none => exact .misread read within (Reader.ofBytes?_eq_none_iff.mp header)
        | some value =>
          rw [List.drop_drop]
          exact .opened read within (Reader.ofBytes?_eq_some_iff.mp header)

variable {reader body}

/-- **A body opens as a value and a tail just if it holds a length that is not negative, a header of this length, and
this header is understood**; the tail is what stands behind. -/
theorem decode_eq_ok_iff {value : α} {tail : Bytes} : decode reader body = .ok (value, tail) ↔
    4 ≤ body.length ∧ ∃ length : Nat, lengthField? body = some (length : Int) ∧ 4 + length ≤ body.length ∧
      reader.Understands (headerOf body length) value ∧ tail = body.drop (4 + length) := by
  constructor
  · intro decoded
    have opening := decode_opening reader body
    rw [decoded] at opening
    cases opening with
    | opened read within understood =>
      exact ⟨Nat.le_of_add_right_le within, _, read, within, understood, rfl⟩
  · rintro ⟨long, length, read, within, understood, rfl⟩
    have opening := decode_opening reader body
    generalize decode reader body = outcome at opening ⊢
    cases opening with
    | tooShort short => omega
    | negative read' negative =>
      cases read.symm.trans read'
      omega
    | truncated read' beyond =>
      cases read.symm.trans read'
      omega
    | misread read' _ other =>
      cases read.symm.trans read'
      exact absurd understood (other value)
    | opened read' _ understood' =>
      cases read.symm.trans read'
      rw [understood.unique understood']

/-- A fault that is found in a body is told as one. -/
theorem undecodable_of_decode {fault : EnvelopeFault} (failed : decode reader body = .error fault) :
    ∃ text, fault.failure = .undecodable text := by
  have opening := decode_opening reader body
  rw [failed] at opening
  cases opening <;> exact ⟨_, rfl⟩

end Opening

/-! ### What is put together -/

/-- A header is refused just if it is longer than its length can tell. -/
theorem encode_eq_error_iff {header : Value} {tail : Bytes} {fault : EnvelopeFault} :
    encode header tail = .error fault ↔
      2 ^ 31 - 1 < (Utf8.ofText header.text).length ∧ fault = .headerTooLong := by
  have limit : longestHeader = 2 ^ 31 - 1 := rfl
  rw [encode, limit]
  by_cases fits : (Utf8.ofText header.text).length ≤ 2 ^ 31 - 1
  · rw [if_pos fits]
    simp only [reduceCtorEq, false_iff, not_and]
    omega
  · rw [if_neg fits, Except.error.injEq, eq_comm]
    simp only [Nat.lt_of_not_le fits, true_and]

end Envelope

/-! ### Messages -/

/-- A message goes through a body: it is put together with any tail unless it is too long, and comes apart as it was. -/
structure Message.Travels {α : Type} (format : Format α) (message : α) : Prop where
  travels : (format.bytes message).length ≤ 2 ^ 31 - 1 → ∀ tail,
    ((Envelope.encode (format.write message) tail).bind (Envelope.decode format.reader)) = .ok (message, tail)
  refused_iff : ∀ tail, (∃ fault, Envelope.encode (format.write message) tail = .error fault) ↔
    2 ^ 31 - 1 < (format.bytes message).length

theorem Message.addressed_travels {α : Type} {format : Format α} {message : Addressed α}
    (integral : (format.write message.request).IsIntegral) (recovers : Recovers format 126 message.request) :
    Travels (addressed format) message where
  travels short tail := by
    cases framed : Envelope.encode ((addressed format).write message) tail with
    | error fault => exact absurd (Envelope.encode_eq_error_iff.mp framed).1 (Nat.not_lt.mpr short)
    | ok body => exact decode_addressed integral recovers framed
  refused_iff tail := by
    simp only [Envelope.encode_eq_error_iff, exists_eq_right]
    rfl

open Message in
/-- **Enrolments and callbacks go through a body as they are, with any tail; and whatever a body holds, it is taken
apart or refused.** Both messages are refused just if they are too long. A body opens just if its first four bytes
hold a length that is not negative, as many bytes follow, and these are JSON of the type that is asked for; the tail is
all that follows them. Any other body is told to be undecodable. -/
theorem messages_open :
    (∀ message : Addressed Enrolment, minSigned64 ≤ message.request.requestTime →
      message.request.requestTime ≤ maxSigned64 → Travels (addressed enrolment) message) ∧
    (∀ message : Addressed Callback, Travels (addressed callback) message) ∧
    ∀ {α : Type} (reader : Reader α) (body : Bytes),
      (∀ value tail, Envelope.decode reader body = .ok (value, tail) ↔
        4 ≤ body.length ∧ ∃ length : Nat, Envelope.lengthField? body = some (length : Int) ∧
          4 + length ≤ body.length ∧ reader.Understands (Envelope.headerOf body length) value ∧
          tail = body.drop (4 + length)) ∧
      ∀ fault, Envelope.decode reader body = .error fault → ∃ text, fault.failure = .undecodable text := by
  refine ⟨fun message least greatest => ?_, fun message => ?_, fun reader body => ⟨fun value tail => ?_, ?_⟩⟩
  · exact addressed_travels (enrolment_integral ⟨least, greatest⟩) (enrolment_recovers ⟨least, greatest⟩)
  · exact addressed_travels (callback_integral message.request) (callback_recovers message.request)
  · exact Envelope.decode_eq_ok_iff
  · exact fun fault => Envelope.undecodable_of_decode

/-- A hop that asks to join in the last moment that can be told. -/
def latestEnrolment : Addressed Enrolment :=
  ⟨Message.joinService,
    { participantAddress := "http|shop|/confirm|/cancel", requestTime := maxSigned64, parentXid := "P"
      rootXid := "R", branchXid := "\"B\\", serviceName := "caffè", headers := "" }⟩

theorem latestEnrolment_travels : Message.Travels (Message.addressed Message.enrolment) latestEnrolment :=
  messages_open.1 latestEnrolment (by decide) (by decide)

end TryConfirmCancel
