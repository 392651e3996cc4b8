/-
**Messages are read back as they were written.**

* `enrolment_recovers`, `report_recovers`, `callback_recovers`: what a format reads from what it wrote;
  the only numbers in messages are points of time, which `timestamp` keeps within 64 bits;
* `decode_addressed`, `ofBytes?_addressed`: the same for a framed body and for a bare one;
* `Rpc.Request.asked?`: what a request asks of the coordinator that gets it, told from its bytes alone.
-/

import TryConfirmCancel.Link.Report
import TryConfirmCancel.Link.Entry
import TryConfirmCancel.Proofs.Json.Reading
import TryConfirmCancel.Proofs.Wire.Framing

namespace TryConfirmCancel

open Json

theorem timestamp_range (time : Nanoseconds) : minSigned64 ≤ timestamp time ∧ timestamp time ≤ maxSigned64 := by
  have least := Int.le_bmod (x := (wholeMilliseconds time : Int)) (m := maxWord64 + 1) (by decide)
  have greatest := Int.bmod_lt (x := (wholeMilliseconds time : Int)) (m := maxWord64 + 1) (by decide)
  rw [timestamp]
  simp only [maxWord64, minSigned64, maxSigned64] at least greatest ⊢
  omega

namespace Message

/-- A value is read back from what a format writes, within so many brackets. -/
def Recovers {α : Type} (format : Format α) (nesting : Nat) (value : α) : Prop :=
  format.reader nesting (.ofValue (format.write value)) = some value

theorem signed64_ofValue {value : Int} (range : minSigned64 ≤ value ∧ value ≤ maxSigned64) (nesting : Nat) :
    Reader.signed64 nesting (.ofValue (.int value)) = some value := by
  rw [Value.int, Node.ofValue, Reader.signed64, Reader.integer, if_pos range]

section Records

variable {nesting : Nat}

theorem enrolment_recovers {message : Enrolment}
    (range : minSigned64 ≤ message.requestTime ∧ message.requestTime ≤ maxSigned64) :
    Recovers enrolment (nesting + 1) message := by
  have time := signed64_ofValue range nesting
  simp only [Recovers, enrolment]
  refine record_written rfl (by decide) ?_
  simp only [List.map_cons, List.map_nil, Fields.required, lookupEntry, String.reduceEq, ↓reduceIte,
    Option.bind_eq_bind, Option.bind_some, Reader.string_ofValue, time]

theorem report_recovers {message : Report}
    (range : minSigned64 ≤ message.requestTime ∧ message.requestTime ≤ maxSigned64) :
    Recovers report (nesting + 1) message := by
  have time := signed64_ofValue range nesting
  simp only [Recovers, report]
  refine record_written rfl (by decide) ?_
  simp only [List.map_cons, List.map_nil, Fields.required, lookupEntry, String.reduceEq, ↓reduceIte,
    Option.bind_eq_bind, Option.bind_some, Reader.string_ofValue, Reader.bool_ofValue, time]

theorem callback_recovers (message : Callback) : Recovers callback (nesting + 1) message := by
  simp only [Recovers, callback]
  refine record_written rfl (by decide) ?_
  simp only [List.map_cons, List.map_nil, Fields.required, Fields.withDefault, lookupEntry, String.reduceEq,
    ↓reduceIte, Option.bind_eq_bind, Option.bind_some, Reader.string_ofValue]

theorem addressed_recovers {α : Type} {format : Format α} {message : Addressed α}
    (request : Recovers format (nesting + 1) message.request) :
    Recovers (addressed format) (nesting + 2) message := by
  rw [Recovers] at request
  have service : head.reader (nesting + 1) (.ofValue (head.write message.service)) = some message.service := by
    simp only [head]
    exact record_written rfl (by decide) rfl
  simp only [Recovers, addressed]
  refine record_written rfl (by decide) ?_
  simp only [List.map_cons, List.map_nil, Fields.required, lookupEntry, String.reduceEq, ↓reduceIte,
    Option.bind_eq_bind, Option.bind_some, service, request]

end Records

/-! ### What is written has exact integers -/

theorem isExact_of_signed64 {value : Int} (range : minSigned64 ≤ value ∧ value ≤ maxSigned64) :
    IsExact value :=
  ⟨range.1, Int.le_trans range.2 (by decide)⟩

theorem enrolment_integral {message : Enrolment}
    (range : minSigned64 ≤ message.requestTime ∧ message.requestTime ≤ maxSigned64) :
    (enrolment.write message).IsIntegral := by
  simp [enrolment, Value.IsIntegral, MembersIntegral, Value.int, isExact_of_signed64 range]

theorem report_integral {message : Report}
    (range : minSigned64 ≤ message.requestTime ∧ message.requestTime ≤ maxSigned64) :
    (report.write message).IsIntegral := by
  simp [report, Value.IsIntegral, MembersIntegral, Value.int, isExact_of_signed64 range]

theorem callback_integral (message : Callback) : (callback.write message).IsIntegral := by
  simp [callback, Value.IsIntegral, MembersIntegral]

theorem addressed_integral {α : Type} {format : Format α} {message : Addressed α}
    (request : (format.write message.request).IsIntegral) :
    ((addressed format).write message).IsIntegral := by
  simp [addressed, head, Value.IsIntegral, MembersIntegral, request]

/-! ### Bodies -/

section Bodies

variable {α : Type} {format : Format α} {message : Addressed α}

/-- A framed message is read back with its tail. -/
theorem decode_addressed {tail body : Bytes} (integral : (format.write message.request).IsIntegral)
    (recovers : Recovers format 126 message.request)
    (framed : Envelope.encode ((addressed format).write message) tail = .ok body) :
    Envelope.decode (addressed format).reader body = .ok (message, tail) :=
  Envelope.decode_encode (addressed_integral integral) framed (addressed_recovers recovers)

/-- A bare message is read back. -/
theorem ofBytes?_addressed (integral : (format.write message.request).IsIntegral)
    (recovers : Recovers format 126 message.request) :
    (addressed format).reader.ofBytes? ((addressed format).bytes message) = some message := by
  rw [(addressed format).ofBytes?_bytes (addressed_integral integral)]
  exact addressed_recovers recovers

end Bodies

end Message

/-! ### What a coordinator gets -/

/-- What a request asks of a coordinator. -/
inductive Asked
  /-- To begin or to join, with the arguments of Try. -/
  | enrolment (entry : Entry) (message : Enrolment) (arguments : Bytes)
  | report (message : Report)

def Asked.operation : Asked → Operation
  | .enrolment entry _ _ => entry.operation
  | .report _ => .finish

/-- The entry that a service of a coordinator stands for. -/
def Entry.ofService? (service : String) : Option Entry :=
  if service = Message.beginService then some .beginning
  else if service = Message.joinService then some .joining
  else none

theorem Entry.ofService?_service (entry : Entry) : ofService? entry.service = some entry := by
  cases entry <;> decide

/-- **What a request asks of the coordinator that gets it, told from its bytes alone.** -/
def Rpc.Request.asked? (request : Rpc.Request) : Option Asked :=
  match request.codec with
  | .text =>
    match Envelope.decode (Message.addressed Message.enrolment).reader request.body with
    | .error _ => none
    | .ok (message, tail) =>
      (Entry.ofService? message.service).map fun entry => .enrolment entry message.request tail
  | .json =>
    match (Message.addressed Message.report).reader.ofBytes? request.body with
    | none => none
    | some message =>
      if message.service = Message.endService then some (.report message.request) else none

section Requests

variable {config : Config} {span : Span} {target : Rpc.Target} {headers : Dict String}

theorem Entrant.enrolment_range (entrant : Entrant) (entry : Entry) (config : Config) (route : Route)
    (context : Context) (time : Nanoseconds) :
    minSigned64 ≤ (entrant.enrolment entry config route context time).requestTime ∧
      (entrant.enrolment entry config route context time).requestTime ≤ maxSigned64 := by
  have range := timestamp_range time
  cases entry <;> simpa only [Entrant.enrolment, Entrant.joining, Entrant.beginning] using range

/-- An enrolment reaches the coordinator as it was made, with the arguments of Try. -/
theorem asked?_enrolment {entrant : Entrant} {entry : Entry} {route : Route} {context : Context}
    {time : Nanoseconds} {body : Bytes}
    (made : entrant.body entry.service (entrant.enrolment entry config route context time) = .ok body) :
    (Link.bounded config span target .text body headers).asked? = some (.enrolment entry
      (entrant.enrolment entry config route context time) entrant.parameters.toBytes) := by
  have range := entrant.enrolment_range entry config route context time
  have read := Message.decode_addressed (Message.enrolment_integral range)
    (Message.enrolment_recovers range) made
  simp only [Link.bounded, Rpc.Request.asked?, Rpc.Request.of, Rpc.Request.withTimeout,
    Rpc.Request.withRetries, Rpc.Request.withCodec, Rpc.Request.withHeaders, read]
  rw [Entry.ofService?_service, Option.map_some]

/-- A report reaches the coordinator as it was made. -/
theorem asked?_report {context : Context} {ok : Bool} {time : Nanoseconds} :
    (Link.bounded config span target .json
      ((Message.addressed Message.report).bytes ⟨Message.endService, context.report config ok time⟩)
      headers).asked? = some (.report (context.report config ok time)) := by
  have range : minSigned64 ≤ (context.report config ok time).requestTime ∧
      (context.report config ok time).requestTime ≤ maxSigned64 := by
    simpa only [Context.report] using timestamp_range time
  have read : (Message.addressed Message.report).reader.ofBytes? ((Message.addressed Message.report).bytes
      ⟨Message.endService, context.report config ok time⟩)
        = some ⟨Message.endService, context.report config ok time⟩ :=
    Message.ofBytes?_addressed (Message.report_integral range) (Message.report_recovers range)
  simp only [Link.bounded, Rpc.Request.asked?, Rpc.Request.of, Rpc.Request.withTimeout,
    Rpc.Request.withRetries, Rpc.Request.withCodec, Rpc.Request.withHeaders, read, if_true]

end Requests

end TryConfirmCancel
