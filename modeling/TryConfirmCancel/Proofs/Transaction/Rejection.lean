/-
**What a rejection comes to.**

A coordinator that refuses a request answers with an error code and a text, and what else its answer holds
means nothing. The answer is read as a whole, though, so what it holds as data decides whether the code is
seen: data that a request of this kind could not get makes the whole answer unreadable.

* `IsRejection`: the bytes of an answer with an error code, a text, and anything as data;
* `fits`: the data could be that of an accepted request, or is missing;
* `reply_of_rejection`: a rejection is read just if its data fits;
* `rejection_told`: what each request, and every run, tells of a rejection.
-/

import TryConfirmCancel.Proofs.Transaction.Verdict

namespace TryConfirmCancel

open Json

/-! ### Rejections and their data -/

/-- The members of an answer with an error code: a text that may be missing, at most one member for the data,
and any other members. -/
structure HasCode (members : List (Option String × Node)) (code : Int) (text : String) (data : Option Node) :
    Prop where
  keys : ∀ member ∈ members, member.1 ≠ none
  coded : nodesAt "errorCode" members = [.number (some (.integer code))]
  worded : nodesAt "errorMsg" members = [.string (some text)] ∨ nodesAt "errorMsg" members = [] ∧ text = ""
  held : nodesAt "data" members = data.toList
  range : minSigned64 ≤ code ∧ code ≤ maxSigned64

structure IsRejection (body : Bytes) (code : Int) (text : String) (data : Option Node) : Prop where
  tree : ∃ members, Node.ofBytes? body = some (.object members) ∧ HasCode members code text data
  refuses : code ≠ Code.ok

/-- Data that a request could get if it were accepted, or none. -/
def fits {α : Type} (format : Format α) (data : Option Node) : Bool :=
  (Reader.nullable format.reader (Reader.deepest - 1) (data.getD .null)).isSome

section Reading

variable {α : Type} {body : Bytes} {members : List (Option String × Node)} {code : Int} {text : String}
  {data : Option Node}

/-- Members with an error code are read with whatever the data is read as. -/
theorem HasCode.read (answer : HasCode members code text data) (format : Format α) (nesting : Nat) :
    (Message.reply format).reader (nesting + 1) (.object members)
      = (Reader.nullable format.reader nesting (data.getD .null)).map (⟨code, text, ·⟩) := by
  have single : ∀ name ∈ ["errorCode", "errorMsg", "data"], (nodesAt name members).length ≤ 1 := by
    simp only [List.forall_mem_cons]
    refine ⟨by simp [answer.coded], ?_, ?_, by simp⟩
    · rcases answer.worded with present | ⟨absent, -⟩
      · simp [present]
      · simp [absent]
    · rw [answer.held]
      cases data <;> simp
  obtain ⟨entries, fields, looked⟩ := ofMembers_of_single answer.keys single
  -- the code and the text are found whatever the data is
  have readCode : Fields.withDefault ⟨nesting, false, entries⟩ "errorCode" Code.ok .signed64 = some code := by
    simp only [Fields.withDefault, looked "errorCode" (by decide), answer.coded, List.head?_cons]
    exact if_pos answer.range
  have readText : Fields.withDefault ⟨nesting, false, entries⟩ "errorMsg" "" .string = some text := by
    rcases answer.worded with present | ⟨absent, rfl⟩
    · simp only [Fields.withDefault, looked "errorMsg" (by decide), present, List.head?_cons]
      rfl
    · simp only [Fields.withDefault, looked "errorMsg" (by decide), absent, List.head?_nil]
  have readData : Fields.optional ⟨nesting, false, entries⟩ "data" format.reader
      = Reader.nullable format.reader nesting (data.getD .null) := by
    simp only [Fields.optional, looked "data" (by decide), answer.held]
    cases data <;> rfl
  simp only [Message.reply, Reader.record, fields, Option.bind_eq_bind, Option.bind_some, readCode, readText,
    readData]
  cases Reader.nullable format.reader nesting (data.getD .null) <;> rfl

/-- **A rejection is read just if its data fits.** -/
theorem IsRejection.read (rejection : IsRejection body code text data) (format : Format α) :
    ∃ found, (Message.reply format).reader.ofBytes? body
      = if fits format data then some ⟨code, text, found⟩ else none := by
  obtain ⟨members, tree, answer⟩ := rejection.tree
  have read : (Message.reply format).reader.ofBytes? body
      = (Reader.nullable format.reader (Reader.deepest - 1) (data.getD .null)).map (⟨code, text, ·⟩) := by
    rw [Reader.ofBytes?, tree, Option.bind_some]
    exact answer.read format _
  rw [read, fits]
  cases Reader.nullable format.reader (Reader.deepest - 1) (data.getD .null) with
  | none => exact ⟨none, rfl⟩
  | some found => exact ⟨found, rfl⟩

end Reading

/-! ### What a rejection comes to -/

/-- The failure that a rejection comes to, by whether its data fits. -/
def rejectedAs (fitting : Bool) (code : Int) (text : String) : Failure :=
  if fitting then .rejected code text else .rpc (.undecodable "not the expected JSON")

/-- The data of a rejection could be that of an accepted request to enter. -/
def Entry.fits : Entry → Option Node → Bool
  | beginning => TryConfirmCancel.fits Message.begun
  | joining => TryConfirmCancel.fits Message.joined

section Answers

variable {response : Rpc.Response} {code : Int} {text : String} {data : Option Node}

theorem acceptedData_of_rejection {α : Type} (operation : Operation) (format : Format α)
    (rejection : IsRejection response.body code text data) :
    acceptedData operation format response = .error (rejectedAs (fits format data) code text) := by
  obtain ⟨found, read⟩ := rejection.read format
  rw [acceptedData, Rpc.Response.json, read]
  cases fits format data with
  | false => rfl
  | true => simp [rejectedAs, Reply.accepted, rejection.refuses, bind, Except.bind]

/-- What a hop that asked to enter makes of a rejection. -/
theorem assigned_of_rejection (entry : Entry) (rejection : IsRejection response.body code text data) :
    entry.assigned response = .error (rejectedAs (entry.fits data) code text) := by
  cases entry with
  | beginning =>
    rw [Entry.assigned, begunXid, acceptedData_of_rejection _ _ rejection]
    rfl
  | joining =>
    rw [Entry.assigned, joinedXid, acceptedData_of_rejection _ _ rejection]
    rfl

/-- No answer both admits a hop and refuses it. -/
theorem Entry.Accepts.not_rejection {entry : Entry} {xid : String} (accepts : entry.Accepts response xid) :
    ¬ IsRejection response.body code text data := by
  intro rejection
  cases (Entry.assigned_eq_ok_iff.mpr accepts).symm.trans (assigned_of_rejection entry rejection)

/-- What a hop that reported makes of a rejection. -/
theorem reportAnswer_of_rejection (rejection : IsRejection response.body code text data) :
    reportAnswer response = .error (rejectedAs (fits Message.ended data) code text) := by
  obtain ⟨found, read⟩ := rejection.read Message.ended
  rw [reportAnswer, Rpc.Response.json, read]
  cases fits Message.ended data with
  | false => rfl
  | true => simp [rejectedAs, Reply.accepted, rejection.refuses, bind, Except.bind]

end Answers

/-! ### What a run makes of a rejection -/

section Runs

variable {α : Type} {config : Config} {role : Role} {coordinator : String} {entrant : Entrant}
  {context : Context} {deeds : List (Deed α)} {answer : Except Failure α} {request : Rpc.Request}
  {response : Rpc.Response} {code : Int} {text : String} {data : Option Node}

/-- A request to enter that is refused comes to what the rejection comes to. -/
theorem Entering.rejected {entry : Entry} {entered : Except Failure String} {after : Context}
    (entering : Entering config coordinator entrant entry context entered deeds after)
    (sent : .sent request (.ok response) ∈ deeds) (rejection : IsRejection response.body code text data) :
    entered = .error (rejectedAs (entry.fits data) code text) := by
  cases entering with
  | unsent _ _ => cases sent
  | refused _ _ _ told =>
    cases List.mem_singleton.mp sent
    exact told.symm.trans (assigned_of_rejection entry rejection)
  | admitted _ accepts =>
    cases List.mem_singleton.mp sent
    exact absurd rejection accepts.not_rejection

theorem enteringFailure_rejectedAs (entry : Entry) (fitting : Bool) (code : Int) (text : String) :
    enteringFailure entry.failure (rejectedAs fitting code text) = entry.failure (rejectedAs fitting code text) := by
  cases fitting <;> rfl

/-- A hop whose request to enter is refused answers with what the rejection comes to. -/
theorem Course.refused (course : Course config role coordinator entrant context deeds answer)
    (sent : .sent request (.ok response) ∈ deeds) (rejection : IsRejection response.body code text data)
    {entry : Entry} {message : Enrolment} {arguments : Bytes}
    (asked : request.asked? = some (.enrolment entry message arguments)) :
    answer = .error (entry.failure (rejectedAs (entry.fits data) code text)) := by
  obtain ⟨active, -, first⟩ := course.enrols sent asked
  cases course with
  | shutOut active' entering wrapped =>
    cases active.symm.trans active'
    cases entering.rejected sent rejection
    rw [wrapped, enteringFailure_rejectedAs]
  | admitted active' entering _ =>
    cases entering with
    | admitted _ accepts =>
      cases first
      exact absurd rejection accepts.not_rejection
  | handedOn passive _ => cases active.symm.trans passive

theorem reportResult_of_rejection (rejection : IsRejection response.body code text data) :
    reportResult (.ok response) = .error (rejectedAs (fits Message.ended data) code text) :=
  reportAnswer_of_rejection rejection

/-- A root whose report is refused answers with the code, or with a plain failure. -/
theorem Course.reportRefused (course : Course config .root coordinator entrant context deeds answer)
    (sent : .sent request (.ok response) ∈ deeds) (rejection : IsRejection response.body code text data)
    {report : Report} (asked : request.asked? = some (.report report)) :
    if fits Message.ended data then
      answer = .error (if report.ok then .confirmFailed code text else .cancelFailed code text)
    else ∃ plainCode plainText, answer = .error (.endFailed plainCode plainText) := by
  obtain ⟨_, _, _, _, _, _, _, _, -, -, -, -, ending⟩ := course.reports sent asked
  cases ending with
  | reported _ _ _ reports _ told =>
    rw [told rfl, reportResult_of_rejection rejection, reports.ok_eq asked, rootAnswer]
    cases fits Message.ended data with
    | true => rfl
    | false =>
      generalize failureOf? _ = tryFailure
      cases tryFailure with
      | none => exact ⟨_, _, rfl⟩
      | some own => exact ⟨_, _, rfl⟩

end Runs

/-- **What a rejection comes to.** To begin, to join and to report come to the code and the text of the
coordinator if the rejection fits the request, and to an answer that cannot be read if it does not. A run that
cannot enter tells the same of its way in; a root whose report is refused tells the code and the text, or a
plain failure to end. -/
theorem rejection_told {σ α : Type} (link : Link σ) {request : Rpc.Request} {response : Rpc.Response}
    {code : Int} {text : String} {data : Option Node}
    (rejection : IsRejection response.body code text data) :
    (∀ entry config coordinator entrant context world,
      .sent request (.ok response) ∈ (link.journalled.enterBy entry config coordinator entrant context
        (⟨world, []⟩ : Journalled σ α)).world.journal →
      (link.enterBy entry config coordinator entrant context world).answer
        = .error (rejectedAs (entry.fits data) code text)) ∧
    (∀ config coordinator ok tryFailure secondStage context world,
      .sent request (.ok response) ∈ (link.journalled.finish config coordinator ok tryFailure secondStage context
        (⟨world, []⟩ : Journalled σ α)).world.journal →
      (link.finish config coordinator ok tryFailure secondStage context world).answer
        = .error (rejectedAs (fits Message.ended data) code text)) ∧
    ∀ {τ : Type} (registry : Registry τ) (service : String) (arguments : Json.Datum)
      (body : Action σ (Except ServiceFailure α)) (context : Context) (world : σ),
      .sent request (.ok response) ∈
        (link.recorded registry service arguments body context world).world.journal →
      (∀ entry message parameters, request.asked? = some (.enrolment entry message parameters) →
        (link.execute registry service arguments body context world).answer
          = .error (entry.failure (rejectedAs (entry.fits data) code text))) ∧
      (∀ report descriptor, request.asked? = some (.report report) →
        registry.descriptor service = .ok descriptor →
        Role.of (link.settings world) descriptor context = .root →
        if fits Message.ended data then
          (link.execute registry service arguments body context world).answer
            = .error (if report.ok then .confirmFailed code text else .cancelFailed code text)
        else ∃ plainCode plainText, (link.execute registry service arguments body context world).answer
            = .error (.endFailed plainCode plainText)) := by
  refine ⟨fun entry config coordinator entrant context world sent => ?entering,
    fun config coordinator ok tryFailure secondStage context world sent => ?reporting,
    fun registry service arguments body context world sent => ?running⟩
  case entering =>
    have same := link.journalled_covers.enterBy config context (⟨world, []⟩ : Journalled σ α) entry coordinator
      entrant
    obtain ⟨deeds, journal, entering⟩ :=
      link.enterBy_journalled config context (⟨world, []⟩ : Journalled σ α) entry coordinator entrant
    rw [journal, List.nil_append] at sent
    rw [← same]
    exact entering.rejected sent rejection
  case reporting =>
    have same := link.journalled_covers.finish config context (⟨world, []⟩ : Journalled σ α) coordinator ok
      tryFailure secondStage
    obtain ⟨deeds, journal, came⟩ :=
      link.finish_journalled config context (⟨world, []⟩ : Journalled σ α) coordinator ok tryFailure secondStage
    rw [journal, List.nil_append] at sent
    rw [← same]
    rcases came with ⟨_, rfl, -, -⟩ | ⟨-, _, _, rfl, -, told⟩
    · cases sent
    · cases List.mem_singleton.mp sent
      exact told.trans (reportResult_of_rejection rejection)
  case running =>
    obtain ⟨descriptor, parameters, registered, -, course⟩ := link.course_of_mem body context world sent
    rw [← link.recorded_answer]
    refine ⟨fun entry message parameters asked => course.refused sent rejection asked, ?_⟩
    intro report descriptor' asked registered' root
    cases registered.symm.trans registered'
    rw [root] at course
    exact course.reportRefused sent rejection asked

/-! ### A rejection that is mistaken -/

/-- The coordinator is busy, and holds out data without an identifier. -/
def busyReply : Value := .object [("errorCode", .int 500), ("errorMsg", .string "busy"), ("data", .object [])]

def busyBody : Bytes := Utf8.ofText busyReply.text

theorem busyBody_isRejection : IsRejection busyBody 500 "busy" (some (.object [])) where
  tree := by
    have integral : busyReply.IsIntegral := by
      simp [busyReply, Value.IsIntegral, MembersIntegral, Value.int, IsExact, minSigned64, maxWord64]
    exact ⟨_, ofBytes?_text integral, by simp [nodesOfMembers], rfl, .inl rfl, rfl, by decide⟩
  refuses := by decide

/-- Not every rejection is seen as one where a transaction is to begin. -/
theorem busyBody_mistaken : ¬ ∀ (response : Rpc.Response) (code : Int) (text : String) (data : Option Node),
    IsRejection response.body code text data → begunXid response = .error (.rejected code text) := by
  intro seen
  let response : Rpc.Response := ⟨200, ∅, busyBody⟩
  have rejection : IsRejection response.body 500 "busy" (some (.object [])) := busyBody_isRejection
  cases (seen response _ _ _ rejection).symm.trans (assigned_of_rejection .beginning rejection)

/-- What came back for a deed. -/
def Deed.body? {α : Type} : Deed α → Option Bytes
  | .sent _ (.ok response) => some response.body
  | _ => none

/-- The order is refused. -/
def busyVisit : Visit :=
  { orderVisit with world := .start shopSettings [⟨0, .ok ⟨200, ∅, busyBody⟩⟩] () }

theorem busyVisit_deeds :
    busyVisit.journal.map (fun deed => (deed.mark?, deed.body?)) = [(some (.asked .begin), some busyBody)] := by
  decide +kernel

/-- The code of the coordinator is lost: the order shows an answer that cannot be read. -/
theorem busyVisit_answer : (busyVisit.link.execute busyVisit.registry busyVisit.service busyVisit.arguments
    busyVisit.body busyVisit.start busyVisit.world).answer
      = .error (.beginFailed (.rpc (.undecodable "not the expected JSON"))) := by
  have listed : (some (.asked .begin), some busyBody) ∈
      busyVisit.journal.map fun deed => (deed.mark?, deed.body?) := by
    rw [busyVisit_deeds]
    exact List.mem_cons_self
  obtain ⟨deed, inside, same⟩ := List.mem_map.mp listed
  rw [Visit.journal] at inside
  cases deed with
  | tried => cases same
  | sent request outcome =>
    simp only [Prod.mk.injEq, Deed.mark?] at same
    obtain ⟨marked, body⟩ := same
    obtain ⟨asked, read, begins⟩ := Option.map_eq_some_iff.mp marked
    cases outcome with
    | error failure => cases body
    | ok response =>
      have rejection : IsRejection response.body 500 "busy" (some (.object [])) := by
        rw [Option.some.inj body]
        exact busyBody_isRejection
      cases asked with
      | report report => cases begins
      | enrolment entry message parameters =>
        cases entry with
        | joining => cases begins
        | beginning =>
          have told := (rejection_told busyVisit.link rejection).2.2 busyVisit.registry busyVisit.service
            busyVisit.arguments busyVisit.body busyVisit.start busyVisit.world inside
          exact told.1 _ _ _ read

end TryConfirmCancel
