/-
**Everything that a run can do.**

A run of a registered service whose arguments can be written takes one of a few courses, and each tells
the deeds of the run, the contexts between them and the answer. What holds of all runs is read off these
courses, and no other proof opens a step of the run.

* `Entry.Accepts`: the answer of a coordinator that admits a hop;
* `Enrols`, `Reports`: what a request asks, and where it goes; `Bars`, `Hinders`: what keeps it from being sent;
* `Entering`, `Ending`: how a hop gets in and how its part ends; `Course`: how it goes in all;
* `Link.Enters`, `Link.Finishes`: what the two steps can do that send; `Link.Concludes`: what follows Try;
  `Link.IsSparing`: each sends at most once;
* `Course.asks`, `Course.enrols`, `Course.tries`, `Course.reports`: what stands before and behind a deed;
* `recorded_course`: every recorded run takes one of these courses.
-/

import TryConfirmCancel.Proofs.Transaction.Journal
import TryConfirmCancel.Proofs.Wire.Messages

namespace TryConfirmCancel

/-! ### What a coordinator accepts -/

/-- The answer of a coordinator that admits a hop: no error, and data that assigns an identifier. -/
inductive Entry.Accepts : Entry → Rpc.Response → String → Prop
  | begun {response : Rpc.Response} {text : String} {data : BegunData}
      (read : (Message.reply Message.begun).reader.ofBytes? response.body = some ⟨Code.ok, text, some data⟩)
      (present : data.rootXid ≠ "") : Accepts .beginning response data.rootXid
  | joined {response : Rpc.Response} {text : String} {data : JoinedData}
      (read : (Message.reply Message.joined).reader.ofBytes? response.body = some ⟨Code.ok, text, some data⟩)
      (present : data.branchXid ≠ "") : Accepts .joining response data.branchXid

theorem acceptedData_eq_ok_iff {β : Type} {operation : Operation} {format : Json.Format β}
    {response : Rpc.Response} {data : β} : acceptedData operation format response = .ok data ↔
      ∃ text, (Message.reply format).reader.ofBytes? response.body = some ⟨Code.ok, text, some data⟩ := by
  rw [acceptedData, Rpc.Response.json]
  cases (Message.reply format).reader.ofBytes? response.body with
  | none => simp [bind, Except.bind]
  | some reply =>
    obtain ⟨code, text, found⟩ := reply
    by_cases ok : code = Code.ok
    · subst ok
      cases found <;> simp [bind, Except.bind, Reply.accepted]
    · simp [bind, Except.bind, Reply.accepted, ok]

theorem nonEmpty_eq_ok_iff {operation : Operation} {field identifier xid : String} :
    nonEmpty operation field identifier = .ok xid ↔ identifier = xid ∧ identifier ≠ "" := by
  rw [nonEmpty]
  by_cases empty : identifier = ""
  · simp [empty]
  · simp [empty]

/-- What is assigned is what a coordinator accepts. -/
theorem Entry.assigned_eq_ok_iff {entry : Entry} {response : Rpc.Response} {xid : String} :
    entry.assigned response = .ok xid ↔ entry.Accepts response xid := by
  constructor
  · intro assigned
    cases entry with
    | beginning =>
      obtain ⟨data, accepted, identified⟩ := bind_eq_ok_iff.mp assigned
      obtain ⟨rfl, present⟩ := nonEmpty_eq_ok_iff.mp identified
      obtain ⟨_, read⟩ := acceptedData_eq_ok_iff.mp accepted
      exact .begun read present
    | joining =>
      obtain ⟨data, accepted, identified⟩ := bind_eq_ok_iff.mp assigned
      obtain ⟨rfl, present⟩ := nonEmpty_eq_ok_iff.mp identified
      obtain ⟨_, read⟩ := acceptedData_eq_ok_iff.mp accepted
      exact .joined read present
  · intro accepts
    cases accepts with
    | begun read present =>
      exact bind_eq_ok_iff.mpr ⟨_, acceptedData_eq_ok_iff.mpr ⟨_, read⟩, nonEmpty_eq_ok_iff.mpr ⟨rfl, present⟩⟩
    | joined read present =>
      exact bind_eq_ok_iff.mpr ⟨_, acceptedData_eq_ok_iff.mpr ⟨_, read⟩, nonEmpty_eq_ok_iff.mpr ⟨rfl, present⟩⟩

/-- An answer assigns one identifier. -/
theorem Entry.Accepts.unique {entry : Entry} {response : Rpc.Response} {xid other : String}
    (accepts : entry.Accepts response xid) (accepts' : entry.Accepts response other) : xid = other :=
  Except.ok.inj ((assigned_eq_ok_iff.mpr accepts).symm.trans (assigned_eq_ok_iff.mpr accepts'))

/-- An identifier that was accepted is not empty. -/
theorem Entry.Accepts.ne_empty {entry : Entry} {response : Rpc.Response} {xid : String}
    (accepts : entry.Accepts response xid) : xid ≠ "" := by
  cases accepts with
  | begun _ present => exact present
  | joined _ present => exact present

/-- The identifier that a coordinator assigns in what came back for a deed. -/
def Deed.assigned? {α : Type} : Deed α → Option (Entry × String)
  | .sent request (.ok response) =>
    match request.asked? with
    | some (.enrolment entry _ _) =>
      match entry.assigned response with
      | .ok xid => some (entry, xid)
      | .error _ => none
    | _ => none
  | _ => none

theorem Deed.assigned?_eq_some_iff {α : Type} {deed : Deed α} {entry : Entry} {xid : String} :
    deed.assigned? = some (entry, xid) ↔ ∃ request response message arguments,
      deed = .sent request (.ok response) ∧ request.asked? = some (.enrolment entry message arguments) ∧
        entry.Accepts response xid := by
  constructor
  · intro assigned
    cases deed with
    | tried => cases assigned
    | sent request outcome =>
      cases outcome with
      | error => cases assigned
      | ok response =>
        rw [assigned?] at assigned
        split at assigned
        · rename_i asked
          split at assigned
          · rename_i accepted
            cases assigned
            exact ⟨_, _, _, _, rfl, asked, Entry.assigned_eq_ok_iff.mp accepted⟩
          · cases assigned
        · cases assigned
  · rintro ⟨request, response, message, arguments, rfl, asked, accepts⟩
    simp only [assigned?, asked, Entry.assigned_eq_ok_iff.mpr accepts]

/-! ### How a Try is judged -/

/-- All identifiers that a transactional call must have are set. -/
def Context.IsComplete (context : Context) : Prop := ∀ identifier ∈ context.identifiers, identifier.2 ≠ ""

theorem Context.missing_eq_nil_iff {context : Context} : context.missing = [] ↔ context.IsComplete := by
  simp [missing, IsComplete]

theorem Context.isComplete_consume {context : Context} {elapsed : Nanoseconds} :
    (context.consume elapsed).IsComplete ↔ context.IsComplete := by
  rw [IsComplete, IsComplete, identifiers_consume]

/-- A Try succeeded: it returned a value, nothing forces a cancel, and no header that it left for the caller
marks an error. -/
structure Confirmable {α : Type} (config : Config) (left : Context) (outcome : Except ServiceFailure α) :
    Prop where
  returned : ∃ value, outcome = .ok value
  unforced : left.transaction.forceCancel = false
  unmarked : ∀ name ∈ left.responseHeaders.keys, Text.sameLetters name config.errorSentinelHeader = false

theorem isConfirmable_consume {config : Config} {left : Context} {elapsed : Nanoseconds} {returned : Bool} :
    isConfirmable config (left.consume elapsed) returned = isConfirmable config left returned := by
  rw [isConfirmable, isConfirmable, Context.consume_transaction, Context.consume_responseHeaders]

theorem isConfirmable_iff {α : Type} {config : Config} {left : Context} {outcome : Except ServiceFailure α} :
    isConfirmable config left (returnedOk outcome) = true ↔ Confirmable config left outcome := by
  have returned : returnedOk outcome = true ↔ ∃ value, outcome = .ok value := by
    cases outcome <;> simp [returnedOk, failureOf?]
  have parts : Confirmable config left outcome ↔ (∃ value, outcome = .ok value) ∧
      left.transaction.forceCancel = false ∧
      ∀ name ∈ left.responseHeaders.keys, Text.sameLetters name config.errorSentinelHeader = false :=
    ⟨fun whole => ⟨whole.returned, whole.unforced, whole.unmarked⟩,
      fun ⟨value, unforced, unmarked⟩ => ⟨value, unforced, unmarked⟩⟩
  rw [parts, isConfirmable, Bool.and_eq_true, Bool.and_eq_true, returned, and_assoc]
  simp

/-! ### What a run sends -/

/-- A request to enter a transaction at a coordinator, made from a context. -/
def Enrols (config : Config) (coordinator : String) (entrant : Entrant) (context : Context) (entry : Entry)
    (request : Rpc.Request) : Prop :=
  ∃ route time, Route.resolve config coordinator = .ok route ∧
    request.target = route.target config entry.operation ∧
    request.asked? = some (.enrolment entry (entrant.enrolment entry config route context time)
      entrant.parameters.toBytes)

/-- A report to a coordinator, made from a context. -/
def Reports (config : Config) (coordinator : String) (context : Context) (ok : Bool)
    (request : Rpc.Request) : Prop :=
  ∃ route time, Route.resolve config coordinator = .ok route ∧
    request.target = route.target config .finish ∧
    request.asked? = some (.report (context.report config ok time))

/-- What a report comes to by what came back for it. -/
def reportResult (result : Except Rpc.Failure Rpc.Response) : Except Failure Unit :=
  ((result.mapError .rpc).mapError unanswered).bind reportAnswer

/-! ### The parts of a run -/

section Parts

variable (config : Config) (role : Role) (coordinator : String) (entrant : Entrant)

/-- What keeps a request from being sent, and the failure that stands for it. -/
inductive Bars (operation : Operation) (budget : Nat) : Failure → Prop
  | spent (spent : budget = 0) : Bars operation budget (.deadlineExceeded operation)
  | unresolved (fault : AddressFault) (unresolved : Route.resolve config coordinator = .error fault) :
      Bars operation budget fault.failure

/-- What keeps a hop from asking to enter. -/
inductive Hinders (entry : Entry) (context : Context) : Failure → Prop
  | barred {failure : Failure}
      (barred : Bars config coordinator entry.operation context.span.budget failure) :
      Hinders entry context failure
  /-- The enrolment does not fit into a body. -/
  | unwritable {route : Route} {time : Nanoseconds} {fault : EnvelopeFault}
      (unwritable : entrant.body entry.service (entrant.enrolment entry config route context time)
        = .error fault) :
      Hinders entry context fault.failure

/-- How a hop gets in, or does not: the answer, the deeds, and the context behind them. -/
inductive Entering {α : Type} (entry : Entry) (context : Context) :
    Except Failure String → List (Deed α) → Context → Prop
  | unsent (failure : Failure) (hindered : Hinders config coordinator entrant entry context failure) :
      Entering entry context (.error failure) [] context
  /-- The coordinator did not admit the hop. -/
  | refused (failure : Failure) {request : Rpc.Request} {outcome : Except Rpc.Failure Rpc.Response}
      {elapsed : Nanoseconds} (enrols : Enrols config coordinator entrant context entry request)
      (refused : ∀ response xid, outcome = .ok response → ¬ entry.Accepts response xid)
      (told : (outcome.mapError .rpc).bind entry.assigned = .error failure) :
      Entering entry context (.error failure) [.sent request outcome] (context.consume elapsed)
  /-- The coordinator admitted the hop. -/
  | admitted {request : Rpc.Request} {response : Rpc.Response} {xid : String} {elapsed : Nanoseconds}
      (enrols : Enrols config coordinator entrant context entry request)
      (accepts : entry.Accepts response xid) :
      Entering entry context (.ok xid) [.sent request (.ok response)]
        ((context.consume elapsed).enteredBy entry xid coordinator)

/-- A hop has to report how its Try went: a root always, a branch only a Try that failed, and only if the
settings ask for it. -/
def HasToReport (ok : Bool) : Prop :=
  role = .root ∨ role = .branch ∧ ok = false ∧ config.tryFailedIgnoreCallbackCancel = true

/-- What a root answers when Try has run and its report has come to something. -/
def rootAnswer {α : Type} (ok : Bool) (outcome : Except ServiceFailure α) :
    Except Failure Unit → Except Failure α
  | .ok () => outcome.mapError .business
  | .error failure => .error (endingFailure ok (failureOf? outcome) failure)

/-- How the part of a hop ends: the deeds and the answer. The context is the one behind Try. -/
inductive Ending {α : Type} (outcome : Except ServiceFailure α) (context : Context) :
    List (Deed α) → Except Failure α → Prop
  | incomplete (missing : context.missing ≠ []) :
      Ending outcome context [] (.error (incompleteContext context.missing))
  /-- There is nothing to report. -/
  | silent (complete : context.missing = [])
      (due : ¬ HasToReport config role (isConfirmable config context (returnedOk outcome))) :
      Ending outcome context [] (outcome.mapError .business)
  /-- The report could not be sent. -/
  | unsent {answer : Except Failure α} {failure : Failure} (complete : context.missing = [])
      (due : HasToReport config role (isConfirmable config context (returnedOk outcome)))
      (barred : Bars config coordinator .finish context.span.budget failure)
      (own : role = .branch → answer = outcome.mapError .business)
      (told : role = .root → answer
        = rootAnswer (isConfirmable config context (returnedOk outcome)) outcome (.error failure)) :
      Ending outcome context [] answer
  | reported {answer : Except Failure α} {request : Rpc.Request}
      {result : Except Rpc.Failure Rpc.Response} (complete : context.missing = [])
      (due : HasToReport config role (isConfirmable config context (returnedOk outcome)))
      (unspent : context.span.budget ≠ 0)
      (reports : Reports config coordinator context (isConfirmable config context (returnedOk outcome)) request)
      (own : role = .branch → answer = outcome.mapError .business)
      (told : role = .root → answer
        = rootAnswer (isConfirmable config context (returnedOk outcome)) outcome (reportResult result)) :
      Ending outcome context [.sent request result] answer

/-- How a run goes: the deeds and the answer. -/
inductive Course {α : Type} (context : Context) : List (Deed α) → Except Failure α → Prop
  /-- The hop does not get in, and Try does not run. -/
  | shutOut {entry : Entry} {failure shown : Failure} {deeds : List (Deed α)} {after : Context}
      (active : role.entry? = some entry)
      (entering : Entering config coordinator entrant entry context (.error failure) deeds after)
      (wrapped : shown = enteringFailure entry.failure failure) :
      Course context deeds (.error shown)
  /-- The hop gets in, and Try runs. -/
  | admitted {entry : Entry} {xid : String} {opening closing : List (Deed α)} {entered left : Context}
      {elapsed : Nanoseconds} {outcome : Except ServiceFailure α} {answer : Except Failure α}
      (active : role.entry? = some entry)
      (entering : Entering config coordinator entrant entry context (.ok xid) opening entered)
      (ending : Ending config role coordinator outcome (left.consume elapsed) closing answer) :
      Course context (opening ++ .tried entered left elapsed outcome :: closing) answer
  /-- The hop only hands the transaction on, and Try runs. -/
  | handedOn {closing : List (Deed α)} {left : Context} {elapsed : Nanoseconds}
      {outcome : Except ServiceFailure α} {answer : Except Failure α} (passive : role.entry? = none)
      (ending : Ending config role coordinator outcome (left.consume elapsed) closing answer) :
      Course context (.tried context.handedOn left elapsed outcome :: closing) answer

end Parts

/-! ### What is read off a course -/

section Reading

variable {α : Type} {config : Config} {role : Role} {coordinator : String} {entrant : Entrant}
  {context : Context} {deeds : List (Deed α)} {answer : Except Failure α}

/-- There is no second Try. -/
theorem Ending.not_tried {outcome : Except ServiceFailure α}
    (ending : Ending config role coordinator outcome context deeds answer) {entered left : Context}
    {elapsed : Nanoseconds} {result : Except ServiceFailure α} :
    .tried entered left elapsed result ∉ deeds := by
  cases ending <;> simp

/-- There is no second request to enter. -/
theorem Ending.not_enrolment {outcome : Except ServiceFailure α}
    (ending : Ending config role coordinator outcome context deeds answer) {request : Rpc.Request}
    {result : Except Rpc.Failure Rpc.Response} {entry : Entry} {message : Enrolment} {arguments : Bytes}
    (asked : request.asked? = some (.enrolment entry message arguments)) : .sent request result ∉ deeds := by
  cases ending with
  | reported _ _ _ reports _ =>
    obtain ⟨route, time, -, -, report⟩ := reports
    intro member
    cases List.mem_singleton.mp member
    cases asked.symm.trans report
  | _ => simp

/-- The context on which Try runs. -/
theorem Course.entered_eq (course : Course config role coordinator entrant context deeds answer)
    {entered left : Context} {elapsed : Nanoseconds} {outcome : Except ServiceFailure α}
    (tried : .tried entered left elapsed outcome ∈ deeds) :
    (∃ entry xid request response spent, role.entry? = some entry ∧
      Enrols config coordinator entrant context entry request ∧ entry.Accepts response xid ∧
      deeds.head? = some (.sent request (.ok response)) ∧
      entered = (context.consume spent).enteredBy entry xid coordinator) ∨
    (role.entry? = none ∧ entered = context.handedOn) := by
  cases course with
  | shutOut active entering =>
    cases entering with
    | unsent _ => cases tried
    | refused _ _ _ => cases List.mem_singleton.mp tried
  | admitted active entering ending =>
    cases entering with
    | admitted enrols accepts =>
      simp only [List.singleton_append, List.mem_cons, reduceCtorEq, false_or] at tried
      rcases tried with same | inside
      · cases same
        exact .inl ⟨_, _, _, _, _, active, enrols, accepts, rfl, rfl⟩
      · exact absurd inside ending.not_tried
  | handedOn passive ending =>
    rcases List.mem_cons.mp tried with same | inside
    · cases same
      exact .inr ⟨passive, rfl⟩
    · exact absurd inside ending.not_tried

/-- A hop that nothing keeps from it asks to enter. -/
theorem Course.asks (course : Course config role coordinator entrant context deeds answer) {entry : Entry}
    (active : role.entry? = some entry)
    (free : ∀ failure, ¬ Hinders config coordinator entrant entry context failure) :
    ∃ request result, .sent request result ∈ deeds ∧
      Enrols config coordinator entrant context entry request := by
  cases course with
  | shutOut active' entering =>
    cases active.symm.trans active'
    cases entering with
    | unsent _ hindered => exact absurd hindered (free _)
    | refused _ enrols _ => exact ⟨_, _, List.mem_singleton_self _, enrols⟩
  | admitted active' entering _ =>
    cases active.symm.trans active'
    cases entering with
    | admitted enrols _ => exact ⟨_, _, List.mem_cons_self, enrols⟩
  | handedOn passive _ => cases active.symm.trans passive

/-- A request to enter is the one that the role asks for, and the first deed. -/
theorem Course.enrols (course : Course config role coordinator entrant context deeds answer)
    {request : Rpc.Request} {result : Except Rpc.Failure Rpc.Response} {entry : Entry}
    {message : Enrolment} {arguments : Bytes} (sent : .sent request result ∈ deeds)
    (asked : request.asked? = some (.enrolment entry message arguments)) :
    role.entry? = some entry ∧ Enrols config coordinator entrant context entry request ∧
      deeds.head? = some (.sent request result) := by
  have only : ∀ {other : Entry}, Enrols config coordinator entrant context other request → other = entry := by
    rintro other ⟨route, time, -, -, read⟩
    cases asked.symm.trans read
    rfl
  cases course with
  | shutOut active entering =>
    cases entering with
    | unsent _ => cases sent
    | refused _ enrols _ =>
      cases List.mem_singleton.mp sent
      cases only enrols
      exact ⟨active, enrols, rfl⟩
  | admitted active entering ending =>
    cases entering with
    | admitted enrols accepts =>
      simp only [List.singleton_append, List.mem_cons, Deed.sent.injEq, reduceCtorEq, false_or] at sent
      rcases sent with ⟨rfl, rfl⟩ | inside
      · cases only enrols
        exact ⟨active, enrols, rfl⟩
      · exact absurd inside (ending.not_enrolment asked)
  | handedOn passive ending =>
    rcases List.mem_cons.mp sent with same | inside
    · cases same
    · exact absurd inside (ending.not_enrolment asked)

/-- A hop that was admitted runs Try, and ends its part behind it. -/
theorem Course.tries (course : Course config role coordinator entrant context deeds answer)
    {request : Rpc.Request} {response : Rpc.Response} {entry : Entry} {message : Enrolment} {arguments : Bytes}
    {xid : String} (sent : .sent request (.ok response) ∈ deeds)
    (asked : request.asked? = some (.enrolment entry message arguments))
    (accepts : entry.Accepts response xid) :
    ∃ entered left elapsed outcome closing,
      deeds = .sent request (.ok response) :: .tried entered left elapsed outcome :: closing ∧
      Ending config role coordinator outcome (left.consume elapsed) closing answer := by
  obtain ⟨active, -, first⟩ := course.enrols sent asked
  cases course with
  | shutOut active' entering =>
    cases active.symm.trans active'
    cases entering with
    | unsent _ => cases first
    | refused _ _ refused =>
      cases first
      exact absurd accepts (refused _ _ rfl)
  | admitted _ entering ending =>
    cases entering with
    | admitted _ _ =>
      cases first
      exact ⟨_, _, _, _, _, rfl, ending⟩
  | handedOn passive _ => cases active.symm.trans passive

/-- A request to enter is no report. -/
theorem Enrols.not_report {entry : Entry} {request : Rpc.Request} {report : Report}
    (enrols : Enrols config coordinator entrant context entry request)
    (asked : request.asked? = some (.report report)) : False := by
  obtain ⟨route, time, -, -, enrolment⟩ := enrols
  cases asked.symm.trans enrolment

/-- A report that is sent said whether Try succeeded. -/
theorem Reports.ok_eq {ok : Bool} {request : Rpc.Request} {report : Report}
    (reports : Reports config coordinator context ok request)
    (asked : request.asked? = some (.report report)) : report.ok = ok := by
  obtain ⟨route, time, -, -, read⟩ := reports
  cases asked.symm.trans read
  rfl

/-- A report stands behind an accepted request to enter and a Try. -/
theorem Course.reports (course : Course config role coordinator entrant context deeds answer)
    {request : Rpc.Request} {result : Except Rpc.Failure Rpc.Response} {report : Report}
    (sent : .sent request result ∈ deeds) (asked : request.asked? = some (.report report)) :
    ∃ entry first response xid entered left elapsed outcome, role.entry? = some entry ∧
      Enrols config coordinator entrant context entry first ∧ entry.Accepts response xid ∧
      deeds = [.sent first (.ok response), .tried entered left elapsed outcome, .sent request result] ∧
      Ending config role coordinator outcome (left.consume elapsed) [.sent request result] answer := by
  have alone : ∀ {left : Context} {outcome : Except ServiceFailure α} {closing : List (Deed α)},
      Ending config role coordinator outcome left closing answer → .sent request result ∈ closing →
      closing = [.sent request result] := by
    intro left outcome closing ending inside
    cases ending with
    | reported _ _ _ _ _ _ => rw [List.mem_singleton.mp inside]
    | _ => cases inside
  cases course with
  | shutOut _ entering =>
    cases entering with
    | unsent _ => cases sent
    | refused _ enrols _ =>
      cases List.mem_singleton.mp sent
      exact (enrols.not_report asked).elim
  | admitted active entering ending =>
    cases entering with
    | admitted enrols accepts =>
      simp only [List.singleton_append, List.mem_cons, Deed.sent.injEq, reduceCtorEq, false_or] at sent
      rcases sent with ⟨rfl, -⟩ | sent
      · exact (enrols.not_report asked).elim
      · cases alone ending sent
        exact ⟨_, _, _, _, _, _, _, _, active, enrols, accepts, rfl, ending⟩
  | handedOn passive ending =>
    simp only [List.mem_cons, reduceCtorEq, false_or] at sent
    cases alone ending sent
    cases ending with
    | reported _ due _ _ _ _ =>
      rcases due with rfl | ⟨rfl, -⟩
      · cases passive
      · cases passive

end Reading

/-! ### What each step can do -/

/-- A request that a hop may send: made by the settings from a budget that is not spent. -/
def Sends (config : Config) (span : Span) (request : Rpc.Request) : Prop :=
  span.budget ≠ 0 ∧ ∃ target codec body headers, request = Link.bounded config span target codec body headers

namespace Link

section Steps

variable {σ : Type} (link : Link σ) (config : Config) (coordinator : String) (context : Context) (world : σ)

omit link context world in
theorem bounded_headers (span : Span) (target : Rpc.Target) (codec : Rpc.Codec) (body : Bytes)
    (headers : Dict String) : (bounded config span target codec body headers).headers = headers := by
  refine Dict.ext_get? fun name => ?_
  have nothing : (∅ : Dict String).get? name = none := rfl
  simp [bounded, Rpc.Request.of, Rpc.Request.withTimeout, Rpc.Request.withRetries, Rpc.Request.withCodec,
    Rpc.Request.withHeaders, nothing]

/-- How long a request takes. -/
def elapsed (request : Rpc.Request) : Nanoseconds := link.now (link.send request world).2 - link.now world

/-- The one step that sends. -/
theorem request_cases (operation : Operation) (target : Rpc.Target) (codec : Rpc.Codec) (body : Bytes)
    (headers : Dict String) :
    (context.span.budget = 0 ∧ link.request config operation target codec body headers context world
      = ⟨.error (.deadlineExceeded operation), context, world⟩) ∨
    ∃ request, request = bounded config context.span target codec body headers ∧ Sends config context.span request ∧
      link.request config operation target codec body headers context world
        = ⟨(link.send request world).1.mapError .rpc, context.consume (link.elapsed world request),
            (link.send request world).2⟩ := by
  unfold request
  by_cases spent : context.span.budget = 0
  · rw [if_pos (by simp [Span.isExpired, spent])]
    exact .inl ⟨spent, rfl⟩
  · rw [if_neg (by simp [Span.isExpired, spent])]
    exact .inr ⟨_, rfl, ⟨spent, _, _, _, _, rfl⟩, rfl⟩

/-- How a hop gets in, or does not: the answer, the context and the world. -/
inductive Enters (entry : Entry) (entrant : Entrant) : Step σ (Except Failure String) → Prop
  | unsent (failure : Failure) (hindered : Hinders config coordinator entrant entry context failure) :
      Enters entry entrant ⟨.error failure, context, world⟩
  | refused (failure : Failure) {request : Rpc.Request} (sends : Sends config context.span request)
      (enrols : Enrols config coordinator entrant context entry request)
      (refused : ∀ response xid, (link.send request world).1 = .ok response → ¬ entry.Accepts response xid)
      (told : ((link.send request world).1.mapError .rpc).bind entry.assigned = .error failure) :
      Enters entry entrant
        ⟨.error failure, context.consume (link.elapsed world request), (link.send request world).2⟩
  | admitted {request : Rpc.Request} {response : Rpc.Response} {xid : String}
      (sends : Sends config context.span request)
      (enrols : Enrols config coordinator entrant context entry request)
      (came : (link.send request world).1 = .ok response) (accepts : entry.Accepts response xid) :
      Enters entry entrant
        ⟨.ok xid, (context.consume (link.elapsed world request)).enteredBy entry xid coordinator,
          (link.send request world).2⟩

theorem enterBy_enters (entry : Entry) (entrant : Entrant) :
    link.Enters config coordinator context world entry entrant
      (link.enterBy entry config coordinator entrant context world) := by
  unfold enterBy
  cases resolved : Route.resolve config coordinator with
  | error fault => exact .unsent _ (.barred (.unresolved fault resolved))
  | ok route =>
    simp only
    unfold enrol
    cases made : entrant.body entry.service (entrant.enrolment entry config route context (link.now world)) with
    | error fault => exact .unsent _ (.unwritable made)
    | ok body =>
      rcases link.request_cases config context world entry.operation (route.target config entry.operation) .text
          body ∅ with ⟨spent, same⟩ | ⟨request, shape, sends, same⟩
      · simp only [same]
        exact .unsent _ (.barred (.spent spent))
      · simp only [same]
        have enrols : Enrols config coordinator entrant context entry request := by
          rw [shape]
          exact ⟨route, _, resolved, rfl, asked?_enrolment made⟩
        cases came : (link.send request world).1 with
        | error failure =>
          refine .refused _ sends enrols ?_ (by rw [came]; rfl)
          intro response xid succeeded
          cases came.symm.trans succeeded
        | ok response =>
          simp only [mapError_ok, Except.bind]
          cases assigned : entry.assigned response with
          | error failure =>
            refine .refused _ sends enrols ?_ (by rw [came]; exact assigned)
            intro response' xid succeeded accepts
            cases came.symm.trans succeeded
            rw [Entry.assigned_eq_ok_iff.mpr accepts] at assigned
            cases assigned
          | ok xid => exact .admitted sends enrols came (Entry.assigned_eq_ok_iff.mp assigned)

/-- How a report goes that carries certain headers: it is kept from being sent, or it comes to something. -/
theorem finish_cases (ok : Bool) (tryFailure : Option ServiceFailure) (secondStage : Dict String) :
    (∃ failure, Bars config coordinator .finish context.span.budget failure ∧
      link.finish config coordinator ok tryFailure secondStage context world = ⟨.error failure, context, world⟩) ∨
    ∃ request, Sends config context.span request ∧ Reports config coordinator context ok request ∧
      request.headers = reportHeaders tryFailure secondStage ∧
      link.finish config coordinator ok tryFailure secondStage context world
        = ⟨reportResult (link.send request world).1, context.consume (link.elapsed world request),
            (link.send request world).2⟩ := by
  unfold finish
  cases resolved : Route.resolve config coordinator with
  | error fault => exact .inl ⟨_, .unresolved fault resolved, rfl⟩
  | ok route =>
    simp only
    rcases link.request_cases config context world .finish (route.target config .finish) .json
        ((Message.addressed Message.report).bytes
          ⟨Message.endService, context.report config ok (link.now world)⟩)
        (reportHeaders tryFailure secondStage) with ⟨spent, same⟩ | ⟨request, shape, sends, same⟩
    · rw [same]
      exact .inl ⟨_, .spent spent, rfl⟩
    · rw [same]
      refine .inr ⟨request, sends, ?_, ?_, rfl⟩
      · rw [shape]
        exact ⟨route, _, resolved, rfl, asked?_report⟩
      · rw [shape, bounded_headers]

/-- How a hop reports: the answer, the context and the world. -/
inductive Finishes (ok : Bool) : Step σ (Except Failure Unit) → Prop
  | unsent (failure : Failure) (barred : Bars config coordinator .finish context.span.budget failure) :
      Finishes ok ⟨.error failure, context, world⟩
  | reported {request : Rpc.Request} (sends : Sends config context.span request)
      (reports : Reports config coordinator context ok request) :
      Finishes ok ⟨reportResult (link.send request world).1, context.consume (link.elapsed world request),
        (link.send request world).2⟩

theorem finish_finishes (ok : Bool) (tryFailure : Option ServiceFailure) (secondStage : Dict String) :
    link.Finishes config coordinator context world ok
      (link.finish config coordinator ok tryFailure secondStage context world) := by
  rcases link.finish_cases config coordinator context world ok tryFailure secondStage with
    ⟨failure, barred, same⟩ | ⟨request, sends, reports, -, same⟩
  · rw [same]
    exact .unsent failure barred
  · rw [same]
    exact .reported sends reports

/-- How the part of a hop ends: it stops there, or it reports, a root without the headers for the second stage. -/
inductive Concludes {α : Type} (role : Role) (outcome : Except ServiceFailure α) : Step σ (Except Failure α) → Prop
  | incomplete (missing : context.missing ≠ []) :
      Concludes role outcome ⟨.error (incompleteContext context.missing), context, world⟩
  | silent (complete : context.missing = [])
      (due : ¬ HasToReport config role (isConfirmable config context (returnedOk outcome))) :
      Concludes role outcome ⟨outcome.mapError .business, context, world⟩
  | early (complete : context.missing = []) (branch : role = .branch)
      (failed : isConfirmable config context (returnedOk outcome) = false)
      (asked : config.tryFailedIgnoreCallbackCancel = true) :
      Concludes role outcome
        ((link.finish config coordinator false (failureOf? outcome) ∅ context world).map fun _ =>
          outcome.mapError .business)
  | final {secondStage others : Dict String} (complete : context.missing = []) (root : role = .root)
      (parted : takeBeginning config.secondStageHeaderStart context.responseHeaders = (secondStage, others)) :
      Concludes role outcome
        ((link.finish config coordinator (isConfirmable config context (returnedOk outcome)) (failureOf? outcome)
          secondStage { context with responseHeaders := others } world).map
            (rootAnswer (isConfirmable config context (returnedOk outcome)) outcome))

theorem conclude_concludes {α : Type} (role : Role) (outcome : Except ServiceFailure α) :
    link.Concludes config coordinator context world role outcome
      (link.conclude config role coordinator outcome context world) := by
  unfold conclude
  by_cases complete : context.missing = []
  · have present : ¬ (!context.missing.isEmpty) = true := by simp [complete]
    simp only [if_neg present]
    cases role with
    | propagator => exact .silent complete (by simp [HasToReport])
    | branch =>
      simp only
      split
      · rename_i due
        rw [Bool.and_eq_true, Bool.not_eq_true'] at due
        exact .early complete rfl due.1 due.2
      · rename_i due
        refine .silent complete ?_
        rintro (root | ⟨-, failed, asked⟩)
        · cases root
        · exact due (by rw [failed, asked]; rfl)
    | root => exact .final complete rfl rfl
  · have missing : (!context.missing.isEmpty) = true := by simpa using complete
    rw [if_pos missing]
    exact .incomplete complete

/-- A step from a span and a world that sends at most one request, and charges just the time that this takes. -/
inductive IsSparing (span : Span) {α : Type} : Step σ α → Prop
  | idle (answer : α) {after : Context} (kept : after.span = span) : IsSparing span ⟨answer, after, world⟩
  | call (answer : α) {request : Rpc.Request} {after : Context} (sends : Sends config span request)
      (charged : after.span = span.consume (link.elapsed world request)) :
      IsSparing span ⟨answer, after, (link.send request world).2⟩

variable {link config world} in
theorem IsSparing.map {span : Span} {α β : Type} {step : Step σ α} (sparing : link.IsSparing config world span step)
    (convert : α → β) : link.IsSparing config world span (step.map convert) := by
  cases sparing with
  | idle answer kept => exact .idle _ kept
  | call answer sends charged => exact .call _ sends charged

theorem enterBy_isSparing (entry : Entry) (entrant : Entrant) :
    link.IsSparing config world context.span (link.enterBy entry config coordinator entrant context world) := by
  have enters := link.enterBy_enters config coordinator context world entry entrant
  generalize link.enterBy entry config coordinator entrant context world = step at enters ⊢
  cases enters with
  | unsent failure hindered => exact .idle _ rfl
  | refused failure sends enrols refused told => exact .call _ sends rfl
  | admitted sends enrols came accepts => exact .call _ sends (Context.enteredBy_span ..)

theorem enter_isSparing (role : Role) (entrant : Entrant) :
    link.IsSparing config world context.span (link.enter config role coordinator entrant context world) := by
  unfold enter
  cases role.entry? with
  | none => exact .idle _ (Context.handedOn_span ..)
  | some entry => exact (link.enterBy_isSparing config coordinator context world entry entrant).map _

theorem finish_isSparing (ok : Bool) (tryFailure : Option ServiceFailure) (secondStage : Dict String) :
    link.IsSparing config world context.span
      (link.finish config coordinator ok tryFailure secondStage context world) := by
  have finishes := link.finish_finishes config coordinator context world ok tryFailure secondStage
  generalize link.finish config coordinator ok tryFailure secondStage context world = step at finishes ⊢
  cases finishes with
  | unsent failure barred => exact .idle _ rfl
  | reported sends reports => exact .call _ sends rfl

theorem conclude_isSparing {α : Type} (role : Role) (outcome : Except ServiceFailure α) :
    link.IsSparing config world context.span (link.conclude config role coordinator outcome context world) := by
  have concludes := link.conclude_concludes config coordinator context world role outcome
  generalize link.conclude config role coordinator outcome context world = step at concludes ⊢
  cases concludes with
  | incomplete missing => exact .idle _ rfl
  | silent complete due => exact .idle _ rfl
  | early complete branch failed asked => exact (link.finish_isSparing config coordinator context world _ _ _).map _
  | @final secondStage others complete root parted =>
    exact (link.finish_isSparing config coordinator { context with responseHeaders := others } world _ _ _).map _

end Steps

end Link

/-! ### Every run takes a course -/

namespace Link

section Journalling

variable {σ α : Type} (link : Link σ) (config : Config) (context : Context) (state : Journalled σ α)

/-- How a hop gets in. -/
theorem enterBy_journalled (entry : Entry) (coordinator : String) (entrant : Entrant) :
    ∃ deeds,
      (link.journalled.enterBy entry config coordinator entrant context state).world.journal
        = state.journal ++ deeds ∧
      Entering config coordinator entrant entry context
        (link.journalled.enterBy entry config coordinator entrant context state).answer deeds
        (link.journalled.enterBy entry config coordinator entrant context state).context := by
  have enters := link.journalled.enterBy_enters config coordinator context state entry entrant
  generalize link.journalled.enterBy entry config coordinator entrant context state = step at enters ⊢
  cases enters with
  | unsent failure hindered => exact ⟨[], (List.append_nil _).symm, .unsent failure hindered⟩
  | refused failure sends enrols refused told => exact ⟨_, rfl, .refused failure enrols refused told⟩
  | @admitted request response xid sends enrols came accepts =>
    refine ⟨[.sent request (.ok response)], ?_, .admitted enrols accepts⟩
    rw [← came]
    rfl

/-- How a hop reports. -/
theorem finish_journalled (coordinator : String) (ok : Bool) (tryFailure : Option ServiceFailure)
    (secondStage : Dict String) :
    ∃ deeds,
      (link.journalled.finish config coordinator ok tryFailure secondStage context state).world.journal
        = state.journal ++ deeds ∧
      ((∃ failure, deeds = [] ∧ Bars config coordinator .finish context.span.budget failure ∧
          (link.journalled.finish config coordinator ok tryFailure secondStage context state).answer
            = .error failure) ∨
        context.span.budget ≠ 0 ∧ ∃ request result, deeds = [.sent request result] ∧
          Reports config coordinator context ok request ∧
          (link.journalled.finish config coordinator ok tryFailure secondStage context state).answer
            = reportResult result) := by
  have finishes := link.journalled.finish_finishes config coordinator context state ok tryFailure secondStage
  generalize link.journalled.finish config coordinator ok tryFailure secondStage context state = step
    at finishes ⊢
  cases finishes with
  | unsent failure barred => exact ⟨[], (List.append_nil _).symm, .inl ⟨failure, rfl, barred, rfl⟩⟩
  | reported sends reports => exact ⟨_, rfl, .inr ⟨sends.1, _, _, rfl, reports, rfl⟩⟩

/-- How the part of a hop ends. -/
theorem conclude_journalled (role : Role) (coordinator : String) (outcome : Except ServiceFailure α) :
    ∃ deeds,
      (link.journalled.conclude config role coordinator outcome context state).world.journal
        = state.journal ++ deeds ∧
      Ending config role coordinator outcome context deeds
        (link.journalled.conclude config role coordinator outcome context state).answer := by
  have concludes := link.journalled.conclude_concludes config coordinator context state role outcome
  generalize link.journalled.conclude config role coordinator outcome context state = step at concludes ⊢
  cases concludes with
  | incomplete missing => exact ⟨[], (List.append_nil _).symm, .incomplete missing⟩
  | silent complete due => exact ⟨[], (List.append_nil _).symm, .silent complete due⟩
  | early complete branch failed asked =>
    subst branch
    have due : HasToReport config .branch (isConfirmable config context (returnedOk outcome)) :=
      .inr ⟨rfl, failed, asked⟩
    obtain ⟨deeds, journal, sent⟩ := link.finish_journalled config context state coordinator false
      (failureOf? outcome) ∅
    refine ⟨deeds, journal, ?_⟩
    rcases sent with ⟨failure, rfl, barred, -⟩ | ⟨unspent, request, result, rfl, reports, -⟩
    · exact .unsent complete due barred (fun _ => rfl) nofun
    · exact .reported complete due unspent (by rwa [failed]) (fun _ => rfl) nofun
  | @final secondStage others complete root parted =>
    subst root
    obtain ⟨deeds, journal, sent⟩ := link.finish_journalled config { context with responseHeaders := others } state
      coordinator (isConfirmable config context (returnedOk outcome)) (failureOf? outcome) secondStage
    refine ⟨deeds, journal, ?_⟩
    rcases sent with ⟨failure, rfl, barred, failed⟩ | ⟨unspent, request, result, rfl, reports, came⟩
    · exact .unsent complete (.inl rfl) barred nofun fun _ => by rw [← failed]; rfl
    · exact .reported complete (.inl rfl) unspent reports nofun fun _ => by rw [← came]; rfl

/-- How Try and what follows it go. -/
theorem attempt_journalled (role : Role) (coordinator : String)
    (body : Action σ (Except ServiceFailure α)) :
    let tried := link.journalled.attempt (link.witnessed body) context state
    let ended := link.journalled.conclude config role coordinator tried.answer tried.context tried.world
    ∃ left elapsed outcome closing,
      ended.world.journal = state.journal ++ .tried context left elapsed outcome :: closing ∧
      Ending config role coordinator outcome (left.consume elapsed) closing ended.answer := by
  intro tried ended
  obtain ⟨closing, journal, ending⟩ :=
    link.conclude_journalled config tried.context tried.world role coordinator tried.answer
  exact ⟨_, _, _, closing, journal.trans (List.append_assoc _ _ _), ending⟩

/-- How a run goes that is neither refused for its service nor for its arguments. -/
theorem within_journalled (role : Role) (coordinator : String) (entrant : Entrant)
    (body : Action σ (Except ServiceFailure α)) :
    ∃ deeds,
      (link.journalled.within config role coordinator entrant (link.witnessed body) context
        state).world.journal = state.journal ++ deeds ∧
      Course config role coordinator entrant context deeds
        (link.journalled.within config role coordinator entrant (link.witnessed body) context
          state).answer := by
  unfold within enter
  cases active : role.entry? with
  | none =>
    obtain ⟨left, elapsed, outcome, closing, journal, ending⟩ :=
      link.attempt_journalled config context.handedOn state role coordinator body
    exact ⟨_, journal, .handedOn active ending⟩
  | some entry =>
    obtain ⟨opening, journal, entering⟩ := link.enterBy_journalled config context state entry coordinator entrant
    simp only
    generalize link.journalled.enterBy entry config coordinator entrant context state = entered
      at journal entering ⊢
    obtain ⟨answer, after, state'⟩ := entered
    cases answer with
    | error failure => exact ⟨opening, journal, .shutOut active entering rfl⟩
    | ok xid =>
      obtain ⟨left, elapsed, outcome, closing, journal', ending⟩ :=
        link.attempt_journalled config after state' role coordinator body
      refine ⟨_, ?_, .admitted active entering ending⟩
      rw [← List.append_assoc, ← journal]
      exact journal'

end Journalling

section Runs

variable {σ τ α : Type} (link : Link σ) {registry : Registry τ} {service : String} {arguments : Json.Datum}
  (body : Action σ (Except ServiceFailure α)) (context : Context) (world : σ)

/-- A run for a service that is not registered does nothing. -/
theorem recorded_of_unregistered {failure : Failure} (unknown : registry.descriptor service = .error failure) :
    link.recorded registry service arguments body context world = ⟨.error failure, context, ⟨world, []⟩⟩ := by
  unfold recorded execute
  rw [unknown]

/-- A run with arguments that cannot be written does nothing. -/
theorem recorded_of_unwritable {descriptor : Descriptor} {fault : ParametersFault}
    (registered : registry.descriptor service = .ok descriptor)
    (unwritable : Parameters.encode arguments = .error fault) :
    link.recorded registry service arguments body context world
      = ⟨.error fault.failure, context, ⟨world, []⟩⟩ := by
  unfold recorded execute
  rw [registered, unwritable]

/-- Every other run goes through the steps of a transaction. -/
theorem recorded_of_written {descriptor : Descriptor} {parameters : Parameters}
    (registered : registry.descriptor service = .ok descriptor)
    (written : Parameters.encode arguments = .ok parameters) :
    link.recorded registry service arguments body context world
      = link.journalled.within (link.settings world) (Role.of (link.settings world) descriptor context)
          ((Role.of (link.settings world) descriptor context).coordinator (link.settings world) context)
          ⟨service, descriptor.flags, parameters⟩ (link.witnessed body) context ⟨world, []⟩ := by
  unfold recorded execute
  rw [registered, written]
  rfl

/-- **So it takes one of the courses.** -/
theorem recorded_course {descriptor : Descriptor} {parameters : Parameters}
    (registered : registry.descriptor service = .ok descriptor)
    (written : Parameters.encode arguments = .ok parameters) :
    let run := link.recorded registry service arguments body context world
    let role := Role.of (link.settings world) descriptor context
    Course (link.settings world) role (role.coordinator (link.settings world) context)
      ⟨service, descriptor.flags, parameters⟩ context run.world.journal run.answer := by
  intro run role
  obtain ⟨deeds, journal, course⟩ := link.within_journalled (link.settings world) context
    ⟨world, []⟩ role (role.coordinator (link.settings world) context)
    ⟨service, descriptor.flags, parameters⟩ body
  have same := link.recorded_of_written body context world registered written
  rw [show run = _ from same, journal]
  exact course

/-- A run that does anything at all takes one of the courses. -/
theorem course_of_mem {deed : Deed α}
    (done : deed ∈ (link.recorded registry service arguments body context world).world.journal) :
    ∃ descriptor parameters, registry.descriptor service = .ok descriptor ∧
      Parameters.encode arguments = .ok parameters ∧
      Course (link.settings world) (Role.of (link.settings world) descriptor context)
        ((Role.of (link.settings world) descriptor context).coordinator (link.settings world) context)
        ⟨service, descriptor.flags, parameters⟩ context
        (link.recorded registry service arguments body context world).world.journal
        (link.recorded registry service arguments body context world).answer := by
  cases registered : registry.descriptor service with
  | error failure =>
    rw [link.recorded_of_unregistered body context world registered] at done
    cases done
  | ok descriptor =>
    cases written : Parameters.encode arguments with
    | error fault =>
      rw [link.recorded_of_unwritable body context world registered written] at done
      cases done
    | ok parameters =>
      exact ⟨descriptor, parameters, rfl, rfl, link.recorded_course body context world registered written⟩

end Runs

end Link

/-- The recorded run of a visit takes a course. -/
theorem Visit.course (visit : Visit) {descriptor : Descriptor} {parameters : Parameters}
    (registered : visit.registry.descriptor visit.service = .ok descriptor)
    (written : Parameters.encode visit.arguments = .ok parameters) :
    ∃ answer, Course visit.config (Role.of visit.config descriptor visit.start)
      ((Role.of visit.config descriptor visit.start).coordinator visit.config visit.start)
      ⟨visit.service, descriptor.flags, parameters⟩ visit.start visit.journal answer :=
  ⟨_, visit.link.recorded_course visit.body visit.start visit.world registered written⟩

end TryConfirmCancel
