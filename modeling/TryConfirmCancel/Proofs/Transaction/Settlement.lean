/-
**What a root answers when its report has come to something.**

* `Fate`: what became of a report, told from what came back for it;
* `Settles`: what a caller is told by it, and by how Try went;
* `Settled`: a root whose Try left a complete context sends one report, or none if no time is left, and
  answers accordingly;
* `execute_settles`: so does every root that was admitted.
-/

import TryConfirmCancel.Proofs.Transaction.Sequence

namespace TryConfirmCancel

/-! ### What became of a report -/

/-- What became of a report. -/
inductive Fate
  | accepted
  /-- The coordinator answered with an error code. -/
  | rejected (code : Int) (text : String)
  /-- No answer came in time. -/
  | unanswered
  /-- It was not sent, could not be delivered, or its answer cannot be read. -/
  | lost
  deriving DecidableEq, Repr

/-- What became of a report by what came back for it, if it was sent at all. -/
def Fate.of : Option (Except Rpc.Failure Rpc.Response) → Fate
  | none => lost
  | some (.error (.timeout _)) => unanswered
  | some (.error _) => lost
  | some (.ok response) =>
    match (Message.reply Message.ended).reader.ofBytes? response.body with
    | none => lost
    | some reply => if reply.errorCode = Code.ok then accepted else rejected reply.errorCode reply.errorText

example : Fate.of (some (.ok ⟨200, ∅, (Message.reply Message.ended).bytes ⟨503, "busy", none⟩⟩))
    = .rejected 503 "busy" := by
  decide +kernel

/-- What a caller is told by the fate of a report that said whether to confirm. -/
inductive Settles {α : Type} (ok : Bool) (outcome : Except ServiceFailure α) : Fate → Except Failure α → Prop
  /-- Try's own result. -/
  | accepted : Settles ok outcome .accepted (outcome.mapError .business)
  | confirmFailed {code : Int} {text : String} (said : ok = true) :
      Settles ok outcome (.rejected code text) (.error (.confirmFailed code text))
  | cancelFailed {code : Int} {text : String} (said : ok = false) :
      Settles ok outcome (.rejected code text) (.error (.cancelFailed code text))
  | confirmTimeout {text : String} (said : ok = true) :
      Settles ok outcome .unanswered (.error (.confirmTimeout text))
  | cancelTimeout {text : String} (said : ok = false) :
      Settles ok outcome .unanswered (.error (.cancelTimeout text))
  /-- The failure of Try shows through. -/
  | tryFailed {own : ServiceFailure} {rest : String} (failed : outcome = .error own) :
      Settles ok outcome .lost (.error (.endFailed own.code (own.message ++ rest)))
  | endFailed {value : α} {text : String} (returned : outcome = .ok value) :
      Settles ok outcome .lost (.error (.endFailed Code.endFailed text))

/-- A failure that tells nothing of the part it has in the end of a transaction. -/
def Failure.isRaw : Failure → Bool
  | structural _ | deadlineExceeded _ | codec _ | rpc _ | rejected _ _ | endTimedOut _ => true
  | _ => false

section Settling

variable {α : Type} {ok : Bool} {outcome : Except ServiceFailure α} {fate : Fate}

/-- A value is answered only if the report was accepted. -/
theorem Settles.of_ok {value : α} (settles : Settles ok outcome fate (.ok value)) :
    fate = .accepted ∧ outcome = .ok value := by
  generalize shown : (Except.ok value : Except Failure α) = answer at settles
  cases settles with
  | accepted =>
    cases outcome with
    | error own => cases shown
    | ok result =>
      cases shown
      exact ⟨rfl, rfl⟩
  | _ => cases shown

theorem Settles.not_raw {failure : Failure} (settles : Settles ok outcome fate (.error failure)) :
    failure.isRaw = false := by
  generalize shown : (Except.error failure : Except Failure α) = answer at settles
  cases settles with
  | accepted =>
    cases outcome with
    | error own =>
      cases shown
      rfl
    | ok result => cases shown
  | _ =>
    cases shown
    rfl

end Settling

/-! ### From what came back to what is told -/

section Telling

variable {α : Type} (ok : Bool) (outcome : Except ServiceFailure α)

/-- A plain failure to report is told with the code and the text of Try, if Try failed. -/
theorem settles_lost {failure : Failure}
    (plain : ∀ tryFailure, endingFailure ok tryFailure failure = match tryFailure with
      | some own => .endFailed own.code s!"{own.message}; {failure.message}"
      | none => .endFailed Code.endFailed failure.message) :
    Settles ok outcome .lost (rootAnswer ok outcome (.error failure)) := by
  rw [rootAnswer, plain]
  cases outcome with
  | error own =>
    have text : s!"{own.message}; {failure.message}" = own.message ++ s!"; {failure.message}" :=
      String.append_assoc ..
    simp only [failureOf?, text]
    exact .tryFailed rfl
  | ok value => exact .endFailed rfl

theorem settles_spent :
    Settles ok outcome (Fate.of none) (rootAnswer ok outcome (.error (.deadlineExceeded .finish))) :=
  settles_lost ok outcome fun tryFailure => by cases tryFailure <;> rfl

theorem settles_rejected (code : Int) (text : String) :
    Settles ok outcome (.rejected code text) (rootAnswer ok outcome (.error (.rejected code text))) := by
  cases ok with
  | false => exact .cancelFailed rfl
  | true => exact .confirmFailed rfl

theorem settles_unanswered (detail : String) :
    Settles ok outcome .unanswered (rootAnswer ok outcome (.error (.endTimedOut detail))) := by
  cases ok with
  | false => exact .cancelTimeout rfl
  | true => exact .confirmTimeout rfl

theorem reportAnswer_eq (response : Rpc.Response) :
    reportAnswer response = match (Message.reply Message.ended).reader.ofBytes? response.body with
      | none => .error (.rpc (.undecodable "not the expected JSON"))
      | some reply => reply.accepted.map fun _ => () := by
  rw [reportAnswer, Rpc.Response.json]
  cases (Message.reply Message.ended).reader.ofBytes? response.body with
  | none => rfl
  | some reply => rfl

/-- **What a root answers is what it is to tell by the fate of its report.** -/
theorem settles_result (result : Except Rpc.Failure Rpc.Response) :
    Settles ok outcome (Fate.of (some result)) (rootAnswer ok outcome (reportResult result)) := by
  cases result with
  | error failure =>
    cases failure with
    | timeout detail => exact settles_unanswered ok outcome detail
    | network detail => exact settles_lost ok outcome fun tryFailure => by cases tryFailure <;> rfl
    | status number body => exact settles_lost ok outcome fun tryFailure => by cases tryFailure <;> rfl
    | undecodable detail => exact settles_lost ok outcome fun tryFailure => by cases tryFailure <;> rfl
  | ok response =>
    have answer : reportResult (.ok response) = reportAnswer response := rfl
    rw [answer, reportAnswer_eq, Fate.of]
    cases (Message.reply Message.ended).reader.ofBytes? response.body with
    | none => exact settles_lost ok outcome fun tryFailure => by cases tryFailure <;> rfl
    | some reply =>
      simp only [Reply.accepted]
      split
      · exact .accepted
      · exact settles_rejected ok outcome reply.errorCode reply.errorText

end Telling

/-! ### How a root settles -/

/-- What follows Try at a root: a report, or nothing if no time is left. -/
inductive Closes {α : Type} (ok : Bool) (budget : Nat) :
    Option (Except Rpc.Failure Rpc.Response) → List (Deed α) → Prop
  | spent (spent : budget = 0) : Closes ok budget none []
  | reported {request : Rpc.Request} {report : Report} {result : Except Rpc.Failure Rpc.Response}
      (unspent : budget ≠ 0) (asked : request.asked? = some (.report report)) (said : report.ok = ok) :
      Closes ok budget (some result) [.sent request result]

/-- How a root settles behind a Try that left a complete context. -/
structure Settled {α : Type} (config : Config) (left : Context) (elapsed : Nanoseconds)
    (outcome : Except ServiceFailure α) (closing : List (Deed α)) (answer : Except Failure α) (ok : Bool)
    (result : Option (Except Rpc.Failure Rpc.Response)) : Prop where
  ok_iff : ok = true ↔ Confirmable config left outcome
  closes : Closes ok (left.consume elapsed).span.budget result closing
  settles : Settles ok outcome (Fate.of result) answer
  /-- A report that failed is never answered with a value. -/
  of_ok : ∀ value, answer = .ok value → Fate.of result = .accepted ∧ outcome = .ok value
  not_raw : ∀ failure, answer = .error failure → failure.isRaw = false

section Roots

variable {α : Type} {config : Config} {coordinator : String} {left : Context} {elapsed : Nanoseconds}
  {outcome : Except ServiceFailure α} {closing : List (Deed α)} {answer : Except Failure α}

theorem Settled.of {ok : Bool} {result : Option (Except Rpc.Failure Rpc.Response)}
    (ok_iff : ok = true ↔ Confirmable config left outcome)
    (closes : Closes ok (left.consume elapsed).span.budget result closing)
    (settles : Settles ok outcome (Fate.of result) answer) :
    Settled config left elapsed outcome closing answer ok result where
  ok_iff
  closes
  settles
  of_ok := by
    rintro value rfl
    exact settles.of_ok
  not_raw := by
    rintro failure rfl
    exact settles.not_raw

/-- A root whose coordinator could be resolved once settles. -/
theorem Ending.settled {route : Route} (resolved : Route.resolve config coordinator = .ok route)
    (ending : Ending config .root coordinator outcome (left.consume elapsed) closing answer)
    (complete : left.IsComplete) : ∃ ok result, Settled config left elapsed outcome closing answer ok result := by
  have judged : isConfirmable config (left.consume elapsed) (returnedOk outcome) = true
      ↔ Confirmable config left outcome := by
    rw [isConfirmable_consume, isConfirmable_iff]
  cases ending with
  | incomplete missing =>
    exact absurd (Context.missing_eq_nil_iff.mpr (Context.isComplete_consume.mpr complete)) missing
  | silent _ none => exact absurd (.inl rfl) none
  | unsent _ _ barred _ told =>
    cases barred with
    | spent spent =>
      refine ⟨_, none, .of judged (.spent spent) ?_⟩
      rw [told rfl]
      exact settles_spent _ outcome
    | unresolved fault unresolved =>
      -- the address led to a route when the hop entered
      cases resolved.symm.trans unresolved
  | reported _ _ unspent reports _ told =>
    obtain ⟨_, _, -, -, asked⟩ := reports
    refine ⟨_, _, .of judged (.reported unspent asked rfl) ?_⟩
    rw [told rfl]
    exact settles_result _ outcome _

end Roots

/-- **Every root that was admitted runs Try and settles**, unless Try left an incomplete context. -/
theorem execute_settles {σ τ α : Type} (link : Link σ) (registry : Registry τ) (service : String)
    (arguments : Json.Datum) (body : Action σ (Except ServiceFailure α)) (context : Context) (world : σ)
    {request : Rpc.Request} {response : Rpc.Response} {message : Enrolment} {parameters : Bytes}
    {xid : String}
    (sent : .sent request (.ok response) ∈
      (link.recorded registry service arguments body context world).world.journal)
    (asked : request.asked? = some (.enrolment .beginning message parameters))
    (accepts : Entry.beginning.Accepts response xid) :
    ∃ entered left elapsed outcome closing,
      (link.recorded registry service arguments body context world).world.journal
        = .sent request (.ok response) :: .tried entered left elapsed outcome :: closing ∧
      (left.IsComplete → ∃ ok result, Settled (link.settings world) left elapsed outcome closing
        (link.execute registry service arguments body context world).answer ok result) := by
  obtain ⟨descriptor, written, -, -, course⟩ := link.course_of_mem body context world sent
  obtain ⟨active, enrols, -⟩ := course.enrols sent asked
  obtain ⟨entered, left, elapsed, outcome, closing, journal, ending⟩ := course.tries sent asked accepts
  obtain ⟨route, -, resolved, -, -⟩ := enrols
  rw [Role.entry?_eq_beginning_iff.mp active] at ending resolved
  rw [← link.recorded_answer]
  exact ⟨entered, left, elapsed, outcome, closing, journal, ending.settled resolved⟩

theorem orderVisit_settles : ∃ request response entered left elapsed outcome closing ok result,
    orderVisit.journal = .sent request (.ok response) :: .tried entered left elapsed outcome :: closing ∧
    Settled orderVisit.config left elapsed outcome closing
      (orderVisit.link.execute orderVisit.registry orderVisit.service orderVisit.arguments orderVisit.body
        orderVisit.start orderVisit.world).answer ok result := by
  have assigned : some (.beginning, "R") ∈ orderVisit.journal.map Deed.assigned? := by
    rw [orderVisit_assignments]
    exact List.mem_cons_self
  obtain ⟨deed, sent, found⟩ := List.mem_map.mp assigned
  obtain ⟨request, response, message, parameters, rfl, asked, accepts⟩ := Deed.assigned?_eq_some_iff.mp found
  rw [Visit.journal] at sent ⊢
  rw [Visit.config]
  obtain ⟨entered, left, elapsed, outcome, closing, journal, settled⟩ := execute_settles orderVisit.link
    orderVisit.registry orderVisit.service orderVisit.arguments orderVisit.body orderVisit.start
    orderVisit.world sent asked accepts
  have behind : left = orderInside := by
    have contexts := orderVisit_left
    rw [Visit.journal, journal] at contexts
    simp only [List.map_cons, Deed.left?, List.cons.injEq, Option.some.injEq] at contexts
    exact contexts.2.1
  obtain ⟨ok, result, settled⟩ := settled (by rw [behind, ← Context.missing_eq_nil_iff]; decide +kernel)
  exact ⟨request, response, entered, left, elapsed, outcome, closing, ok, result, journal, settled⟩

end TryConfirmCancel
