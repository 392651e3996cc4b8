/-
**A callback that is told to have failed was asked for.**

* `Failure.isCallback`: the failures that tell how a callback went;
* `Course.of_callback`: a run that ends so was admitted, ran Try and reported as a root, and the report was
  answered or ran out of time;
* `GivenUp`: a report of which nothing was delivered while its time ran out;
* `execute_reaches`: a run over a network ends so only if something of its report was delivered, or the report
  was given up and shows as a timeout.
-/

import TryConfirmCancel.Link.OverHttp
import TryConfirmCancel.Proofs.Rpc.Network
import TryConfirmCancel.Proofs.Transaction.Bounds
import TryConfirmCancel.Proofs.Transaction.Occasions
import TryConfirmCancel.Proofs.Transaction.Settlement

namespace TryConfirmCancel

/-! ### Failures that tell of a callback -/

/-- A failure that tells how a callback went: the coordinator refused the report, or did not answer in time. -/
def Failure.isCallback : Failure → Bool
  | confirmFailed _ _ | cancelFailed _ _ | confirmTimeout _ | cancelTimeout _ => true
  | _ => false

section Telling

variable {α : Type} {ok : Bool} {outcome : Except ServiceFailure α} {failure : Failure}

/-- Try does not tell of a callback. -/
theorem ne_answer_of_try (speaks : failure.isCallback = true) :
    (.error failure : Except Failure α) ≠ outcome.mapError .business := by
  intro same
  cases outcome with
  | ok value => cases same
  | error own =>
    cases same
    cases speaks

theorem Settles.of_callback {fate : Fate} (settles : Settles ok outcome fate (.error failure))
    (speaks : failure.isCallback = true) :
    (∃ code text, fate = .rejected code text) ∨ fate = .unanswered ∧ failure.isTimeout = true := by
  generalize shown : (Except.error failure : Except Failure α) = answer at settles
  cases settles with
  | accepted => exact absurd shown (ne_answer_of_try speaks)
  | confirmFailed _ => exact .inl ⟨_, _, rfl⟩
  | cancelFailed _ => exact .inl ⟨_, _, rfl⟩
  | confirmTimeout _ =>
    cases shown
    exact .inr ⟨rfl, rfl⟩
  | cancelTimeout _ =>
    cases shown
    exact .inr ⟨rfl, rfl⟩
  | tryFailed _ =>
    cases shown
    cases speaks
  | endFailed _ =>
    cases shown
    cases speaks

theorem Fate.of_eq_rejected {result : Except Rpc.Failure Rpc.Response} {code : Int} {text : String}
    (rejected : Fate.of (some result) = .rejected code text) : ∃ response, result = .ok response := by
  cases result with
  | ok response => exact ⟨response, rfl⟩
  | error failure => cases failure <;> cases rejected

theorem Fate.of_eq_unanswered {result : Except Rpc.Failure Rpc.Response}
    (unanswered : Fate.of (some result) = .unanswered) : ∃ detail, result = .error (.timeout detail) := by
  cases result with
  | ok response =>
    rw [Fate.of] at unanswered
    split at unanswered
    · cases unanswered
    · split at unanswered <;> cases unanswered
  | error failure =>
    cases failure with
    | timeout detail => exact ⟨detail, rfl⟩
    | _ => cases unanswered

/-- What comes back for a report before a root tells of a callback. -/
def TellsOf (result : Except Rpc.Failure Rpc.Response) (failure : Failure) : Prop :=
  (∃ response, result = .ok response) ∨ (∃ detail, result = .error (.timeout detail)) ∧ failure.isTimeout = true

theorem tellsOf_of_rootAnswer {result : Except Rpc.Failure Rpc.Response}
    (told : (.error failure : Except Failure α) = rootAnswer ok outcome (reportResult result))
    (speaks : failure.isCallback = true) : TellsOf result failure := by
  have settles := settles_result ok outcome result
  rw [← told] at settles
  rcases settles.of_callback speaks with ⟨code, text, rejected⟩ | ⟨unanswered, late⟩
  · exact .inl (Fate.of_eq_rejected rejected)
  · exact .inr ⟨Fate.of_eq_unanswered unanswered, late⟩

theorem enteringFailure_not_callback (entry : Entry) (failure : Failure) :
    (enteringFailure entry.failure failure).isCallback = false := by
  unfold enteringFailure
  split
  · cases failure with
    | structural detail => rfl
    | _ => contradiction
  · cases entry <;> rfl

end Telling

/-! ### How a run gets to tell of a callback -/

section Runs

variable {α : Type} {config : Config} {role : Role} {coordinator : String} {entrant : Entrant}
  {context : Context} {deeds : List (Deed α)} {failure : Failure}

theorem Ending.of_callback {outcome : Except ServiceFailure α}
    (ending : Ending config role coordinator outcome context deeds (.error failure))
    (speaks : failure.isCallback = true) :
    role = .root ∧ ∃ ok request result, deeds = [.sent request result] ∧
      Reports config coordinator context ok request ∧ TellsOf result failure := by
  have own : (.error failure : Except Failure α) ≠ outcome.mapError .business := ne_answer_of_try speaks
  generalize shown : (Except.error failure : Except Failure α) = answer at ending
  cases ending with
  | incomplete missing =>
    cases shown
    cases speaks
  | silent complete due => exact absurd shown own
  | unsent complete due barred fromBranch told =>
    rcases due with root | ⟨branch, -⟩
    · -- what keeps a report from being sent does not tell of a callback either
      have settled := shown.trans (told root)
      cases barred with
      | spent spent =>
        have settles := settles_spent (isConfirmable config context (returnedOk outcome)) outcome
        rw [← settled] at settles
        rcases settles.of_callback speaks with ⟨_, _, none⟩ | ⟨none, -⟩
        · cases none
        · cases none
      | unresolved fault unresolved =>
        cases settled
        cases speaks
    · exact absurd (shown.trans (fromBranch branch)) own
  | reported complete due unspent reports fromBranch told =>
    rcases due with root | ⟨branch, -⟩
    · exact ⟨root, _, _, _, rfl, reports, tellsOf_of_rootAnswer (shown.trans (told root)) speaks⟩
    · exact absurd (shown.trans (fromBranch branch)) own

/-- A run that tells of a callback was admitted, ran Try and reported as a root. -/
theorem Course.of_callback (course : Course config role coordinator entrant context deeds (.error failure))
    (speaks : failure.isCallback = true) :
    role = .root ∧ ∃ first response entered left elapsed outcome ok request result,
      deeds = [.sent first (.ok response), .tried entered left elapsed outcome, .sent request result] ∧
      Reports config coordinator (left.consume elapsed) ok request ∧ TellsOf result failure := by
  generalize shown : (Except.error failure : Except Failure α) = answer at course
  cases course with
  | shutOut active entering wrapped =>
    cases shown
    rw [wrapped, enteringFailure_not_callback] at speaks
    cases speaks
  | admitted active entering ending =>
    subst shown
    obtain ⟨root, ok, request, result, rfl, reports, tells⟩ := ending.of_callback speaks
    cases entering with
    | admitted _ _ => exact ⟨root, _, _, _, _, _, _, _, _, _, rfl, reports, tells⟩
  | handedOn passive ending =>
    subst shown
    obtain ⟨rfl, -⟩ := ending.of_callback speaks
    cases passive

end Runs

namespace Link

section Followed

variable {σ τ α : Type} (link : Link σ) {registry : Registry τ} {service : String} {arguments : Json.Datum}
  (body : Action σ (Except ServiceFailure α)) (context : Context) (world : σ) {failure : Failure}

/-- A run that tells of a callback takes a course. -/
theorem course_of_callback
    (failed : (link.recorded registry service arguments body context world).answer = .error failure)
    (speaks : failure.isCallback = true) : ∃ role coordinator entrant,
      Course (link.settings world) role coordinator entrant context
        (link.recorded registry service arguments body context world).world.journal
        (.error failure : Except Failure α) := by
  cases registered : registry.descriptor service with
  | error unknown =>
    rw [link.recorded_of_unregistered body context world registered] at failed
    unfold Registry.descriptor at registered
    split at registered
    · cases registered
    · cases registered
      cases failed
      cases speaks
  | ok descriptor =>
    cases written : Parameters.encode arguments with
    | error fault =>
      rw [link.recorded_of_unwritable body context world registered written] at failed
      cases failed
      cases fault <;> cases speaks
    | ok parameters =>
      have course := link.recorded_course body context world registered written
      simp only [failed] at course
      exact ⟨_, _, _, course⟩

/-- Before a run tells of a callback, it sent a request that was answered, and a report that came to what the run
tells of. -/
theorem occasions_of_callback
    (failed : (link.execute registry service arguments body context world).answer = .error failure)
    (speaks : failure.isCallback = true) : ∃ first response beginning request report before,
      (link.send first beginning).1 = .ok response ∧ IsBounded (link.settings world) first ∧
      .sending request before ∈ (link.followed body registry service arguments context world).world.occasions ∧
      request.asked? = some (.report report) ∧ IsBounded (link.settings world) request ∧
      TellsOf (link.send request before).1 failure := by
  rw [← link.recorded_answer] at failed
  obtain ⟨role, coordinator, entrant, course⟩ := link.course_of_callback body context world failed speaks
  obtain ⟨-, first, response, entered, left, elapsed, outcome, ok, request, result, journal, reports, tells⟩ :=
    course.of_callback speaks
  have opened : .sent first (.ok response) ∈
      (link.recorded registry service arguments body context world).world.journal := by
    rw [journal]
    exact List.mem_cons_self
  have reported : .sent request result ∈
      (link.recorded registry service arguments body context world).world.journal := by
    rw [journal]
    simp
  obtain ⟨beginning, -, answered⟩ := exists_occasion_of_sent opened
  obtain ⟨before, occasion, came⟩ := exists_occasion_of_sent reported
  obtain ⟨route, time, -, -, asked⟩ := reports
  rw [← came] at tells
  exact ⟨first, response, beginning, request, _, before, answered, isBounded_of_sent opened, occasion, asked,
    isBounded_of_sent reported, tells⟩

end Followed

end Link

/-! ### Over a network -/

section Networks

variable {σ : Type}

/-- A report was given up: nothing of it was delivered, it could still be repeated, and its time ran out. -/
structure GivenUp (network : Rpc.Network σ) (config : Config) (request : Rpc.Request) (before : Station σ) :
    Prop where
  unheard : ∀ posted ∈ network.posts before.clientSettings request before.world, posted.2.isDelivered = false
  repeatable : 0 < config.rpcMaxRetries
  fewer : (network.posts before.clientSettings request before.world).length ≤ config.rpcMaxRetries
  elapsed : network.now ((Link.overHttp network.transport).send request before).2.world
    = network.now before.world + request.timeout

/-- What is sent over HTTP is one call of the client. -/
theorem send_overHttp (network : Rpc.Network σ) (request : Rpc.Request) (before : Station σ) :
    ((Link.overHttp network.transport).send request before).1
      = ((network.client before.clientSettings).call request before.world).1 ∧
    ((Link.overHttp network.transport).send request before).2.world
      = ((network.client before.clientSettings).call request before.world).2 := by
  have sent : (Link.overHttp network.transport).send request before = Station.send network.transport request before :=
    rfl
  rw [sent, Station.send, Rpc.Network.client]
  exact ⟨rfl, rfl⟩

/-- What comes back for a bounded request tells of a callback only if something of it was delivered, or if it was
given up. -/
theorem delivered_or_givenUp {network : Rpc.Network σ} {config : Config} {request : Rpc.Request}
    {before : Station σ} {failure : Failure} (bounded : IsBounded config request)
    (limited : config.requestTimeoutMs ≠ 0)
    (tells : TellsOf ((Link.overHttp network.transport).send request before).1 failure) :
    (∃ posted ∈ network.posts before.clientSettings request before.world, posted.2.isDelivered = true) ∨
      failure.isTimeout = true ∧ GivenUp network config request before := by
  obtain ⟨came, after⟩ := send_overHttp network request before
  rw [came] at tells
  rcases network.call_reaches before.clientSettings request before.world with delivered | silent
  · exact .inl delivered
  · rcases tells with ⟨response, succeeded⟩ | ⟨⟨detail, late⟩, shown⟩
    · exact absurd succeeded (silent.not_ok response)
    · have limited' : request.timeout ≠ 0 := fun none => limited (bounded.timeout_eq_zero_iff.mp none)
      obtain ⟨repeatable, fewer, elapsed⟩ := silent.elapsed limited' late
      rw [bounded.retries_eq] at repeatable fewer
      rw [← after] at elapsed
      exact .inr ⟨shown, silent.unheard, repeatable, fewer, elapsed⟩

end Networks

/-- **A run over a network tells of a callback only if something of its report was delivered, or if the report was
given up and shows as a timeout.** -/
theorem execute_reaches {σ τ α : Type} (network : Rpc.Network σ) (registry : Registry τ) (service : String)
    (arguments : Json.Datum) (body : Action (Station σ) (Except ServiceFailure α)) (context : Context)
    (station : Station σ) {failure : Failure}
    (failed : ((Link.overHttp network.transport).execute registry service arguments body context station).answer
      = .error failure)
    (speaks : failure.isCallback = true) :
    let run := (Link.overHttp network.transport).followed body registry service arguments context station
    run.projected Followed.world
      = (Link.overHttp network.transport).execute registry service arguments body context station ∧
    ∃ request report before, .sending request before ∈ run.world.occasions ∧
      request.asked? = some (.report report) ∧
      ((∃ posted ∈ network.posts before.clientSettings request before.world, posted.2.isDelivered = true) ∨
        failure.isTimeout = true ∧ GivenUp network station.live.current request before) := by
  intro run
  refine ⟨(Link.overHttp network.transport).erased_followed body registry service arguments context station, ?_⟩
  obtain ⟨first, response, beginning, request, report, before, answered, opened, occasion, asked, bounded, tells⟩ :=
    (Link.overHttp network.transport).occasions_of_callback body context station failed speaks
  -- the request to enter was answered, so the settings leave time for a request
  have limited : station.live.current.requestTimeoutMs ≠ 0 := by
    rw [(send_overHttp network first beginning).1] at answered
    exact fun none => network.timeout_ne_zero_of_ok _ _ answered (opened.timeout_eq_zero_iff.mpr none)
  exact ⟨request, report, before, occasion, asked, delivered_or_givenUp bounded limited tells⟩

/-! ### A line that is cut -/

/-- The coordinator begins a transaction. -/
def begunAnswer : Rpc.Answer := ⟨200, .empty, (Message.reply Message.begun).bytes ⟨Code.ok, "", some ⟨"R", 0⟩⟩⟩

/-- The failure that a step answers with. -/
def Step.failure? {σ α : Type} (step : Step σ (Except Failure α)) : Option Failure :=
  match step.answer with
  | .ok _ => none
  | .error failure => some failure

theorem Step.answer_of_failure? {σ α : Type} {step : Step σ (Except Failure α)} {failure : Failure}
    (failed : step.failure? = some failure) : step.answer = .error failure := by
  unfold Step.failure? at failed
  split at failed
  · cases failed
  · cases failed
    assumption

def placeAtOnce : Action (Station Line) (Except ServiceFailure Nat) := fun context world => ⟨.ok 1, context, world⟩

/-- A coordinator that begins a transaction and takes the report without a word. -/
def silentLine : Station Line := .start ⟨shopSettings⟩ ⟨0, [some begunAnswer, none]⟩

/-- An order of which nobody hears in time is reported all the same. -/
theorem silentLine_reaches : ∃ request report before,
    .sending request before ∈ ((Link.overHttp Line.network.transport).followed placeAtOnce shop "orders"
      orderArguments orderContext silentLine).world.occasions ∧
    request.asked? = some (.report report) ∧
    ∃ posted ∈ Line.network.posts before.clientSettings request before.world, posted.2.isDelivered = true := by
  have failed : ((Link.overHttp Line.network.transport).execute shop "orders" orderArguments placeAtOnce
      orderContext silentLine).failure?
        = some (.confirmTimeout "Transaction end timed out: no answer in time") := by decide +kernel
  obtain ⟨-, request, report, before, occasion, asked, reached⟩ :=
    execute_reaches Line.network shop "orders" orderArguments placeAtOnce orderContext silentLine
      (Step.answer_of_failure? failed) rfl
  refine ⟨request, report, before, occasion, asked, ?_⟩
  rcases reached with delivered | ⟨-, givenUp⟩
  · exact delivered
  · exact absurd givenUp.repeatable (by decide)

/-- What is asked on an occasion, and which posts of it are delivered. -/
def Occasion.heard? {σ : Type} (network : Rpc.Network σ) : Occasion (Station σ) → Option (Operation × List Bool)
  | .sending request before => request.asked?.map fun asked => (asked.operation,
      (network.posts before.clientSettings request before.world).map fun posted => posted.2.isDelivered)
  | .trying _ _ => none

/-- A line that is cut behind the beginning, and settings that leave no time for a second report. -/
def cutLine : Station Line :=
  .start ⟨{ shopSettings with requestTimeoutMs := 50, rpcMaxRetries := 1 }⟩ ⟨0, [some begunAnswer]⟩

/-- A report that was delivered to nobody shows as a callback that timed out. -/
theorem cutLine_unheard :
    let run := (Link.overHttp Line.network.transport).followed placeAtOnce shop "orders" orderArguments
      orderContext cutLine
    run.failure? = some (.confirmTimeout
      "Transaction end timed out: call timeout of 50ms spent after 1 attempt(s)") ∧
    run.world.occasions.map (Occasion.heard? Line.network)
      = [some (.begin, [true]), none, some (.finish, [false])] := by
  decide +kernel

end TryConfirmCancel
