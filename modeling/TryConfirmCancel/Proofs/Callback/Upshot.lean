/-
**What comes of a callback.**

* `Arrival.Reads`, `Arrival.Defect`: how a callback is read, and what can be wrong with it; one of the two
  holds (`Arrival.read_cases`);
* `Sees`: what a method is shown of a callback;
* `Upshot`, `Comes`: the four things that can come of a callback, with the answer, the occurrences and the
  world behind each;
* `dispatch_comes`: exactly one of them comes;
* `dispatch_zero`: which methods ran and how they ended where the coordinator reads the code of success.
-/

import Mathlib.Logic.ExistsUnique
import TryConfirmCancel.Proofs.Callback.Occurrences
import TryConfirmCancel.Proofs.Service.Entries
import TryConfirmCancel.Proofs.Wire.Opening

namespace TryConfirmCancel

/-! ### How a callback is read -/

namespace Arrival

section Reading

variable (freshTrace freshSpan : String) (config : Config) (headers : Headers) (body : Bytes)

/-- A callback was read: its body is a callback with a list of arguments, its headers make a context, and so
does the snapshot of the headers of Try. -/
structure Reads (message : Callback) (received : Context) (snapshot : Dict String) (arrival : Arrival) :
    Prop where
  decoded : ∃ tail, Envelope.decode (Message.addressed Message.callback).reader body
      = .ok (⟨Message.callbackService, message⟩, tail) ∧ Parameters.ofBytes tail = .ok arrival.parameters
  extracted : Context.extract freshTrace freshSpan headers config.defaultBudget = .ok received
  unpacked : Snapshot.decode message.headers = .ok snapshot
  serviceName : arrival.serviceName = message.serviceName
  context : arrival.context = contextOf message snapshot received
  caller : arrival.caller = callerOf config message headers arrival.context

/-- What can be wrong with a callback before a service is looked up. -/
inductive Defect : Prop
  | body {fault : EnvelopeFault}
      (undecodable : Envelope.decode (Message.addressed Message.callback).reader body = .error fault)
  | service {message : Addressed Callback} {tail : Bytes}
      (decoded : Envelope.decode (Message.addressed Message.callback).reader body = .ok (message, tail))
      (other : message.service ≠ Message.callbackService)
  | budget {fault : HeaderFault}
      (refused : Context.extract freshTrace freshSpan headers config.defaultBudget = .error fault)
  | snapshot {message : Addressed Callback} {tail : Bytes} {fault : HeaderFault}
      (decoded : Envelope.decode (Message.addressed Message.callback).reader body = .ok (message, tail))
      (undecodable : Snapshot.decode message.request.headers = .error fault)
  | parameters {message : Addressed Callback} {tail : Bytes} {fault : ParametersFault}
      (decoded : Envelope.decode (Message.addressed Message.callback).reader body = .ok (message, tail))
      (undecodable : Parameters.ofBytes tail = .error fault)

/-- **A callback is read, or something is wrong with it and it is told that it cannot be decoded.** -/
theorem read_cases :
    (∃ message received snapshot arrival, read freshTrace freshSpan config headers body = .ok arrival ∧
      Reads freshTrace freshSpan config headers body message received snapshot arrival) ∨
    (∃ text, read freshTrace freshSpan config headers body = .error (.undecodable text) ∧
      Defect freshTrace freshSpan config headers body) := by
  unfold read
  -- one case for each thing that is read, in the order in which it is
  cases decoded : Envelope.decode (Message.addressed Message.callback).reader body with
  | error fault =>
    obtain ⟨text, told⟩ := Envelope.undecodable_of_decode decoded
    exact .inr ⟨text, by rw [mapError_error, told]; rfl, .body decoded⟩
  | ok found =>
    obtain ⟨message, tail⟩ := found
    simp only [mapError_ok, bind, Except.bind]
    by_cases same : message.service = Message.callbackService
    · rw [if_neg (not_not_intro same)]
      simp only [pure, Except.pure]
      cases extracted : Context.extract freshTrace freshSpan headers config.defaultBudget with
      | error fault => exact .inr ⟨_, rfl, .budget extracted⟩
      | ok received =>
        simp only [mapError_ok]
        cases unpacked : Snapshot.decode message.request.headers with
        | error fault => exact .inr ⟨_, rfl, .snapshot decoded unpacked⟩
        | ok snapshot =>
          simp only [mapError_ok]
          cases listed : Parameters.ofBytes tail with
          | error fault =>
            obtain ⟨text, told⟩ := Parameters.undecodable_of_ofBytes listed
            exact .inr ⟨text, by rw [mapError_error, told], .parameters decoded listed⟩
          | ok parameters =>
            refine .inl ⟨message.request, received, snapshot, _, rfl, ⟨tail, ?_, listed⟩, extracted, unpacked,
              rfl, rfl, rfl⟩
            rw [decoded, ← same]
    · rw [if_pos same]
      exact .inr ⟨_, rfl, .service decoded same⟩

end Reading

end Arrival

/-- What a method is shown of a callback: the transaction of its body, the coordinator and the wish to cancel
of its headers, and its readable headers under those of Try. -/
structure Sees (message : Callback) (headers : Headers) (snapshot : Dict String) (context : Context) : Prop where
  rootXid : context.transaction.rootXid = message.rootXid
  parentXid : context.transaction.parentXid = message.parentXid
  branchXid : context.transaction.branchXid = message.branchXid
  agentAddress : context.transaction.agentAddress
    = (Context.headerText? headers HeaderName.agentAddress).getD ""
  forceCancel : context.transaction.forceCancel
    = Text.sameLetters ((Context.headerText? headers HeaderName.forceCancel).getD "") "true"
  requestHeaders : ∀ name, context.requestHeaders.get? name = (snapshot.get? name).or (headers.toDict.get? name)

theorem Arrival.Reads.sees {freshTrace freshSpan : String} {config : Config} {headers : Headers} {body : Bytes}
    {message : Callback} {received : Context} {snapshot : Dict String} {arrival : Arrival}
    (reads : Reads freshTrace freshSpan config headers body message received snapshot arrival) :
    Sees message headers snapshot arrival.context := by
  obtain ⟨budget, -, same⟩ := bind_eq_ok_iff.mp reads.extracted
  cases same
  rw [reads.context]
  exact ⟨rfl, rfl, rfl, rfl, rfl, fun name => Dict.get?_overlay _ _ name⟩

/-! ### What can come of a callback -/

/-- What can come of a callback. -/
inductive Upshot
  /-- The method ran and returned. -/
  | done
  /-- The method ran and failed. -/
  | failed
  /-- There is no method to run. -/
  | unhandled
  | undecodable
  deriving DecidableEq, Repr

def Upshot.status : Upshot → Nat
  | done => 200
  | failed => 500
  | unhandled => 404
  | undecodable => 400

section Coming

variable {σ : Type}

/-- A stage of a registered service that understands the arguments of a callback. -/
structure Understands (registry : Registry σ) (stage : Stage) (arrival : Arrival)
    (registration : Registration σ) (arguments : registration.service.Arguments) : Prop where
  registered : registry.find? arrival.serviceName = some registration
  offered : registration.descriptor.flags.has stage = true
  understood : arrival.parameters.decode registration.service.arguments = .ok arguments

/-- How something comes of a callback: the answer, the occurrences, and the world behind them. So many
instances have been made before. -/
inductive Comes (registry : Registry σ) (freshTrace freshSpan : String) (config : Config) (stage : Stage)
    (headers : Headers) (body : Bytes) (count : Nat) (world : σ) :
    Upshot → Nat × CallbackReply → List Occurrence → σ → Prop
  | done {message : Callback} {received : Context} {snapshot : Dict String} {arrival : Arrival}
      {registration : Registration σ} {arguments : registration.service.Arguments}
      (reads : arrival.Reads freshTrace freshSpan config headers body message received snapshot)
      (sees : Sees message headers snapshot arrival.context)
      (understands : Understands registry stage arrival registration arguments)
      (returned : (registration.service.runOnce stage arrival.caller arguments arrival.context world).answer
        = .ok ()) :
      Comes registry freshTrace freshSpan config stage headers body count world .done (200, .ok)
        [.made message.serviceName count, .bound count arrival.caller, .ran count stage arrival.context (.ok ())]
        (registration.service.runOnce stage arrival.caller arguments arrival.context world).world
  | failed {message : Callback} {received : Context} {snapshot : Dict String} {arrival : Arrival}
      {registration : Registration σ} {arguments : registration.service.Arguments} {own : ServiceFailure}
      (reads : arrival.Reads freshTrace freshSpan config headers body message received snapshot)
      (sees : Sees message headers snapshot arrival.context)
      (understands : Understands registry stage arrival registration arguments)
      (failed : (registration.service.runOnce stage arrival.caller arguments arrival.context world).answer
        = .error own) :
      Comes registry freshTrace freshSpan config stage headers body count world .failed (500, ⟨own.code, own.text⟩)
        [.made message.serviceName count, .bound count arrival.caller,
          .ran count stage arrival.context (.error own)]
        (registration.service.runOnce stage arrival.caller arguments arrival.context world).world
  /-- Everything could be decoded, but there is nothing to run, and nothing is made. -/
  | unhandled {message : Callback} {received : Context} {snapshot : Dict String} {arrival : Arrival} {text : String}
      (reads : arrival.Reads freshTrace freshSpan config headers body message received snapshot)
      (unhandled : registry.handler? message.serviceName (.second stage) = none) :
      Comes registry freshTrace freshSpan config stage headers body count world .unhandled
        (404, ⟨Code.notRegistered, text⟩) [] world
  | unread {text : String} (defect : Arrival.Defect freshTrace freshSpan config headers body) :
      Comes registry freshTrace freshSpan config stage headers body count world .undecodable
        (400, ⟨Code.decode, text⟩) [] world
  /-- The arguments are not those that the service expects; an instance is made and bound, and nothing runs. -/
  | misread {message : Callback} {received : Context} {snapshot : Dict String} {arrival : Arrival}
      {registration : Registration σ} {fault : ParametersFault} {text : String}
      (reads : arrival.Reads freshTrace freshSpan config headers body message received snapshot)
      (registered : registry.find? arrival.serviceName = some registration)
      (offered : registration.descriptor.flags.has stage = true)
      (misread : arrival.parameters.decode registration.service.arguments = .error fault) :
      Comes registry freshTrace freshSpan config stage headers body count world .undecodable
        (400, ⟨Code.decode, text⟩) [.made message.serviceName count, .bound count arrival.caller]
        (registration.service.prepare arrival.caller world)

variable {registry : Registry σ} {freshTrace freshSpan : String} {config : Config} {stage : Stage}
  {headers : Headers} {body : Bytes} {count : Nat} {world after : σ} {upshot : Upshot}
  {answer : Nat × CallbackReply} {occurrences : List Occurrence}

theorem Comes.status (comes : Comes registry freshTrace freshSpan config stage headers body count world upshot
    answer occurrences after) : answer.1 = upshot.status := by
  cases comes <;> rfl

/-- Two things cannot come with one answer. -/
theorem Comes.unique {other : Upshot} {occurrences' : List Occurrence} {after' : σ}
    (comes : Comes registry freshTrace freshSpan config stage headers body count world upshot answer occurrences
      after)
    (comes' : Comes registry freshTrace freshSpan config stage headers body count world other answer occurrences'
      after') : upshot = other := by
  have same : upshot.status = other.status := comes.status.symm.trans comes'.status
  cases upshot <;> cases other <;> first | rfl | cases same

end Coming

/-! ### Every callback comes to one of them -/

section Dispatched

variable {σ : Type} (registry : Registry σ) (freshTrace freshSpan : String) (config : Config) (stage : Stage)
  (headers : Headers) (body : Bytes) (state : Observed σ)

theorem dispatch_of_unread {failure : Failure}
    (unread : Arrival.read freshTrace freshSpan config headers body = .error failure) :
    dispatch registry.observed freshTrace freshSpan config stage headers body state
      = (answerOf (.error failure), state) := by
  unfold dispatch
  rw [unread]

theorem dispatch_of_read {arrival : Arrival}
    (read : Arrival.read freshTrace freshSpan config headers body = .ok arrival) :
    dispatch registry.observed freshTrace freshSpan config stage headers body state
      = let step := registry.observed.invoke arrival.serviceName (.second stage) arrival.caller
          arrival.parameters arrival.context state
        (answerOf step.answer, step.world) := by
  unfold dispatch
  rw [read]

/-- Something comes of every callback. -/
theorem exists_comes :
    let run := dispatch registry.observed freshTrace freshSpan config stage headers body state
    ∃ occurrences upshot, run.2.record = state.record ++ occurrences ∧
      Comes registry freshTrace freshSpan config stage headers body state.count state.world upshot run.1
        occurrences run.2.world := by
  intro run
  show ∃ occurrences upshot,
    (dispatch registry.observed freshTrace freshSpan config stage headers body state).2.record
      = state.record ++ occurrences ∧ Comes registry freshTrace freshSpan config stage headers body state.count
        state.world upshot (dispatch registry.observed freshTrace freshSpan config stage headers body state).1
        occurrences (dispatch registry.observed freshTrace freshSpan config stage headers body state).2.world
  rcases Arrival.read_cases freshTrace freshSpan config headers body with
    ⟨message, received, snapshot, arrival, read, reads⟩ | ⟨text, unread, defect⟩
  · rw [dispatch_of_read registry freshTrace freshSpan config stage headers body state read]
    rcases registry.handler?_cases arrival.serviceName stage with unhandled | ⟨registration, registered, offered⟩
    · rw [Registry.invoke_of_unhandled (registry.unhandled_observed unhandled)]
      rw [reads.serviceName] at unhandled
      exact ⟨[], .unhandled, (List.append_nil _).symm, .unhandled reads unhandled⟩
    · have registered' := registry.registered_observed registered
      -- an instance is made and bound before its arguments are read
      cases understood : arrival.parameters.decode registration.service.arguments with
      | error fault =>
        obtain ⟨text, told⟩ := Parameters.undecodable_of_decode understood
        have prepared : (registration.observed arrival.serviceName).service.prepare arrival.caller state = _ :=
          registration.service.prepare_observed arrival.serviceName arrival.caller state
        rw [Registry.invoke_of_misread registered' offered understood, prepared, told, reads.serviceName]
        exact ⟨_, _, rfl, .misread reads registered offered understood⟩
      | ok arguments =>
        have understands : Understands registry stage arrival registration arguments :=
          ⟨registered, offered, understood⟩
        have ran : (registration.observed arrival.serviceName).service.runOnce stage arrival.caller arguments
            arrival.context state = _ :=
          registration.service.runOnce_observed arrival.serviceName stage arrival.caller arguments
            arrival.context state
        rw [Registry.invoke_registered registered' offered understood, ran, reads.serviceName]
        cases ended : (registration.service.runOnce stage arrival.caller arguments arrival.context
            state.world).answer with
        | ok _ =>
          refine ⟨Compensable.prepared message.serviceName state.count arrival.caller
            ++ [.ran state.count stage arrival.context (.ok ())], .done, ?_⟩
          simp only [Step.map, ended]
          exact ⟨trivial, .done reads reads.sees understands ended⟩
        | error own =>
          refine ⟨Compensable.prepared message.serviceName state.count arrival.caller
            ++ [.ran state.count stage arrival.context (.error own)], .failed, ?_⟩
          simp only [Step.map, ended]
          exact ⟨trivial, .failed reads reads.sees understands ended⟩
  · rw [dispatch_of_unread registry freshTrace freshSpan config stage headers body state unread]
    exact ⟨[], _, (List.append_nil _).symm, .unread defect⟩

/-- **Exactly one of four things comes of every callback**, and the record that tells what happened to
instances changes nothing in the answer or in the world. -/
theorem dispatch_comes :
    let run := dispatch registry.observed freshTrace freshSpan config stage headers body state
    (run.1, run.2.world) = dispatch registry freshTrace freshSpan config stage headers body state.world ∧
    ∃ occurrences, run.2.record = state.record ++ occurrences ∧
      ∃! upshot, Comes registry freshTrace freshSpan config stage headers body state.count state.world upshot
        run.1 occurrences run.2.world := by
  intro run
  obtain ⟨occurrences, upshot, recorded, comes⟩ :=
    exists_comes registry freshTrace freshSpan config stage headers body state
  refine ⟨dispatch_observed registry freshTrace freshSpan config stage headers body state, occurrences, recorded,
    upshot, comes, ?_⟩
  intro other comes'
  exact comes'.unique comes

end Dispatched

/-! ### Where the coordinator reads the code of success -/

/-- A method of a stage ran, and ended so. -/
def RanTo (stage : Stage) (outcome : Except ServiceFailure Unit) (occurrences : List Occurrence) : Prop :=
  ∃ number context, .ran number stage context outcome ∈ occurrences

section Success

variable {σ : Type} {registry : Registry σ} {freshTrace freshSpan : String} {config : Config} {stage : Stage}
  {headers : Headers} {body : Bytes} {count : Nat} {world after : σ} {upshot : Upshot}
  {answer : Nat × CallbackReply} {occurrences : List Occurrence}

/-- Behind one instance that ran a method, there is one end. -/
theorem ranTo_iff {name : String} {number : Nat} {caller : Caller} {context : Context}
    {outcome outcome' : Except ServiceFailure Unit} :
    RanTo stage outcome' [.made name number, .bound number caller, .ran number stage context outcome]
      ↔ outcome = outcome' := by
  constructor
  · rintro ⟨_, _, inside⟩
    simp only [List.mem_cons, reduceCtorEq, Occurrence.ran.injEq, List.not_mem_nil, or_false, false_or] at inside
    exact inside.2.2.2.symm
  · rintro rfl
    exact ⟨number, context, by simp⟩

/-- Nothing runs that is neither done nor failed. -/
theorem Comes.not_ranTo (comes : Comes registry freshTrace freshSpan config stage headers body count world upshot
    answer occurrences after) (idle : upshot ≠ .done ∧ upshot ≠ .failed)
    {outcome : Except ServiceFailure Unit} : ¬ RanTo stage outcome occurrences := by
  rintro ⟨_, _, inside⟩
  cases comes with
  | done => exact idle.1 rfl
  | failed => exact idle.2 rfl
  | unhandled => cases inside
  | unread => cases inside
  | misread => simp at inside

theorem Comes.status_eq_ok_iff (comes : Comes registry freshTrace freshSpan config stage headers body count world
    upshot answer occurrences after) : answer.1 = 200 ↔ RanTo stage (.ok ()) occurrences := by
  rw [comes.status]
  cases upshot with
  | done =>
    cases comes
    exact iff_of_true rfl (ranTo_iff.mpr rfl)
  | failed =>
    cases comes
    exact iff_of_false (by decide) fun ran => by cases ranTo_iff.mp ran
  | unhandled => exact iff_of_false (by decide) (comes.not_ranTo (by decide))
  | undecodable => exact iff_of_false (by decide) (comes.not_ranTo (by decide))

theorem Comes.code_eq_ok_iff (comes : Comes registry freshTrace freshSpan config stage headers body count world
    upshot answer occurrences after) : answer.2.errorCode = Code.ok ↔
      RanTo stage (.ok ()) occurrences ∨ ∃ text, RanTo stage (.error ⟨Code.ok, text⟩) occurrences := by
  have idle : upshot ≠ .done ∧ upshot ≠ .failed → ¬ (RanTo stage (.ok ()) occurrences ∨
      ∃ text, RanTo stage (.error ⟨Code.ok, text⟩) occurrences) := by
    rintro neither (ran | ⟨text, ran⟩)
    · exact comes.not_ranTo neither ran
    · exact comes.not_ranTo neither ran
  cases comes with
  | done => exact iff_of_true rfl (.inl (ranTo_iff.mpr rfl))
  | @failed _ _ _ _ _ _ own _ _ _ _ =>
    obtain ⟨code, text⟩ := own
    constructor
    · rintro (same : code = Code.ok)
      exact .inr ⟨text, ranTo_iff.mpr (by rw [same])⟩
    · rintro (ran | ⟨text, ran⟩)
      · cases ranTo_iff.mp ran
      · cases ranTo_iff.mp ran
        rfl
  | unhandled => exact iff_of_false (show Code.notRegistered ≠ Code.ok by decide) (idle (by decide))
  | unread => exact iff_of_false (show Code.decode ≠ Code.ok by decide) (idle (by decide))
  | misread => exact iff_of_false (show Code.decode ≠ Code.ok by decide) (idle (by decide))

end Success

/-- **The status of success stands for a method that ran and returned. The code of success stands for that, or
for a method that failed with this very code.** -/
theorem dispatch_zero {σ : Type} (registry : Registry σ) (freshTrace freshSpan : String) (config : Config)
    (stage : Stage) (headers : Headers) (body : Bytes) (state : Observed σ) :
    let run := dispatch registry.observed freshTrace freshSpan config stage headers body state
    (run.1, run.2.world) = dispatch registry freshTrace freshSpan config stage headers body state.world ∧
    ∃ occurrences, run.2.record = state.record ++ occurrences ∧
      (run.1.1 = 200 ↔ RanTo stage (.ok ()) occurrences) ∧
      (run.1.2.errorCode = Code.ok ↔
        RanTo stage (.ok ()) occurrences ∨ ∃ text, RanTo stage (.error ⟨Code.ok, text⟩) occurrences) := by
  intro run
  obtain ⟨occurrences, upshot, recorded, comes⟩ :=
    exists_comes registry freshTrace freshSpan config stage headers body state
  exact ⟨dispatch_observed registry freshTrace freshSpan config stage headers body state, occurrences, recorded,
    comes.status_eq_ok_iff, comes.code_eq_ok_iff⟩

/-- A till that declines every payment, and gives the code of success for it. -/
def till : Compensable Unit :=
  { Instance := Unit
    Arguments := List String
    arguments := .list .string
    build := fun world => ((), world)
    bind := fun _ _ world => ((), world)
    confirm := fun _ _ context world => ⟨.error ⟨Code.ok, "declined"⟩, context, world⟩
    cancel := fun _ _ context world => ⟨.ok (), context, world⟩ }

def counter : Registry Unit := Registry.empty.add ⟨(Descriptor.of "till" "pay").withConfirm "book", till⟩ rfl

def paymentBody : Bytes :=
  ((⟨"R", "R", "B", "till", ""⟩ : Callback).body (Parameters.toBytes ⟨[]⟩)).toOption.getD []

/-- A payment that was declined is answered with the code of success. -/
theorem till_mistaken :
    let run := dispatch counter.observed "T" "S" {} .confirm .empty paymentBody ⟨(), 0, []⟩
    run.1 = (500, ⟨Code.ok, "Service error 0: declined"⟩) ∧ ¬ RanTo .confirm (.ok ()) run.2.record := by
  have answered : (dispatch counter.observed "T" "S" {} .confirm .empty paymentBody ⟨(), 0, []⟩).1
      = (500, ⟨Code.ok, "Service error 0: declined"⟩) := by decide +kernel
  obtain ⟨occurrences, upshot, recorded, comes⟩ :=
    exists_comes counter "T" "S" {} .confirm .empty paymentBody ⟨(), 0, []⟩
  -- what the run is made of plays no part any more
  generalize dispatch counter.observed "T" "S" {} .confirm .empty paymentBody ⟨(), 0, []⟩ = run
    at answered recorded comes ⊢
  refine ⟨answered, fun ran => ?_⟩
  rw [recorded, List.nil_append] at ran
  have succeeded : run.1.1 = 200 := comes.status_eq_ok_iff.mpr ran
  rw [answered] at succeeded
  cases succeeded

end TryConfirmCancel
