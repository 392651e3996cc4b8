/-
**A callback with a record of its instances.**

Services work in any world, so they also work in a world that keeps a record beside it: which instances
were made, what they were told, and which stages they ran. Instances are told apart by numbers.

* `Compensable.observed`, `Registry.observed`: services that write down what happens to their instances;
* `runOnce_observed`: what one run of a stage writes down;
* `dispatch_observed`: without its record, a callback is the callback itself.
-/

import TryConfirmCancel.Proofs.Callback.Replay

namespace TryConfirmCancel

/-- Something that happens to an instance of a service. -/
inductive Occurrence
  | made (service : String) (number : Nat)
  | bound (number : Nat) (caller : Caller)
  /-- A stage ran on a context, and ended. -/
  | ran (number : Nat) (stage : Stage) (context : Context) (outcome : Except ServiceFailure Unit)

/-- A world with a record of the occurrences so far. -/
structure Observed (σ : Type) where
  world : σ
  /-- How many instances have been made. -/
  count : Nat
  record : List Occurrence

variable {σ : Type}

def Observed.note (state : Observed σ) (world : σ) (occurrence : Occurrence) : Observed σ :=
  { state with world, record := state.record ++ [occurrence] }

namespace Compensable

/-- A method that is written down once it has ended. -/
def observedMethod (service : Compensable σ) (stage : Stage) :
    Method (Observed σ) (Nat × service.Instance) service.Arguments := fun one arguments context state =>
  let step := service.method stage one.2 arguments context state.world
  ⟨step.answer, step.context, state.note step.world (.ran one.1 stage context step.answer)⟩

/-- A service of which everything is written down; an instance carries its number. -/
def observed (service : Compensable σ) (name : String) : Compensable (Observed σ) :=
  { Instance := Nat × service.Instance
    Arguments := service.Arguments
    arguments := service.arguments
    build := fun state =>
      let (built, world) := service.build state.world
      ((state.count, built), { state.note world (.made name state.count) with count := state.count + 1 })
    bind := fun caller one state =>
      let (bound, world) := service.bind caller one.2 state.world
      ((one.1, bound), state.note world (.bound one.1 caller))
    confirm := service.observedMethod .confirm
    cancel := service.observedMethod .cancel }

theorem observed_method (service : Compensable σ) (name : String) (stage : Stage) :
    (service.observed name).method stage = service.observedMethod stage := by
  cases stage <;> rfl

/-- What is written down when one instance is made and bound. -/
def prepared (name : String) (number : Nat) (caller : Caller) : List Occurrence :=
  [.made name number, .bound number caller]

/-- **One run of a stage is written down as one instance made, bound and run.** -/
theorem runOnce_observed (service : Compensable σ) (name : String) (stage : Stage) (caller : Caller)
    (arguments : service.Arguments) (context : Context) (state : Observed σ) :
    (service.observed name).runOnce stage caller arguments context state
      = let step := service.runOnce stage caller arguments context state.world
        ⟨step.answer, step.context, ⟨step.world, state.count + 1,
          state.record ++ (prepared name state.count caller ++ [.ran state.count stage context step.answer])⟩⟩ := by
  unfold runOnce
  rw [observed_method]
  simp only [observed, observedMethod, Observed.note, prepared, List.append_assoc, List.cons_append,
    List.nil_append]

end Compensable

/-! ### A registry of observed services -/

def Registration.observed (registration : Registration σ) (name : String) : Registration (Observed σ) :=
  ⟨registration.descriptor, registration.service.observed name⟩

/-- A registry whose services write down what happens to their instances. -/
def Registry.observed (registry : Registry σ) : Registry (Observed σ) :=
  { registrations := registry.registrations.filterMap fun name registration => some (registration.observed name)
    handlers := fun stage => registry.registrations.filterMap fun name registration =>
      (registration.observed name).handler? stage
    inStep := fun stage name => by
      rw [Dict.get?_filterMap, Dict.get?_filterMap, Option.bind_assoc]
      rfl }

theorem Registry.find?_observed (registry : Registry σ) (name : String) :
    registry.observed.find? name = (registry.find? name).map (·.observed name) := by
  rw [find?, observed, Dict.get?_filterMap, find?]
  cases registry.registrations.get? name <;> rfl

/-! ### Running a stage of a registered service -/

/-- An instance is made and bound, and nothing runs. -/
def Compensable.prepare (service : Compensable σ) (caller : Caller) (world : σ) : σ :=
  let (built, world) := service.build world
  (service.bind caller built world).2

theorem Compensable.prepare_observed (service : Compensable σ) (name : String) (caller : Caller)
    (state : Observed σ) : (service.observed name).prepare caller state
      = ⟨service.prepare caller state.world, state.count + 1,
          state.record ++ prepared name state.count caller⟩ := by
  simp only [prepare, observed, Observed.note, prepared, List.append_assoc, List.cons_append, List.nil_append]

namespace Registry

section Invoked

variable {registry : Registry σ} {name : String} {registration : Registration σ} {stage : Stage}
  {parameters : Parameters}

/-- A stage for which there is nothing to run does nothing. -/
theorem invoke_of_unhandled (unhandled : registry.handler? name (.second stage) = none) (caller : Caller)
    (parameters : Parameters) (context : Context) (world : σ) :
    registry.invoke name (.second stage) caller parameters context world
      = ⟨.error (.notRegistered name (.second stage)), context, world⟩ := by
  unfold invoke handler
  rw [unhandled]

/-- A stage whose arguments cannot be read makes and binds an instance, and runs nothing. -/
theorem invoke_of_misread {fault : ParametersFault} (registered : registry.find? name = some registration)
    (offered : registration.descriptor.flags.has stage = true)
    (misread : parameters.decode registration.service.arguments = .error fault) (caller : Caller)
    (context : Context) (world : σ) :
    registry.invoke name (.second stage) caller parameters context world
      = ⟨.error fault.failure, context, registration.service.prepare caller world⟩ := by
  have found : registry.handler? name (.second stage) = some (registration.service.handler stage) := by
    rw [handler?_second, registered, Option.bind_some, Registration.handler?, if_pos offered]
  unfold invoke handler
  rw [found]
  simp only [Compensable.handler, misread]
  rfl

/-- There is nothing to run for a stage, or a registered service offers it. -/
theorem handler?_cases (registry : Registry σ) (name : String) (stage : Stage) :
    registry.handler? name (.second stage) = none ∨
      ∃ registration, registry.find? name = some registration ∧
        registration.descriptor.flags.has stage = true := by
  rw [handler?_second]
  cases registry.find? name with
  | none => exact .inl rfl
  | some registration =>
    by_cases offered : registration.descriptor.flags.has stage = true
    · exact .inr ⟨registration, rfl, offered⟩
    · exact .inl (by rw [Option.bind_some, Registration.handler?, if_neg offered])

end Invoked

section Observed

variable (registry : Registry σ) {name : String} {registration : Registration σ} {stage : Stage}

theorem registered_observed (registered : registry.find? name = some registration) :
    registry.observed.find? name = some (registration.observed name) := by
  rw [find?_observed, registered, Option.map_some]

theorem unhandled_observed (unhandled : registry.handler? name (.second stage) = none) :
    registry.observed.handler? name (.second stage) = none := by
  rw [handler?_second] at unhandled ⊢
  rw [find?_observed]
  cases found : registry.find? name with
  | none => rfl
  | some registration =>
    rw [found, Option.bind_some, Registration.handler?, ite_eq_right_iff] at unhandled
    have refused : ¬ registration.descriptor.flags.has stage = true := fun offered => by cases unhandled offered
    rw [Option.map_some, Option.bind_some]
    exact if_neg refused

end Observed

end Registry

/-- Without its record, running a stage is what it is. -/
theorem Registry.invoke_observed (registry : Registry σ) (name : String) (stage : Stage) (caller : Caller)
    (parameters : Parameters) (context : Context) (state : Observed σ) :
    (registry.observed.invoke name (.second stage) caller parameters context state).projected Observed.world
      = registry.invoke name (.second stage) caller parameters context state.world := by
  rcases registry.handler?_cases name stage with unhandled | ⟨registration, registered, offered⟩
  · rw [invoke_of_unhandled unhandled, invoke_of_unhandled (registry.unhandled_observed unhandled)]
    rfl
  · have registered' := registry.registered_observed registered
    cases read : parameters.decode registration.service.arguments with
    | error fault =>
      rw [invoke_of_misread registered offered read, invoke_of_misread registered' offered read]
      show Step.mk _ _ ((registration.service.observed name).prepare caller state).world = _
      rw [Compensable.prepare_observed]
    | ok arguments =>
      rw [invoke_registered registered offered read, invoke_registered registered' offered read,
        Step.projected_map]
      show Step.map _ (((registration.service.observed name).runOnce stage caller arguments context
        state).projected Observed.world) = _
      rw [Compensable.runOnce_observed]
      rfl

/-- **Without its record, a callback is the callback itself.** -/
theorem dispatch_observed (registry : Registry σ) (freshTrace freshSpan : String) (config : Config)
    (stage : Stage) (headers : Headers) (body : Bytes) (state : Observed σ) :
    let run := dispatch registry.observed freshTrace freshSpan config stage headers body state
    (run.1, run.2.world) = dispatch registry freshTrace freshSpan config stage headers body state.world := by
  intro run
  show ((dispatch registry.observed freshTrace freshSpan config stage headers body state).1,
    (dispatch registry.observed freshTrace freshSpan config stage headers body state).2.world) = _
  unfold dispatch
  cases Arrival.read freshTrace freshSpan config headers body with
  | error failure => rfl
  | ok arrival =>
    simp only
    rw [← registry.invoke_observed arrival.serviceName stage arrival.caller arrival.parameters arrival.context
      state]
    rfl

end TryConfirmCancel
