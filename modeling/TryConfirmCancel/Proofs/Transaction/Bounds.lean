/-
**What the settings and the budget make of every request.**

* `Link.Keeps`: no request takes a property of the world away; `Link.Keeps.execute`: then no run does;
* `IsBounded`: a request as the settings and a budget that is not spent bound it;
* `isBounded_of_sent`: every request that a run sends is bounded by the settings it started with.
-/

import TryConfirmCancel.Proofs.Transaction.Course

namespace TryConfirmCancel

namespace Link

variable {σ α : Type}

/-- A property of the world that no bounded request takes away. -/
def Keeps (link : Link σ) (config : Config) (holds : σ → Prop) : Prop :=
  ∀ (span : Span) (target : Rpc.Target) (codec : Rpc.Codec) (body : Bytes) (headers : Dict String) (world : σ),
    span.budget ≠ 0 → holds world → holds (link.send (bounded config span target codec body headers) world).2

namespace Keeps

variable {link : Link σ} {config : Config} {holds : σ → Prop} (keeps : link.Keeps config holds)
  {context : Context} {world : σ}

include keeps

theorem sparing {span : Span} {β : Type} {step : Step σ β} (sparing : link.IsSparing config world span step)
    (held : holds world) : holds step.world := by
  cases sparing with
  | idle answer kept => exact held
  | call answer sends charged =>
    obtain ⟨unspent, target, codec, body, headers, rfl⟩ := sends
    exact keeps span target codec body headers world unspent held

omit keeps in
theorem attempt {body : Action σ (Except ServiceFailure α)}
    (kept : ∀ context world, holds world → holds (body context world).world) (held : holds world) :
    holds (link.attempt body context world).world := by
  have behind := kept context world held
  -- only the context of the step differs, by the time that Try is charged
  unfold Link.attempt
  generalize body context world = step at behind ⊢
  obtain ⟨answer, after, world'⟩ := step
  exact behind

theorem within {body : Action σ (Except ServiceFailure α)}
    (kept : ∀ context world, holds world → holds (body context world).world) (held : holds world) (role : Role)
    (coordinator : String) (entrant : Entrant) :
    holds (link.within config role coordinator entrant body context world).world := by
  have entered : holds (link.enter config role coordinator entrant context world).world :=
    keeps.sparing (link.enter_isSparing ..) held
  unfold Link.within
  generalize link.enter config role coordinator entrant context world = step at entered ⊢
  obtain ⟨answer, after, world'⟩ := step
  cases answer with
  | error failure => exact entered
  | ok _ => exact keeps.sparing (link.conclude_isSparing ..) (attempt kept entered)

/-- **What no bounded request takes away and no Try, no run takes away.** -/
theorem execute {τ : Type} {body : Action σ (Except ServiceFailure α)} (registry : Registry τ) (service : String)
    (arguments : Json.Datum) (settings : link.settings world = config)
    (kept : ∀ context world, holds world → holds (body context world).world) (held : holds world) :
    holds (link.execute registry service arguments body context world).world := by
  unfold Link.execute
  rw [settings]
  split
  · exact held
  · split
    · exact held
    · exact keeps.within kept held _ _ _

end Keeps

end Link

/-! ### Every request is bounded -/

/-- A request as the settings and a budget that is not spent make it. -/
def IsBounded (config : Config) (request : Rpc.Request) : Prop :=
  ∃ span target codec body headers, span.budget ≠ 0 ∧
    request = Link.bounded config span target codec body headers

section Bounded

variable {config : Config} {request : Rpc.Request}

theorem Sends.isBounded {span : Span} (sends : Sends config span request) : IsBounded config request := by
  obtain ⟨unspent, target, codec, body, headers, rfl⟩ := sends
  exact ⟨span, target, codec, body, headers, unspent, rfl⟩

theorem IsBounded.retries_eq (bounded : IsBounded config request) : request.retries = config.rpcMaxRetries := by
  obtain ⟨span, target, codec, body, headers, -, rfl⟩ := bounded
  rfl

theorem Config.callTimeout_eq_zero_iff {remaining : Nanoseconds} (unspent : remaining ≠ 0) :
    config.callTimeout remaining = 0 ↔ config.requestTimeoutMs = 0 := by
  have arithmetic (reserve remaining limit : Nat) (unspent : remaining ≠ 0) :
      min (if reserve < remaining then remaining - reserve else remaining) limit = 0 ↔ limit = 0 := by
    split <;> omega
  rw [callTimeout, arithmetic _ _ _ unspent, ofMilliseconds]
  exact ⟨fun none => (Nat.mul_eq_zero.mp none).resolve_right (by decide), fun none => by rw [none, Nat.zero_mul]⟩

/-- The reserve never uses up what a request may take. -/
theorem IsBounded.timeout_eq_zero_iff (bounded : IsBounded config request) :
    request.timeout = 0 ↔ config.requestTimeoutMs = 0 := by
  obtain ⟨span, target, codec, body, headers, unspent, rfl⟩ := bounded
  exact Config.callTimeout_eq_zero_iff (Nat.mul_ne_zero unspent (by decide))

end Bounded

/-- Every request of a journal is bounded. -/
def AllBounded {σ α : Type} (config : Config) (state : Journalled σ α) : Prop :=
  ∀ request outcome, .sent request outcome ∈ state.journal → IsBounded config request

theorem allBounded_keeps {σ α : Type} (link : Link σ) (config : Config) :
    (link.journalled : Link (Journalled σ α)).Keeps config (AllBounded config) := by
  intro span target codec body headers state unspent held request outcome inside
  rcases List.mem_append.mp inside with earlier | now
  · exact held request outcome earlier
  · cases List.mem_singleton.mp now
    exact ⟨span, target, codec, body, headers, unspent, rfl⟩

theorem allBounded_witnessed {σ α : Type} (link : Link σ) {config : Config}
    (body : Action σ (Except ServiceFailure α)) (context : Context) {state : Journalled σ α}
    (held : AllBounded config state) : AllBounded config (link.witnessed body context state).world := by
  intro request outcome inside
  rcases List.mem_append.mp inside with earlier | now
  · exact held request outcome earlier
  · cases List.mem_singleton.mp now

/-- **Every request that a run sends is bounded by the settings it started with.** -/
theorem isBounded_of_sent {σ τ α : Type} {link : Link σ} {registry : Registry τ} {service : String}
    {arguments : Json.Datum} {body : Action σ (Except ServiceFailure α)} {context : Context} {world : σ}
    {request : Rpc.Request} {outcome : Except Rpc.Failure Rpc.Response}
    (sent : .sent request outcome ∈ (link.recorded registry service arguments body context world).world.journal) :
    IsBounded (link.settings world) request := by
  have nothing : AllBounded (link.settings world) (⟨world, []⟩ : Journalled σ α) := by rintro _ _ ⟨⟩
  exact (allBounded_keeps link (link.settings world)).execute registry service arguments rfl
    (fun context _ => allBounded_witnessed link body context) nothing request outcome sent

end TryConfirmCancel
