/-
**What is kept for the service's own work.**

The time limit of a request leaves the reserve untouched, the whole call keeps to this limit, and the limit is a
whole number of milliseconds, so that rounding up what the call took does not get beyond it.

* `elapsed_overHttp_le`: a request over a network takes no longer than its time limit;
* `undertake_spares`: an errand over a network never eats into the reserve.
-/

import TryConfirmCancel.Proofs.Link.Errand
import TryConfirmCancel.Proofs.Transaction.Delivery
import TryConfirmCancel.Proofs.Transaction.Ledger

namespace TryConfirmCancel

/-- A duration within whole milliseconds begins no more of them. -/
theorem startedMilliseconds_le {elapsed : Nanoseconds} {count : Nat} (within : elapsed ≤ ofMilliseconds count) :
    startedMilliseconds elapsed ≤ count := by
  have rounding (nanos limit : Nat) (least : nanos ≤ limit * 1000000) : (nanos + 999999) / 1000000 ≤ limit := by
    omega
  exact rounding elapsed count within

section Networks

variable {σ : Type} (network : Rpc.Network σ)

/-- A request over a network takes no longer than its time limit, with all its repetitions. -/
theorem elapsed_overHttp_le (request : Rpc.Request) (station : Station σ) :
    (Link.overHttp network.transport).elapsed station request ≤ request.timeout := by
  have ended := network.now_call_le station.clientSettings request station.world
  rw [← (send_overHttp network request station).2] at ended
  exact Nat.sub_le_iff_le_add'.mpr ended

/-- **An errand never eats into the reserve**: if more than the reserve is left before it, the reserve is left
behind it, however it ends and however often its request is repeated. -/
theorem undertake_spares (config : Config) (coordinator : String) (errand : Errand) (context : Context)
    (station : Station σ) (roomy : config.maxServiceConsumeMs < context.span.budget) :
    config.maxServiceConsumeMs ≤ ((Link.overHttp network.transport).undertake config coordinator errand context
      station).context.span.budget := by
  have sparing := (Link.overHttp network.transport).undertake_isSparing config coordinator context station errand
  generalize (Link.overHttp network.transport).undertake config coordinator errand context station = step at sparing ⊢
  cases sparing with
  | idle answer kept =>
    rw [kept]
    exact Nat.le_of_lt roomy
  | @call answer request after sends spent =>
    have limited : request.timeout ≤ ofMilliseconds (context.span.budget - config.maxServiceConsumeMs) :=
      sends.isWithin.timeout_le_rest roomy
    have cost : startedMilliseconds ((Link.overHttp network.transport).elapsed station request)
        ≤ context.span.budget - config.maxServiceConsumeMs :=
      startedMilliseconds_le (Nat.le_trans (elapsed_overHttp_le network request station) limited)
    rw [spent, Span.consume_budget, charged]
    omega

end Networks

/-! ### A coordinator that never answers -/

/-- Settings under which nothing but the reserve bounds a request. -/
def patientSettings : Config := { shopSettings with requestTimeoutMs := 60000 }

/-- A coordinator that takes a report without a word. -/
def mutedLine : Station Line := .start ⟨patientSettings⟩ ⟨0, [none]⟩

/-- A coordinator that never answers takes all the time there is, and leaves the reserve. -/
example : ((Link.overHttp Line.network.transport).undertake patientSettings patientSettings.coordinatorAddress
    (.reporting true none ∅) orderContext mutedLine).context.span.budget = 1000 := by
  decide +kernel

theorem mutedLine_spares : patientSettings.maxServiceConsumeMs < orderContext.span.budget ∧
    patientSettings.maxServiceConsumeMs ≤ ((Link.overHttp Line.network.transport).undertake patientSettings
      patientSettings.coordinatorAddress (.reporting true none ∅) orderContext mutedLine).context.span.budget := by
  have roomy : patientSettings.maxServiceConsumeMs < orderContext.span.budget := by decide
  exact ⟨roomy, undertake_spares Line.network patientSettings patientSettings.coordinatorAddress
    (.reporting true none ∅) orderContext mutedLine roomy⟩

end TryConfirmCancel
