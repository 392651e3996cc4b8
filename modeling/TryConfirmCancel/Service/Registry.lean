/-
**The services of a deployment.**

A registry keeps two tables: the records of the services by name, and what runs each stage by stage and
name. It carries the proof that the two are in step.

* `Registry.register`: adds a service; its name must be new and not empty;
* `Registry.descriptor`: the record of a service;
* `Registry.handler`: what runs a stage of a service, if its record has that method;
* `Registry.services`: the registered names in increasing order.
-/

import TryConfirmCancel.Service.Compensable
import TryConfirmCancel.Service.Descriptor

namespace TryConfirmCancel

/-- A service with its record. -/
structure Registration (σ : Type) where
  descriptor : Descriptor
  service : Compensable σ

namespace Registration

variable {σ : Type}

def name (registration : Registration σ) : String := registration.descriptor.serviceName

/-- What runs a stage of a service, if its record has the method. -/
def handler? (registration : Registration σ) (stage : Stage) : Option (Handler σ) :=
  if registration.descriptor.flags.has stage then some (registration.service.handler stage) else none

end Registration

/-- The services of a deployment. -/
structure Registry (σ : Type) where
  registrations : Dict (Registration σ)
  /-- What runs a stage, by the name of its service. -/
  handlers : Stage → Dict (Handler σ)
  /-- A stage runs if the service is registered and its record has the method. -/
  inStep : ∀ stage name, (handlers stage).get? name = (registrations.get? name).bind (·.handler? stage)

namespace Registry

variable {σ : Type}

def empty : Registry σ := ⟨∅, fun _ => ∅, fun _ _ => rfl⟩

def find? (registry : Registry σ) (name : String) : Option (Registration σ) := registry.registrations.get? name

/-- What runs a stage once a service more is there. -/
def handlersWith (registry : Registry σ) (registration : Registration σ) (stage : Stage) : Dict (Handler σ) :=
  match registration.handler? stage with
  | some handler => (registry.handlers stage).insert registration.name handler
  | none => registry.handlers stage

/-- The two tables stay in step when a service comes in under a new name. Under a name that is taken they
would not: what runs a stage of the earlier service would be left behind. -/
theorem get?_handlersWith (registry : Registry σ) (registration : Registration σ)
    (new : registry.find? registration.name = none) (stage : Stage) (name : String) :
    (registry.handlersWith registration stage).get? name
      = ((registry.registrations.insert registration.name registration).get? name).bind (·.handler? stage) := by
  have before := registry.inStep stage name
  unfold handlersWith
  by_cases here : registration.name = name
  · subst here
    rw [Registry.find?] at new
    cases offered : registration.handler? stage with
    | none => simpa [new, offered] using before
    | some handler => simp [offered]
  · cases registration.handler? stage with
    | none => simpa [here] using before
    | some handler => simpa [here] using before

/-- A registry with one service more, under a new name. -/
def add (registry : Registry σ) (registration : Registration σ)
    (new : registry.find? registration.name = none) : Registry σ :=
  { registrations := registry.registrations.insert registration.name registration
    handlers := registry.handlersWith registration
    inStep := registry.get?_handlersWith registration new }

/-- Adds a service under the name in its record. -/
def register (registry : Registry σ) (descriptor : Descriptor) (service : Compensable σ) :
    Except Failure (Registry σ) :=
  let registration : Registration σ := ⟨descriptor, service⟩
  if registration.name.isEmpty then .error (.structural "service name must not be empty")
  else if taken : (registry.find? registration.name).isSome then .error (.alreadyRegistered registration.name)
  else .ok (registry.add registration (Option.not_isSome_iff_eq_none.mp taken))

def descriptor (registry : Registry σ) (name : String) : Except Failure Descriptor :=
  match registry.find? name with
  | some registration => .ok registration.descriptor
  | none => .error (.notRegistered name .attempt)

/-- What runs a stage of a service. Try has none: it runs in the service that calls. -/
def handler? (registry : Registry σ) (name : String) : Phase → Option (Handler σ)
  | .attempt => none
  | .second stage => (registry.handlers stage).get? name

/-- What runs a stage of a service, or the failure that it has none. -/
def handler (registry : Registry σ) (name : String) (phase : Phase) : Except Failure (Handler σ) :=
  match registry.handler? name phase with
  | some handler => .ok handler
  | none => .error (.notRegistered name phase)

/-- The registered names in increasing order. -/
def services (registry : Registry σ) : List String := registry.registrations.keys

/-- Runs a stage of a registered service, never more than once. -/
def invoke (registry : Registry σ) (name : String) (phase : Phase) : Handler σ :=
  fun caller parameters context world =>
    match registry.handler name phase with
    | .error failure => ⟨.error failure, context, world⟩
    | .ok handler => handler caller parameters context world

/-- A stage is looked up by the record of its service. -/
theorem handler?_second (registry : Registry σ) (name : String) (stage : Stage) :
    registry.handler? name (.second stage) = (registry.find? name).bind (·.handler? stage) :=
  registry.inStep stage name

end Registry

end TryConfirmCancel
