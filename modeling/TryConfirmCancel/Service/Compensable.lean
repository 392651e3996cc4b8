/-
**Services that are called back.**

Confirm and Cancel run on an instance of the service that is made for the one call, learns who is
calling, and gets the arguments that Try had.

* `Compensable`: how a service is made, bound and run in the second stage;
* `Compensable.handler`: make, bind, read the arguments, run; nothing runs if the arguments cannot be
  read.
-/

import TryConfirmCancel.Hop.Step
import TryConfirmCancel.Service.Parameters

namespace TryConfirmCancel

/-- What an instance learns about its caller. -/
structure Caller where
  language : String
  /-- The instance may issue remote calls of its own. -/
  remoteCall : Bool
  requestHeaders : Dict String
  /-- The place in the mesh that the callback was addressed to. -/
  topicAttributes : Dict String
  /-- The settings of the service. -/
  serviceConfig : Json.Value
  deriving Inhabited

/-- What an instance learns, as an object. -/
def Caller.toJson (caller : Caller) : Json.Value :=
  .object
    [("language", .string caller.language), ("remoteCall", .bool caller.remoteCall),
      ("requestHeaders", .ofTexts caller.requestHeaders),
      ("topicAttributes", .ofTexts caller.topicAttributes), ("serviceConfig", caller.serviceConfig)]

/-- A method of the second stage, run on an instance. -/
abbrev Method (σ Instance Arguments : Type) :=
  Instance → Arguments → Action σ (Except ServiceFailure Unit)

/-- A service as the second stage sees it. -/
structure Compensable (σ : Type) where
  Instance : Type
  Arguments : Type
  /-- How the arguments are read. -/
  arguments : Json.Reader Arguments
  build : σ → Instance × σ
  /-- Tells an instance who is calling. -/
  bind : Caller → Instance → σ → Instance × σ
  confirm : Method σ Instance Arguments
  cancel : Method σ Instance Arguments

/-- Runs one stage of a registered service. -/
abbrev Handler (σ : Type) := Caller → Parameters → Action σ (Except Failure Unit)

namespace Compensable

variable {σ : Type}

def method (service : Compensable σ) : Stage → Method σ service.Instance service.Arguments
  | .confirm => service.confirm
  | .cancel => service.cancel

/-- Runs a stage on an instance made for this call. -/
def handler (service : Compensable σ) (stage : Stage) : Handler σ := fun caller parameters context world =>
  let (built, world) := service.build world
  let (bound, world) := service.bind caller built world
  match parameters.decode service.arguments with
  | .error fault => ⟨.error fault.failure, context, world⟩
  | .ok arguments => (service.method stage bound arguments context world).map (·.mapError .business)

end Compensable

end TryConfirmCancel
