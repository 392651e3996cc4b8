/-
**The way to a coordinator.**

* `Route.resolve`: reads the coordinator's address in the configured mode, and finds out whether the
  coordinator lives in this very instance;
* `Route.target`: where a request for an operation goes: straight to the macro service if the
  coordinator lives here, to its address otherwise.
-/

import TryConfirmCancel.Address.Coordinator
import TryConfirmCancel.Config.Basic

namespace TryConfirmCancel

/-- The way to a coordinator. -/
structure Route where
  address : Coordinator
  /-- The coordinator lives in this instance, so calls bypass the mesh. -/
  isDirect : Bool
  deriving DecidableEq, Repr, Inhabited

namespace Route

/-- The coordinator lives in the instance that the settings describe. -/
def isLocal (config : Config) (address : Coordinator) : Bool :=
  config.macroService && !config.localInstanceId.isEmpty
    && address.instanceId? == some config.localInstanceId

/-- The way to the coordinator of an address. -/
def resolve (config : Config) (text : String) : Except AddressFault Route :=
  (Coordinator.parse config.commMode text).map fun address => ⟨address, isLocal config address⟩

/-- Where a request for an operation goes. -/
def target (route : Route) (config : Config) (operation : Operation) : Rpc.Target :=
  if route.isDirect then .url (Address.join config.macroServiceBaseUrl (route.address.endpoint operation))
  else route.address.target operation

end Route

end TryConfirmCancel
