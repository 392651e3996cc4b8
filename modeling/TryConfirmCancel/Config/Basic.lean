/-
**The settings of a transaction client.**

* `Config`: the settings, each with its default;
* `Config.validate`: the checks that a configuration passes before it is used;
* `Config.isPropagator`: services that only hand the transaction on;
* `Config.callTimeout`: how long one call to the coordinator may take;
* `LiveConfig`: the settings in force, of which every transactional call takes one snapshot.
-/

import TryConfirmCancel.Config.Mode
import TryConfirmCancel.Hop.Context
import TryConfirmCancel.Json.Value

namespace TryConfirmCancel

/-- The settings of a transaction client. -/
structure Config where
  commMode : CommMode := .http
  /-- Fields of the coordinator's address, separated by bars: four for URLs, nine for topics. -/
  coordinatorAddress : String := ""
  /-- Where the coordinator calls this deployment back. -/
  participantBaseUrl : String := "http://localhost:8080"
  confirmPath : String := "/v1/txn/confirm"
  cancelPath : String := "/v1/txn/cancel"
  confirmEventId : String := "TXN_CONFIRM"
  cancelEventId : String := "TXN_CANCEL"
  /-- The gateway that delivers calls to topics. -/
  meshGatewayUrl : String := "http://localhost:18080"
  /-- The most that one call to the coordinator may take, in milliseconds. -/
  requestTimeoutMs : Nat := 10000
  /-- What is kept for the service's own work when a call is bounded, in milliseconds. -/
  maxServiceConsumeMs : Nat := 1000
  /-- The budget of requests that come without one, in milliseconds. -/
  defaultTimeoutBudgetMs : Nat := standardBudget
  /-- How often one call to the coordinator may be repeated. -/
  rpcMaxRetries : Nat := 0
  /-- Report a failed Try of a branch at once instead of waiting to be cancelled. -/
  tryFailedIgnoreCallbackCancel : Bool := false
  /-- Every service of this deployment only hands the transaction on. -/
  isPropagatorDeployment : Bool := false
  propagatorServices : List String := []
  macroService : Bool := false
  macroServiceBaseUrl : String := ""
  localInstanceId : String := ""
  /-- Response headers that begin so go to the second stage instead of the caller. -/
  secondStageHeaderStart : String := "x-txn-2s-"
  /-- A response header of this name marks the Try as failed. -/
  errorSentinelHeader : String := "x-txn-marked-error"
  /-- The language reported to services that are called back. -/
  language : String := "rust"
  /-- Settings for single services, by name. -/
  services : Dict Json.Value := ∅

instance : Inhabited Config := ⟨{}⟩

namespace Config

/-- A path begins with a slash. -/
def isAbsolutePath (path : String) : Bool := path.toList.head? == some '/'

/-- The checks that a configuration passes; the first that fails is reported. -/
def validate (config : Config) : Except ConfigFault Unit :=
  if config.requestTimeoutMs = 0 then .error .zeroRequestTimeout
  else if config.macroService && config.macroServiceBaseUrl.isEmpty then .error .missingMacroServiceUrl
  else if !isAbsolutePath config.confirmPath || !isAbsolutePath config.cancelPath then
    .error .relativeCallbackPath
  else if config.confirmPath = config.cancelPath then .error .equalCallbackPaths
  else if config.secondStageHeaderStart.isEmpty then .error .emptySecondStageStart
  else .ok ()

/-- A service that only hands the transaction on. -/
def isPropagator (config : Config) (service : String) : Bool :=
  config.isPropagatorDeployment || config.propagatorServices.contains service

/-- The budget of requests that come without one. -/
def defaultBudget (config : Config) : Nanoseconds := ofMilliseconds config.defaultTimeoutBudgetMs

/-- How long one call may take: what remains less the reserve, or all that remains if that would
leave nothing; never more than the request timeout. -/
def callTimeout (config : Config) (remaining : Nanoseconds) : Nanoseconds :=
  let reserve := ofMilliseconds config.maxServiceConsumeMs
  min (if reserve < remaining then remaining - reserve else remaining)
    (ofMilliseconds config.requestTimeoutMs)

/-- Calls to the coordinator within the instance go straight to a base URL. -/
def withMacroService (config : Config) (baseUrl instanceId : String) : Config :=
  { config with macroService := true, macroServiceBaseUrl := baseUrl, localInstanceId := instanceId }

/-- One more service that only hands the transaction on. -/
def addPropagator (config : Config) (service : String) : Config :=
  { config with propagatorServices := config.propagatorServices ++ [service] }

def withService (config : Config) (service : String) (settings : Json.Value) : Config :=
  { config with services := config.services.insert service settings }

end Config

/-- The settings in force. -/
structure LiveConfig where
  current : Config
  deriving Inhabited

/-- New settings for every later snapshot. -/
def LiveConfig.replace (_ : LiveConfig) (config : Config) : LiveConfig := ⟨config⟩

end TryConfirmCancel
