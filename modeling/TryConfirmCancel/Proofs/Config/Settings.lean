/-
**A configuration as a table of settings.**

A configuration is the values of its settings, each of a kind. What is said of all settings is said once for every kind.

* `Setting.of`: the value of a setting in a configuration;
* `Config.ofValues`: the configuration with given values.
-/

import TryConfirmCancel.Config.Basic

namespace TryConfirmCancel

/-- The kinds of settings. -/
inductive SettingKind
  | mode
  | text
  /-- A natural number not above a bound. -/
  | count (bound : Nat)
  | flag
  | texts
  /-- Any data, by name. -/
  | data

/-- What a setting of a kind may be. -/
@[reducible]
def SettingKind.Carrier : SettingKind → Type
  | mode => CommMode
  | text => String
  | count _ => Nat
  | flag => Bool
  | texts => List String
  | data => Dict Json.Value

/-- The settings of a configuration. -/
inductive Setting
  | commMode
  | coordinatorAddress
  | participantBaseUrl
  | confirmPath
  | cancelPath
  | confirmEventId
  | cancelEventId
  | meshGatewayUrl
  | requestTimeoutMs
  | maxServiceConsumeMs
  | defaultTimeoutBudgetMs
  | rpcMaxRetries
  | tryFailedIgnoreCallbackCancel
  | isPropagatorDeployment
  | propagatorServices
  | macroService
  | macroServiceBaseUrl
  | localInstanceId
  | secondStageHeaderStart
  | errorSentinelHeader
  | language
  | services
  deriving DecidableEq

namespace Setting

/-- The settings in the order in which a configuration is shown. -/
def all : List Setting :=
  [commMode, coordinatorAddress, participantBaseUrl, confirmPath, cancelPath, confirmEventId, cancelEventId,
    meshGatewayUrl, requestTimeoutMs, maxServiceConsumeMs, defaultTimeoutBudgetMs, rpcMaxRetries,
    tryFailedIgnoreCallbackCancel, isPropagatorDeployment, propagatorServices, macroService, macroServiceBaseUrl,
    localInstanceId, secondStageHeaderStart, errorSentinelHeader, language, services]

theorem mem_all (setting : Setting) : setting ∈ all := by
  cases setting <;> decide

theorem nodup_all : all.Nodup := by decide

@[reducible]
def kind : Setting → SettingKind
  | commMode => .mode
  | requestTimeoutMs | maxServiceConsumeMs | defaultTimeoutBudgetMs => .count maxWord64
  | rpcMaxRetries => .count maxWord32
  | tryFailedIgnoreCallbackCancel | isPropagatorDeployment | macroService => .flag
  | propagatorServices => .texts
  | services => .data
  | _ => .text

/-- The value of a setting in a configuration. -/
def of : (setting : Setting) → Config → setting.kind.Carrier
  | commMode => Config.commMode
  | coordinatorAddress => Config.coordinatorAddress
  | participantBaseUrl => Config.participantBaseUrl
  | confirmPath => Config.confirmPath
  | cancelPath => Config.cancelPath
  | confirmEventId => Config.confirmEventId
  | cancelEventId => Config.cancelEventId
  | meshGatewayUrl => Config.meshGatewayUrl
  | requestTimeoutMs => Config.requestTimeoutMs
  | maxServiceConsumeMs => Config.maxServiceConsumeMs
  | defaultTimeoutBudgetMs => Config.defaultTimeoutBudgetMs
  | rpcMaxRetries => Config.rpcMaxRetries
  | tryFailedIgnoreCallbackCancel => Config.tryFailedIgnoreCallbackCancel
  | isPropagatorDeployment => Config.isPropagatorDeployment
  | propagatorServices => Config.propagatorServices
  | macroService => Config.macroService
  | macroServiceBaseUrl => Config.macroServiceBaseUrl
  | localInstanceId => Config.localInstanceId
  | secondStageHeaderStart => Config.secondStageHeaderStart
  | errorSentinelHeader => Config.errorSentinelHeader
  | language => Config.language
  | services => Config.services

/-- The value that a setting has if nobody sets it. -/
def standard (setting : Setting) : setting.kind.Carrier := setting.of {}

end Setting

namespace Config

/-- The configuration with given values. -/
def ofValues (values : (setting : Setting) → setting.kind.Carrier) : Config :=
  { commMode := values .commMode
    coordinatorAddress := values .coordinatorAddress
    participantBaseUrl := values .participantBaseUrl
    confirmPath := values .confirmPath
    cancelPath := values .cancelPath
    confirmEventId := values .confirmEventId
    cancelEventId := values .cancelEventId
    meshGatewayUrl := values .meshGatewayUrl
    requestTimeoutMs := values .requestTimeoutMs
    maxServiceConsumeMs := values .maxServiceConsumeMs
    defaultTimeoutBudgetMs := values .defaultTimeoutBudgetMs
    rpcMaxRetries := values .rpcMaxRetries
    tryFailedIgnoreCallbackCancel := values .tryFailedIgnoreCallbackCancel
    isPropagatorDeployment := values .isPropagatorDeployment
    propagatorServices := values .propagatorServices
    macroService := values .macroService
    macroServiceBaseUrl := values .macroServiceBaseUrl
    localInstanceId := values .localInstanceId
    secondStageHeaderStart := values .secondStageHeaderStart
    errorSentinelHeader := values .errorSentinelHeader
    language := values .language
    services := values .services }

theorem of_ofValues (values : (setting : Setting) → setting.kind.Carrier) (setting : Setting) :
    setting.of (ofValues values) = values setting := by
  cases setting <;> rfl

end Config

end TryConfirmCancel
