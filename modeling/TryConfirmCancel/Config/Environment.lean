/-
**Settings from environment variables.**

Every setting has a variable of its own, whose name begins with `MESH_TXN_`. A text is taken as it
stands; a number, a truth value or a mode that cannot be read leaves the default. The language and
the settings of single services have no variable.
-/

import TryConfirmCancel.Config.Basic
import TryConfirmCancel.Text.Fields
import TryConfirmCancel.Text.Numeral

namespace TryConfirmCancel.Config

/-- A truth value in its exact spelling. -/
def flag? (text : String) : Option Bool :=
  if text = "true" then some true
  else if text = "false" then some false
  else none

/-- The names in a list with commas, trimmed, the empty ones left out. -/
def namesOf (text : String) : List String :=
  ((Text.split ',' text).map Text.trim).filter fun name => !name.isEmpty

/-- The settings that variables give; `valueOf` looks one up by its full name. -/
def ofEnvironment (valueOf : String → Option String) : Config :=
  let standard : Config := {}
  let find (name : String) : Option String := valueOf ("MESH_TXN_" ++ name)
  let text (name default : String) : String := (find name).getD default
  let count (name : String) (default : Nat) : Nat :=
    ((find name).bind fun text => (Text.Numeral.parse maxWord64 text).toOption).getD default
  let flag (name : String) (default : Bool) : Bool := ((find name).bind flag?).getD default
  { commMode := ((find "COMM_MODE").bind fun text => (CommMode.parse text).toOption).getD standard.commMode
    coordinatorAddress := text "COORDINATOR_ADDRESS" standard.coordinatorAddress
    participantBaseUrl := text "PARTICIPANT_BASE_URL" standard.participantBaseUrl
    confirmPath := text "CONFIRM_PATH" standard.confirmPath
    cancelPath := text "CANCEL_PATH" standard.cancelPath
    confirmEventId := text "CONFIRM_EVENT_ID" standard.confirmEventId
    cancelEventId := text "CANCEL_EVENT_ID" standard.cancelEventId
    meshGatewayUrl := text "MESH_GATEWAY_URL" standard.meshGatewayUrl
    requestTimeoutMs := count "REQUEST_TIMEOUT_MS" standard.requestTimeoutMs
    maxServiceConsumeMs := count "MAX_SERVICE_CONSUME_MS" standard.maxServiceConsumeMs
    defaultTimeoutBudgetMs := count "DEFAULT_TIMEOUT_BUDGET_MS" standard.defaultTimeoutBudgetMs
    rpcMaxRetries := count "RPC_MAX_RETRIES" standard.rpcMaxRetries % (maxWord32 + 1)
    tryFailedIgnoreCallbackCancel :=
      flag "TRY_FAILED_IGNORE_CALLBACK_CANCEL" standard.tryFailedIgnoreCallbackCancel
    isPropagatorDeployment := flag "IS_PROPAGATOR" standard.isPropagatorDeployment
    propagatorServices := ((find "PROPAGATOR_SERVICES").map namesOf).getD []
    macroService := flag "MACRO_SERVICE" standard.macroService
    macroServiceBaseUrl := text "MACRO_SERVICE_BASE_URL" standard.macroServiceBaseUrl
    localInstanceId := text "LOCAL_INSTANCE_ID" standard.localInstanceId
    secondStageHeaderStart := text "SECOND_STAGE_HEADER_PREFIX" standard.secondStageHeaderStart
    errorSentinelHeader := text "ERROR_SENTINEL_HEADER" standard.errorSentinelHeader
    language := standard.language
    services := standard.services }

end TryConfirmCancel.Config
