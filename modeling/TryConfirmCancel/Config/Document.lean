/-
**Settings from files.**

* `SettingReader`: how a notation reads the types of settings;
* `Config.ofSettings`: the settings that are there, the others at their defaults;
* `Config.ofFile`: a file in JSON, TOML or YAML, as its extension says; what it returns has passed
  `Config.validate`;
* `Config.toJson`: the settings as an object.
-/

import TryConfirmCancel.Config.Basic
import TryConfirmCancel.Json.Reader
import TryConfirmCancel.Text.Fields
import TryConfirmCancel.Toml.Document
import TryConfirmCancel.Yaml.Reader

namespace TryConfirmCancel

/-- How a notation reads the types of settings. -/
structure SettingReader (ν : Type) where
  mode : ν → Option CommMode
  text : ν → Option String
  count : Nat → ν → Option Nat
  flag : ν → Option Bool
  texts : ν → Option (List String)
  data : ν → Option (Dict Json.Value)

namespace CommMode

/-- The mode with exactly this name. -/
def ofName? (name : String) : Option CommMode :=
  if name = "http" then some .http
  else if name = "mesh" then some .mesh
  else none

/-- A mode by its name, or as the only key of an object that holds nothing. -/
def ofNode? (isNothing : Json.Node → Bool) : Json.Node → Option CommMode
  | .string name => name.bind ofName?
  | .object [(name, node)] => if isNothing node then name.bind ofName? else none
  | _ => none

def reader : Json.Reader CommMode
  | 0, .object _ => none
  | _, node => ofNode? (fun | .null => true | _ => false) node

end CommMode

namespace Config

/-- The names of the settings in files. -/
def settingNames : List String :=
  ["comm_mode", "coordinator_address", "participant_base_url", "confirm_path", "cancel_path",
    "confirm_event_id", "cancel_event_id", "mesh_gateway_url", "request_timeout_ms",
    "max_service_consume_ms", "default_timeout_budget_ms", "rpc_max_retries",
    "try_failed_ignore_callback_cancel", "is_propagator", "propagator_services", "macro_service",
    "macro_service_base_url", "local_instance_id", "second_stage_header_prefix",
    "error_sentinel_header", "language", "services"]

/-- The settings that are there, the others at their defaults. -/
def ofSettings {ν : Type} (reader : SettingReader ν) (found : List (String × ν)) : Option Config := do
  let standard : Config := {}
  let setting {α : Type} (read : ν → Option α) (name : String) (default : α) : Option α :=
    match lookupEntry name found with
    | none => some default
    | some node => read node
  let text := setting reader.text
  let count := setting (reader.count maxWord64)
  let flag := setting reader.flag
  some
    { commMode := ← setting reader.mode "comm_mode" standard.commMode
      coordinatorAddress := ← text "coordinator_address" standard.coordinatorAddress
      participantBaseUrl := ← text "participant_base_url" standard.participantBaseUrl
      confirmPath := ← text "confirm_path" standard.confirmPath
      cancelPath := ← text "cancel_path" standard.cancelPath
      confirmEventId := ← text "confirm_event_id" standard.confirmEventId
      cancelEventId := ← text "cancel_event_id" standard.cancelEventId
      meshGatewayUrl := ← text "mesh_gateway_url" standard.meshGatewayUrl
      requestTimeoutMs := ← count "request_timeout_ms" standard.requestTimeoutMs
      maxServiceConsumeMs := ← count "max_service_consume_ms" standard.maxServiceConsumeMs
      defaultTimeoutBudgetMs := ← count "default_timeout_budget_ms" standard.defaultTimeoutBudgetMs
      rpcMaxRetries := ← setting (reader.count maxWord32) "rpc_max_retries" standard.rpcMaxRetries
      tryFailedIgnoreCallbackCancel :=
        ← flag "try_failed_ignore_callback_cancel" standard.tryFailedIgnoreCallbackCancel
      isPropagatorDeployment := ← flag "is_propagator" standard.isPropagatorDeployment
      propagatorServices := ← setting reader.texts "propagator_services" standard.propagatorServices
      macroService := ← flag "macro_service" standard.macroService
      macroServiceBaseUrl := ← text "macro_service_base_url" standard.macroServiceBaseUrl
      localInstanceId := ← text "local_instance_id" standard.localInstanceId
      secondStageHeaderStart := ← text "second_stage_header_prefix" standard.secondStageHeaderStart
      errorSentinelHeader := ← text "error_sentinel_header" standard.errorSentinelHeader
      language := ← text "language" standard.language
      services := ← setting reader.data "services" standard.services }

/-- How JSON reads settings within `nesting` brackets. -/
def jsonSettings (nesting : Nat) : SettingReader Json.Node :=
  { mode := CommMode.reader nesting
    text := Json.Reader.string nesting
    count := fun bound => Json.Reader.natural bound nesting
    flag := Json.Reader.bool nesting
    texts := Json.Reader.list .string nesting
    data := Json.Reader.dict .value nesting }

def reader : Json.Reader Config :=
  .record settingNames fun fields => ofSettings (jsonSettings fields.nesting) fields.entries

/-- How deep data of other notations may nest once it is read. -/
def unbounded : Nat := 65536

/-- How TOML reads settings, its data having been read already. -/
def tomlSettings : SettingReader Json.Node :=
  { jsonSettings unbounded with
    mode := CommMode.ofNode? fun
      | .object [] => true
      | .array [] => true
      | _ => false }

def yamlSettings : SettingReader Yaml.Node :=
  { mode := fun node => (Yaml.text? node).bind CommMode.ofName?
    text := Yaml.text?
    count := Yaml.count?
    flag := Yaml.flag?
    texts := Yaml.texts?
    data := Yaml.members? (Yaml.deepest - 2) }

def ofText? (format : FileFormat) (text : String) : Option Config :=
  match format with
  | .json => reader.ofText? text
  | .toml => do
    let value ← Toml.parse? text
    match Json.Node.ofValue value with
    | .object members =>
      ofSettings tomlSettings (members.filterMap fun (key, node) => key.map fun key => (key, node))
    | _ => none
  | .yaml => do
    let document ← Yaml.parse? text
    ofSettings yamlSettings (← Yaml.settings? settingNames document)

/-- The notation that an extension names. -/
def formatOf? (extension : String) : Option FileFormat :=
  if extension = "json" then some .json
  else if extension = "toml" then some .toml
  else if extension = "yaml" ∨ extension = "yml" then some .yaml
  else none

/-- The extension of a file: what follows the last dot of its name, unless that dot comes first. -/
def extensionOf (path : String) : String :=
  let name := (Text.split '/' path).getLastD ""
  match (Text.split '.' name).reverse with
  | extension :: before :: more => if before.isEmpty && more.isEmpty then "" else extension
  | _ => ""

/-- Settings from the content of a file. -/
def ofFile (path : String) (content : Except FileFault Bytes) : Except ConfigFault Config := do
  let bytes ← content.mapError .unreadable
  let text ← match Utf8.text? bytes with
    | some text => .ok text
    | none => .error (.unreadable .notUtf8)
  let extension := Text.lowered (extensionOf path)
  let format ← match formatOf? extension with
    | some format => .ok format
    | none => .error (.unknownFormat extension)
  let config ← match ofText? format text with
    | some config => .ok config
    | none => .error (.malformed format)
  config.validate
  return config

def toJson (config : Config) : Json.Value :=
  .object
    [("comm_mode", .string config.commMode.name), ("coordinator_address", .string config.coordinatorAddress),
      ("participant_base_url", .string config.participantBaseUrl), ("confirm_path", .string config.confirmPath),
      ("cancel_path", .string config.cancelPath), ("confirm_event_id", .string config.confirmEventId),
      ("cancel_event_id", .string config.cancelEventId), ("mesh_gateway_url", .string config.meshGatewayUrl),
      ("request_timeout_ms", .nat config.requestTimeoutMs),
      ("max_service_consume_ms", .nat config.maxServiceConsumeMs),
      ("default_timeout_budget_ms", .nat config.defaultTimeoutBudgetMs),
      ("rpc_max_retries", .nat config.rpcMaxRetries),
      ("try_failed_ignore_callback_cancel", .bool config.tryFailedIgnoreCallbackCancel),
      ("is_propagator", .bool config.isPropagatorDeployment),
      ("propagator_services", .strings config.propagatorServices),
      ("macro_service", .bool config.macroService),
      ("macro_service_base_url", .string config.macroServiceBaseUrl),
      ("local_instance_id", .string config.localInstanceId),
      ("second_stage_header_prefix", .string config.secondStageHeaderStart),
      ("error_sentinel_header", .string config.errorSentinelHeader),
      ("language", .string config.language), ("services", .ofDict config.services)]

end Config

end TryConfirmCancel
