/-
**Settings from files in JSON.**

* `SettingKind.Writes`: how a value of a kind stands in JSON;
* `Config.Holds`: members of an object give some settings of a configuration, in any order and among any others;
* `ofSettings_of`: settings are read one by one; `ofText?_of_holds`: so an object is read as what it holds;
* `holds_of_perm`: the members that are written for some settings hold them;
* `ofFile_loads`: a file gives the settings that it holds and leaves the others at their defaults, if the result passes
  the checks, and nothing that fails them is ever returned.
-/

import TryConfirmCancel.Config.Document
import TryConfirmCancel.Failure
import TryConfirmCancel.Proofs.Config.Settings
import TryConfirmCancel.Proofs.Json.Reading

namespace TryConfirmCancel

open Json

/-! ### Settings in JSON -/

/-- The name of a setting in a file. -/
def Setting.name : Setting → String
  | commMode => "comm_mode"
  | coordinatorAddress => "coordinator_address"
  | participantBaseUrl => "participant_base_url"
  | confirmPath => "confirm_path"
  | cancelPath => "cancel_path"
  | confirmEventId => "confirm_event_id"
  | cancelEventId => "cancel_event_id"
  | meshGatewayUrl => "mesh_gateway_url"
  | requestTimeoutMs => "request_timeout_ms"
  | maxServiceConsumeMs => "max_service_consume_ms"
  | defaultTimeoutBudgetMs => "default_timeout_budget_ms"
  | rpcMaxRetries => "rpc_max_retries"
  | tryFailedIgnoreCallbackCancel => "try_failed_ignore_callback_cancel"
  | isPropagatorDeployment => "is_propagator"
  | propagatorServices => "propagator_services"
  | macroService => "macro_service"
  | macroServiceBaseUrl => "macro_service_base_url"
  | localInstanceId => "local_instance_id"
  | secondStageHeaderStart => "second_stage_header_prefix"
  | errorSentinelHeader => "error_sentinel_header"
  | language => "language"
  | services => "services"

theorem Setting.name_injective {left right : Setting} (same : left.name = right.name) : left = right := by
  cases left <;> cases right <;> first | rfl | simp [name] at same

/-- The known names are those of the settings. -/
theorem Setting.settingNames_eq : Config.settingNames = all.map name := rfl

theorem Setting.name_mem (setting : Setting) : setting.name ∈ Config.settingNames :=
  settingNames_eq ▸ List.mem_map_of_mem setting.mem_all

namespace SettingKind

/-- The JSON of a value. -/
def write : (kind : SettingKind) → kind.Carrier → Value
  | .mode, held => .string held.name
  | .text, held => .string held
  | .count _, held => .nat held
  | .flag, held => .bool held
  | .texts, held => .strings held
  | .data, held => .ofDict held

/-- JSON stands for a value. The members of data may stand in any order, and may nest as deep as a file may, whose own
brackets are around them. -/
def Writes : (kind : SettingKind) → Value → kind.Carrier → Prop
  | .data, value, held => value.ordered = .ofDict held ∧ value.depth < Reader.deepest
  | kind, value, held => value = kind.write held

/-- A value that a setting can have: a number keeps its bound, and data has its keys in order, integers for numbers, and
does not nest too deep. -/
def Admits : (kind : SettingKind) → kind.Carrier → Prop
  | .count bound, held => held ≤ bound
  | .data, held => (∀ entry ∈ held.entries, entry.2.ordered = entry.2 ∧ entry.2.IsIntegral) ∧
      (Value.ofDict held).depth < Reader.deepest
  | _, _ => True

/-- What reads a value of a kind. -/
def reader {ν : Type} (readers : SettingReader ν) : (kind : SettingKind) → ν → Option kind.Carrier
  | .mode => readers.mode
  | .text => readers.text
  | .count bound => readers.count bound
  | .flag => readers.flag
  | .texts => readers.texts
  | .data => readers.data

/-- What stands for a value is read as this value. -/
theorem reader_ofValue (kind : SettingKind) {value : Value} {held : kind.Carrier} (writes : kind.Writes value held)
    (admits : kind.Admits held) :
    kind.reader (Config.jsonSettings (Reader.deepest - 1)) (.ofValue value) = some held := by
  cases kind with
  | mode =>
    obtain rfl : value = .string held.name := writes
    cases held <;> rfl
  | text =>
    obtain rfl : value = .string held := writes
    rfl
  | count bound =>
    obtain rfl : value = .nat held := writes
    exact Reader.natural_ofValue admits _
  | flag =>
    obtain rfl : value = .bool held := writes
    rfl
  | texts =>
    obtain rfl : value = .strings held := writes
    exact Reader.list_string_ofValue held _
  | data => exact Reader.dict_ofValue writes.1 (Nat.le_of_lt_succ writes.2)

theorem writes_write (kind : SettingKind) {held : kind.Carrier} (admits : kind.Admits held) :
    kind.Writes (kind.write held) held := by
  cases kind with
  | data => exact ⟨ordered_ofDict fun entry inside => (admits.1 entry inside).1, admits.2⟩
  | _ => rfl

end SettingKind

/-- What is written for a setting has no numbers but integers of 64 bits. -/
theorem Setting.isIntegral_write (setting : Setting) {held : setting.kind.Carrier}
    (admits : setting.kind.Admits held) : (setting.kind.write held).IsIntegral := by
  have natural : ∀ number ≤ maxWord64, (Value.nat number).IsIntegral := by
    intro number within
    exact ⟨Int.le_trans (by decide) (Int.natCast_nonneg number), Int.ofNat_le.mpr within⟩
  cases setting with
  | requestTimeoutMs | maxServiceConsumeMs | defaultTimeoutBudgetMs => exact natural held admits
  | rpcMaxRetries => exact natural held (Nat.le_trans admits (by decide))
  | propagatorServices => exact strings_integral held
  | services => exact membersIntegral_iff.mpr fun entry inside => (admits.1 entry inside).2
  | _ => trivial

namespace Config

/-- Every value of a configuration is one that its setting can have. -/
def IsAdmitted (config : Config) : Prop := ∀ setting : Setting, setting.kind.Admits (setting.of config)

/-- Members of an object give just the chosen settings of a configuration, each of them once; other members may have
any other names, and the order does not matter. -/
structure Holds (config : Config) (chosen : Setting → Bool) (found : List (Option String × Node)) : Prop where
  /-- Every name is a text. -/
  named : ∀ member ∈ found, member.1 ≠ none
  given : ∀ setting : Setting, chosen setting = true →
    ∃ value, setting.kind.Writes value (setting.of config) ∧ nodesAt setting.name found = [.ofValue value]
  absent : ∀ setting : Setting, chosen setting = false → nodesAt setting.name found = []

/-- The chosen settings of a configuration, and the others at their defaults. -/
def restricted (config : Config) (chosen : Setting → Bool) : Config :=
  ofValues fun setting => if chosen setting then setting.of config else setting.standard

theorem of_restricted (config : Config) (chosen : Setting → Bool) (setting : Setting) :
    setting.of (config.restricted chosen) = if chosen setting then setting.of config else setting.standard :=
  of_ofValues _ setting

/-! ### Reading settings -/

/-- **Settings are read one by one**: what is there as it is read, and what is not at its default. -/
theorem ofSettings_of {ν : Type} {readers : SettingReader ν} {found : List (String × ν)} {config : Config}
    (given : ∀ (setting : Setting) (node : ν), lookupEntry setting.name found = some node →
      setting.kind.reader readers node = some (setting.of config))
    (absent : ∀ setting : Setting, lookupEntry setting.name found = none → setting.of config = setting.standard) :
    ofSettings readers found = some config := by
  have step : ∀ {α : Type} {read : Option α} {value : α} {next : α → Option Config}, read = some value →
      next value = some config → (read >>= next) = some config := by
    intro α read value next found rest
    rw [found]
    exact rest
  unfold ofSettings
  extract_lets standard take text count flag
  have each : ∀ setting : Setting,
      take (setting.kind.reader readers) setting.name setting.standard = some (setting.of config) := by
    intro setting
    unfold take
    cases there : lookupEntry setting.name found with
    | none => exact congrArg some (absent setting there).symm
    | some node => exact given setting node there
  exact step (each .commMode) <|
    step (each .coordinatorAddress) <|
    step (each .participantBaseUrl) <|
    step (each .confirmPath) <|
    step (each .cancelPath) <|
    step (each .confirmEventId) <|
    step (each .cancelEventId) <|
    step (each .meshGatewayUrl) <|
    step (each .requestTimeoutMs) <|
    step (each .maxServiceConsumeMs) <|
    step (each .defaultTimeoutBudgetMs) <|
    step (each .rpcMaxRetries) <|
    step (each .tryFailedIgnoreCallbackCancel) <|
    step (each .isPropagatorDeployment) <|
    step (each .propagatorServices) <|
    step (each .macroService) <|
    step (each .macroServiceBaseUrl) <|
    step (each .localInstanceId) <|
    step (each .secondStageHeaderStart) <|
    step (each .errorSentinelHeader) <|
    step (each .language) <|
    step (each .services) <|
    rfl

section Reading

variable {config : Config} {chosen : Setting → Bool} {found : List (Option String × Node)}

/-- No known member is repeated, so all of them are found. -/
theorem Holds.entries (holds : config.Holds chosen found) : ∃ entries,
    Fields.ofMembers settingNames found = some entries ∧
      ∀ setting : Setting, lookupEntry setting.name entries = (nodesAt setting.name found).head? := by
  have single : ∀ name ∈ settingNames, (nodesAt name found).length ≤ 1 := by
    intro name known
    rw [Setting.settingNames_eq] at known
    obtain ⟨setting, -, rfl⟩ := List.mem_map.mp known
    cases there : chosen setting with
    | false => simp [holds.absent setting there]
    | true =>
      obtain ⟨value, -, alone⟩ := holds.given setting there
      simp [alone]
  obtain ⟨entries, fields, looked⟩ := ofMembers_of_single holds.named single
  exact ⟨entries, fields, fun setting => looked _ setting.name_mem⟩

/-- **An object is read as the settings that it holds.** -/
theorem ofText?_of_holds (admitted : config.IsAdmitted) (holds : config.Holds chosen found) {text : String}
    (spelt : tokens? (Utf8.ofText text) = some (Node.object found).tokens) :
    ofText? .json text = some (config.restricted chosen) := by
  obtain ⟨entries, fields, looked⟩ := holds.entries
  have read : ofSettings (jsonSettings (Reader.deepest - 1)) entries = some (config.restricted chosen) := by
    refine ofSettings_of (fun setting node there => ?_) fun setting missing => ?_
    · rw [looked setting] at there
      rw [of_restricted]
      cases picked : chosen setting with
      | false =>
        rw [holds.absent setting picked] at there
        cases there
      | true =>
        obtain ⟨value, writes, alone⟩ := holds.given setting picked
        rw [alone] at there
        cases there
        exact setting.kind.reader_ofValue writes (admitted setting)
    · rw [looked setting] at missing
      rw [of_restricted]
      cases picked : chosen setting with
      | false => rfl
      | true =>
        obtain ⟨value, -, alone⟩ := holds.given setting picked
        rw [alone] at missing
        cases missing
  refine Reader.ofBytes?_eq_some_iff.mpr ⟨.object found, spelt, ?_⟩
  show (Fields.ofMembers settingNames found).bind _ = _
  rw [fields]
  exact read

end Reading

/-! ### Writing settings -/

/-- The members that give the chosen settings. -/
def membersOf (config : Config) (chosen : Setting → Bool) : List (String × Value) :=
  (Setting.all.filter chosen).map fun setting => (setting.name, setting.kind.write (setting.of config))

/-- A setting has one member if it is among those that are written, and none if it is not. -/
theorem nodesAt_written (config : Config) {order : List Setting} (distinct : order.Nodup) (setting : Setting) :
    nodesAt setting.name (nodesOfMembers (order.map fun setting =>
        (setting.name, setting.kind.write (setting.of config))))
      = if setting ∈ order then [.ofValue (setting.kind.write (setting.of config))] else [] := by
  induction order with
  | nil => rfl
  | cons first rest ih =>
    rw [List.nodup_cons] at distinct
    rw [List.map_cons, nodesOfMembers, nodesAt_cons, ih distinct.2]
    by_cases same : first = setting
    · subst same
      simp [distinct.1]
    · have other : first.name ≠ setting.name := fun named => same (Setting.name_injective named)
      simp [other, Ne.symm same]

section Writing

variable {config : Config} {chosen : Setting → Bool} {members extra : List (String × Value)}

/-- **The members of the chosen settings give them**, in any order and among any other members. -/
theorem holds_of_perm (admitted : config.IsAdmitted) (mixed : members.Perm (config.membersOf chosen ++ extra))
    (unknown : ∀ member ∈ extra, member.1 ∉ settingNames) : config.Holds chosen (nodesOfMembers members) := by
  have there : ∀ setting : Setting, nodesAt setting.name (nodesOfMembers members)
      = if chosen setting then [.ofValue (setting.kind.write (setting.of config))] else [] := by
    intro setting
    have other : nodesAt setting.name (nodesOfMembers extra) = [] :=
      nodesAt_eq_nil fun member inside named => unknown member inside (named ▸ setting.name_mem)
    have same := nodesAt_perm setting.name mixed
    rw [nodesAt_append, other, List.append_nil, membersOf,
      nodesAt_written config (Setting.nodup_all.filter _)] at same
    simp only [List.mem_filter, setting.mem_all, true_and] at same
    split at same <;> rename_i picked
    · rw [if_pos picked]
      exact List.perm_singleton.mp same
    · rw [if_neg picked]
      exact List.perm_nil.mp same
  refine ⟨fun member inside => ?_, fun setting picked => ?_, fun setting picked => ?_⟩
  · rw [nodesOfMembers_eq_map] at inside
    obtain ⟨written, -, rfl⟩ := List.mem_map.mp inside
    exact Option.some_ne_none _
  · exact ⟨_, setting.kind.writes_write (admitted setting), by rw [there, if_pos picked]⟩
  · rw [there, if_neg (by rw [picked]; decide)]

theorem tokens?_of_perm (admitted : config.IsAdmitted) (mixed : members.Perm (config.membersOf chosen ++ extra))
    (integral : ∀ member ∈ extra, member.2.IsIntegral) :
    tokens? (Utf8.ofText (Value.object members).text) = some (Node.object (nodesOfMembers members)).tokens := by
  have each : (Value.object members).IsIntegral := by
    rw [Value.IsIntegral, membersIntegral_iff]
    intro member inside
    rcases List.mem_append.mp (mixed.mem_iff.mp inside) with known | other
    · obtain ⟨setting, -, rfl⟩ := List.mem_map.mp known
      exact setting.isIntegral_write (admitted setting)
    · exact integral member other
  rw [tokens?_text each, ← tokens_ofValue, Node.ofValue]

end Writing

/-! ### Files -/

/-- The checks find nothing but invalid settings. -/
theorem kind_of_validate {config : Config} {fault : ConfigFault} (refused : config.validate = .error fault) :
    fault.kind = .invalid := by
  unfold validate at refused
  repeat' split at refused
  all_goals cases refused
  all_goals rfl

/-- What a file says is returned if it passes the checks. -/
theorem ofFile_of_read {path text : String} {format : FileFormat} {config : Config}
    (known : formatOf? (Text.lowered (extensionOf path)) = some format) (read : ofText? format text = some config) :
    ofFile path (.ok (Utf8.ofText text)) = config.validate.map fun _ => config := by
  unfold ofFile
  simp only [mapError_ok, Utf8.text?_ofText, known, read, bind, Except.bind]
  cases config.validate <;> rfl

/-- **Whatever comes from a file has passed the checks.** -/
theorem validate_of_ofFile {path : String} {content : Except FileFault Bytes} {config : Config}
    (loaded : ofFile path content = .ok config) : config.validate = .ok () := by
  unfold ofFile at loaded
  obtain ⟨bytes, -, loaded⟩ := bind_eq_ok_iff.mp loaded
  -- the text, its notation and its settings: each is found, or the file is refused
  split at loaded <;> obtain ⟨text, found, loaded⟩ := bind_eq_ok_iff.mp loaded <;> cases found
  dsimp only at loaded
  split at loaded <;> obtain ⟨format, found, loaded⟩ := bind_eq_ok_iff.mp loaded <;> cases found
  split at loaded <;> obtain ⟨read, found, loaded⟩ := bind_eq_ok_iff.mp loaded <;> cases found
  obtain ⟨_, valid, same⟩ := bind_eq_ok_iff.mp loaded
  cases same
  exact valid

/-- **A file gives the settings that it holds and leaves the others at their defaults**, in whatever order and among
whatever other members they stand. A result that fails the checks is refused for the fault that they find, so nothing
that fails them is ever returned. -/
theorem ofFile_loads {config : Config} (admitted : config.IsAdmitted) (chosen : Setting → Bool) {path : String}
    (json : Text.lowered (extensionOf path) = "json") :
    let result := config.restricted chosen
    (∀ setting : Setting, setting.of result = if chosen setting then setting.of config else setting.standard) ∧
    (∀ (found : List (Option String × Node)) (text : String), config.Holds chosen found →
      tokens? (Utf8.ofText text) = some (Node.object found).tokens →
      (result.validate = .ok () → ofFile path (.ok (Utf8.ofText text)) = .ok result) ∧
      ∀ fault, result.validate = .error fault →
        ofFile path (.ok (Utf8.ofText text)) = .error fault ∧ fault.kind = .invalid) ∧
    (∀ members extra : List (String × Value), members.Perm (config.membersOf chosen ++ extra) →
      (∀ member ∈ extra, member.1 ∉ settingNames ∧ member.2.IsIntegral) →
      config.Holds chosen (nodesOfMembers members) ∧
        tokens? (Utf8.ofText (Value.object members).text) = some (Node.object (nodesOfMembers members)).tokens) ∧
    ∀ (path : String) (content : Except FileFault Bytes) (loaded : Config),
      ofFile path content = .ok loaded → loaded.validate = .ok () := by
  intro result
  refine ⟨of_restricted config chosen, fun found text holds spelt => ?_, fun members extra mixed other => ⟨?_, ?_⟩,
    fun _ _ _ => validate_of_ofFile⟩
  · have known : formatOf? (Text.lowered (extensionOf path)) = some .json := by
      rw [json]
      rfl
    have file := ofFile_of_read known (ofText?_of_holds admitted holds spelt)
    refine ⟨fun valid => ?_, fun fault refused => ⟨?_, kind_of_validate refused⟩⟩
    · rw [file, valid, Except.map]
    · rw [file, refused, Except.map]
  · exact holds_of_perm admitted mixed fun member inside => (other member inside).1
  · exact tokens?_of_perm admitted mixed fun member inside => (other member inside).2

/-- A file that gives three settings, one with an escape and one with its members out of order, among a member that
stands twice and holds a known name. -/
def mixedText : String :=
  "\x7b \"x-note\": [\x7b\"comm_mode\": 7\x7d, \x7b\x7d],\n" ++
    "\"services\":\x7b\"b\": \x7b\"z\": [1, 2], \"a\": null\x7d, \"a\": -3\x7d,\t\"rpc_max_retries\": 4294967295,\n" ++
    "\"x-note\": \"twice\", \"confirm_path\": \"\\u002Fc\"\x7d"

/-- Its members. -/
def mixedMembers : List (String × Value) :=
  [("x-note", .array [.object [("comm_mode", .nat 7)], .object []]),
    ("services", .object [("b", .object [("z", .array [.nat 1, .nat 2]), ("a", .null)]), ("a", .int (-3))]),
    ("rpc_max_retries", .nat 4294967295), ("x-note", .string "twice"), ("confirm_path", .string "/c")]

def mixedConfig : Config :=
  { confirmPath := "/c", rpcMaxRetries := 4294967295, language := "fr"
    services := .ofList [("a", .int (-3)), ("b", .object [("a", .null), ("z", .array [.nat 1, .nat 2])])] }

def mixedChosen : Setting → Bool
  | .confirmPath | .rpcMaxRetries | .services => true
  | _ => false

theorem mixedConfig_holds : mixedConfig.Holds mixedChosen (nodesOfMembers mixedMembers) := by
  refine ⟨by decide, fun setting picked => ?_, fun setting picked => ?_⟩
  · cases setting with
    | confirmPath => exact ⟨.string "/c", rfl, rfl⟩
    | rpcMaxRetries => exact ⟨.nat 4294967295, rfl, rfl⟩
    | services => exact ⟨_, ⟨rfl, by decide⟩, rfl⟩
    | _ => cases picked
  · cases setting with
    | confirmPath | rpcMaxRetries | services => cases picked
    | _ => rfl

theorem mixedConfig_admitted : mixedConfig.IsAdmitted := by
  intro setting
  cases setting with
  | requestTimeoutMs | maxServiceConsumeMs | defaultTimeoutBudgetMs | rpcMaxRetries =>
    show _ ≤ _
    decide
  | services =>
    refine ⟨?_, by decide⟩
    show ∀ entry ∈ [("a", Value.int (-3)), ("b", .object [("a", .null), ("z", .array [.nat 1, .nat 2])])], _
    rw [List.forall_mem_cons, List.forall_mem_singleton]
    have small : ∀ number ≤ 2, (Value.nat number).IsIntegral := by
      unfold Value.nat Value.IsIntegral IsExact
      decide
    exact ⟨⟨rfl, by decide, by decide⟩, rfl, trivial, ⟨small 1 (by decide), small 2 (by decide), trivial⟩, trivial⟩
  | _ => trivial

set_option maxRecDepth 10000 in
theorem mixedText_tokens :
    tokens? (Utf8.ofText mixedText) = some (Node.object (nodesOfMembers mixedMembers)).tokens := by
  rfl

theorem ofFile_loads_mixed : mixedConfig.IsAdmitted ∧ Text.lowered (extensionOf "/etc/txn/Live.v2.JsOn") = "json" ∧
    ofFile "/etc/txn/Live.v2.JsOn" (.ok (Utf8.ofText mixedText)) = .ok (mixedConfig.restricted mixedChosen) := by
  have json : Text.lowered (extensionOf "/etc/txn/Live.v2.JsOn") = "json" := by decide +kernel
  obtain ⟨-, loads, -⟩ := ofFile_loads mixedConfig_admitted mixedChosen json
  exact ⟨mixedConfig_admitted, json, (loads _ _ mixedConfig_holds mixedText_tokens).1 rfl⟩

end Config

end TryConfirmCancel
