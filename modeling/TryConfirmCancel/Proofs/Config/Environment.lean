/-
**Settings from the environment.**

* `SettingKind.Spells`: when a text spells a value of a kind;
* `Setting.Takes`: a setting is what its variable spells, and its default if that spells nothing;
* `SettingKind.read?_eq_some_iff`: what is read is what is spelt; `ofEnvironment_of`: every setting but one is read so;
* `ofEnvironment_takes`: so every setting takes its own variable, except for a number of repetitions that is too large;
* `wideRetries_wrap`: that one turns into another number.
-/

import TryConfirmCancel.Config.Environment
import TryConfirmCancel.Proofs.Config.Settings
import TryConfirmCancel.Proofs.Text.Numerals

namespace TryConfirmCancel

/-! ### What a text spells -/

namespace SettingKind

/-- A text spells a value. Data cannot be spelt in one text. -/
def Spells : (kind : SettingKind) → String → kind.Carrier → Prop
  | .mode, given, .http => Text.lowered (Text.trim given) = "http" ∨ Text.lowered (Text.trim given) = "direct"
  | .mode, given, .mesh => Text.lowered (Text.trim given) = "mesh"
  | .text, given, value => given = value
  | .count bound, given, number => Text.Numeral.Spells given number ∧ number ≤ bound
  | .flag, given, true => given = "true"
  | .flag, given, false => given = "false"
  -- what stands between the commas, without the white space around it and without what is empty then
  | .texts, given, names => ∃ items, items ≠ [] ∧ (∀ item ∈ items, ',' ∉ item.toList) ∧
      given = Text.join ',' items ∧ names = (items.map Text.trim).filter (· ≠ "")
  | .data, _, _ => False

/-- The value that is read from a text. -/
def read? : (kind : SettingKind) → String → Option kind.Carrier
  | .mode, given => (CommMode.parse given).toOption
  | .text, given => some given
  | .count bound, given => (Text.Numeral.parse bound given).toOption
  | .flag, given => Config.flag? given
  | .texts, given => some (Config.namesOf given)
  | .data, _ => none

theorem toOption_eq_some_iff {ε α : Type} {outcome : Except ε α} {value : α} :
    outcome.toOption = some value ↔ outcome = .ok value := by
  cases outcome <;> simp [Except.toOption]

theorem parse_eq_ok_iff {given : String} {mode : CommMode} :
    CommMode.parse given = .ok mode ↔ Spells .mode given mode := by
  unfold CommMode.parse
  by_cases http : Text.lowered (Text.trim given) = "http" ∨ Text.lowered (Text.trim given) = "direct"
  · cases mode <;> simp [Spells, http]
    rcases http with same | same <;> simp [same]
  · by_cases mesh : Text.lowered (Text.trim given) = "mesh"
    · cases mode <;> simp [Spells, mesh]
    · cases mode <;> simp [Spells, http, mesh]

theorem flag?_eq_some_iff {given : String} {flag : Bool} :
    Config.flag? given = some flag ↔ Spells .flag given flag := by
  unfold Config.flag?
  by_cases yes : given = "true"
  · cases flag <;> simp [Spells, yes]
  · by_cases no : given = "false"
    · cases flag <;> simp [Spells, no]
    · cases flag <;> simp [Spells, yes, no]

/-- A text is a list of names in one way. -/
theorem namesOf_eq_iff {given : String} {names : List String} :
    Config.namesOf given = names ↔ Spells .texts given names := by
  have test : (fun name : String => !name.isEmpty) = fun name => decide (name ≠ "") := by
    funext name
    by_cases empty : name = "" <;> simp [empty]
  unfold Config.namesOf
  rw [test]
  constructor
  · intro read
    exact ⟨Text.split ',' given, Text.split_ne_nil _ _, fun _ => Text.not_mem_of_mem_split,
      (Text.join_split _ _).symm, read.symm⟩
  · rintro ⟨items, some, free, rfl, rfl⟩
    rw [Text.split_join_of_not_mem some free]

/-- **What is read from a text is what it spells.** -/
theorem read?_eq_some_iff (kind : SettingKind) {given : String} {value : kind.Carrier} :
    kind.read? given = some value ↔ kind.Spells given value := by
  cases kind with
  | mode =>
    show (CommMode.parse given).toOption = some value ↔ _
    rw [toOption_eq_some_iff]
    exact parse_eq_ok_iff
  | text => exact Option.some_inj
  | count bound =>
    show (Text.Numeral.parse bound given).toOption = some value ↔ Text.Numeral.Spells given value ∧ value ≤ bound
    rw [toOption_eq_some_iff, Text.Numeral.parse_eq_ok_iff]
  | flag => exact flag?_eq_some_iff
  | texts =>
    show some (Config.namesOf given) = some value ↔ _
    rw [Option.some_inj]
    exact namesOf_eq_iff
  | data => exact iff_of_false (fun read => by cases read) id

end SettingKind

/-! ### Variables -/

namespace Setting

/-- The variable of a setting, without what all variables begin with. -/
def stem? : Setting → Option String
  | commMode => some "COMM_MODE"
  | coordinatorAddress => some "COORDINATOR_ADDRESS"
  | participantBaseUrl => some "PARTICIPANT_BASE_URL"
  | confirmPath => some "CONFIRM_PATH"
  | cancelPath => some "CANCEL_PATH"
  | confirmEventId => some "CONFIRM_EVENT_ID"
  | cancelEventId => some "CANCEL_EVENT_ID"
  | meshGatewayUrl => some "MESH_GATEWAY_URL"
  | requestTimeoutMs => some "REQUEST_TIMEOUT_MS"
  | maxServiceConsumeMs => some "MAX_SERVICE_CONSUME_MS"
  | defaultTimeoutBudgetMs => some "DEFAULT_TIMEOUT_BUDGET_MS"
  | rpcMaxRetries => some "RPC_MAX_RETRIES"
  | tryFailedIgnoreCallbackCancel => some "TRY_FAILED_IGNORE_CALLBACK_CANCEL"
  | isPropagatorDeployment => some "IS_PROPAGATOR"
  | propagatorServices => some "PROPAGATOR_SERVICES"
  | macroService => some "MACRO_SERVICE"
  | macroServiceBaseUrl => some "MACRO_SERVICE_BASE_URL"
  | localInstanceId => some "LOCAL_INSTANCE_ID"
  | secondStageHeaderStart => some "SECOND_STAGE_HEADER_PREFIX"
  | errorSentinelHeader => some "ERROR_SENTINEL_HEADER"
  | language | services => none

/-- The variable of a setting. -/
def variableName? (setting : Setting) : Option String := setting.stem?.map ("MESH_TXN_" ++ ·)

/-- What the environment says about a setting. -/
def given (setting : Setting) (valueOf : String → Option String) : Option String := setting.variableName?.bind valueOf

/-- A setting is what a text spells, and its default if there is no text or if that spells nothing. -/
def Takes (setting : Setting) (given : Option String) (value : setting.kind.Carrier) : Prop :=
  (∃ text, given = some text ∧ setting.kind.Spells text value) ∨
    value = setting.standard ∧ ∀ text, given = some text → ∀ other, ¬ setting.kind.Spells text other

/-- What is read, and the default if nothing is, is what a setting takes. -/
theorem takes_read (setting : Setting) (given : Option String) :
    setting.Takes given ((given.bind setting.kind.read?).getD setting.standard) := by
  cases given with
  | none => exact .inr ⟨rfl, fun _ none => by cases none⟩
  | some text =>
    rw [Option.bind_some]
    cases read : setting.kind.read? text with
    | none =>
      refine .inr ⟨rfl, fun _ same other spells => ?_⟩
      cases same
      rw [setting.kind.read?_eq_some_iff.mpr spells] at read
      cases read
    | some value => exact .inl ⟨text, rfl, setting.kind.read?_eq_some_iff.mp read⟩

/-- A number that has no place in 32 bits, as what the environment says about the repetitions. -/
def IsTooLarge (setting : Setting) (given : Option String) (number : Nat) : Prop :=
  setting = rpcMaxRetries ∧ maxWord32 < number ∧ number ≤ maxWord64 ∧
    ∃ text, given = some text ∧ Text.Numeral.Spells text number

end Setting

section Environment

variable (valueOf : String → Option String)

/-- Every setting but the number of repetitions is what is read from its variable. -/
theorem ofEnvironment_of {setting : Setting} (other : setting ≠ .rpcMaxRetries) :
    setting.of (Config.ofEnvironment valueOf)
      = ((setting.given valueOf).bind setting.kind.read?).getD setting.standard := by
  unfold Config.ofEnvironment
  cases setting with
  | rpcMaxRetries => exact absurd rfl other
  | propagatorServices => exact congrArg (Option.getD · _) Option.map_eq_bind
  | coordinatorAddress | participantBaseUrl | confirmPath | cancelPath | confirmEventId | cancelEventId
  | meshGatewayUrl | macroServiceBaseUrl | localInstanceId | secondStageHeaderStart | errorSentinelHeader =>
    exact congrArg (Option.getD · _) (Option.bind_fun_some _).symm
  | _ => rfl

/-- The number of repetitions is read with 64 bits and cut to 32. -/
theorem ofEnvironment_rpcMaxRetries : (Config.ofEnvironment valueOf).rpcMaxRetries
    = (((Setting.rpcMaxRetries.given valueOf).bind (SettingKind.count maxWord64).read?).getD 0) % (maxWord32 + 1) := by
  unfold Config.ofEnvironment
  rfl

variable {valueOf}

/-- A number of 64 bits is cut. -/
theorem rpcMaxRetries_of_spelt {text : String} {number : Nat}
    (set : Setting.rpcMaxRetries.given valueOf = some text) (spells : Text.Numeral.Spells text number)
    (within : number ≤ maxWord64) :
    (Config.ofEnvironment valueOf).rpcMaxRetries = number % (maxWord32 + 1) := by
  have read : (SettingKind.count maxWord64).read? text = some number :=
    (SettingKind.count maxWord64).read?_eq_some_iff.mpr ⟨spells, within⟩
  rw [ofEnvironment_rpcMaxRetries, set, Option.bind_some, read, Option.getD_some]

/-- The number of repetitions takes its variable, as long as that is not too large. -/
theorem takes_rpcMaxRetries
    (fits : ∀ number, ¬ Setting.rpcMaxRetries.IsTooLarge (Setting.rpcMaxRetries.given valueOf) number) :
    Setting.rpcMaxRetries.Takes (Setting.rpcMaxRetries.given valueOf) (Config.ofEnvironment valueOf).rpcMaxRetries := by
  by_cases spelt : ∃ text number, Setting.rpcMaxRetries.given valueOf = some text ∧
      Text.Numeral.Spells text number ∧ number ≤ maxWord64
  · obtain ⟨text, number, set, spells, within⟩ := spelt
    have small : number ≤ maxWord32 := by
      refine Nat.le_of_not_lt fun large => fits number ⟨rfl, large, within, text, set, spells⟩
    rw [rpcMaxRetries_of_spelt set spells within, Nat.mod_eq_of_lt (Nat.lt_succ_of_le small)]
    exact .inl ⟨text, set, spells, small⟩
  · have unspelt : ∀ text, Setting.rpcMaxRetries.given valueOf = some text → ∀ number ≤ maxWord64,
        ¬ Text.Numeral.Spells text number := fun text set number within spells =>
      spelt ⟨text, number, set, spells, within⟩
    have unread : (Setting.rpcMaxRetries.given valueOf).bind (SettingKind.count maxWord64).read? = none := by
      rw [Option.eq_none_iff_forall_ne_some]
      intro number found
      obtain ⟨text, set, read⟩ := Option.bind_eq_some_iff.mp found
      obtain ⟨spells, within⟩ := (SettingKind.count maxWord64).read?_eq_some_iff.mp read
      exact unspelt text set number within spells
    rw [ofEnvironment_rpcMaxRetries, unread]
    refine .inr ⟨rfl, fun text set number spells => ?_⟩
    exact unspelt text set number (Nat.le_trans spells.2 (by decide)) spells.1

end Environment

/-- **Every setting is what its own variable spells, and its default if that spells nothing**, except that a number of
repetitions with more than 32 bits, but no more than 64, leaves what is left of it in 32 bits. No other variable has any
influence on it. -/
theorem ofEnvironment_takes (valueOf : String → Option String) (setting : Setting) :
    let value := setting.of (Config.ofEnvironment valueOf)
    ((∀ number, ¬ setting.IsTooLarge (setting.given valueOf) number) → setting.Takes (setting.given valueOf) value) ∧
    (∀ number, setting.IsTooLarge (setting.given valueOf) number →
      (Config.ofEnvironment valueOf).rpcMaxRetries = number % (maxWord32 + 1)) ∧
    ∀ other : String → Option String, setting.given other = setting.given valueOf →
      setting.of (Config.ofEnvironment other) = value := by
  refine ⟨fun fits => ?_, ?_, fun other same => ?_⟩
  · by_cases repeats : setting = .rpcMaxRetries
    · subst repeats
      exact takes_rpcMaxRetries fits
    · rw [ofEnvironment_of valueOf repeats]
      exact setting.takes_read _
  · rintro number ⟨rfl, -, within, text, set, spells⟩
    exact rpcMaxRetries_of_spelt set spells within
  · by_cases repeats : setting = .rpcMaxRetries
    · subst repeats
      show (Config.ofEnvironment other).rpcMaxRetries = (Config.ofEnvironment valueOf).rpcMaxRetries
      rw [ofEnvironment_rpcMaxRetries, ofEnvironment_rpcMaxRetries, same]
    · rw [ofEnvironment_of valueOf repeats, ofEnvironment_of other repeats, same]

/-- An environment that asks for more repetitions than 32 bits can count. -/
def wideRetries (name : String) : Option String :=
  if name = "MESH_TXN_RPC_MAX_RETRIES" then some "4294967297" else none

/-- **A number of repetitions that is too large turns into another number** instead of the default. -/
theorem wideRetries_wrap : (Config.ofEnvironment wideRetries).rpcMaxRetries = 1 ∧
    ¬ ∀ (valueOf : String → Option String) (setting : Setting),
      setting.Takes (setting.given valueOf) (setting.of (Config.ofEnvironment valueOf)) := by
  have set : Setting.rpcMaxRetries.given wideRetries = some "4294967297" := by decide +kernel
  have spells : Text.Numeral.Spells "4294967297" 4294967297 := Text.Numeral.spells_render 4294967297
  have cut : (Config.ofEnvironment wideRetries).rpcMaxRetries = 1 :=
    rpcMaxRetries_of_spelt set spells (by decide)
  refine ⟨cut, fun takes => ?_⟩
  rcases takes wideRetries .rpcMaxRetries with ⟨text, same, spelt, within⟩ | ⟨standard, -⟩
  · obtain rfl : "4294967297" = text := Option.some.inj (set.symm.trans same)
    rw [← spells.unique spelt] at within
    exact absurd within (by decide)
  · exact absurd (cut.symm.trans standard) (by decide)

end TryConfirmCancel
