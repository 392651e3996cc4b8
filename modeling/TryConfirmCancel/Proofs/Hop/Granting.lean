/-
**The budget that headers grant.**

* `Headers.States`, `Headers.Unstated`: what headers tell under a name, and when they tell nothing;
* `Context.headerText?_eq_some_iff`, `Context.headerText?_eq_none_iff`: that is what is read of them;
* `Headers.Grants`, `Headers.MisstatesBudget`: the budget that follows, or that none does;
* `Context.extract_grants`: a context has the budget that its headers grant, and is refused if they misstate it;
* `Context.unreadableBudget_replaced`: a budget that cannot be read counts as none at all.
-/

import TryConfirmCancel.Hop.Admission
import TryConfirmCancel.Proofs.Hop.Carriage

namespace TryConfirmCancel

/-! ### What headers tell -/

namespace Headers

/-- Headers tell a text under a name: their first value reads as the text with white space around it, and the text is
not empty. -/
def States (headers : Headers) (name text : String) : Prop :=
  ∃ value raw, headers.first? name = some value ∧ readable? value = some raw ∧ Text.trim raw = text ∧ text ≠ ""

/-- Headers tell nothing under a name: there is no such header, its first value cannot be read, or it is blank. -/
inductive Unstated (headers : Headers) (name : String) : Prop
  | absent (absent : headers.first? name = none)
  | unreadable {value : Bytes} (first : headers.first? name = some value) (unreadable : readable? value = none)
  | blank {value : Bytes} {text : String} (first : headers.first? name = some value)
      (read : readable? value = some text) (blank : ∀ char ∈ text.toList, Text.isBlank char = true)

end Headers

namespace Context

section Reading

variable {headers : Headers} {name : String}

theorem headerText?_eq_some_iff {text : String} : headerText? headers name = some text ↔ headers.States name text := by
  rw [headerText?, Headers.firstText?, Option.filter_eq_some_iff, Option.map_eq_some_iff]
  constructor
  · rintro ⟨⟨raw, read, trimmed⟩, full⟩
    obtain ⟨value, first, read⟩ := Option.bind_eq_some_iff.mp read
    exact ⟨value, raw, first, read, trimmed, by simpa using full⟩
  · rintro ⟨value, raw, first, read, trimmed, full⟩
    exact ⟨⟨raw, Option.bind_eq_some_iff.mpr ⟨value, first, read⟩, trimmed⟩, by simpa using full⟩

theorem headerText?_eq_none_iff : headerText? headers name = none ↔ headers.Unstated name := by
  rw [headerText?, Headers.firstText?]
  cases first : headers.first? name with
  | none => exact ⟨fun _ => .absent first, fun _ => rfl⟩
  | some value =>
    cases read : Headers.readable? value with
    | none =>
      refine ⟨fun _ => .unreadable first read, fun _ => ?_⟩
      rw [Option.bind_some, read]
      rfl
    | some text =>
      rw [Option.bind_some, read, Option.map_some, Option.filter_eq_none_iff]
      simp only [Option.some.injEq, forall_eq', Bool.not_eq_true, Bool.not_eq_false', String.isEmpty_iff,
        Text.trim_eq_empty_iff]
      constructor
      · exact fun blank => .blank first read blank
      · intro unstated
        cases unstated with
        | absent absent => cases first.symm.trans absent
        | unreadable first' unreadable =>
          cases first.symm.trans first'
          cases read.symm.trans unreadable
        | blank first' read' blank =>
          cases first.symm.trans first'
          cases read.symm.trans read'
          exact blank

end Reading

end Context

/-! ### What budget follows -/

open Text.Numeral (Spells)

namespace Headers

/-- What headers state as their budget spells no number of 64 bits. -/
def MisstatesBudget (headers : Headers) : Prop :=
  ∃ text, headers.States HeaderName.budget text ∧ ∀ number, Spells text number → maxWord64 < number

/-- The budget that headers grant: the number that they state, or the standard one if they state nothing. -/
inductive Grants (headers : Headers) (standard : Nanoseconds) (budget : Nat) : Prop
  | stated {text : String} (states : headers.States HeaderName.budget text) (spells : Spells text budget)
      (fits : budget ≤ maxWord64)
  | standard (unstated : headers.Unstated HeaderName.budget) (same : budget = budgetOf standard)

end Headers

namespace Context

section Budget

variable {headers : Headers} {standard : Nanoseconds}

/-- The budget that is read from headers is the one that they grant. -/
theorem headerBudget_eq_ok_iff {budget : Nat} :
    headerBudget headers standard = .ok budget ↔ headers.Grants standard budget := by
  cases found : headerText? headers HeaderName.budget with
  | none =>
    have unstated := headerText?_eq_none_iff.mp found
    rw [headerBudget, found]
    constructor
    · intro read
      cases read
      exact .standard unstated rfl
    · intro grants
      cases grants with
      | stated states _ _ => cases (headerText?_eq_some_iff.mpr states).symm.trans found
      | standard _ same => rw [same]
  | some text =>
    have states := headerText?_eq_some_iff.mp found
    rw [headerBudget, found]
    constructor
    · intro read
      cases parsed : Text.Numeral.parse maxWord64 text with
      | error fault =>
        simp only [parsed] at read
        cases read
      | ok number =>
        simp only [parsed] at read
        cases read
        obtain ⟨spells, fits⟩ := Text.Numeral.parse_eq_ok_iff.mp parsed
        exact .stated states spells fits
    · intro grants
      cases grants with
      | stated states' spells fits =>
        cases (headerText?_eq_some_iff.mpr states').symm.trans found
        simp only [Text.Numeral.parse_eq_ok_iff.mpr ⟨spells, fits⟩]
        rfl
      | standard unstated _ => cases (headerText?_eq_none_iff.mpr unstated).symm.trans found

/-- Headers that do not misstate a budget grant one, and no others do. -/
theorem exists_grants_iff : (∃ budget, headers.Grants standard budget) ↔ ¬ headers.MisstatesBudget := by
  constructor
  · rintro ⟨budget, grants⟩ ⟨text, states, beyond⟩
    cases grants with
    | stated states' spells fits =>
      cases (headerText?_eq_some_iff.mpr states).symm.trans (headerText?_eq_some_iff.mpr states')
      exact absurd (beyond budget spells) (Nat.not_lt.mpr fits)
    | standard unstated _ =>
      cases (headerText?_eq_some_iff.mpr states).symm.trans (headerText?_eq_none_iff.mpr unstated)
  · intro right
    cases found : headerText? headers HeaderName.budget with
    | none => exact ⟨_, .standard (headerText?_eq_none_iff.mp found) rfl⟩
    | some text =>
      have states := headerText?_eq_some_iff.mp found
      by_contra none
      refine right ⟨text, states, fun number spells => ?_⟩
      by_contra fits
      exact none ⟨number, .stated states spells (Nat.not_lt.mp fits)⟩

variable (headers standard) (freshTrace freshSpan : String)

/-- A context is extracted just if its headers grant a budget, which it has. -/
theorem exists_extract_iff {budget : Nat} :
    (∃ context, extract freshTrace freshSpan headers standard = .ok context ∧ context.span.budget = budget) ↔
      headers.Grants standard budget := by
  rw [← headerBudget_eq_ok_iff]
  constructor
  · rintro ⟨context, extracted, rfl⟩
    exact (extract_eq_ok extracted).2.2.2.1
  · intro read
    obtain ⟨context, extracted, -, -, -, same, -⟩ := extract_of_budget freshTrace freshSpan read
    exact ⟨context, extracted, same⟩

/-- A context is refused just if its headers misstate the budget. -/
theorem exists_fault_iff :
    (∃ fault, extract freshTrace freshSpan headers standard = .error fault) ↔ headers.MisstatesBudget := by
  rw [← not_iff_not, ← @exists_grants_iff headers standard]
  constructor
  · intro right
    cases extracted : extract freshTrace freshSpan headers standard with
    | error fault => exact absurd ⟨fault, extracted⟩ right
    | ok context => exact ⟨_, (exists_extract_iff headers standard freshTrace freshSpan).mp ⟨context, extracted, rfl⟩⟩
  · rintro ⟨budget, grants⟩ ⟨fault, refused⟩
    obtain ⟨context, extracted, -⟩ := (exists_extract_iff headers standard freshTrace freshSpan).mpr grants
    cases extracted.symm.trans refused

/-- A request is admitted with the context that is extracted with the standard budget. -/
theorem admit_eq_ok_iff {context : Context} : Context.admit freshTrace freshSpan headers = .ok context ↔
    extract freshTrace freshSpan headers (ofMilliseconds standardBudget) = .ok context := by
  unfold Context.admit
  cases extract freshTrace freshSpan headers (ofMilliseconds standardBudget) with
  | error fault => exact ⟨fun refused => (by cases refused), fun refused => (by cases refused)⟩
  | ok context => simp only [Except.mapError, Except.ok.injEq]

theorem exists_refusal_iff :
    (∃ refusal, Context.admit freshTrace freshSpan headers = .error refusal ∧ refusal.status = 400) ↔
      ∃ fault, extract freshTrace freshSpan headers (ofMilliseconds standardBudget) = .error fault := by
  unfold Context.admit
  cases extract freshTrace freshSpan headers (ofMilliseconds standardBudget) with
  | error fault => exact ⟨fun _ => ⟨fault, rfl⟩, fun _ => ⟨.ofFault fault, rfl, rfl⟩⟩
  | ok context => exact ⟨fun ⟨_, refused, _⟩ => (by cases refused), fun ⟨_, refused⟩ => (by cases refused)⟩

/-- **A context has the budget that its headers grant, and is refused just if they misstate it.** A request is admitted
in the same way, with a standard budget of its own. -/
theorem extract_grants :
    ((∃ fault, extract freshTrace freshSpan headers standard = .error fault) ↔ headers.MisstatesBudget) ∧
    (∀ budget, (∃ context, extract freshTrace freshSpan headers standard = .ok context ∧
      context.span.budget = budget) ↔ headers.Grants standard budget) ∧
    ((∃ refusal, Context.admit freshTrace freshSpan headers = .error refusal ∧ refusal.status = 400) ↔
      headers.MisstatesBudget) ∧
    ∀ budget, (∃ context, Context.admit freshTrace freshSpan headers = .ok context ∧ context.span.budget = budget) ↔
      headers.Grants (ofMilliseconds standardBudget) budget := by
  refine ⟨exists_fault_iff .., fun _ => exists_extract_iff .., ?_, fun _ => ?_⟩
  · rw [exists_refusal_iff]
    exact exists_fault_iff ..
  · simp only [admit_eq_ok_iff]
    exact exists_extract_iff ..

end Budget

/-- A request that states its budget by this value. -/
def budgeted (value : Bytes) : Headers := ⟨[(HeaderName.budget, value)]⟩

/-- **A budget that cannot be read counts as none at all**, and so does a blank one: the callee has the standard budget,
however little its caller has left. -/
theorem unreadableBudget_replaced :
    (∃ context, extract "T" "S" (budgeted (Utf8.ofText "2000" ++ [0xff])) (ofMilliseconds 30000) = .ok context ∧
      context.span.budget = 30000) ∧
    (∃ context, extract "T" "S" (budgeted (Utf8.ofText " ")) (ofMilliseconds 30000) = .ok context ∧
      context.span.budget = 30000) ∧
    ¬ ∀ (headers : Headers) (standard : Nanoseconds) (context : Context),
      extract "T" "S" headers standard = .ok context → headers.first? HeaderName.budget ≠ none →
      ∃ text, headers.States HeaderName.budget text ∧ Spells text context.span.budget := by
  have unreadable : (budgeted (Utf8.ofText "2000" ++ [0xff])).Unstated HeaderName.budget :=
    @Headers.Unstated.unreadable _ _ (Utf8.ofText "2000" ++ [0xff]) (by decide +kernel) (by decide +kernel)
  have blank : (budgeted (Utf8.ofText " ")).Unstated HeaderName.budget :=
    @Headers.Unstated.blank _ _ (Utf8.ofText " ") " " (by decide +kernel) (by decide +kernel)
      (Text.trim_eq_empty_iff.mp (by decide +kernel))
  have same : 30000 = budgetOf (ofMilliseconds 30000) := by decide +kernel
  obtain ⟨context, extracted, budget⟩ := (exists_extract_iff _ _ "T" "S").mpr (.standard unreadable same)
  refine ⟨⟨context, extracted, budget⟩, (exists_extract_iff _ _ "T" "S").mpr (.standard blank same), fun told => ?_⟩
  obtain ⟨text, states, -⟩ := told _ _ context extracted (by decide +kernel)
  cases (headerText?_eq_some_iff.mpr states).symm.trans (headerText?_eq_none_iff.mpr unreadable)

end Context

end TryConfirmCancel
