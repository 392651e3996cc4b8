/-
**What crosses from a caller to its callee.**

The headers of a request may hold anything before the context of the caller is written into them.

* `headerText?_inject_forceCancel`, `headerBudget_inject`, `held_inject`: what a callee reads, whatever the headers
  held before;
* `extract_inject_unmarked`: the context of a callee, if they held nothing that carries a context;
* `extract_inject_agree_iff`: when the contexts of two callees agree, if they held different things;
* `reused_headers_leak`: they need not agree.
-/

import TryConfirmCancel.Proofs.Hop.Carriage

namespace TryConfirmCancel

/-! ### Texts in headers -/

namespace Headers

/-- No field has a name under which a context is carried. -/
def Unmarked (headers : Headers) : Prop := ∀ field ∈ headers.fields, field.1 ∉ HeaderName.all

/-- The fields whose names carry no context. -/
def others (headers : Headers) : List (String × Bytes) :=
  headers.fields.filter fun field => decide (field.1 ∉ HeaderName.all)

theorem Unmarked.first? {headers : Headers} (unmarked : headers.Unmarked) {name : String}
    (marks : name ∈ HeaderName.all) : headers.first? name = none := by
  rw [Headers.first?, Option.map_eq_none_iff, List.find?_eq_none]
  rintro field member same
  rw [beq_iff_eq] at same
  exact unmarked field member (same ▸ marks)

end Headers

namespace Context

open Headers

/-! ### What stands under each name -/

section Read

variable (caller : Context) (headers : Headers)

/-- A cancel that is forced stays forced; one that is not forced leaves what stood there before. -/
theorem headerText?_inject_forceCancel :
    headerText? (caller.inject headers) HeaderName.forceCancel
      = if caller.transaction.forceCancel then some "true" else headerText? headers HeaderName.forceCancel := by
  have sameForce : caller.transaction.forCallee.forceCancel = caller.transaction.forceCancel := by
    rw [Transaction.forCallee_eq]
  rw [headerText?, firstText?, inject, sameForce]
  by_cases forced : caller.transaction.forceCancel
  · rw [if_pos forced, if_pos forced, first?_set, if_pos rfl]
    decide
  · have kept := first?_foldl_injectText caller.carriedTexts_names.2.2 headers
    rw [carriedTexts] at kept
    rw [if_neg forced, if_neg forced, first?_set, if_neg (by decide), kept]
    rfl

/-- The budget is written whatever it is, so that it is read as it is. -/
theorem headerBudget_inject {caller : Context} (fits : caller.span.budget ≤ maxWord64) (standard : Nanoseconds) :
    headerBudget (caller.inject headers) standard = .ok caller.span.budget := by
  rw [headerBudget, headerText?_inject_budget]
  simp only [Text.Numeral.parse_render fits]
  rfl

end Read

/-! ### The fields of a callee -/

theorem traceId_mem_carriedTexts (caller : Context) :
    (HeaderName.traceId, caller.span.traceId) ∈ caller.carriedTexts := List.mem_cons_self

theorem spanId_mem_carriedTexts (caller : Context) :
    (HeaderName.spanId, caller.span.spanId) ∈ caller.carriedTexts :=
  List.mem_cons_of_mem _ List.mem_cons_self

theorem demandsCancel_of_unmarked {headers : Headers} (unmarked : headers.Unmarked) :
    demandsCancel headers = false := by
  rw [demandsCancel, held, headerText?, firstText?, unmarked.first? (by decide)]
  decide

section Injected

variable (caller : Context)

theorem mem_all_of_carried {name text : String} (carried : (name, text) ∈ caller.carriedTexts) :
    name ∈ HeaderName.all := by
  have names : ∀ known ∈ caller.carriedTexts.map Prod.fst, known ∈ HeaderName.all := by
    simp only [carriedTexts, List.map_cons, List.map_nil]
    decide
  exact names name (List.mem_map.mpr ⟨_, carried, rfl⟩)

/-- Where nothing stood before, a text is read as far as it is legible. -/
theorem headerText?_inject_unmarked {headers : Headers} (unmarked : headers.Unmarked) {name text : String}
    (carried : (name, text) ∈ caller.carriedTexts) :
    headerText? (caller.inject headers) name = Text.nonEmpty? (legible text) := by
  have nothing : headerText? headers name = none := by
    rw [headerText?, firstText?, unmarked.first? (caller.mem_all_of_carried carried)]
    rfl
  rw [headerText?_inject_text carried]
  by_cases written : isWritten text
  · rw [if_pos written]
  · rw [if_neg written, nothing, legible_of_not_written (by simpa using written)]
    rfl

/-- A text that is written is read as far as it is legible; one that is not leaves what stood there before. -/
theorem held_inject (headers : Headers) (field : Inherited) (spanId : String) :
    held (caller.inject headers) field.header
      = if isWritten (field.of (caller.downstream spanId)) then legible (field.of (caller.downstream spanId))
        else held headers field.header := by
  rw [held, headerText?_inject_text (field.mem_carriedTexts caller spanId)]
  split
  · exact Text.getD_nonEmpty?_empty _
  · rfl

theorem demandsCancel_inject (headers : Headers) :
    demandsCancel (caller.inject headers) = (caller.transaction.forceCancel || demandsCancel headers) := by
  rw [demandsCancel, held, headerText?_inject_forceCancel]
  cases caller.transaction.forceCancel with
  | false => rfl
  | true => exact (by decide : Text.sameLetters "true" "true" = true)

end Injected

/-! ### One callee -/

/-- **What a callee has of its caller**, if the headers of the request held nothing that carries a context. -/
theorem extract_inject_unmarked {caller : Context} (fits : caller.span.budget ≤ maxWord64) {headers : Headers}
    (unmarked : headers.Unmarked) (freshTrace freshSpan : String) (standard : Nanoseconds) :
    ∃ callee, extract freshTrace freshSpan (caller.inject headers) standard = .ok callee ∧
      callee.span =
        { traceId := if legible caller.span.traceId = "" then freshTrace else legible caller.span.traceId
          spanId := freshSpan
          parentSpanId := if legible caller.span.spanId = "" then callee.span.traceId else legible caller.span.spanId
          replyTo := legible caller.span.replyTo
          budget := caller.span.budget } ∧
      callee.transaction =
        { rootXid := legible caller.transaction.rootXid
          parentXid := legible
            (if caller.transaction.branchXid = "" then caller.transaction.parentXid else caller.transaction.branchXid)
          branchXid := legible caller.transaction.branchXid
          agentAddress := legible caller.transaction.agentAddress
          formerAgentAddress := legible caller.transaction.formerAgentAddress
          forceCancel := caller.transaction.forceCancel } := by
  obtain ⟨callee, extracted, traceId, spanId, parentSpanId, budget, inherited, forceCancel, -⟩ :=
    extract_of_budget freshTrace freshSpan (headerBudget_inject headers fits standard)
  have texts : ∀ field : Inherited, field.of callee = legible (field.of (caller.downstream freshSpan)) := by
    intro field
    rw [inherited, held, headerText?_inject_unmarked caller unmarked (field.mem_carriedTexts caller freshSpan)]
    exact Text.getD_nonEmpty?_empty _
  rw [headerText?_inject_unmarked caller unmarked caller.traceId_mem_carriedTexts, Text.getD_nonEmpty?] at traceId
  rw [headerText?_inject_unmarked caller unmarked caller.spanId_mem_carriedTexts, Text.getD_nonEmpty?] at parentSpanId
  rw [demandsCancel_inject, demandsCancel_of_unmarked unmarked, Bool.or_false] at forceCancel
  have replyTo : callee.span.replyTo = legible caller.span.replyTo := texts .replyTo
  have rootXid : callee.transaction.rootXid = legible caller.transaction.forCallee.rootXid := texts .rootXid
  have parentXid : callee.transaction.parentXid = legible caller.transaction.forCallee.parentXid := texts .parentXid
  have branchXid : callee.transaction.branchXid = legible caller.transaction.forCallee.branchXid := texts .branchXid
  have agent : callee.transaction.agentAddress = legible caller.transaction.forCallee.agentAddress :=
    texts .agentAddress
  have formerAgent : callee.transaction.formerAgentAddress = legible caller.transaction.forCallee.formerAgentAddress :=
    texts .formerAgentAddress
  simp only [Transaction.forCallee_eq] at rootXid parentXid branchXid agent formerAgent
  refine ⟨callee, extracted, ?_, ?_⟩
  · rw [← parentSpanId, ← traceId, ← spanId, ← budget, ← replyTo]
  · rw [← rootXid, ← parentXid, ← branchXid, ← agent, ← formerAgent, ← forceCancel]

/-- A caller without a trace, with texts that no header can carry, or that no callee can read. -/
def oddCaller : Context :=
  .of
    { traceId := "", spanId := "  S-7\t", parentSpanId := "P-7", replyTo := "http://caf\u00e9/", budget := maxWord64 }
    { rootXid := "R-1 ", parentXid := "P-1", branchXid := "B\n2", agentAddress := "http://dxc|/b|/j|/e"
      formerAgentAddress := " ", forceCancel := true }

/-- Headers of a request that carry no context. -/
def plainHeaders : Headers := ⟨[("content-type", Utf8.ofText "text/plain")]⟩

theorem oddCaller_read : oddCaller.span.budget ≤ maxWord64 ∧ plainHeaders.Unmarked ∧
    ∃ callee, extract "T-9" "S-9" (oddCaller.inject plainHeaders) 0 = .ok callee ∧
      callee.span =
        { traceId := "T-9", spanId := "S-9", parentSpanId := "S-7", replyTo := "", budget := maxWord64 } ∧
      callee.transaction =
        { rootXid := "R-1", parentXid := "", branchXid := "", agentAddress := "http://dxc|/b|/j|/e"
          formerAgentAddress := "", forceCancel := true } := by
  have fits : oddCaller.span.budget ≤ maxWord64 := Nat.le_refl _
  have unmarked : plainHeaders.Unmarked := by
    unfold Unmarked
    decide +kernel
  obtain ⟨callee, extracted, span, transaction⟩ := extract_inject_unmarked fits unmarked "T-9" "S-9" 0
  have named : legible oddCaller.span.spanId ≠ "" := by decide +kernel
  rw [if_neg named] at span
  exact ⟨fits, unmarked, callee, extracted, span.trans (by decide +kernel), transaction.trans (by decide +kernel)⟩

/-! ### Two callees -/

/-- **When two callees of one caller agree**: always on the budget; on a text if the caller has one that is written,
and otherwise just if the headers of both requests held the same before; and on the forced cancel if the caller forces
it, and otherwise just if the headers of both demanded it or neither did. -/
theorem extract_inject_agree_iff {caller : Context} (fits : caller.span.budget ≤ maxWord64) (left right : Headers)
    (leftTrace leftSpan rightTrace rightSpan : String) (leftStandard rightStandard : Nanoseconds) :
    ∃ first second, extract leftTrace leftSpan (caller.inject left) leftStandard = .ok first ∧
      extract rightTrace rightSpan (caller.inject right) rightStandard = .ok second ∧
      first.span.budget = caller.span.budget ∧ second.span.budget = caller.span.budget ∧
      (∀ field : Inherited, field.of first = field.of second ↔
        isWritten (field.of (caller.downstream leftSpan)) = true ∨ held left field.header = held right field.header) ∧
      (first.transaction.forceCancel = second.transaction.forceCancel ↔
        caller.transaction.forceCancel = true ∨ demandsCancel left = demandsCancel right) := by
  obtain ⟨first, extractedFirst, -, -, -, budgetFirst, textsFirst, cancelFirst, -⟩ :=
    extract_of_budget leftTrace leftSpan (headerBudget_inject left fits leftStandard)
  obtain ⟨second, extractedSecond, -, -, -, budgetSecond, textsSecond, cancelSecond, -⟩ :=
    extract_of_budget rightTrace rightSpan (headerBudget_inject right fits rightStandard)
  refine ⟨first, second, extractedFirst, extractedSecond, budgetFirst, budgetSecond, fun field => ?_, ?_⟩
  · rw [textsFirst, textsSecond, held_inject caller left field leftSpan, held_inject caller right field leftSpan]
    by_cases written : isWritten (field.of (caller.downstream leftSpan)) <;> simp [written]
  · rw [cancelFirst, cancelSecond, demandsCancel_inject, demandsCancel_inject]
    cases caller.transaction.forceCancel <;> simp

/-- A caller that takes part in no transaction. -/
def loneCaller : Context :=
  .of { traceId := "T-1", spanId := "S-1", parentSpanId := "T-1", replyTo := "", budget := 5000 } .none

/-- Headers of a request that came from someone else. -/
def reusedHeaders : Headers :=
  ⟨[(HeaderName.rootXid, Utf8.ofText "R-9"), (HeaderName.forceCancel, Utf8.ofText "true")]⟩

theorem loneCaller_taken : loneCaller.span.budget ≤ maxWord64 ∧
    ∃ first second, extract "T-8" "S-8" (loneCaller.inject .empty) 0 = .ok first ∧
      extract "T-9" "S-9" (loneCaller.inject reusedHeaders) 0 = .ok second ∧
      first.span.budget = 5000 ∧ second.span.budget = 5000 ∧
      first.transaction.branchXid = second.transaction.branchXid ∧
      first.transaction.rootXid ≠ second.transaction.rootXid ∧
      first.transaction.forceCancel ≠ second.transaction.forceCancel := by
  have fits : loneCaller.span.budget ≤ maxWord64 := by decide
  obtain ⟨first, second, extractedFirst, extractedSecond, budgetFirst, budgetSecond, texts, cancel⟩ :=
    extract_inject_agree_iff fits .empty reusedHeaders "T-8" "S-8" "T-9" "S-9" 0 0
  refine ⟨fits, first, second, extractedFirst, extractedSecond, budgetFirst, budgetSecond, ?_, ?_, ?_⟩
  · exact (texts .branchXid).mpr (.inr (by decide +kernel))
  · exact fun same => absurd ((texts .rootXid).mp same) (by decide +kernel)
  · exact fun same => absurd (cancel.mp same) (by decide +kernel)

/-- **Headers that are used again may carry on what another caller wrote**: two requests of one caller whose headers
differ in nothing but what carries a context may give their callees different transactions. -/
theorem reused_headers_leak :
    ¬ ∀ (caller : Context) (left right : Headers), caller.span.budget ≤ maxWord64 → left.others = right.others →
      ∀ (freshTrace freshSpan : String) (standard : Nanoseconds) (first second : Context),
        extract freshTrace freshSpan (caller.inject left) standard = .ok first →
        extract freshTrace freshSpan (caller.inject right) standard = .ok second →
        first.span.budget = second.span.budget ∧ first.span.replyTo = second.span.replyTo ∧
          first.transaction = second.transaction := by
  intro agree
  have fits : loneCaller.span.budget ≤ maxWord64 := by decide
  obtain ⟨first, extractedFirst, -, -, -, -, textsFirst, -, -⟩ :=
    extract_of_budget "T-8" "S-8" (headerBudget_inject .empty fits 0)
  obtain ⟨second, extractedSecond, -, -, -, -, textsSecond, -, -⟩ :=
    extract_of_budget "T-8" "S-8" (headerBudget_inject reusedHeaders fits 0)
  have same := (agree loneCaller .empty reusedHeaders fits (by decide +kernel) _ _ _ _ _ extractedFirst
    extractedSecond).2.2
  have sameRoot : held (loneCaller.inject .empty) HeaderName.rootXid
      = held (loneCaller.inject reusedHeaders) HeaderName.rootXid :=
    (textsFirst .rootXid).symm.trans ((congrArg Transaction.rootXid same).trans (textsSecond .rootXid))
  exact absurd sameRoot (by decide +kernel)

end Context

end TryConfirmCancel
