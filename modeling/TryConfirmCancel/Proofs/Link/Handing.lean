/-
**How far an assigned identifier travels.**

A hop takes whatever identifier its coordinator assigns, as long as it is not empty. The next hop has what can be read
of it behind a header, so the two agree just if the identifier is portable.

* `Context.enteredBy_xids`: a hop that got in holds its identifier as its branch, and as the root if it began;
* `Link.exists_callee`, `enterBy_handsOn`: the callee of such a hop has what is legible of the identifier;
* `strangeXids_lost`: so an identifier that is accepted need not arrive, and may arrive as another.
-/

import TryConfirmCancel.Proofs.Hop.Crossing
import TryConfirmCancel.Proofs.Transaction.Sequence

namespace TryConfirmCancel

open Headers (legible)

namespace Context

/-- A hop that got in holds its identifier as its branch, and as the root if it began the transaction. -/
theorem enteredBy_xids (context : Context) (entry : Entry) (xid coordinator : String) :
    let entered := (context.enteredBy entry xid coordinator).transaction
    entered.branchXid = xid ∧
      entered.rootXid = if entry = .beginning then xid else context.transaction.rootXid := by
  cases entry with
  | beginning => exact ⟨begun_branchXid .., begun_rootXid ..⟩
  | joining => exact ⟨joined_branchXid .., joined_rootXid ..⟩

/-- What a callee has of the identifiers of its caller. -/
theorem extract_inject_xids {caller : Context} (fits : caller.span.budget ≤ maxWord64) {headers : Headers}
    (unmarked : headers.Unmarked) (freshTrace freshSpan : String) (standard : Nanoseconds) :
    ∃ callee, extract freshTrace freshSpan (caller.inject headers) standard = .ok callee ∧
      callee.transaction.rootXid = legible caller.transaction.rootXid ∧
      callee.transaction.branchXid = legible caller.transaction.branchXid := by
  obtain ⟨callee, extracted, -, transaction⟩ :=
    extract_inject_unmarked fits unmarked freshTrace freshSpan standard
  exact ⟨callee, extracted, by rw [transaction], by rw [transaction]⟩

end Context

section Handing

variable {σ : Type} {link : Link σ} {entry : Entry} {config : Config} {coordinator xid : String} {entrant : Entrant}
  {context : Context} {world : σ} {headers : Headers}

/-- A hop that got in holds the identifier that the reply assigns, and its callee has what is legible of it. -/
theorem Link.exists_callee (fits : context.span.budget ≤ maxWord64)
    (admitted : (link.enterBy entry config coordinator entrant context world).answer = .ok xid)
    (unmarked : headers.Unmarked) (freshTrace freshSpan : String) (standard : Nanoseconds) :
    let caller := (link.enterBy entry config coordinator entrant context world).context
    (∃ request response, (link.send request world).1 = .ok response ∧ entry.Accepts response xid) ∧
    caller.transaction.branchXid = xid ∧ (entry = .beginning → caller.transaction.rootXid = xid) ∧
    ∃ callee, Context.extract freshTrace freshSpan (caller.inject headers) standard = .ok callee ∧
      callee.transaction.rootXid = legible caller.transaction.rootXid ∧
      callee.transaction.branchXid = legible xid := by
  have enters := link.enterBy_enters config coordinator context world entry entrant
  generalize link.enterBy entry config coordinator entrant context world = step at enters admitted ⊢
  intro caller
  cases enters with
  | unsent failure _ => cases admitted
  | refused failure _ _ _ _ => cases admitted
  | @admitted request response _ _ _ came accepts =>
    cases admitted
    obtain ⟨branch, root⟩ :=
      (context.consume (link.elapsed world request)).enteredBy_xids entry xid coordinator
    have within : caller.span.budget ≤ maxWord64 := by
      show ((context.consume _).enteredBy entry xid coordinator).span.budget ≤ maxWord64
      rw [Context.enteredBy_span, Context.consume_span, Span.consume_budget]
      exact Nat.le_trans (charged_le ..) fits
    obtain ⟨callee, extracted, readRoot, readBranch⟩ :=
      Context.extract_inject_xids within unmarked freshTrace freshSpan standard
    rw [branch] at readBranch
    refine ⟨⟨request, response, came, accepts⟩, branch, fun begins => ?_, callee, extracted, readRoot, readBranch⟩
    rw [root, if_pos begins]

/-- **A hop that got in hands on what is legible of its identifier.** It holds the very identifier that the reply of the
coordinator assigns, and its callee has the same just if that is portable. -/
theorem enterBy_handsOn (fits : context.span.budget ≤ maxWord64)
    (admitted : (link.enterBy entry config coordinator entrant context world).answer = .ok xid)
    (unmarked : headers.Unmarked) (freshTrace freshSpan : String) (standard : Nanoseconds) :
    let caller := (link.enterBy entry config coordinator entrant context world).context
    (∃ request response, (link.send request world).1 = .ok response ∧ entry.Accepts response xid) ∧
    caller.transaction.branchXid = xid ∧ (entry = .beginning → caller.transaction.rootXid = xid) ∧
    ∃ callee, Context.extract freshTrace freshSpan (caller.inject headers) standard = .ok callee ∧
      callee.transaction.rootXid = legible caller.transaction.rootXid ∧ callee.transaction.branchXid = legible xid ∧
      (callee.transaction.branchXid = xid ↔ Portable xid) ∧
      (entry = .beginning → (callee.transaction.rootXid = xid ↔ Portable xid)) := by
  intro caller
  obtain ⟨⟨request, response, came, accepts⟩, branch, began, callee, extracted, readRoot, readBranch⟩ :=
    Link.exists_callee fits admitted unmarked freshTrace freshSpan standard
  have kept := Headers.legible_eq_iff accepts.ne_empty
  refine ⟨⟨request, response, came, accepts⟩, branch, began, callee, extracted, readRoot, readBranch, ?_, ?_⟩
  · rwa [readBranch]
  · intro begins
    rwa [readRoot, began begins]

end Handing

/-! ### Strange identifiers -/

/-- A coordinator that assigns this identifier to whoever begins. -/
def assigns (xid : String) : Rehearsal Unit := .start shopSettings [assigning Message.begun ⟨xid, 0⟩] ()

/-- The order begins at this coordinator. -/
abbrev orderBegins (xid : String) : Step (Rehearsal Unit) (Except Failure String) :=
  Rehearsal.link.enterBy .beginning shopSettings shopSettings.coordinatorAddress ⟨"orders", .cancel, ⟨[]⟩⟩ orderContext
    (assigns xid)

/-- An identifier with a blank inside arrives as it was assigned. -/
theorem spacedXid_handedOn : orderContext.span.budget ≤ maxWord64 ∧ (orderBegins "R 7").answer = .ok "R 7" ∧
    Headers.empty.Unmarked ∧ ∃ callee,
      Context.extract "T" "S" ((orderBegins "R 7").context.inject .empty) 0 = .ok callee ∧
      callee.transaction.rootXid = "R 7" ∧ callee.transaction.branchXid = "R 7" := by
  have fits : orderContext.span.budget ≤ maxWord64 := by decide +kernel
  have admitted : (orderBegins "R 7").answer = .ok "R 7" := by decide +kernel
  have unmarked : Headers.empty.Unmarked := fun _ none => by cases none
  have portable : Portable "R 7" := ⟨by decide +kernel, by decide +kernel⟩
  obtain ⟨-, -, -, callee, extracted, -, -, branch, root⟩ := 
    @enterBy_handsOn _ Rehearsal.link .beginning shopSettings shopSettings.coordinatorAddress "R 7"
      ⟨"orders", .cancel, ⟨[]⟩⟩ orderContext (assigns "R 7") .empty fits admitted unmarked "T" "S" 0
  exact ⟨fits, admitted, unmarked, callee, extracted, (root rfl).mpr portable, branch.mpr portable⟩

/-- **An identifier that is accepted need not arrive**: blanks around it are lost, and it is lost altogether if it has a
letter that is not ASCII. -/
theorem strangeXids_lost :
    (∃ callee, (orderBegins " R-1 ").answer = .ok " R-1 " ∧
      Context.extract "T" "S" ((orderBegins " R-1 ").context.inject .empty) 0 = .ok callee ∧
      callee.transaction.rootXid = "R-1") ∧
    (∃ callee, (orderBegins "R-\u00e9").answer = .ok "R-\u00e9" ∧
      Context.extract "T" "S" ((orderBegins "R-\u00e9").context.inject .empty) 0 = .ok callee ∧
      callee.transaction.rootXid = "") ∧
    ¬ ∀ (xid : String) (callee : Context), (orderBegins xid).answer = .ok xid →
      Context.extract "T" "S" ((orderBegins xid).context.inject .empty) 0 = .ok callee →
      callee.transaction.rootXid = xid := by
  have read : ∀ xid, (orderBegins xid).answer = .ok xid → ∃ callee,
      Context.extract "T" "S" ((orderBegins xid).context.inject .empty) 0 = .ok callee ∧
      callee.transaction.rootXid = legible xid := by
    intro xid admitted
    have unmarked : Headers.empty.Unmarked := fun _ none => by cases none
    obtain ⟨-, -, began, callee, extracted, root, -⟩ :=
      @Link.exists_callee _ Rehearsal.link .beginning shopSettings shopSettings.coordinatorAddress xid
        ⟨"orders", .cancel, ⟨[]⟩⟩ orderContext (assigns xid) .empty (by decide +kernel) admitted unmarked "T" "S" 0
    exact ⟨callee, extracted, by rw [root, began rfl]⟩
  have padded : (orderBegins " R-1 ").answer = .ok " R-1 " := by decide +kernel
  have accented : (orderBegins "R-\u00e9").answer = .ok "R-\u00e9" := by decide +kernel
  obtain ⟨callee, extracted, root⟩ := read " R-1 " padded
  obtain ⟨other, extractedOther, rootOther⟩ := read "R-\u00e9" accented
  have trimmed : callee.transaction.rootXid = "R-1" := root.trans (by decide +kernel)
  refine ⟨⟨callee, padded, extracted, trimmed⟩,
    ⟨other, accented, extractedOther, rootOther.trans (by decide +kernel)⟩, fun arrives => ?_⟩
  have same := arrives _ callee padded extracted
  rw [trimmed] at same
  exact absurd same (by decide)

end TryConfirmCancel
