/-
**What an errand to a coordinator changes.**

A hop runs errands to coordinators: to begin a transaction, to join one (the two ways to enter it), and to report how
Try went.

* `Errand`, `Link.undertake`: the errands, and how a link runs them;
* `Errand.Hindered`, `Errand.Granted`: what keeps an errand from being run, and the answer that it hopes for;
* `Leaves`: an errand that fails changes nothing but the budget, and not even this if it sends nothing; one that
  is granted changes what it is run for;
* `undertake_leaves`: so does every errand.
-/

import TryConfirmCancel.Proofs.Transaction.Bounds
import TryConfirmCancel.Proofs.Transaction.Course

namespace TryConfirmCancel

/-- What a hop asks of a coordinator. -/
inductive Errand
  /-- To begin a transaction with it, or to take it in as a branch. -/
  | entering (entry : Entry) (entrant : Entrant)
  /-- To take note of how Try went. -/
  | reporting (ok : Bool) (tryFailure : Option ServiceFailure) (secondStage : Dict String)

namespace Link

section Undertaking

variable {σ : Type} (link : Link σ) (config : Config) (coordinator : String) (context : Context) (world : σ)

/-- Runs an errand at a coordinator; to enter is `Link.begin` or `Link.join`. The answer holds the identifier that the
coordinator assigned, if it was asked for one. -/
def undertake (errand : Errand) : Action σ (Except Failure (Option String)) := fun context world =>
  match errand with
  | .entering entry entrant => (link.enterBy entry config coordinator entrant context world).map (Except.map some)
  | .reporting ok tryFailure secondStage =>
    (link.finish config coordinator ok tryFailure secondStage context world).map (Except.map fun _ => none)

variable {link} in
theorem Covers.undertake {τ : Type} {coarse : Link τ} {project : σ → τ} (covers : Covers link coarse project)
    (errand : Errand) : (link.undertake config coordinator errand context world).projected project
      = coarse.undertake config coordinator errand context (project world) := by
  cases errand with
  | entering entry entrant =>
    exact congrArg (Step.map (Except.map some)) (covers.enterBy config context world entry coordinator entrant)
  | reporting ok tryFailure secondStage =>
    exact congrArg (Step.map (Except.map fun _ => none))
      (covers.finish config context world coordinator ok tryFailure secondStage)

/-- Every errand sends at most one request, and charges its time. -/
theorem undertake_isSparing (errand : Errand) :
    link.IsSparing config world context.span (link.undertake config coordinator errand context world) := by
  cases errand with
  | entering entry entrant => exact (link.enterBy_isSparing config coordinator context world entry entrant).map _
  | reporting ok tryFailure secondStage =>
    exact (link.finish_isSparing config coordinator context world ok tryFailure secondStage).map _

end Undertaking

end Link

/-! ### What an errand leaves -/

/-- A context whose budget has been charged, and nothing else. -/
def Context.spending (context : Context) (elapsed : Nanoseconds) : Context :=
  { context with span := { context.span with budget := context.span.budget - startedMilliseconds elapsed } }

theorem Context.consume_eq_spending (context : Context) (elapsed : Nanoseconds) :
    context.consume elapsed = context.spending elapsed := rfl

/-- The former coordinator of a transaction once it is at another one. -/
def Transaction.formerBehind (transaction : Transaction) (coordinator : String) : String :=
  if transaction.agentAddress = coordinator then transaction.formerAgentAddress else transaction.agentAddress

theorem Transaction.withAgent_eq (transaction : Transaction) (coordinator : String) :
    transaction.withAgent coordinator = { transaction with
      agentAddress := coordinator
      formerAgentAddress := transaction.formerBehind coordinator } := by
  unfold withAgent formerBehind
  by_cases same : transaction.agentAddress = coordinator
  · subst same
    rw [if_pos rfl, if_pos rfl]
  · rw [if_neg same, if_neg same]

section Entering

variable (context : Context) (elapsed : Nanoseconds) (xid coordinator : String)

/-- Having begun, in full. -/
theorem Context.consume_begun : (context.consume elapsed).enteredBy .beginning xid coordinator =
    { context.spending elapsed with
      transaction :=
        { rootXid := xid
          parentXid := context.span.traceId
          branchXid := xid
          agentAddress := coordinator
          formerAgentAddress := context.transaction.formerBehind coordinator
          forceCancel := context.transaction.forceCancel } } := by
  have trace : (context.consume elapsed).span.traceId = context.span.traceId := by
    rw [consume_span, Span.consume_traceId]
  rw [← consume_eq_spending, ← context.consume_transaction elapsed, ← trace]
  -- what is left of the budget no longer shows, and need not be compared
  generalize context.consume elapsed = charged
  rw [enteredBy, begun, Transaction.withAgent_eq]
  rfl

/-- Having joined, in full. -/
theorem Context.consume_joined : (context.consume elapsed).enteredBy .joining xid coordinator =
    { context.spending elapsed with
      transaction := { context.transaction with
        branchXid := xid
        agentAddress := coordinator
        formerAgentAddress := context.transaction.formerBehind coordinator } } := by
  rw [← consume_eq_spending, ← context.consume_transaction elapsed]
  generalize context.consume elapsed = charged
  rw [enteredBy, joined, Transaction.withAgent_eq]
  rfl

end Entering

/-- What keeps an errand from being run, and the failure that stands for it. -/
inductive Errand.Hindered (config : Config) (coordinator : String) (context : Context) : Errand → Failure → Prop
  | entering {entry : Entry} {entrant : Entrant} {failure : Failure}
      (hinders : Hinders config coordinator entrant entry context failure) :
      Hindered config coordinator context (.entering entry entrant) failure
  | reporting {ok : Bool} {tryFailure : Option ServiceFailure} {secondStage : Dict String} {failure : Failure}
      (bars : Bars config coordinator .finish context.span.budget failure) :
      Hindered config coordinator context (.reporting ok tryFailure secondStage) failure

/-- What comes back for an errand that is granted, and the identifier that it assigns. -/
inductive Errand.Granted : Errand → Except Rpc.Failure Rpc.Response → Option String → Prop
  | entering {entry : Entry} {entrant : Entrant} {response : Rpc.Response} {xid : String}
      (accepts : entry.Accepts response xid) : Granted (.entering entry entrant) (.ok response) (some xid)
  | reporting {ok : Bool} {tryFailure : Option ServiceFailure} {secondStage : Dict String}
      {result : Except Rpc.Failure Rpc.Response} (accepted : reportResult result = .ok ()) :
      Granted (.reporting ok tryFailure secondStage) result none

section Leaving

variable {σ : Type} (link : Link σ) (config : Config) (coordinator : String) (context : Context) (world : σ)

/-- What an errand leaves: its answer, the context and the world. -/
inductive Leaves : Errand → Step σ (Except Failure (Option String)) → Prop
  /-- Nothing is sent. -/
  | unsent {errand : Errand} (failure : Failure) (hindered : errand.Hindered config coordinator context failure) :
      Leaves errand ⟨.error failure, context, world⟩
  /-- The request fails, or what comes back does not grant the errand. -/
  | refused {errand : Errand} (failure : Failure) {request : Rpc.Request} (sends : Sends config context.span request)
      (refused : ∀ assigned, ¬ errand.Granted (link.send request world).1 assigned) :
      Leaves errand ⟨.error failure, context.spending (link.elapsed world request), (link.send request world).2⟩
  | begun {entrant : Entrant} {request : Rpc.Request} {xid : String} (sends : Sends config context.span request)
      (granted : (Errand.entering .beginning entrant).Granted (link.send request world).1 (some xid)) :
      Leaves (.entering .beginning entrant)
        ⟨.ok (some xid),
          { context.spending (link.elapsed world request) with
            transaction :=
              { rootXid := xid
                parentXid := context.span.traceId
                branchXid := xid
                agentAddress := coordinator
                formerAgentAddress := context.transaction.formerBehind coordinator
                forceCancel := context.transaction.forceCancel } },
          (link.send request world).2⟩
  | joined {entrant : Entrant} {request : Rpc.Request} {xid : String} (sends : Sends config context.span request)
      (granted : (Errand.entering .joining entrant).Granted (link.send request world).1 (some xid)) :
      Leaves (.entering .joining entrant)
        ⟨.ok (some xid),
          { context.spending (link.elapsed world request) with
            transaction := { context.transaction with
              branchXid := xid
              agentAddress := coordinator
              formerAgentAddress := context.transaction.formerBehind coordinator } },
          (link.send request world).2⟩
  | reported {ok : Bool} {tryFailure : Option ServiceFailure} {secondStage : Dict String} {request : Rpc.Request}
      (sends : Sends config context.span request)
      (granted : (Errand.reporting ok tryFailure secondStage).Granted (link.send request world).1 none) :
      Leaves (.reporting ok tryFailure secondStage)
        ⟨.ok none, context.spending (link.elapsed world request), (link.send request world).2⟩

theorem enterBy_leaves (entry : Entry) (entrant : Entrant) :
    Leaves link config coordinator context world (.entering entry entrant)
      ((link.enterBy entry config coordinator entrant context world).map (Except.map some)) := by
  have enters := link.enterBy_enters config coordinator context world entry entrant
  generalize link.enterBy entry config coordinator entrant context world = step at enters ⊢
  cases enters with
  | unsent failure hindered => exact .unsent failure (.entering hindered)
  | @refused failure request sends enrols refused told =>
    refine .refused failure sends fun assigned granted => ?_
    generalize came : (link.send request world).1 = result at granted
    cases granted with
    | entering accepts => exact refused _ _ came accepts
  | @admitted request response xid sends enrols came accepts =>
    have granted : (Errand.entering entry entrant).Granted (link.send request world).1 (some xid) := by
      rw [came]
      exact .entering accepts
    cases entry with
    | beginning =>
      rw [Context.consume_begun]
      exact .begun sends granted
    | joining =>
      rw [Context.consume_joined]
      exact .joined sends granted

theorem finish_leaves (ok : Bool) (tryFailure : Option ServiceFailure) (secondStage : Dict String) :
    Leaves link config coordinator context world (.reporting ok tryFailure secondStage)
      ((link.finish config coordinator ok tryFailure secondStage context world).map
        (Except.map fun _ => none)) := by
  have finishes := link.finish_finishes config coordinator context world ok tryFailure secondStage
  generalize link.finish config coordinator ok tryFailure secondStage context world = step at finishes ⊢
  cases finishes with
  | unsent failure barred => exact .unsent failure (.reporting barred)
  | @reported request sends reports =>
    cases accepted : reportResult (link.send request world).1 with
    | error failure =>
      refine .refused failure sends fun assigned granted => ?_
      cases granted with
      | reporting granted => cases accepted.symm.trans granted
    | ok _ => exact .reported sends (.reporting accepted)

/-- **An errand that fails changes nothing but the budget**, and one that sends nothing changes nothing. One that is
granted charges its time too, and changes the identifiers that were assigned and the coordinator. -/
theorem undertake_leaves (errand : Errand) :
    Leaves link config coordinator context world errand
      (link.undertake config coordinator errand context world) := by
  cases errand with
  | entering entry entrant => exact enterBy_leaves link config coordinator context world entry entrant
  | reporting ok tryFailure secondStage =>
    exact finish_leaves link config coordinator context world ok tryFailure secondStage

end Leaving

end TryConfirmCancel
