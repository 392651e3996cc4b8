/-
**The context of a hop.**

A context belongs to one request that a service handles: its place in the chain of calls (`Span`),
the global transaction it is part of (`Transaction`), the headers it came with and the headers it
answers with.

* `Span.child`, `Transaction.forCallee`, `Context.downstream`: what a callee receives;
* `Span.consume`: time spent is charged to the budget of the whole chain;
* `Context.missing`: the identifiers that a transactional call must have set.
-/

import TryConfirmCancel.Dict
import TryConfirmCancel.Hop.Duration

namespace TryConfirmCancel

/-- The budget in milliseconds of a request that comes without one. -/
def standardBudget : Nat := 30000

/-- The place of a hop in its chain of calls, and the time the chain has left. -/
structure Span where
  traceId : String
  /-- The hop itself; proposed as the identifier of the transaction or branch it starts. -/
  spanId : String
  parentSpanId : String
  replyTo : String
  /-- Milliseconds left before the whole chain must have answered. -/
  budget : Nat
  deriving DecidableEq, Repr, Inhabited

/-- The global transaction as a hop sees it. -/
structure Transaction where
  rootXid : String
  parentXid : String
  branchXid : String
  /-- The coordinator that owns the transaction. -/
  agentAddress : String
  formerAgentAddress : String
  forceCancel : Bool
  deriving DecidableEq, Repr, Inhabited

/-- What a handler knows about its request. -/
structure Context where
  span : Span
  transaction : Transaction
  requestHeaders : Dict String
  /-- Headers for the caller, which business methods may set. -/
  responseHeaders : Dict String
  deriving DecidableEq, Inhabited

namespace Span

/-- The first span of a chain. Its parent is the trace, so every hop has a parent. -/
def first (traceId spanId : String) (granted : Nanoseconds) : Span :=
  { traceId, spanId, parentSpanId := traceId, replyTo := "", budget := budgetOf granted }

def child (span : Span) (spanId : String) : Span := { span with spanId, parentSpanId := span.spanId }

def remaining (span : Span) : Nanoseconds := ofMilliseconds span.budget

def isExpired (span : Span) : Bool := span.budget == 0

def withBudget (span : Span) (budget : Nat) : Span := { span with budget }

/-- Charges elapsed time to the budget. -/
def consume (span : Span) (elapsed : Nanoseconds) : Span := span.withBudget (charged span.budget elapsed)

section Charged

variable (span : Span) (budget : Nat) (elapsed : Nanoseconds)

theorem withBudget_traceId : (span.withBudget budget).traceId = span.traceId := rfl

theorem withBudget_spanId : (span.withBudget budget).spanId = span.spanId := rfl

theorem withBudget_parentSpanId : (span.withBudget budget).parentSpanId = span.parentSpanId := rfl

theorem withBudget_budget : (span.withBudget budget).budget = budget := rfl

@[simp]
theorem consume_budget : (span.consume elapsed).budget = charged span.budget elapsed := span.withBudget_budget _

@[simp]
theorem consume_traceId : (span.consume elapsed).traceId = span.traceId := span.withBudget_traceId _

@[simp]
theorem consume_spanId : (span.consume elapsed).spanId = span.spanId := span.withBudget_spanId _

@[simp]
theorem consume_parentSpanId : (span.consume elapsed).parentSpanId = span.parentSpanId :=
  span.withBudget_parentSpanId _

end Charged

end Span

namespace Transaction

def none : Transaction :=
  { rootXid := "", parentXid := "", branchXid := "", agentAddress := "", formerAgentAddress := ""
    forceCancel := false }

/-- No global transaction is active, so this hop has to begin one. -/
def isRoot (transaction : Transaction) : Bool :=
  transaction.rootXid.isEmpty && transaction.branchXid.isEmpty && transaction.agentAddress.isEmpty

/-- The transaction as a callee sees it: the branch of the caller is the parent. -/
def forCallee (transaction : Transaction) : Transaction :=
  if transaction.branchXid.isEmpty then transaction
  else { transaction with parentXid := transaction.branchXid }

theorem forCallee_eq (transaction : Transaction) :
    transaction.forCallee = { transaction with
      parentXid := if transaction.branchXid = "" then transaction.parentXid else transaction.branchXid } := by
  rw [forCallee]
  split
  · rename_i empty
    rw [if_pos (String.isEmpty_iff.mp empty)]
  · rename_i full
    rw [if_neg fun empty => full (String.isEmpty_iff.mpr empty)]

/-- A new coordinator, the one before it remembered. -/
def withAgent (transaction : Transaction) (address : String) : Transaction :=
  if transaction.agentAddress = address then transaction
  else { transaction with agentAddress := address, formerAgentAddress := transaction.agentAddress }

section Agents

variable (transaction : Transaction) (address : String)

@[simp]
theorem withAgent_agentAddress : (transaction.withAgent address).agentAddress = address := by
  unfold withAgent
  split
  · assumption
  · rfl

@[simp]
theorem withAgent_rootXid : (transaction.withAgent address).rootXid = transaction.rootXid := by
  unfold withAgent
  split <;> rfl

@[simp]
theorem withAgent_branchXid : (transaction.withAgent address).branchXid = transaction.branchXid := by
  unfold withAgent
  split <;> rfl

end Agents

end Transaction

namespace Context

def of (span : Span) (transaction : Transaction) : Context := ⟨span, transaction, ∅, ∅⟩

/-- The context of a request that enters the chain without a transaction. -/
def root (traceId spanId : String) (granted : Nanoseconds) : Context :=
  .of (.first traceId spanId granted) .none

/-- The context that a callee receives: a copy of the span and the transaction without headers. -/
def downstream (context : Context) (spanId : String) : Context :=
  .of (context.span.child spanId) context.transaction.forCallee

def withSpan (context : Context) (span : Span) : Context := { context with span }

/-- Charges elapsed time to the budget. -/
def consume (context : Context) (elapsed : Nanoseconds) : Context :=
  context.withSpan (context.span.consume elapsed)

/-- The identifiers that a transactional call must have set, with their names. -/
def identifiers (context : Context) : List (String × String) :=
  [("traceId", context.span.traceId), ("spanId", context.span.spanId),
    ("parentSpanId", context.span.parentSpanId), ("rootXid", context.transaction.rootXid),
    ("branchXid", context.transaction.branchXid), ("parentXid", context.transaction.parentXid)]

/-- The names of the identifiers that are empty. -/
def missing (context : Context) : List String :=
  (context.identifiers.filter fun entry => entry.2.isEmpty).map Prod.fst

/-! ### Charging touches nothing but the budget -/

section Charged

variable (context : Context) (span : Span) (elapsed : Nanoseconds)

theorem withSpan_transaction : (context.withSpan span).transaction = context.transaction := rfl

theorem withSpan_requestHeaders : (context.withSpan span).requestHeaders = context.requestHeaders := rfl

theorem withSpan_responseHeaders : (context.withSpan span).responseHeaders = context.responseHeaders := rfl

@[simp]
theorem consume_span : (context.consume elapsed).span = context.span.consume elapsed := rfl

@[simp]
theorem consume_transaction : (context.consume elapsed).transaction = context.transaction :=
  context.withSpan_transaction _

@[simp]
theorem consume_requestHeaders : (context.consume elapsed).requestHeaders = context.requestHeaders :=
  context.withSpan_requestHeaders _

@[simp]
theorem consume_responseHeaders : (context.consume elapsed).responseHeaders = context.responseHeaders :=
  context.withSpan_responseHeaders _

@[simp]
theorem identifiers_consume : (context.consume elapsed).identifiers = context.identifiers := by
  simp [identifiers]

end Charged

end Context

end TryConfirmCancel
