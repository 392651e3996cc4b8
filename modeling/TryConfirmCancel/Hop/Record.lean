/-
**Spans, transactions and contexts in JSON.**

* `Span.format`, `Transaction.format`: the fields in order; a missing reply address is empty, and a
  missing request to cancel is none;
* `Context.toJson`: a whole context.
-/

import TryConfirmCancel.Hop.Context
import TryConfirmCancel.Json.Format

namespace TryConfirmCancel

/-- How a span stands in JSON. -/
def Span.format : Json.Format Span :=
  { write := fun span =>
      .object
        [("traceId", .string span.traceId), ("spanId", .string span.spanId),
          ("parentSpanId", .string span.parentSpanId), ("replyToAddress", .string span.replyTo),
          ("timeoutBudgetMs", .nat span.budget)]
    reader := .record ["traceId", "spanId", "parentSpanId", "replyToAddress", "timeoutBudgetMs"]
      fun fields => do
        some
          { traceId := ← fields.required "traceId" .string
            spanId := ← fields.required "spanId" .string
            parentSpanId := ← fields.required "parentSpanId" .string
            replyTo := ← fields.withDefault "replyToAddress" "" .string
            budget := ← fields.required "timeoutBudgetMs" (.natural maxWord64) } }

/-- How a transaction stands in JSON. -/
def Transaction.format : Json.Format Transaction :=
  { write := fun transaction =>
      .object
        [("rootXid", .string transaction.rootXid), ("parentXid", .string transaction.parentXid),
          ("branchXid", .string transaction.branchXid),
          ("agentAddress", .string transaction.agentAddress),
          ("agentAddressOld", .string transaction.formerAgentAddress),
          ("forceCancel", .bool transaction.forceCancel)]
    reader := .record
      ["rootXid", "parentXid", "branchXid", "agentAddress", "agentAddressOld", "forceCancel"]
      fun fields => do
        some
          { rootXid := ← fields.required "rootXid" .string
            parentXid := ← fields.required "parentXid" .string
            branchXid := ← fields.required "branchXid" .string
            agentAddress := ← fields.required "agentAddress" .string
            formerAgentAddress := ← fields.required "agentAddressOld" .string
            forceCancel := ← fields.withDefault "forceCancel" false .bool } }

/-- A whole context as an object. -/
def Context.toJson (context : Context) : Json.Value :=
  .object
    [("span", Span.format.write context.span), ("txn", Transaction.format.write context.transaction),
      ("requestHeaders", .ofTexts context.requestHeaders),
      ("responseHeaders", .ofTexts context.responseHeaders)]

end TryConfirmCancel
