/-
**How a context travels in headers.**

* `Context.inject`: writes what a callee needs; an empty value or one that no header can carry is
  left out, and the budget is always there;
* `Context.extract`: builds the context of a callee; a request without a trace starts one, a hop
  always gets a span of its own, and a budget that is no number is refused;
* `Snapshot.encode`, `Snapshot.decode`: a set of headers as one text, which is the base64 form of a
  JSON object with its keys in order.
-/

import TryConfirmCancel.Bytes.Base64
import TryConfirmCancel.Headers
import TryConfirmCancel.Hop.Context
import TryConfirmCancel.Json.Reader
import TryConfirmCancel.Text.Blank
import TryConfirmCancel.Text.Numeral

namespace TryConfirmCancel

/-! ### Names of the headers -/

namespace HeaderName

def traceId : String := "x-mesh-trace-id"

/-- The span of the sender, which is the parent of the receiver's span. -/
def spanId : String := "x-mesh-span-id"

def replyTo : String := "x-mesh-reply-to"

def budget : String := "x-mesh-timeout-budget-ms"

def rootXid : String := "x-txn-root-xid"

def parentXid : String := "x-txn-parent-xid"

def branchXid : String := "x-txn-branch-xid"

def agentAddress : String := "x-txn-agent-address"

def formerAgentAddress : String := "x-txn-agent-address-old"

/-- The transaction has to be cancelled. -/
def forceCancel : String := "x-txn-force-cancel"

end HeaderName

/-- Why headers are refused. -/
inductive HeaderFault
  /-- The budget is no number of 64 bits. -/
  | budget (fault : Text.Numeral.Fault)
  /-- A snapshot is not what `Snapshot.encode` writes. -/
  | snapshot (detail : String)
  deriving DecidableEq, Repr

def HeaderFault.message : HeaderFault → String
  | .budget fault => s!"Invalid header {HeaderName.budget}: {fault.message}"
  | .snapshot detail => s!"Invalid header snapshot: {detail}"

namespace Context

/-- Writes a text that is not empty and that a header can carry. -/
def injectText (headers : Headers) (name value : String) : Headers :=
  if value.isEmpty then headers
  else match Headers.writable? value with
    | some bytes => headers.set name bytes
    | none => headers

/-- Writes the context that a callee needs into the headers of a request. -/
def inject (context : Context) (headers : Headers) : Headers :=
  let transaction := context.transaction.forCallee
  let texts := [(HeaderName.traceId, context.span.traceId), (HeaderName.spanId, context.span.spanId),
    (HeaderName.replyTo, context.span.replyTo), (HeaderName.rootXid, transaction.rootXid),
    (HeaderName.parentXid, transaction.parentXid), (HeaderName.branchXid, transaction.branchXid),
    (HeaderName.agentAddress, transaction.agentAddress),
    (HeaderName.formerAgentAddress, transaction.formerAgentAddress)]
  let written := texts.foldl (fun headers entry => injectText headers entry.1 entry.2) headers
  let budgeted := written.set HeaderName.budget (Utf8.ofText (Text.Numeral.render context.span.budget))
  if transaction.forceCancel then budgeted.set HeaderName.forceCancel (Utf8.ofText "true") else budgeted

/-- The first value of a header, trimmed, if it is readable and not blank. -/
def headerText? (headers : Headers) (name : String) : Option String :=
  ((headers.firstText? name).map Text.trim).filter fun text => !text.isEmpty

/-- The budget of a request: its header, or the default if it has none. -/
def headerBudget (headers : Headers) (standard : Nanoseconds) : Except HeaderFault Nat :=
  match headerText? headers HeaderName.budget with
  | some text => (Text.Numeral.parse maxWord64 text).mapError .budget
  | none => .ok (budgetOf standard)

/-- Builds the context of a request; `freshTrace` and `freshSpan` are identifiers not used before. -/
def extract (freshTrace freshSpan : String) (headers : Headers) (standard : Nanoseconds) :
    Except HeaderFault Context := do
  let text (name : String) : String := (headerText? headers name).getD ""
  let traceId := (headerText? headers HeaderName.traceId).getD freshTrace
  let parentSpanId := (headerText? headers HeaderName.spanId).getD traceId
  let budget ← headerBudget headers standard
  let span : Span :=
    { traceId, spanId := freshSpan, parentSpanId, replyTo := text HeaderName.replyTo, budget }
  let transaction : Transaction :=
    { rootXid := text HeaderName.rootXid
      parentXid := text HeaderName.parentXid
      branchXid := text HeaderName.branchXid
      agentAddress := text HeaderName.agentAddress
      formerAgentAddress := text HeaderName.formerAgentAddress
      forceCancel := Text.sameLetters (text HeaderName.forceCancel) "true" }
  return ⟨span, transaction, headers.toDict, ∅⟩

end Context

namespace Snapshot

/-- The text of a set of headers. -/
def encode (headers : Dict String) : String := Base64.encode (Utf8.ofText (Json.Value.ofTexts headers).text)

/-- The headers of a text; the empty text stands for none. -/
def decode (text : String) : Except HeaderFault (Dict String) :=
  if text.isEmpty then .ok ∅
  else match Base64.decode? text with
    | none => .error (.snapshot "not in base64")
    | some bytes =>
      match Json.Reader.ofBytes? (.dict .string) bytes with
      | none => .error (.snapshot "not an object of texts")
      | some headers => .ok headers

end Snapshot

end TryConfirmCancel
