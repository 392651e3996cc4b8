/-
**Admitting a request.**

* `Context.admit`: the context of a request, with the standard budget if it has none of its own, or the
  answer that refuses it.
-/

import TryConfirmCancel.Hop.Propagation

namespace TryConfirmCancel

/-- The answer to a request that is refused. -/
structure Refusal where
  status : Nat
  body : Json.Value
  deriving Inhabited

/-- The answer to a request whose headers are refused. -/
def Refusal.ofFault (fault : HeaderFault) : Refusal :=
  { status := 400
    body := .object [("error", .string "INVALID_PROPAGATION_HEADER"), ("message", .string fault.message)] }

/-- The context of a request; the two identifiers are new. -/
def Context.admit (freshTrace freshSpan : String) (headers : Headers) : Except Refusal Context :=
  (Context.extract freshTrace freshSpan headers (ofMilliseconds standardBudget)).mapError Refusal.ofFault

end TryConfirmCancel
