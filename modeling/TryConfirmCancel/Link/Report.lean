/-
**Reporting how Try went.**

* `Link.finish`: tells the coordinator whether to confirm or to cancel. The failure of Try and the
  headers for the second stage travel as request headers; no answer in time has a failure of its own.
-/

import TryConfirmCancel.Address.Route
import TryConfirmCancel.Link.Basic
import TryConfirmCancel.Wire.Message

namespace TryConfirmCancel

/-- A text without line breaks, each of which becomes a blank. -/
def onOneLine (text : String) : String :=
  .ofList (text.toList.map fun char => if char = '\r' ∨ char = '\n' then ' ' else char)

/-- The headers of a report: those for the second stage, and over them the failure of Try. -/
def reportHeaders (tryFailure : Option ServiceFailure) (secondStage : Dict String) : Dict String :=
  match tryFailure with
  | none => secondStage
  | some failure =>
    (secondStage.insert Message.tryErrorCodeHeader (toString failure.code)).insert
      Message.tryErrorTextHeader (onOneLine failure.message)

def Context.report (context : Context) (config : Config) (ok : Bool) (time : Nanoseconds) : Report :=
  { rootXid := context.transaction.rootXid
    branchXid := context.transaction.branchXid
    parentXid := context.transaction.parentXid
    ok
    requestTime := timestamp time
    tryFailedIgnoreCallbackCancel := config.tryFailedIgnoreCallbackCancel }

/-- A report that was not answered in time has a failure of its own. -/
def unanswered : Failure → Failure
  | .rpc (.timeout detail) => .endTimedOut detail
  | failure => failure

def reportAnswer (response : Rpc.Response) : Except Failure Unit := do
  let reply ← (response.json (Message.reply Message.ended).reader).mapError .rpc
  let _ ← reply.accepted
  return ()

/-- Tells the coordinator how Try went. -/
def Link.finish {σ : Type} (link : Link σ) (config : Config) (coordinator : String) (ok : Bool)
    (tryFailure : Option ServiceFailure) (secondStage : Dict String) : Action σ (Except Failure Unit) :=
  fun context world =>
    match Route.resolve config coordinator with
    | .error fault => ⟨.error fault.failure, context, world⟩
    | .ok route =>
      let report := context.report config ok (link.now world)
      let body := (Message.addressed Message.report).bytes ⟨Message.endService, report⟩
      let step := link.request config .finish (route.target config .finish) .json body
        (reportHeaders tryFailure secondStage) context world
      step.map fun answer => (answer.mapError unanswered).bind reportAnswer

end TryConfirmCancel
