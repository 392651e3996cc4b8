/-
**The link of a participant to its coordinators.**

A link knows the settings in force and the time, and sends requests.

* `Link.request`: one request to a coordinator. It is not sent once the budget of the chain is spent;
  its time limit comes from what is left; and the time it took is charged, however it ended.
-/

import TryConfirmCancel.Config.Basic
import TryConfirmCancel.Failure
import TryConfirmCancel.Hop.Step
import TryConfirmCancel.Rpc.Request

namespace TryConfirmCancel

/-- What a participant needs of the world to reach coordinators. -/
structure Link (σ : Type) where
  settings : σ → Config
  /-- The time since the epoch. -/
  now : σ → Nanoseconds
  /-- Sends a request and waits for what comes back. -/
  send : Rpc.Request → σ → Except Rpc.Failure Rpc.Response × σ

namespace Link

variable {σ : Type}

/-- The request for a target as the settings and the budget left allow it. -/
def bounded (config : Config) (span : Span) (target : Rpc.Target) (codec : Rpc.Codec) (body : Bytes)
    (headers : Dict String) : Rpc.Request :=
  ((((Rpc.Request.of target body).withTimeout (config.callTimeout span.remaining)).withRetries
    config.rpcMaxRetries).withCodec codec).withHeaders headers

/-- One request to a coordinator within the budget of the chain. -/
def request (link : Link σ) (config : Config) (operation : Operation) (target : Rpc.Target)
    (codec : Rpc.Codec) (body : Bytes) (headers : Dict String) : Action σ (Except Failure Rpc.Response) :=
  fun context world =>
    if context.span.isExpired then ⟨.error (.deadlineExceeded operation), context, world⟩
    else
      let (outcome, after) := link.send (bounded config context.span target codec body headers) world
      ⟨outcome.mapError .rpc, context.consume (link.now after - link.now world), after⟩

end Link

end TryConfirmCancel
