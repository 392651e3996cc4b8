/-
**Remote calls over HTTP, with repetitions.**

* `Transport`: a clock, a way to wait, and a way to post with a time limit;
* `Client.call`: attempts until one succeeds or a repetition cannot help. The time limit of the request
  covers all attempts and the growing pauses between them;
* `Client.nextBackoff`: the pause after a pause.
-/

import TryConfirmCancel.Rpc.Http.Post

namespace TryConfirmCancel.Rpc

/-- What a client needs of the world. -/
structure Transport (σ : Type) where
  now : σ → Nanoseconds
  sleep : Nanoseconds → σ → σ
  /-- Posts, and waits for the answer until a duration has passed. -/
  post : Post → Nanoseconds → σ → Except Failure Answer × σ

/-- A client for HTTP. -/
structure Client (σ : Type) where
  transport : Transport σ
  settings : Settings

namespace Client

variable {σ : Type}

/-- The pause after a pause, in milliseconds. -/
def nextBackoff (settings : Settings) (backoff : Nat) : Nat :=
  min ((settings.multiplier.mul (.ofNat backoff)).truncated maxWord64) settings.maxBackoff

/-- One attempt within a duration. What HTTP cannot express is not sent. -/
def attempt (client : Client σ) (request : Request) (limit : Nanoseconds) (world : σ) :
    Except Failure Response × σ :=
  match Post.of? client.settings request with
  | none => (.error (.network "the request cannot be sent"), world)
  | some post =>
    let (outcome, after) := client.transport.post post limit world
    (outcome.bind Answer.result, after)

/-- The time left of a request that was started at `start`. -/
def left (client : Client σ) (request : Request) (start : Nanoseconds) (world : σ) : Nanoseconds :=
  request.timeout - (client.transport.now world - start)

/-- The failure of a request whose time is spent after a number of attempts. -/
def spent (request : Request) (attempts : Nat) : Failure :=
  .timeout s!"call timeout of {wholeMilliseconds request.timeout}ms spent after {attempts} attempt(s)"

/-- An attempt, and if it fails up to `repetitions` more. So many attempts have been made before; the
next pause is `backoff`. -/
def callFrom (client : Client σ) (request : Request) (start : Nanoseconds) (repetitions attempts : Nat)
    (backoff : Nat) (world : σ) : Except Failure Response × σ :=
  if client.left request start world = 0 then (.error (spent request attempts), world)
  else
    let (outcome, after) := client.attempt request (client.left request start world) world
    match outcome, repetitions with
    | .ok response, _ => (.ok response, after)
    | .error failure, 0 => (.error failure, after)
    | .error failure, repetitions + 1 =>
      if failure.isPermanent then (.error failure, after)
      else
        let pause := min (ofMilliseconds backoff) (client.left request start after)
        callFrom client request start repetitions (attempts + 1) (nextBackoff client.settings backoff)
          (client.transport.sleep pause after)

def call (client : Client σ) (request : Request) (world : σ) : Except Failure Response × σ :=
  client.callFrom request (client.transport.now world) request.retries 0 client.settings.initialBackoff world

end Client

end TryConfirmCancel.Rpc
