/-
**Callbacks of the coordinator.**

* `Arrival`: a callback as it was read: what it asks for, the context it runs in, and the arguments;
* `Arrival.read`: reads the body, the headers and the snapshot; nothing runs before all could be read;
* `dispatch`: reads a callback, runs the stage of the service that it names, and answers;
* `statusOf`: the status of a failed callback.
-/

import TryConfirmCancel.Config.Basic
import TryConfirmCancel.Hop.Propagation
import TryConfirmCancel.Rpc.Mesh
import TryConfirmCancel.Service.Registry
import TryConfirmCancel.Wire.Envelope
import TryConfirmCancel.Wire.Message

namespace TryConfirmCancel

/-- A callback as it was read. -/
structure Arrival where
  serviceName : String
  context : Context
  caller : Caller
  parameters : Parameters

namespace Arrival

/-- The headers that name the topic of a callback. -/
def topicAttributes (headers : Headers) : Dict String :=
  .ofList (MeshHeader.all.filterMap fun name => (headers.firstText? name).map fun text => (name, text))

/-- The context of a callback: the transaction is that of the body, and the headers of Try lie over
those of the request. -/
def contextOf (request : Callback) (snapshot : Dict String) (context : Context) : Context :=
  { context with
    transaction := { context.transaction with
      rootXid := request.rootXid, parentXid := request.parentXid, branchXid := request.branchXid }
    requestHeaders := context.requestHeaders.overlay snapshot }

/-- What the service learns about its caller. -/
def callerOf (config : Config) (request : Callback) (headers : Headers) (context : Context) : Caller :=
  { language := config.language
    remoteCall := true
    requestHeaders := context.requestHeaders
    topicAttributes := topicAttributes headers
    serviceConfig := (config.services.get? request.serviceName).getD .null }

/-- Reads a callback; the two identifiers are new. -/
def read (freshTrace freshSpan : String) (config : Config) (headers : Headers) (body : Bytes) :
    Except Failure Arrival := do
  let (message, tail) ← (Envelope.decode (Message.addressed Message.callback).reader body).mapError
    EnvelopeFault.failure
  if message.service ≠ Message.callbackService then
    .error (.undecodable s!"unexpected envelope service {Text.quoted message.service}")
  let refuse (fault : HeaderFault) : Failure := .undecodable fault.message
  let received ← (Context.extract freshTrace freshSpan headers config.defaultBudget).mapError refuse
  let snapshot ← (Snapshot.decode message.request.headers).mapError refuse
  let parameters ← (Parameters.ofBytes tail).mapError ParametersFault.failure
  let context := contextOf message.request snapshot received
  return ⟨message.request.serviceName, context, callerOf config message.request headers context, parameters⟩

end Arrival

/-- The status of a failed callback. -/
def statusOf : Failure → Nat
  | .notRegistered _ _ => 404
  | .undecodable _ => 400
  | .codec _ => 400
  | .structural _ => 400
  | _ => 500

/-- A status with the answer for the coordinator. -/
def answerOf : Except Failure Unit → Nat × CallbackReply
  | .ok () => (200, .ok)
  | .error failure => (statusOf failure, .ofFailure failure)

/-- Runs a stage of the service that a callback names. -/
def dispatch {σ : Type} (registry : Registry σ) (freshTrace freshSpan : String) (config : Config)
    (stage : Stage) (headers : Headers) (body : Bytes) (world : σ) : (Nat × CallbackReply) × σ :=
  match Arrival.read freshTrace freshSpan config headers body with
  | .error failure => (answerOf (.error failure), world)
  | .ok arrival =>
    let step := registry.invoke arrival.serviceName (.second stage) arrival.caller arrival.parameters
      arrival.context world
    (answerOf step.answer, step.world)

end TryConfirmCancel
