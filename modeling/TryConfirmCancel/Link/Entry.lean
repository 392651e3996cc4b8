/-
**Entering a transaction.**

* `Entry`: the two ways in, which differ in what is sent, where to, and what the context takes over;
* `Link.enterBy`: sends one enrolment with the arguments of Try behind it. The context takes over what
  the coordinator answered, and is otherwise kept; a failure changes nothing but the budget;
* `Link.begin`: starts a global transaction of which this hop is the root;
* `Link.join`: makes this hop a branch of the transaction in its context.
-/

import TryConfirmCancel.Address.Participant
import TryConfirmCancel.Address.Route
import TryConfirmCancel.Link.Basic
import TryConfirmCancel.Hop.Propagation
import TryConfirmCancel.Service.Parameters
import TryConfirmCancel.Wire.Envelope
import TryConfirmCancel.Wire.Message

namespace TryConfirmCancel

/-- The service that enters a transaction, with the arguments of its Try. -/
structure Entrant where
  serviceName : String
  flags : Flags
  parameters : Parameters
  deriving Inhabited

namespace Context

/-- The context of the root of a new transaction. -/
def begun (context : Context) (rootXid coordinator : String) : Context :=
  { context with
    transaction := { context.transaction with
      rootXid, parentXid := context.span.traceId, branchXid := rootXid }.withAgent coordinator }

/-- The context of a new branch. -/
def joined (context : Context) (branchXid coordinator : String) : Context :=
  { context with transaction := { context.transaction with branchXid }.withAgent coordinator }

section Entered

variable (context : Context) (xid coordinator : String)

@[simp]
theorem begun_span : (context.begun xid coordinator).span = context.span := rfl

@[simp]
theorem begun_rootXid : (context.begun xid coordinator).transaction.rootXid = xid := by simp [begun]

@[simp]
theorem begun_branchXid : (context.begun xid coordinator).transaction.branchXid = xid := by simp [begun]

@[simp]
theorem begun_agentAddress : (context.begun xid coordinator).transaction.agentAddress = coordinator := by
  simp [begun]

@[simp]
theorem joined_span : (context.joined xid coordinator).span = context.span := rfl

@[simp]
theorem joined_rootXid : (context.joined xid coordinator).transaction.rootXid = context.transaction.rootXid := by
  simp [joined]

@[simp]
theorem joined_branchXid : (context.joined xid coordinator).transaction.branchXid = xid := by simp [joined]

@[simp]
theorem joined_agentAddress : (context.joined xid coordinator).transaction.agentAddress = coordinator := by
  simp [joined]

end Entered

end Context

namespace Entrant

/-- What begins a transaction: the span is proposed as its identifier. -/
def beginning (entrant : Entrant) (config : Config) (route : Route) (context : Context)
    (time : Nanoseconds) : Enrolment :=
  { participantAddress := (Participant.build config entrant.flags route.isDirect).encode
    requestTime := timestamp time
    parentXid := context.span.traceId
    rootXid := context.span.spanId
    branchXid := context.span.spanId
    serviceName := entrant.serviceName
    headers := Snapshot.encode context.requestHeaders }

/-- What joins a transaction: the span is proposed as the identifier of the branch. -/
def joining (entrant : Entrant) (config : Config) (route : Route) (context : Context)
    (time : Nanoseconds) : Enrolment :=
  { entrant.beginning config route context time with
    parentXid := context.transaction.parentXid
    rootXid := context.transaction.rootXid }

/-- The body that carries an enrolment. -/
def body (entrant : Entrant) (service : String) (enrolment : Enrolment) : Except EnvelopeFault Bytes :=
  Envelope.encode ((Message.addressed Message.enrolment).write ⟨service, enrolment⟩)
    entrant.parameters.toBytes

end Entrant

/-- The data of an accepted request. -/
def acceptedData {α : Type} (operation : Operation) (data : Json.Format α) (response : Rpc.Response) :
    Except Failure α := do
  let reply ← (response.json (Message.reply data).reader).mapError .rpc
  match ← reply.accepted with
  | some data => .ok data
  | none => .error (.codec s!"{operation.name} response carries no data")

/-- An identifier that is not empty. -/
def nonEmpty (operation : Operation) (field identifier : String) : Except Failure String :=
  if identifier.isEmpty then .error (.codec s!"{operation.name} response carries an empty {field}")
  else .ok identifier

/-- The identifier of a begun transaction. -/
def begunXid (response : Rpc.Response) : Except Failure String := do
  let data ← acceptedData .begin Message.begun response
  nonEmpty .begin "rootXid" data.rootXid

/-- The identifier of a joined branch. -/
def joinedXid (response : Rpc.Response) : Except Failure String := do
  let data ← acceptedData .join Message.joined response
  nonEmpty .join "branchXid" data.branchXid

/-! ### The two ways in -/

/-- The two ways to enter a transaction. -/
inductive Entry
  /-- Start one as its root. -/
  | beginning
  /-- Take part in one as a branch. -/
  | joining
  deriving DecidableEq, Repr

namespace Entry

/-- What is asked of the coordinator. -/
def operation : Entry → Operation
  | beginning => .begin
  | joining => .join

/-- The service that the enrolment is for. -/
def service : Entry → String
  | beginning => Message.beginService
  | joining => Message.joinService

/-- The identifier that the coordinator assigns. -/
def assigned : Entry → Rpc.Response → Except Failure String
  | beginning => begunXid
  | joining => joinedXid

end Entry

def Entrant.enrolment (entrant : Entrant) : Entry → Config → Route → Context → Nanoseconds → Enrolment
  | .beginning => entrant.beginning
  | .joining => entrant.joining

def Context.enteredBy (context : Context) : Entry → String → String → Context
  | .beginning => context.begun
  | .joining => context.joined

@[simp]
theorem Context.enteredBy_span (context : Context) (entry : Entry) (xid coordinator : String) :
    (context.enteredBy entry xid coordinator).span = context.span := by
  cases entry <;> rfl

namespace Link

variable {σ : Type}

/-- Sends an enrolment to a coordinator. -/
def enrol (link : Link σ) (config : Config) (operation : Operation) (service : String)
    (entrant : Entrant) (route : Route) (enrolment : Enrolment) :
    Action σ (Except Failure Rpc.Response) := fun context world =>
  match entrant.body service enrolment with
  | .error fault => ⟨.error fault.failure, context, world⟩
  | .ok body => link.request config operation (route.target config operation) .text body ∅ context world

/-- Enters a transaction at a coordinator. -/
def enterBy (link : Link σ) (entry : Entry) (config : Config) (coordinator : String) (entrant : Entrant) :
    Action σ (Except Failure String) := fun context world =>
  match Route.resolve config coordinator with
  | .error fault => ⟨.error fault.failure, context, world⟩
  | .ok route =>
    let enrolment := entrant.enrolment entry config route context (link.now world)
    let step := link.enrol config entry.operation entry.service entrant route enrolment context world
    match step.answer.bind entry.assigned with
    | .error failure => ⟨.error failure, step.context, step.world⟩
    | .ok xid => ⟨.ok xid, step.context.enteredBy entry xid coordinator, step.world⟩

/-- Starts a global transaction at a coordinator. -/
def begin (link : Link σ) (config : Config) (coordinator : String) (entrant : Entrant) :
    Action σ (Except Failure String) :=
  link.enterBy .beginning config coordinator entrant

/-- Registers a branch of the transaction at a coordinator. -/
def join (link : Link σ) (config : Config) (coordinator : String) (entrant : Entrant) :
    Action σ (Except Failure String) :=
  link.enterBy .joining config coordinator entrant

end Link

end TryConfirmCancel
