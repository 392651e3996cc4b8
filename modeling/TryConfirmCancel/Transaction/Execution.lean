/-
**Running a business method inside a global transaction.**

* `execute`, `within`: enter the transaction as the role asks, run Try, and end the part of this hop;
* `isConfirmable`: Try succeeded, nothing forces a cancel, and the answer is not marked as an error;
* `takeBeginning`: the response headers that go to the second stage;
* `endingFailure`: how a failed end shows to the caller.

The settings are taken once, when the call starts.
-/

import TryConfirmCancel.Link.Entry
import TryConfirmCancel.Link.Report
import TryConfirmCancel.Service.Registry
import TryConfirmCancel.Transaction.Role

namespace TryConfirmCancel

/-! ### Failures -/

/-- How a failure to enter shows to the caller. -/
def Entry.failure : Entry → Failure → Failure
  | beginning => .beginFailed
  | joining => .joinFailed

/-- A failure to enter; one in the form of an address or a context is passed on as it is. -/
def enteringFailure (kind : Failure → Failure) (failure : Failure) : Failure :=
  if failure.isStructural then failure else kind failure

/-- A failure to end as the caller sees it. Only what the coordinator may have acted on counts as a
failed callback; anything else is a plain failure, with the code and the text of Try if Try failed. -/
def endingFailure (ok : Bool) (tryFailure : Option ServiceFailure) (failure : Failure) : Failure :=
  match failure with
  | .structural detail => .structural detail
  | .rejected code detail => if ok then .confirmFailed code detail else .cancelFailed code detail
  | failure =>
    if failure.isTimeout then
      if ok then .confirmTimeout failure.message else .cancelTimeout failure.message
    else match tryFailure with
      | some own => .endFailed own.code s!"{own.message}; {failure.message}"
      | none => .endFailed Code.endFailed failure.message

/-! ### Before Try -/

/-- How a role enters the transaction, if it takes part in it. -/
def Role.entry? : Role → Option Entry
  | root => some .beginning
  | branch => some .joining
  | propagator => none

theorem Role.entry?_eq_beginning_iff {role : Role} : role.entry? = some .beginning ↔ role = .root := by
  cases role <;> simp [Role.entry?]

theorem Role.entry?_eq_joining_iff {role : Role} : role.entry? = some .joining ↔ role = .branch := by
  cases role <;> simp [Role.entry?]

theorem Role.entry?_eq_none_iff {role : Role} : role.entry? = none ↔ role = .propagator := by
  cases role <;> simp [Role.entry?]

/-- The context of a hop that only hands the transaction on: its caller is the branch. -/
def Context.handedOn (context : Context) : Context :=
  { context with transaction := { context.transaction with branchXid := context.span.parentSpanId } }

section HandedOn

variable (context : Context)

@[simp]
theorem Context.handedOn_span : context.handedOn.span = context.span := rfl

@[simp]
theorem Context.handedOn_rootXid : context.handedOn.transaction.rootXid = context.transaction.rootXid := rfl

@[simp]
theorem Context.handedOn_branchXid : context.handedOn.transaction.branchXid = context.span.parentSpanId := rfl

@[simp]
theorem Context.handedOn_agentAddress :
    context.handedOn.transaction.agentAddress = context.transaction.agentAddress := rfl

end HandedOn

/-! ### After Try -/

def failureOf? {α : Type} : Except ServiceFailure α → Option ServiceFailure
  | .ok _ => none
  | .error failure => some failure

def returnedOk {α : Type} (outcome : Except ServiceFailure α) : Bool := (failureOf? outcome).isNone

def isConfirmable (config : Config) (context : Context) (returned : Bool) : Bool :=
  returned && !context.transaction.forceCancel
    && !context.responseHeaders.keys.any (Text.sameLetters · config.errorSentinelHeader)

/-- The headers whose names begin with a text, and the others. -/
def takeBeginning (start : String) (headers : Dict String) : Dict String × Dict String :=
  (headers.filter fun name _ => Text.beginsWith start name,
    headers.filter fun name _ => !Text.beginsWith start name)

/-- The failure of a context that lacks identifiers. -/
def incompleteContext (missing : List String) : Failure :=
  .structural ("incomplete transaction context after try: missing " ++ String.intercalate ", " missing)

namespace Link

variable {σ α : Type}

/-- Enters the transaction as the role asks. One that is only handed on keeps the caller as its branch. -/
def enter (link : Link σ) (config : Config) (role : Role) (coordinator : String) (entrant : Entrant) :
    Action σ (Except Failure Unit) := fun context world =>
  match role.entry? with
  | some entry =>
    (link.enterBy entry config coordinator entrant context world).map fun answer =>
      (answer.mapError (enteringFailure entry.failure)).map fun _ => ()
  | none => ⟨.ok (), context.handedOn, world⟩

/-- Runs Try and charges its time. -/
def attempt (link : Link σ) (body : Action σ (Except ServiceFailure α)) :
    Action σ (Except ServiceFailure α) := fun context world =>
  let step := body context world
  { step with context := step.context.consume (link.now step.world - link.now world) }

/-- Ends the part of a hop once Try has run. -/
def conclude (link : Link σ) (config : Config) (role : Role) (coordinator : String)
    (outcome : Except ServiceFailure α) : Action σ (Except Failure α) := fun context world =>
  let answer := outcome.mapError .business
  let ok := isConfirmable config context (returnedOk outcome)
  if !context.missing.isEmpty then ⟨.error (incompleteContext context.missing), context, world⟩
  else match role with
    | .propagator => ⟨answer, context, world⟩
    | .branch =>
      if !ok && config.tryFailedIgnoreCallbackCancel then
        (link.finish config coordinator false (failureOf? outcome) ∅ context world).map fun _ => answer
      else ⟨answer, context, world⟩
    | .root =>
      let (secondStage, others) := takeBeginning config.secondStageHeaderStart context.responseHeaders
      (link.finish config coordinator ok (failureOf? outcome) secondStage
        { context with responseHeaders := others } world).map fun ended =>
          match ended with
          | .ok () => answer
          | .error failure => .error (endingFailure ok (failureOf? outcome) failure)

/-- Enters the transaction, runs Try and ends; nothing is run if the hop does not get in. -/
def within (link : Link σ) (config : Config) (role : Role) (coordinator : String) (entrant : Entrant)
    (body : Action σ (Except ServiceFailure α)) : Action σ (Except Failure α) := fun context world =>
  let entered := link.enter config role coordinator entrant context world
  match entered.answer with
  | .error failure => ⟨.error failure, entered.context, entered.world⟩
  | .ok () =>
    let tried := link.attempt body entered.context entered.world
    link.conclude config role coordinator tried.answer tried.context tried.world

/-- Runs the Try of a registered service within the transaction of the context. Only the record of the
service is looked up, so the registry may be one of any world. -/
def execute {τ : Type} (link : Link σ) (registry : Registry τ) (service : String) (arguments : Json.Datum)
    (body : Action σ (Except ServiceFailure α)) : Action σ (Except Failure α) := fun context world =>
  let config := link.settings world
  match registry.descriptor service with
  | .error failure => ⟨.error failure, context, world⟩
  | .ok descriptor =>
    match Parameters.encode arguments with
    | .error fault => ⟨.error fault.failure, context, world⟩
    | .ok parameters =>
      let role := Role.of config descriptor context
      link.within config role (role.coordinator config context) ⟨service, descriptor.flags, parameters⟩ body
        context world

end Link

end TryConfirmCancel
