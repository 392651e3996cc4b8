/-
**A run with a journal.**

A run of `Link.execute` works on any world, so it also works on a world that keeps a journal beside it.
The journal lists the requests that the run itself sends and the Try, each when it has ended; what Try
does on its own account is no deed of the run.

* `Link.recorded`: the run on the world with a journal, which is empty at first;
* `erased_recorded`: without its journal it is the run itself;
* `Visit`: a hop with all that its run depends on.
-/

import TryConfirmCancel.Proofs.Transaction.Projection

namespace TryConfirmCancel

/-- Something that a run does. -/
inductive Deed (α : Type)
  /-- The run sent a request of its own, and this came back. -/
  | sent (request : Rpc.Request) (outcome : Except Rpc.Failure Rpc.Response)
  /-- Try ran: the context it found and the one it left, how long it took, and how it ended. -/
  | tried (entered left : Context) (elapsed : Nanoseconds) (outcome : Except ServiceFailure α)

/-- The context on which a deed ran Try. -/
def Deed.entered? {α : Type} : Deed α → Option Context
  | .sent _ _ => none
  | .tried entered _ _ _ => some entered

/-- The context that Try left in a deed. -/
def Deed.left? {α : Type} : Deed α → Option Context
  | .sent _ _ => none
  | .tried _ left _ _ => some left

/-- A world with a journal of the deeds so far. -/
structure Journalled (σ α : Type) where
  world : σ
  journal : List (Deed α)

def Step.erased {σ α β : Type} (step : Step (Journalled σ α) β) : Step σ β :=
  ⟨step.answer, step.context, step.world.world⟩

namespace Link

variable {σ α : Type}

/-- A link that writes down what it sends. -/
def journalled (link : Link σ) : Link (Journalled σ α) :=
  { settings := fun state => link.settings state.world
    now := fun state => link.now state.world
    send := fun request state =>
      let (outcome, after) := link.send request state.world
      (outcome, ⟨after, state.journal ++ [.sent request outcome]⟩) }

/-- A Try that is written down; nothing that it does on its way is. -/
def witnessed (link : Link σ) (body : Action σ (Except ServiceFailure α)) :
    Action (Journalled σ α) (Except ServiceFailure α) := fun context state =>
  let step := body context state.world
  let elapsed := link.now step.world - link.now state.world
  ⟨step.answer, step.context, ⟨step.world, state.journal ++ [.tried context step.context elapsed step.answer]⟩⟩

/-- **A run with its journal.** -/
def recorded {τ : Type} (link : Link σ) (registry : Registry τ) (service : String)
    (arguments : Json.Datum) (body : Action σ (Except ServiceFailure α)) (context : Context) (world : σ) :
    Step (Journalled σ α) (Except Failure α) :=
  link.journalled.execute registry service arguments (link.witnessed body) context ⟨world, []⟩

/-! ### The journal changes nothing -/

theorem journalled_covers (link : Link σ) :
    Covers (link.journalled : Link (Journalled σ α)) link Journalled.world :=
  ⟨fun _ => rfl, fun _ => rfl, fun _ _ => rfl⟩

/-- **Without its journal, a recorded run is the run itself.** -/
theorem erased_recorded {τ : Type} (link : Link σ) (registry : Registry τ) (service : String)
    (arguments : Json.Datum) (body : Action σ (Except ServiceFailure α)) (context : Context) (world : σ) :
    (link.recorded registry service arguments body context world).erased
      = link.execute registry service arguments body context world :=
  link.journalled_covers.execute context ⟨world, []⟩ registry service arguments fun _ _ => rfl

theorem recorded_answer {τ : Type} (link : Link σ) (registry : Registry τ) (service : String)
    (arguments : Json.Datum) (body : Action σ (Except ServiceFailure α)) (context : Context) (world : σ) :
    (link.recorded registry service arguments body context world).answer
      = (link.execute registry service arguments body context world).answer :=
  congrArg Step.answer (link.erased_recorded registry service arguments body context world)

end Link

/-! ### Hops -/

/-- A hop that runs a Try, in its own world. -/
structure Visit where
  {σ τ α : Type}
  link : Link σ
  registry : Registry τ
  service : String
  arguments : Json.Datum
  body : Action σ (Except ServiceFailure α)
  start : Context
  world : σ

namespace Visit

/-- The settings that a hop takes when it starts. -/
def config (visit : Visit) : Config := visit.link.settings visit.world

def journal (visit : Visit) : List (Deed visit.α) :=
  (visit.link.recorded visit.registry visit.service visit.arguments visit.body visit.start
    visit.world).world.journal

end Visit

end TryConfirmCancel
