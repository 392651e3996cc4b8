/-
**Steps of a hop.**

A step answers something and may change the context of its hop and the world around it. The world is
any type: a record of what was sent, a clock, the state of a peer.
-/

import TryConfirmCancel.Hop.Context

namespace TryConfirmCancel

/-- What a step leaves behind. -/
structure Step (σ α : Type) where
  answer : α
  context : Context
  world : σ
  deriving Inhabited

abbrev Action (σ α : Type) := Context → σ → Step σ α

/-- The same step with its answer changed. -/
def Step.map {σ α β : Type} (convert : α → β) (step : Step σ α) : Step σ β :=
  ⟨convert step.answer, step.context, step.world⟩

end TryConfirmCancel
