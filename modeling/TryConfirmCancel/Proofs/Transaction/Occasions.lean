/-
**A run with its occasions.**

A journal tells what came of the deeds of a run. Its occasions tell the world in which each of them was
done, from which what came of it can be told again.

* `Link.followed`: the run on a world that keeps its occasions, which are none at first;
* `Link.deed`: what came of an occasion; `recorded_journal`: the journal of a run tells this of its occasions;
* `erased_followed`: without its occasions, a run is the run itself.
-/

import TryConfirmCancel.Proofs.Transaction.Journal

namespace TryConfirmCancel

/-- Something that a run does, and the world in which it does it. -/
inductive Occasion (σ : Type)
  /-- The run sends a request of its own. -/
  | sending (request : Rpc.Request) (before : σ)
  | trying (entered : Context) (before : σ)

/-- A world with the occasions so far. -/
structure Followed (σ : Type) where
  world : σ
  occasions : List (Occasion σ)

namespace Link

variable {σ α : Type} (link : Link σ) (body : Action σ (Except ServiceFailure α))

/-- A link that keeps the world in which it sends. -/
def following : Link (Followed σ) :=
  { settings := fun state => link.settings state.world
    now := fun state => link.now state.world
    send := fun request state =>
      let (outcome, after) := link.send request state.world
      (outcome, ⟨after, state.occasions ++ [.sending request state.world]⟩) }

/-- A Try of which the world that it finds is kept. -/
def attended (body : Action σ (Except ServiceFailure α)) : Action (Followed σ) (Except ServiceFailure α) :=
  fun context state =>
    let step := body context state.world
    ⟨step.answer, step.context, ⟨step.world, state.occasions ++ [.trying context state.world]⟩⟩

/-- **A run with its occasions.** -/
def followed {τ : Type} (registry : Registry τ) (service : String) (arguments : Json.Datum) (context : Context)
    (world : σ) : Step (Followed σ) (Except Failure α) :=
  link.following.execute registry service arguments (attended body) context ⟨world, []⟩

/-- What came of an occasion. -/
def deed : Occasion σ → Deed α
  | .sending request before => .sent request (link.send request before).1
  | .trying entered before =>
    let step := body entered before
    .tried entered step.context (link.now step.world - link.now before) step.answer

/-- The journal that some occasions make. -/
def told (state : Followed σ) : Journalled σ α := ⟨state.world, state.occasions.map (link.deed body)⟩

theorem following_erases : Covers link.following link Followed.world :=
  ⟨fun _ => rfl, fun _ => rfl, fun _ _ => rfl⟩

theorem following_covers : Covers link.following link.journalled (link.told body) where
  settings _ := rfl
  now _ := rfl
  send request state := by
    simp only [journalled, following, told, deed, List.map_append, List.map_cons, List.map_nil]

section Runs

variable {τ : Type} (registry : Registry τ) (service : String) (arguments : Json.Datum) (context : Context)
  (world : σ)

theorem told_followed : (link.followed body registry service arguments context world).projected (link.told body)
    = link.recorded registry service arguments body context world := by
  refine (link.following_covers body).execute context ⟨world, []⟩ registry service arguments fun entered state => ?_
  simp only [Step.projected, attended, witnessed, told, deed, List.map_append, List.map_cons, List.map_nil]

/-- **The journal of a run tells what came of its occasions.** -/
theorem recorded_journal : (link.recorded registry service arguments body context world).world.journal
    = (link.followed body registry service arguments context world).world.occasions.map (link.deed body) := by
  rw [← link.told_followed]
  rfl

/-- **Without its occasions, a run is the run itself.** -/
theorem erased_followed :
    (link.followed body registry service arguments context world).projected Followed.world
      = link.execute registry service arguments body context world := by
  rw [← link.erased_recorded, ← link.told_followed]
  rfl

variable {link body registry service arguments context world}

/-- What came back for a request came on an occasion. -/
theorem exists_occasion_of_sent {request : Rpc.Request} {outcome : Except Rpc.Failure Rpc.Response}
    (sent : .sent request outcome ∈ (link.recorded registry service arguments body context world).world.journal) :
    ∃ before, .sending request before ∈
      (link.followed body registry service arguments context world).world.occasions ∧
      (link.send request before).1 = outcome := by
  rw [link.recorded_journal] at sent
  obtain ⟨occasion, inside, same⟩ := List.mem_map.mp sent
  cases occasion with
  | sending request' before =>
    cases same
    exact ⟨before, inside, rfl⟩
  | trying entered before => cases same

end Runs

end Link

end TryConfirmCancel
