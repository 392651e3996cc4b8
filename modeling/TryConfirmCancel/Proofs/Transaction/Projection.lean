/-
**A run on a larger world.**

A world may keep more than a link needs: a journal, or the time that each request took. Where two links
agree on what both know, a run on the larger world is a run on the smaller one with something beside it.

* `Link.Covers`: a link agrees with another one on what a projection keeps of its world;
* `Link.Covers.execute`: so does every run.
-/

import TryConfirmCancel.Transaction.Execution

namespace TryConfirmCancel

/-- The same step, of whose world only a part is kept. -/
def Step.projected {σ τ β : Type} (project : σ → τ) (step : Step σ β) : Step τ β :=
  ⟨step.answer, step.context, project step.world⟩

theorem Step.projected_map {σ τ β γ : Type} (project : σ → τ) (convert : β → γ) (step : Step σ β) :
    (step.map convert).projected project = (step.projected project).map convert := rfl

namespace Link

variable {σ τ α : Type}

/-- A link agrees with another one on what a projection keeps of its world. -/
structure Covers (fine : Link σ) (coarse : Link τ) (project : σ → τ) : Prop where
  settings : ∀ world, coarse.settings (project world) = fine.settings world
  now : ∀ world, coarse.now (project world) = fine.now world
  send : ∀ request world,
    coarse.send request (project world) = ((fine.send request world).1, project (fine.send request world).2)

namespace Covers

variable {fine : Link σ} {coarse : Link τ} {project : σ → τ} (covers : Covers fine coarse project)
  (config : Config) (context : Context) (world : σ)

include covers

theorem request (operation : Operation) (target : Rpc.Target) (codec : Rpc.Codec) (body : Bytes)
    (headers : Dict String) :
    (fine.request config operation target codec body headers context world).projected project
      = coarse.request config operation target codec body headers context (project world) := by
  unfold Link.request
  split
  · rfl
  · simp only [covers.send, covers.now]
    rfl

theorem enrol (operation : Operation) (service : String) (entrant : Entrant) (route : Route)
    (enrolment : Enrolment) :
    (fine.enrol config operation service entrant route enrolment context world).projected project
      = coarse.enrol config operation service entrant route enrolment context (project world) := by
  unfold Link.enrol
  split
  · rfl
  · exact covers.request config context world _ _ _ _ _

theorem enterBy (entry : Entry) (coordinator : String) (entrant : Entrant) :
    (fine.enterBy entry config coordinator entrant context world).projected project
      = coarse.enterBy entry config coordinator entrant context (project world) := by
  unfold Link.enterBy
  cases Route.resolve config coordinator with
  | error fault => rfl
  | ok route =>
    simp only [covers.now]
    rw [← covers.enrol config context world]
    generalize fine.enrol config entry.operation entry.service entrant route
      (entrant.enrolment entry config route context (fine.now world)) context world = step
    obtain ⟨answer, after, world'⟩ := step
    simp only [Step.projected]
    split <;> rfl

theorem enter (role : Role) (coordinator : String) (entrant : Entrant) :
    (fine.enter config role coordinator entrant context world).projected project
      = coarse.enter config role coordinator entrant context (project world) := by
  unfold Link.enter
  cases role.entry? with
  | none => rfl
  | some entry =>
    simp only
    rw [Step.projected_map, covers.enterBy config context world]

theorem finish (coordinator : String) (ok : Bool) (tryFailure : Option ServiceFailure)
    (secondStage : Dict String) :
    (fine.finish config coordinator ok tryFailure secondStage context world).projected project
      = coarse.finish config coordinator ok tryFailure secondStage context (project world) := by
  unfold Link.finish
  cases Route.resolve config coordinator with
  | error fault => rfl
  | ok route =>
    simp only [covers.now]
    rw [Step.projected_map, covers.request config context world]

theorem conclude (role : Role) (coordinator : String) (outcome : Except ServiceFailure α) :
    (fine.conclude config role coordinator outcome context world).projected project
      = coarse.conclude config role coordinator outcome context (project world) := by
  unfold Link.conclude
  split
  · rfl
  · cases role with
    | propagator => rfl
    | branch =>
      simp only
      split
      · rw [Step.projected_map, covers.finish config context world]
      · rfl
    | root =>
      simp only
      rw [Step.projected_map, covers.finish config _ world]

/-- A Try that agrees with another one leaves what the other one leaves, when its time is charged too. -/
theorem attempt {fineBody : Action σ (Except ServiceFailure α)} {body : Action τ (Except ServiceFailure α)}
    (agrees : ∀ context world, (fineBody context world).projected project = body context (project world)) :
    (fine.attempt fineBody context world).projected project = coarse.attempt body context (project world) := by
  unfold Link.attempt
  rw [← agrees context world]
  generalize fineBody context world = step
  obtain ⟨answer, after, world'⟩ := step
  simp only [Step.projected, covers.now]

omit world context in
theorem conclude_behind (role : Role) (coordinator : String) {tried : Step σ (Except ServiceFailure α)}
    {tried' : Step τ (Except ServiceFailure α)} (same : tried.projected project = tried') :
    (fine.conclude config role coordinator tried.answer tried.context tried.world).projected project
      = coarse.conclude config role coordinator tried'.answer tried'.context tried'.world := by
  subst same
  exact covers.conclude config tried.context tried.world role coordinator tried.answer

theorem within (role : Role) (coordinator : String) (entrant : Entrant)
    {fineBody : Action σ (Except ServiceFailure α)} {body : Action τ (Except ServiceFailure α)}
    (agrees : ∀ context world, (fineBody context world).projected project = body context (project world)) :
    (fine.within config role coordinator entrant fineBody context world).projected project
      = coarse.within config role coordinator entrant body context (project world) := by
  unfold Link.within
  rw [← covers.enter config context world]
  generalize fine.enter config role coordinator entrant context world = entered
  obtain ⟨answer, after, world'⟩ := entered
  cases answer with
  | error failure => rfl
  | ok _ =>
    exact covers.conclude_behind config role coordinator (covers.attempt after world' agrees)

/-- **Two runs agree if their links and their Tries do.** -/
theorem execute {ρ : Type} (registry : Registry ρ) (service : String) (arguments : Json.Datum)
    {fineBody : Action σ (Except ServiceFailure α)} {body : Action τ (Except ServiceFailure α)}
    (agrees : ∀ context world, (fineBody context world).projected project = body context (project world)) :
    (fine.execute registry service arguments fineBody context world).projected project
      = coarse.execute registry service arguments body context (project world) := by
  unfold Link.execute
  rw [covers.settings]
  cases registry.descriptor service with
  | error failure => rfl
  | ok descriptor =>
    cases Parameters.encode arguments with
    | error fault => rfl
    | ok parameters => exact covers.within _ context world _ _ _ agrees

end Covers

end Link

end TryConfirmCancel
