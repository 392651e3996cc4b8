/-
**What a report said, and to whom.**

* `IsVerdict`: a report stands behind an accepted request to enter and a Try; it confirms just if the hop
  is the root and Try succeeded; and it goes where the request to enter went, by the settings and the
  coordinator that were taken when the run started;
* `execute_verdict`: every report of a run is of this kind.
-/

import TryConfirmCancel.Proofs.Transaction.Sequence

namespace TryConfirmCancel

section Verdicts

variable {α : Type} {config : Config} {role : Role} {coordinator : String} {entrant : Entrant}
  {context : Context}

/-- A report of a run, with all that it rests on. -/
structure IsVerdict (config : Config) (role : Role) (coordinator : String) (journal : List (Deed α))
    (request : Rpc.Request) (outcome : Except Rpc.Failure Rpc.Response) (report : Report)
    (entry : Entry) (route : Route) (first : Rpc.Request) (reply : Rpc.Response) (entered left : Context)
    (elapsed : Nanoseconds) (result : Except ServiceFailure α) : Prop where
  /-- The hop entered, ran Try, and then reported. -/
  journal_eq : journal = [.sent first (.ok reply), .tried entered left elapsed result, .sent request outcome]
  active : role.entry? = some entry
  enrolled : ∃ message arguments, first.asked? = some (.enrolment entry message arguments)
  /-- Only a root confirms, and only a Try that succeeded. -/
  confirms_iff : report.ok = true ↔ role = .root ∧ Confirmable config left result
  /-- The report goes to the coordinator that admitted the hop. -/
  resolved : Route.resolve config coordinator = .ok route
  entered_at : first.target = route.target config entry.operation
  reported_at : request.target = route.target config .finish

/-- A report of a course is a verdict. -/
theorem Course.verdict {deeds : List (Deed α)} {answer : Except Failure α}
    (course : Course config role coordinator entrant context deeds answer) {request : Rpc.Request}
    {outcome : Except Rpc.Failure Rpc.Response} {report : Report} (sent : .sent request outcome ∈ deeds)
    (asked : request.asked? = some (.report report)) :
    ∃ entry route first reply entered left elapsed result, IsVerdict config role coordinator deeds request
      outcome report entry route first reply entered left elapsed result := by
  obtain ⟨entry, first, reply, _, entered, left, elapsed, result, active, enrols, -, rfl, ending⟩ :=
    course.reports sent asked
  cases ending with
  | reported complete due unspent reports own =>
    have said := reports.ok_eq asked
    rw [isConfirmable_consume] at said due
    obtain ⟨route, _, resolved, target, _⟩ := reports
    obtain ⟨route', _, resolved', target', enrolment⟩ := enrols
    cases resolved.symm.trans resolved'
    refine ⟨_, route, _, _, _, _, _, _, rfl, active, ⟨_, _, enrolment⟩, ?_, resolved, target', target⟩
    rw [said]
    rcases due with root | ⟨branch, failed, -⟩
    · rw [isConfirmable_iff]
      exact ⟨fun ok => ⟨root, ok⟩, fun both => both.2⟩
    · rw [failed, branch]
      simp

end Verdicts

/-- **Every report of a run is a verdict**: it confirms just if the hop is the root of the transaction, Try
returned a value, nothing forced a cancel, and no header that Try left marked an error; and it goes to the
coordinator that the hop entered at. -/
theorem execute_verdict {σ τ α : Type} (link : Link σ) (registry : Registry τ) (service : String)
    (arguments : Json.Datum) (body : Action σ (Except ServiceFailure α)) (context : Context) (world : σ)
    {request : Rpc.Request} {outcome : Except Rpc.Failure Rpc.Response} {report : Report}
    (sent : .sent request outcome ∈
      (link.recorded registry service arguments body context world).world.journal)
    (asked : request.asked? = some (.report report)) :
    ∃ descriptor, registry.descriptor service = .ok descriptor ∧
      ∃ entry route first reply entered left elapsed result,
        IsVerdict (link.settings world) (Role.of (link.settings world) descriptor context)
          ((Role.of (link.settings world) descriptor context).coordinator (link.settings world) context)
          (link.recorded registry service arguments body context world).world.journal
          request outcome report entry route first reply entered left elapsed result := by
  obtain ⟨descriptor, parameters, registered, -, course⟩ := link.course_of_mem body context world sent
  exact ⟨descriptor, registered, course.verdict sent asked⟩

/-- The report on an order is a verdict. -/
theorem orderVisit_verdict : ∃ request outcome report,
    .sent request outcome ∈ orderVisit.journal ∧ request.asked? = some (.report report) ∧
    ∃ descriptor, orderVisit.registry.descriptor orderVisit.service = .ok descriptor ∧
      ∃ entry route first reply entered left elapsed result,
        IsVerdict orderVisit.config (Role.of orderVisit.config descriptor orderVisit.start)
          ((Role.of orderVisit.config descriptor orderVisit.start).coordinator orderVisit.config orderVisit.start)
          orderVisit.journal request outcome report entry route first reply entered left elapsed result := by
  obtain ⟨request, outcome, asked, sent, read, finish⟩ : ∃ request outcome asked,
      .sent request outcome ∈ orderVisit.journal ∧ request.asked? = some asked ∧ asked.operation = .finish :=
    exists_sent_of_mark (by rw [orderVisit_marks]; decide)
  cases asked with
  | enrolment entry => exact absurd finish entry.operation_ne_finish
  | report report =>
    rw [Visit.journal] at sent ⊢
    rw [Visit.config]
    exact ⟨request, outcome, report, sent, read, execute_verdict orderVisit.link orderVisit.registry
      orderVisit.service orderVisit.arguments orderVisit.body orderVisit.start orderVisit.world sent read⟩

end TryConfirmCancel
