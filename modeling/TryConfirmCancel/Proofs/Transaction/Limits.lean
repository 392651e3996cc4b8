/-
**How the time limits of a run follow each other.**

The settings keep a reserve for the service's own work. A request may take what is left of the budget beyond the
reserve, but once no more than the reserve is left, it may take all of this. So a request may be given more time than
one before it, although less is left.

* `Config.Lengthens`, `callTimeout_lt_iff`: when less that is left means more time for a request;
* `Paces`, `recorded_paces`: from which budget each request of a run is made;
* `execute_keepsLimits`: the time limits of the request that lets a hop in, and of its report;
* `tightOrder_lengthens`: a report that may take a thousand times as long as the beginning before it.
-/

import TryConfirmCancel.Proofs.Transaction.Sequence

namespace TryConfirmCancel

/-! ### More time although less is left -/

/-- A request may take longer than one before it: before that one more was left than the reserve, so that it was given
the excess only. Now no more than the reserve is left, and this is more than that excess. The most that a request may
take does not hide it. -/
structure Config.Lengthens (config : Config) (before after : Nat) : Prop where
  above : config.maxServiceConsumeMs < before
  within : after ≤ config.maxServiceConsumeMs
  excess_lt : before - config.maxServiceConsumeMs < after
  excess_lt_limit : before - config.maxServiceConsumeMs < config.requestTimeoutMs

/-- **A request may take longer although less is left just in this case.** -/
theorem Config.callTimeout_lt_iff {config : Config} {before after : Nat} (less : after ≤ before) :
    config.callTimeout (ofMilliseconds before) < config.callTimeout (ofMilliseconds after) ↔
      config.Lengthens before after := by
  have arithmetic (reserve limit before after : Nat) (less : after ≤ before) :
      min (if reserve < before then before - reserve else before) limit
          < min (if reserve < after then after - reserve else after) limit ↔
        reserve < before ∧ after ≤ reserve ∧ before - reserve < after ∧ before - reserve < limit := by
    split <;> split <;> omega
  have scaled : ofMilliseconds after ≤ ofMilliseconds before := Nat.mul_le_mul_right _ less
  rw [callTimeout, callTimeout, arithmetic _ _ _ _ scaled]
  simp only [ofMilliseconds, nanosPerMilli]
  constructor
  · rintro ⟨above, within, excess, limit⟩
    exact ⟨by omega, by omega, by omega, by omega⟩
  · rintro ⟨above, within, excess, limit⟩
    omega

/-! ### Requests and the budgets that they are made from -/

/-- What a step with a span does: nothing, or it sends one request that the settings make of the span, and charges its
time. The span behind it stands last. -/
inductive Paces {α : Type} (config : Config) (span : Span) : List (Deed α) → Span → Prop
  | idle : Paces config span [] span
  | call {request : Rpc.Request} {outcome : Except Rpc.Failure Rpc.Response} (elapsed : Nanoseconds)
      (sends : Sends config span request) : Paces config span [.sent request outcome] (span.consume elapsed)

/-- What a run with a span does: one step, or one step on each side of Try. -/
inductive PacesThrough {α : Type} (config : Config) (span : Span) : List (Deed α) → Prop
  | shutOut {opening : List (Deed α)} {after : Span} (opens : Paces config span opening after) :
      PacesThrough config span opening
  | tried {opening closing : List (Deed α)} {entered left : Context} {elapsed : Nanoseconds}
      {outcome : Except ServiceFailure α} {after : Span} (opens : Paces config span opening entered.span)
      (closes : Paces config (left.span.consume elapsed) closing after) :
      PacesThrough config span (opening ++ .tried entered left elapsed outcome :: closing)

section Deeds

variable {α : Type} {config : Config} {span after : Span} {request first last : Rpc.Request}
  {came result : Except Rpc.Failure Rpc.Response}

/-- A step that sent a request made it of its span, and left no more of the budget. -/
theorem Paces.sends (paces : Paces config span [(.sent request result : Deed α)] after) :
    Sends config span request ∧ after.budget ≤ span.budget := by
  cases paces with
  | call elapsed sends => exact ⟨sends, by rw [Span.consume_budget]; exact charged_le ..⟩

/-- A run through Try makes its first request of the span it starts with, and its last one of what Try left. -/
theorem PacesThrough.sends {entered left : Context} {elapsed : Nanoseconds} {outcome : Except ServiceFailure α}
    (paces : PacesThrough config span
      [.sent first came, .tried entered left elapsed outcome, .sent last result]) :
    Sends config span first ∧ entered.span.budget ≤ span.budget ∧ Sends config (left.span.consume elapsed) last := by
  generalize whole : [Deed.sent first came, .tried entered left elapsed outcome, .sent last result] = deeds at paces
  cases paces with
  | shutOut opens => cases opens <;> cases whole
  | @tried opening _ inside _ _ _ _ opens closes =>
    generalize found : inside.span = middle at opens
    cases opens with
    | idle => cases whole
    | call spent sends =>
      cases whole
      refine ⟨sends, ?_, closes.sends.1⟩
      rw [found]
      exact charged_le ..

theorem Sends.timeout_eq (sends : Sends config span request) :
    request.timeout = config.callTimeout (ofMilliseconds span.budget) := by
  obtain ⟨-, target, codec, body, headers, rfl⟩ := sends
  rfl

end Deeds

namespace Link

section Steps

variable {σ α β : Type} {link : Link σ} {config : Config} {state : Journalled σ α}

theorem IsSparing.paces {span : Span} {step : Step (Journalled σ α) β}
    (sparing : link.journalled.IsSparing config state span step) :
    ∃ deeds, step.world.journal = state.journal ++ deeds ∧ Paces config span deeds step.context.span := by
  cases sparing with
  | idle answer kept => exact ⟨[], (List.append_nil _).symm, by rw [kept]; exact .idle⟩
  | call answer sends charged => exact ⟨_, rfl, by rw [charged]; exact .call _ sends⟩

variable (link config)

/-- A run paces itself. -/
theorem within_paces (context : Context) (world : σ) (role : Role) (coordinator : String) (entrant : Entrant)
    (body : Action σ (Except ServiceFailure α)) :
    PacesThrough config context.span
      (link.journalled.within config role coordinator entrant (link.witnessed body) context
        ⟨world, []⟩).world.journal := by
  obtain ⟨opening, journal, opens⟩ :=
    (link.journalled.enter_isSparing config coordinator context (⟨world, []⟩ : Journalled σ α) role entrant).paces
  unfold within
  generalize link.journalled.enter config role coordinator entrant context ⟨world, []⟩ = step at journal opens ⊢
  obtain ⟨answer, after, state⟩ := step
  rw [List.nil_append] at journal
  cases answer with
  | error failure =>
    rw [journal]
    exact .shutOut opens
  | ok _ =>
    let tried := link.journalled.attempt (link.witnessed body) after state
    obtain ⟨closing, journal', closes⟩ :=
      (link.journalled.conclude_isSparing config coordinator tried.context tried.world role tried.answer).paces
    have whole : tried.world.journal = opening ++ [.tried after (body after state.world).context
        (link.now (body after state.world).world - link.now state.world) (body after state.world).answer] := by
      rw [← journal]
      rfl
    rw [journal', whole, List.append_assoc]
    exact .tried opens closes

end Steps

/-- Every run paces itself. -/
theorem recorded_paces {σ τ α : Type} (link : Link σ) (registry : Registry τ) (service : String)
    (arguments : Json.Datum) (body : Action σ (Except ServiceFailure α)) (context : Context) (world : σ) :
    PacesThrough (link.settings world) context.span
      (link.recorded registry service arguments body context world).world.journal := by
  cases registered : registry.descriptor service with
  | error failure =>
    rw [link.recorded_of_unregistered body context world registered]
    exact .shutOut .idle
  | ok descriptor =>
    cases written : Parameters.encode arguments with
    | error fault =>
      rw [link.recorded_of_unwritable body context world registered written]
      exact .shutOut .idle
    | ok parameters =>
      rw [link.recorded_of_written body context world registered written]
      exact link.within_paces _ context world _ _ _ body

end Link

/-- The time limits of the request that lets a hop in and of its report, by the budgets before them. If Try leaves no
more of the budget than it found, the report may take longer just if the budget has fallen to within the reserve. -/
structure KeepsLimits (config : Config) (start : Span) (first : Rpc.Request) (entered left : Context)
    (elapsed : Nanoseconds) (last : Rpc.Request) : Prop where
  found_le : entered.span.budget ≤ start.budget
  first_eq : first.timeout = config.callTimeout (ofMilliseconds start.budget)
  last_eq : last.timeout = config.callTimeout (ofMilliseconds (charged left.span.budget elapsed))
  lt_iff : left.span.budget ≤ entered.span.budget →
    (first.timeout < last.timeout ↔ config.Lengthens start.budget (charged left.span.budget elapsed))

theorem PacesThrough.keepsLimits {α : Type} {config : Config} {start : Span} {first last : Rpc.Request}
    {came result : Except Rpc.Failure Rpc.Response} {entered left : Context} {elapsed : Nanoseconds}
    {outcome : Except ServiceFailure α}
    (paces : PacesThrough config start
      [.sent first came, .tried entered left elapsed outcome, .sent last result]) :
    KeepsLimits config start first entered left elapsed last := by
  obtain ⟨opens, less, closes⟩ := paces.sends
  have last_eq : last.timeout = config.callTimeout (ofMilliseconds (charged left.span.budget elapsed)) := by
    rw [closes.timeout_eq, Span.consume_budget]
  refine ⟨less, opens.timeout_eq, last_eq, fun kept => ?_⟩
  rw [opens.timeout_eq, last_eq]
  exact Config.callTimeout_lt_iff (Nat.le_trans (charged_le ..) (Nat.le_trans kept less))

/-- **A report may take longer than the request that let the hop in just if the budget has fallen to within the reserve
in between**, provided that Try leaves no more of the budget than it found. Before a report there always is such a
request and a Try, whatever the delays of the coordinator and however long Try takes. -/
theorem execute_keepsLimits {σ τ α : Type} (link : Link σ) (registry : Registry τ) (service : String)
    (arguments : Json.Datum) (body : Action σ (Except ServiceFailure α)) (context : Context) (world : σ)
    {last : Rpc.Request} {result : Except Rpc.Failure Rpc.Response} {report : Report}
    (sent : .sent last result ∈ (link.recorded registry service arguments body context world).world.journal)
    (asked : last.asked? = some (.report report)) :
    ∃ entry first came message parameters entered left elapsed outcome,
      first.asked? = some (.enrolment entry message parameters) ∧
      (link.recorded registry service arguments body context world).world.journal
        = [.sent first came, .tried entered left elapsed outcome, .sent last result] ∧
      KeepsLimits (link.settings world) context.span first entered left elapsed last := by
  obtain ⟨descriptor, parameters, registered, written, course⟩ := link.course_of_mem body context world sent
  obtain ⟨entry, first, response, xid, entered, left, elapsed, outcome, active, ⟨route, time, -, -, enrolment⟩, -,
    journal, -⟩ := course.reports sent asked
  have paces := link.recorded_paces registry service arguments body context world
  rw [journal] at paces
  exact ⟨entry, first, .ok response, _, _, entered, left, elapsed, outcome, enrolment, journal, paces.keepsLimits⟩

/-! ### A tight order -/

/-- An order with a millisecond more than the reserve, which its beginning takes. -/
def tightOrder : Visit :=
  { orderVisit with
    start := { orderContext with span := orderContext.span.withBudget 1001 }
    world := .start shopSettings [{ assigning Message.begun ⟨"R", 0⟩ with delay := ofMilliseconds 1 },
      assigning Message.ended ⟨0⟩] () }

def Deed.timeout? {α : Type} : Deed α → Option Nanoseconds
  | .sent request _ => some request.timeout
  | .tried _ _ _ _ => none

theorem tightOrder_deeds : tightOrder.journal.map (fun deed => (deed.mark?, deed.timeout?,
    deed.entered?.map fun entered => entered.span.budget, deed.left?.map fun left => left.span.budget))
      = [(some (.asked .begin), some (ofMilliseconds 1), none, none), (some .tried, none, some 1000, some 1000),
        (some (.asked .finish), some (ofMilliseconds 1000), none, none)] := by
  decide +kernel

/-- **Less is left for the report than for the beginning, but it may take a thousand times as long.** -/
theorem tightOrder_lengthens : tightOrder.journal.map (fun deed => (deed.mark?, deed.timeout?))
      = [(some (.asked .begin), some (ofMilliseconds 1)), (some .tried, none),
        (some (.asked .finish), some (ofMilliseconds 1000))] ∧ ¬ ofMilliseconds 1000 ≤ ofMilliseconds 1 := by
  refine ⟨?_, by decide⟩
  have each := congrArg (List.map fun deed => (deed.1, deed.2.1)) tightOrder_deeds
  simpa only [List.map_map, Function.comp_def, List.map_cons, List.map_nil] using each

theorem tightOrder_keepsLimits : ∃ first came entered left elapsed outcome last result,
    tightOrder.journal = [.sent first came, .tried entered left elapsed outcome, .sent last result] ∧
    left.span.budget ≤ entered.span.budget ∧
    KeepsLimits tightOrder.config tightOrder.start.span first entered left elapsed last := by
  have marked := congrArg (List.map fun deed => deed.1) tightOrder_deeds
  simp only [List.map_map, Function.comp_def, List.map_cons, List.map_nil] at marked
  have reported : some (.asked .finish) ∈ tightOrder.journal.map Deed.mark? := by
    rw [marked]
    decide
  obtain ⟨last, result, asked, sent, read, finish⟩ := exists_sent_of_mark reported
  have deeds := tightOrder_deeds
  rw [Visit.journal] at sent deeds ⊢
  rw [Visit.config]
  cases asked with
  | enrolment entry => cases entry <;> cases finish
  | report report =>
    obtain ⟨entry, first, came, message, parameters, entered, left, elapsed, outcome, -, journal, limits⟩ :=
      execute_keepsLimits tightOrder.link tightOrder.registry tightOrder.service tightOrder.arguments tightOrder.body
        tightOrder.start tightOrder.world sent read
    refine ⟨first, came, entered, left, elapsed, outcome, last, result, journal, ?_, limits⟩
    rw [journal] at deeds
    simp only [List.map_cons, List.map_nil, Deed.entered?, Deed.left?, Option.map_some, Option.map_none,
      List.cons.injEq, Prod.mk.injEq, Option.some.injEq] at deeds
    omega

end TryConfirmCancel
