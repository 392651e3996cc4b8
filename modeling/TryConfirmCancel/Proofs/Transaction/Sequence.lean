/-
**The order of requests and Try.**

* `Role.sequences`: the sequences of deeds that a role allows;
* `KeepsToSequence`: a run does one of these sequences, runs Try just when the hop gets in, reports just
  when there is something to report, and answers as Try did unless it is the root;
* `execute_keepsToSequence`: every run does;
* `orderVisit`: a run in rehearsal that goes all the way.
-/

import TryConfirmCancel.Hop.Identifier
import TryConfirmCancel.Proofs.Transaction.Course
import TryConfirmCancel.Rehearsal.Script

namespace TryConfirmCancel

/-- What a deed is to an observer who reads requests as a coordinator does. -/
inductive Mark
  | asked (operation : Operation)
  | tried
  deriving DecidableEq, Repr

/-- The sequences of deeds that a role allows. -/
def Role.sequences : Role → List (List Mark)
  | root => [[], [.asked .begin], [.asked .begin, .tried], [.asked .begin, .tried, .asked .finish]]
  | branch => [[], [.asked .join], [.asked .join, .tried], [.asked .join, .tried, .asked .finish]]
  | propagator => [[], [.tried]]

section Marks

variable {α : Type}

/-- The mark of a deed; a request that no coordinator understands has none. -/
def Deed.mark? : Deed α → Option Mark
  | .sent request _ => request.asked?.map fun asked => .asked asked.operation
  | .tried _ _ _ _ => some .tried

/-- A mark that asks something stands for a request that asks it. -/
theorem exists_sent_of_mark {journal : List (Deed α)} {operation : Operation}
    (member : some (.asked operation) ∈ journal.map Deed.mark?) :
    ∃ request outcome asked, .sent request outcome ∈ journal ∧ request.asked? = some asked ∧
      asked.operation = operation := by
  obtain ⟨deed, inside, marked⟩ := List.mem_map.mp member
  cases deed with
  | tried => cases marked
  | sent request outcome =>
    obtain ⟨asked, read, same⟩ := Option.map_eq_some_iff.mp marked
    cases same
    exact ⟨request, outcome, asked, inside, read, rfl⟩

/-- How often a journal has a mark. -/
def timesOf (mark : Mark) (journal : List (Deed α)) : Nat := (journal.map Deed.mark?).count (some mark)

section Absent

variable {journal : List (Deed α)} {marks : List Mark} {mark : Mark}

theorem mark_not_mem (marked : journal.map Deed.mark? = marks.map some) (missing : mark ∉ marks) :
    some mark ∉ journal.map Deed.mark? := by
  rw [marked]
  intro member
  obtain ⟨found, inside, same⟩ := List.mem_map.mp member
  cases same
  exact missing inside

theorem timesOf_eq_zero (absent : some mark ∉ journal.map Deed.mark?) : timesOf mark journal = 0 :=
  List.count_eq_zero.mpr absent

theorem tried_not_mem (absent : some .tried ∉ journal.map Deed.mark?) {entered left : Context}
    {elapsed : Nanoseconds} {outcome : Except ServiceFailure α} : .tried entered left elapsed outcome ∉ journal :=
  fun member => absent (List.mem_map.mpr ⟨_, member, rfl⟩)

end Absent

/-- The coordinator admitted the hop in its answer to the first request. -/
def Admitted (role : Role) (journal : List (Deed α)) : Prop :=
  ∃ entry request response xid, role.entry? = some entry ∧
    journal.head? = some (.sent request (.ok response)) ∧ entry.Accepts response xid

/-- A report is due behind a Try: no identifier is missing, time is left, and the hop is a root, or a branch
whose Try failed and that is to report this. -/
structure ReportDue (config : Config) (role : Role) (left : Context) (elapsed : Nanoseconds)
    (outcome : Except ServiceFailure α) : Prop where
  complete : left.IsComplete
  unspent : (left.consume elapsed).span.budget ≠ 0
  asked : role = .root ∨
    role = .branch ∧ ¬ Confirmable config left outcome ∧ config.tryFailedIgnoreCallbackCancel = true

/-- What a run of a registered service keeps to. -/
structure KeepsToSequence (config : Config) (role : Role) (written : Prop) (journal : List (Deed α))
    (answer : Except Failure α) : Prop where
  /-- The deeds are one of the sequences of the role. -/
  sequence : ∃ marks ∈ role.sequences, journal.map Deed.mark? = marks.map some
  /-- Try runs once if the arguments can be written and the hop gets in, and never otherwise. -/
  attempted : written ∧ (role = .propagator ∨ Admitted role journal) → timesOf .tried journal = 1
  unattempted : ¬ (written ∧ (role = .propagator ∨ Admitted role journal)) → timesOf .tried journal = 0
  /-- Behind Try, one report is sent if it is due, and none otherwise. -/
  reported : ∀ {entered left elapsed outcome}, .tried entered left elapsed outcome ∈ journal →
    ReportDue config role left elapsed outcome → timesOf (.asked .finish) journal = 1
  unreported : ∀ {entered left elapsed outcome}, .tried entered left elapsed outcome ∈ journal →
    ¬ ReportDue config role left elapsed outcome → timesOf (.asked .finish) journal = 0
  /-- A hop that is no root answers as Try did, whatever became of its report. -/
  answered : ∀ {entered left elapsed outcome}, .tried entered left elapsed outcome ∈ journal →
    role ≠ .root → left.IsComplete → answer = outcome.mapError .business

end Marks

/-! ### What the parts of a run contribute -/

section Parts

variable {α : Type} {config : Config} {role : Role} {coordinator : String} {entrant : Entrant}
  {context : Context}

theorem Enrols.mark? {entry : Entry} {request : Rpc.Request}
    (enrols : Enrols config coordinator entrant context entry request)
    (outcome : Except Rpc.Failure Rpc.Response) :
    (Deed.sent request outcome : Deed α).mark? = some (.asked entry.operation) := by
  obtain ⟨route, time, -, -, asked⟩ := enrols
  rw [Deed.mark?, asked]
  rfl

theorem Reports.mark? {ok : Bool} {request : Rpc.Request}
    (reports : Reports config coordinator context ok request) (outcome : Except Rpc.Failure Rpc.Response) :
    (Deed.sent request outcome : Deed α).mark? = some (.asked .finish) := by
  obtain ⟨route, time, -, -, asked⟩ := reports
  rw [Deed.mark?, asked]
  rfl

theorem reportDue_iff {left : Context} {elapsed : Nanoseconds} {outcome : Except ServiceFailure α} :
    ReportDue config role left elapsed outcome ↔ (left.consume elapsed).missing = [] ∧
      (left.consume elapsed).span.budget ≠ 0 ∧
      HasToReport config role (isConfirmable config (left.consume elapsed) (returnedOk outcome)) := by
  have judged : isConfirmable config left (returnedOk outcome) = false ↔ ¬ Confirmable config left outcome := by
    rw [← Bool.not_eq_true, isConfirmable_iff]
  rw [Context.missing_eq_nil_iff, Context.isComplete_consume, HasToReport, isConfirmable_consume, judged]
  exact ⟨fun due => ⟨due.1, due.2, due.3⟩, fun due => ⟨due.1, due.2.1, due.2.2⟩⟩

/-- The deeds behind Try are a report if one is due, and none otherwise. -/
theorem Ending.closing {left : Context} {elapsed : Nanoseconds} {outcome : Except ServiceFailure α}
    {closing : List (Deed α)} {answer : Except Failure α}
    (ending : Ending config role coordinator outcome (left.consume elapsed) closing answer)
    (reachable : role = .propagator ∨ ∃ route, Route.resolve config coordinator = .ok route) :
    ReportDue config role left elapsed outcome ∧ closing.map Deed.mark? = [some (.asked .finish)] ∨
      ¬ ReportDue config role left elapsed outcome ∧ closing = [] := by
  rw [reportDue_iff]
  cases ending with
  | incomplete missing => exact .inr ⟨fun due => missing due.1, rfl⟩
  | silent complete due => exact .inr ⟨fun all => due all.2.2, rfl⟩
  | unsent complete due barred _ =>
    refine .inr ⟨fun all => ?_, rfl⟩
    rcases barred with spent | ⟨fault, unresolved⟩
    · exact all.2.1 spent
    · rcases reachable with rfl | ⟨route, resolved⟩
      · simp [HasToReport] at due
      · rw [resolved] at unresolved
        cases unresolved
  | reported complete due unspent reports _ =>
    exact .inl ⟨⟨complete, unspent, due⟩, by rw [List.map_singleton, reports.mark?]⟩

/-- A hop that is no root answers as Try did. -/
theorem Ending.answer_eq {left : Context} {outcome : Except ServiceFailure α} {closing : List (Deed α)}
    {answer : Except Failure α} (ending : Ending config role coordinator outcome left closing answer)
    (noRoot : role ≠ .root) (complete : left.missing = []) : answer = outcome.mapError .business := by
  have isBranch : ∀ {ok}, HasToReport config role ok → role = .branch := by
    rintro ok (root | ⟨branch, -⟩)
    · exact absurd root noRoot
    · exact branch
  cases ending with
  | incomplete missing => exact absurd complete missing
  | silent _ _ => rfl
  | unsent _ due _ own => exact own (isBranch due)
  | reported _ due _ _ own => exact own (isBranch due)

/-- The sequences of a role that enters. -/
theorem sequences_of_entry {entry : Entry} (active : role.entry? = some entry) :
    role.sequences = [[], [.asked entry.operation], [.asked entry.operation, .tried],
      [.asked entry.operation, .tried, .asked .finish]] := by
  cases role <;> cases active <;> rfl

theorem Entry.operation_ne_finish (entry : Entry) : entry.operation ≠ .finish := by
  cases entry <;> decide

end Parts

/-! ### Every run keeps to a sequence -/

section Runs

variable {α : Type} {config : Config} {role : Role} {coordinator : String} {entrant : Entrant}
  {context : Context}

/-- A journal with a single Try has no other. -/
theorem eq_of_tried_mem {opening closing : List (Deed α)} {entered left entered' left' : Context}
    {elapsed elapsed' : Nanoseconds} {outcome outcome' : Except ServiceFailure α}
    (before : some .tried ∉ opening.map Deed.mark?) (behind : some .tried ∉ closing.map Deed.mark?)
    (member : .tried entered' left' elapsed' outcome' ∈
      opening ++ .tried entered left elapsed outcome :: closing) :
    left' = left ∧ elapsed' = elapsed ∧ outcome' = outcome := by
  rcases List.mem_append.mp member with inside | inside
  · exact absurd inside (tried_not_mem before)
  · rcases List.mem_cons.mp inside with same | inside
    · cases same
      exact ⟨rfl, rfl, rfl⟩
    · exact absurd inside (tried_not_mem behind)

/-- A run that gets as far as Try keeps to what is asked of Try and of what follows it. -/
theorem Ending.keeps (opening : List (Deed α)) {closing : List (Deed α)} {entered left : Context}
    {elapsed : Nanoseconds} {outcome : Except ServiceFailure α} {answer : Except Failure α}
    (ending : Ending config role coordinator outcome (left.consume elapsed) closing answer)
    (reachable : role = .propagator ∨ ∃ route, Route.resolve config coordinator = .ok route)
    (marks : List Mark) (marked : opening.map Deed.mark? = marks.map some)
    (plain : .tried ∉ marks ∧ .asked .finish ∉ marks)
    (bare : marks ++ [.tried] ∈ role.sequences)
    (full : role ≠ .propagator → marks ++ [.tried, .asked .finish] ∈ role.sequences)
    {written : Prop} (admitted : written ∧ (role = .propagator ∨
      Admitted role (opening ++ .tried entered left elapsed outcome :: closing))) :
    KeepsToSequence config role written (opening ++ .tried entered left elapsed outcome :: closing)
      answer := by
  have behind := ending.closing reachable
  have before : some .tried ∉ opening.map Deed.mark? := mark_not_mem marked plain.1
  have after : some .tried ∉ closing.map Deed.mark? := by
    rcases behind with ⟨-, marked⟩ | ⟨-, rfl⟩
    · rw [marked]
      decide
    · exact List.not_mem_nil
  have journal : (opening ++ .tried entered left elapsed outcome :: closing).map Deed.mark?
      = opening.map Deed.mark? ++ some .tried :: closing.map Deed.mark? := by
    rw [List.map_append, List.map_cons]
    rfl
  have once : timesOf .tried (opening ++ .tried entered left elapsed outcome :: closing) = 1 := by
    rw [timesOf, journal, List.count_append, List.count_eq_zero.mpr before, List.count_cons_self,
      List.count_eq_zero.mpr after]
  have reports : timesOf (.asked .finish) (opening ++ .tried entered left elapsed outcome :: closing)
      = timesOf (.asked .finish) closing := by
    rw [timesOf, journal, List.count_append, List.count_eq_zero.mpr (mark_not_mem marked plain.2),
      Nat.zero_add, List.count_cons_of_ne (by decide), timesOf]
  refine ⟨?_, fun _ => once, fun none => absurd admitted none, ?_, ?_, ?_⟩
  · rw [journal, marked]
    rcases behind with ⟨due, marked⟩ | ⟨-, rfl⟩
    · refine ⟨_, full ?_, by rw [marked, List.map_append]; rfl⟩
      rintro rfl
      rcases due.asked with root | ⟨branch, -⟩
      · cases root
      · cases branch
    · exact ⟨_, bare, by rw [List.map_append]; rfl⟩
  · intro entered' left' elapsed' outcome' member due
    obtain ⟨rfl, rfl, rfl⟩ := eq_of_tried_mem before after member
    rw [reports]
    rcases behind with ⟨-, marked⟩ | ⟨none, -⟩
    · rw [timesOf, marked]
      rfl
    · exact absurd due none
  · intro entered' left' elapsed' outcome' member none
    obtain ⟨rfl, rfl, rfl⟩ := eq_of_tried_mem before after member
    rw [reports]
    rcases behind with ⟨due, -⟩ | ⟨-, rfl⟩
    · exact absurd due none
    · rfl
  · intro entered' left' elapsed' outcome' member noRoot complete
    obtain ⟨rfl, rfl, rfl⟩ := eq_of_tried_mem before after member
    refine ending.answer_eq noRoot ?_
    rw [Context.missing_eq_nil_iff, Context.isComplete_consume]
    exact complete

/-- A run that does not get as far as Try keeps to what is asked of it. -/
theorem keepsToSequence_of_untried (marks : List Mark) {journal : List (Deed α)} {answer : Except Failure α}
    {written : Prop} (marked : journal.map Deed.mark? = marks.map some) (allowed : marks ∈ role.sequences)
    (untried : Mark.tried ∉ marks) (unadmitted : ¬ (written ∧ (role = .propagator ∨ Admitted role journal))) :
    KeepsToSequence config role written journal answer := by
  have absent := mark_not_mem marked untried
  refine ⟨⟨marks, allowed, marked⟩, fun admitted => absurd admitted unadmitted,
    fun _ => timesOf_eq_zero absent, ?_, ?_, ?_⟩
  · exact fun member => absurd member (tried_not_mem absent)
  · exact fun member => absurd member (tried_not_mem absent)
  · exact fun member => absurd member (tried_not_mem absent)

/-- Every course keeps to a sequence. -/
theorem Course.keepsToSequence {deeds : List (Deed α)} {answer : Except Failure α}
    (course : Course config role coordinator entrant context deeds answer) {written : Prop} (held : written) :
    KeepsToSequence config role written deeds answer := by
  cases course with
  | shutOut active entering =>
    have noPropagator : role ≠ .propagator := by
      rintro rfl
      cases active
    cases entering with
    | unsent failure =>
      refine keepsToSequence_of_untried [] rfl (by simp [sequences_of_entry active]) (by simp) ?_
      rintro ⟨-, passive | ⟨_, _, _, _, -, first, -⟩⟩
      · exact noPropagator passive
      · cases first
    | refused failure enrols refused =>
      refine keepsToSequence_of_untried [_] (by rw [List.map_singleton, enrols.mark?]; rfl)
        (by simp [sequences_of_entry active]) (by simp) ?_
      rintro ⟨-, passive | ⟨_, _, response, xid, same, first, accepts⟩⟩
      · exact noPropagator passive
      · cases active.symm.trans same
        cases first
        exact refused response xid rfl accepts
  | admitted active entering ending =>
    cases entering with
    | admitted enrols accepts =>
      obtain ⟨route, -, resolved, -⟩ := id enrols
      refine ending.keeps [_] (.inr ⟨route, resolved⟩) [_] (by rw [List.map_singleton, enrols.mark?]; rfl)
        ⟨by simp, ?_⟩ (by simp [sequences_of_entry active]) (fun _ => by simp [sequences_of_entry active])
        ⟨held, .inr ⟨_, _, _, _, active, rfl, accepts⟩⟩
      simpa using (Entry.operation_ne_finish _).symm
  | handedOn passive ending =>
    have propagator := Role.entry?_eq_none_iff.mp passive
    refine ending.keeps [] (.inl propagator) [] rfl ⟨by simp, by simp⟩ ?_
      (fun active => absurd propagator active) ⟨held, .inl propagator⟩
    subst propagator
    simp [Role.sequences]

/-- **Every run keeps to a sequence of its role.** A run for a service that is not registered does nothing,
and the journal that tells all this changes nothing in the run. -/
theorem execute_keepsToSequence {σ τ : Type} (link : Link σ) (registry : Registry τ) (service : String)
    (arguments : Json.Datum) (body : Action σ (Except ServiceFailure α)) (context : Context) (world : σ) :
    let run := link.recorded registry service arguments body context world
    run.erased = link.execute registry service arguments body context world ∧
    match registry.descriptor service with
    | .error _ => run.world.journal = []
    | .ok descriptor =>
      KeepsToSequence (link.settings world) (Role.of (link.settings world) descriptor context)
        (∃ parameters, Parameters.encode arguments = .ok parameters) run.world.journal run.answer := by
  intro run
  refine ⟨link.erased_recorded registry service arguments body context world, ?_⟩
  cases registered : registry.descriptor service with
  | error failure =>
    show (link.recorded registry service arguments body context world).world.journal = []
    rw [link.recorded_of_unregistered body context world registered]
  | ok descriptor =>
    cases written : Parameters.encode arguments with
    | error fault =>
      have nothing : run.world.journal = [] := by
        show (link.recorded registry service arguments body context world).world.journal = []
        rw [link.recorded_of_unwritable body context world registered written]
      refine keepsToSequence_of_untried [] (by rw [nothing]; rfl) ?_ (by simp) ?_
      · cases Role.of (link.settings world) descriptor context <;> simp [Role.sequences]
      · rintro ⟨⟨parameters, found⟩, -⟩
        cases found
    | ok parameters =>
      exact (link.recorded_course body context world registered written).keepsToSequence ⟨_, rfl⟩

end Runs

/-! ### A run in rehearsal -/

/-- A service that keeps the orders that are confirmed. -/
def orderBook : Compensable (List (List String)) :=
  { Instance := Unit
    Arguments := List String
    arguments := .list .string
    build := fun orders => ((), orders)
    bind := fun _ _ orders => ((), orders)
    confirm := fun _ order context orders => ⟨.ok (), context, order :: orders⟩
    cancel := fun _ _ context orders => ⟨.ok (), context, orders⟩ }

def shop : Registry (List (List String)) :=
  Registry.empty.add ⟨((Descriptor.of "orders" "place").withConfirm "book").withCancel "drop", orderBook⟩ rfl

def shopSettings : Config := { coordinatorAddress := "http://txn|begin|join|end" }

/-- A coordinator that accepts a request at once and assigns an identifier. -/
def assigning {β : Type} (format : Json.Format β) (data : β) : Turn :=
  ⟨0, .ok ⟨200, ∅, (Message.reply format).bytes ⟨Code.ok, "", some data⟩⟩⟩

/-- An order that comes in from outside. -/
def orderContext : Context := .root (Identifier.ofBits 1) (Identifier.ofBits 2) (ofMilliseconds standardBudget)

/-- What is known of the order inside Try. -/
def orderInside : Context := (orderContext.consume 0).enteredBy .beginning "R" shopSettings.coordinatorAddress

def orderArguments : Json.Datum := .list [.text "tea"]

def placeOrder : Action (Rehearsal Unit) (Except ServiceFailure Nat) := fun context world =>
  ⟨.ok 1, context, world⟩

/-- The coordinator begins a transaction and takes a report. -/
def shopOpens : Rehearsal Unit :=
  .start shopSettings [assigning Message.begun ⟨"R", 0⟩, assigning Message.ended ⟨0⟩] ()

/-- The order begins a transaction, its Try succeeds, and this is reported. -/
def orderVisit : Visit :=
  { link := Rehearsal.link, registry := shop, service := "orders", arguments := orderArguments
    body := placeOrder, start := orderContext, world := shopOpens }

theorem orderVisit_deeds :
    orderVisit.journal.map (fun deed => (deed.mark?, deed.assigned?, deed.entered?, deed.left?))
      = [(some (.asked .begin), some (.beginning, "R"), none, none),
        (some .tried, none, some orderInside, some orderInside), (some (.asked .finish), none, none, none)] := by
  decide +kernel

theorem orderVisit_marks :
    orderVisit.journal.map Deed.mark? = [some (.asked .begin), some .tried, some (.asked .finish)] := by
  have each := congrArg (List.map fun deed => deed.1) orderVisit_deeds
  simpa only [List.map_map, Function.comp_def, List.map_cons, List.map_nil] using each

theorem orderVisit_assignments :
    orderVisit.journal.map Deed.assigned? = [some (.beginning, "R"), none, none] := by
  have each := congrArg (List.map fun deed => deed.2.1) orderVisit_deeds
  simpa only [List.map_map, Function.comp_def, List.map_cons, List.map_nil] using each

theorem orderVisit_entered : orderVisit.journal.map Deed.entered? = [none, some orderInside, none] := by
  have each := congrArg (List.map fun deed => deed.2.2.1) orderVisit_deeds
  simpa only [List.map_map, Function.comp_def, List.map_cons, List.map_nil] using each

theorem orderVisit_left : orderVisit.journal.map Deed.left? = [none, some orderInside, none] := by
  have each := congrArg (List.map fun deed => deed.2.2.2) orderVisit_deeds
  simpa only [List.map_map, Function.comp_def, List.map_cons, List.map_nil] using each

end TryConfirmCancel
