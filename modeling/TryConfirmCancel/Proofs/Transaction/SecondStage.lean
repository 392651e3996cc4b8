/-
**What goes to the second stage, and what stays with the caller.**

Try leaves headers for the caller. At a root, those whose names begin in the configured way go to the coordinator with
the report instead; none is lost on the way, none is there twice, and none is changed. They are parted before the
report is sent, so it does not matter what becomes of it.

* `Text.BeginsLike`: a name begins like a text, whatever the case of ASCII letters; `Parted`: headers parted so;
* `failureHeader?`: what a report says of the failure of Try; `get?_reportHeaders`: it stands over the other headers;
* `Carry`, `finish_carries`: what the report of a step carries, and that the headers for the caller stay;
* `Conveys`, `conclude_conveys`, `attempt_conveys`: the same for all that follows Try;
* `execute_conveys`: so does every run;
* `spoiltOrder`: a root in rehearsal whose Try fails and whose report is lost.
-/

import TryConfirmCancel.Proofs.Transaction.Sequence

namespace TryConfirmCancel

/-! ### Names that begin alike -/

namespace Text

/-- A name begins with a text, up to the case of ASCII letters. -/
def BeginsLike (start name : String) : Prop := ∃ front back, name = front ++ back ∧ sameLetters front start

theorem sameLetters_iff {left right : String} :
    sameLetters left right = true ↔ left.toList.map Char.toLower = right.toList.map Char.toLower := by
  rw [sameLetters, beq_iff_eq, lowered, lowered, String.ofList_inj]

theorem beginsWith_iff {start name : String} : beginsWith start name = true ↔ BeginsLike start name := by
  rw [beginsWith, List.isPrefixOf_iff_prefix]
  constructor
  · rintro ⟨rest, whole⟩
    obtain ⟨front, back, parts, same, -⟩ := List.map_eq_append_iff.mp whole.symm
    refine ⟨.ofList front, .ofList back, ?_, ?_⟩
    · rw [← String.ofList_append, ← parts, String.ofList_toList]
    · rw [sameLetters_iff, String.toList_ofList, same]
  · rintro ⟨front, back, rfl, same⟩
    refine ⟨back.toList.map Char.toLower, ?_⟩
    rw [String.toList_append, List.map_append, sameLetters_iff.mp same]

end Text

/-! ### Headers that are parted -/

/-- Headers are parted by their names: those that begin like `start` are taken, the others stay, and each keeps its
value. -/
structure Parted (start : String) (headers taken others : Dict String) : Prop where
  alike : ∀ name, Text.BeginsLike start name → taken.get? name = headers.get? name ∧ others.get? name = none
  unlike : ∀ name, ¬ Text.BeginsLike start name → taken.get? name = none ∧ others.get? name = headers.get? name

theorem parted_takeBeginning (start : String) (headers : Dict String) :
    Parted start headers (takeBeginning start headers).1 (takeBeginning start headers).2 where
  alike name begun := by
    have begins := Text.beginsWith_iff.mpr begun
    simp only [takeBeginning, Dict.get?_filter, begins]
    cases headers.get? name <;> exact ⟨rfl, rfl⟩
  unlike name other := by
    have begins : Text.beginsWith start name = false := by
      rwa [← Bool.not_eq_true, Text.beginsWith_iff]
    simp only [takeBeginning, Dict.get?_filter, begins]
    cases headers.get? name <;> exact ⟨rfl, rfl⟩

/-- What a report says of the failure of Try in a header. -/
def failureHeader? {α : Type} (outcome : Except ServiceFailure α) (name : String) : Option String :=
  match outcome with
  | .ok _ => none
  | .error failure =>
    if name = Message.tryErrorTextHeader then some (onOneLine failure.message)
    else if name = Message.tryErrorCodeHeader then some (toString failure.code)
    else none

/-- The failure of Try stands over the headers for the second stage. -/
theorem get?_reportHeaders {α : Type} (outcome : Except ServiceFailure α) (secondStage : Dict String) (name : String) :
    (reportHeaders (failureOf? outcome) secondStage).get? name
      = (failureHeader? outcome name).or (secondStage.get? name) := by
  cases outcome with
  | ok value => rfl
  | error failure =>
    simp only [failureOf?, reportHeaders, failureHeader?, Dict.get?_insert, eq_comm (b := name)]
    split
    · rfl
    · split <;> rfl

/-! ### What is carried -/

section Carrying

variable {α : Type}

/-- Deeds are requests that carry certain headers. -/
def Carry (headers : Dict String) (deeds : List (Deed α)) : Prop :=
  ∀ deed ∈ deeds, ∃ request result, deed = .sent request result ∧ request.headers = headers

/-- The reports among deeds carry just the headers that are expected. -/
def ReportsWith (expected : String → Option String) (deeds : List (Deed α)) : Prop :=
  ∀ request result report, .sent request result ∈ deeds → request.asked? = some (.report report) →
    ∀ name, request.headers.get? name = expected name

/-- Deeds are requests that report nothing. -/
def Opens (deeds : List (Deed α)) : Prop :=
  ∀ deed ∈ deeds, ∃ request result, deed = .sent request result ∧ ∀ report, request.asked? ≠ some (.report report)

/-- **What becomes of the headers that Try left.** A complete root parts them: those for the second stage are carried
by its report, with the failure of Try over them, and just the others are left for the caller. In any other case the
caller gets all of them, and a report carries nothing but the failure of Try. -/
structure Conveys (config : Config) (role : Role) (left : Context) (outcome : Except ServiceFailure α)
    (deeds : List (Deed α)) (after : Dict String) : Prop where
  root : role = .root → left.IsComplete → ∃ secondStage,
    Parted config.secondStageHeaderStart left.responseHeaders secondStage after ∧
    ReportsWith (fun name => (failureHeader? outcome name).or (secondStage.get? name)) deeds
  branch : role = .branch → ReportsWith (failureHeader? outcome) deeds
  kept : (role = .root → ¬ left.IsComplete) → after = left.responseHeaders

variable {headers after : Dict String} {opening closing : List (Deed α)} {entered left : Context}
  {elapsed : Nanoseconds} {outcome : Except ServiceFailure α}

theorem carry_nil : Carry headers ([] : List (Deed α)) := fun _ none => absurd none List.not_mem_nil

theorem reportsWith_nil {expected : String → Option String} : ReportsWith expected ([] : List (Deed α)) :=
  fun _ _ _ none => absurd none List.not_mem_nil

theorem Carry.reportsWith (carry : Carry headers closing) {expected : String → Option String}
    (same : ∀ name, headers.get? name = expected name) : ReportsWith expected closing := by
  intro request result report sent asked name
  obtain ⟨_, _, found, rfl⟩ := carry _ sent
  cases found
  exact same name

theorem Carry.not_tried (carry : Carry headers closing) : .tried entered left elapsed outcome ∉ closing := by
  intro inside
  obtain ⟨_, _, same, -⟩ := carry _ inside
  cases same

theorem Opens.not_tried (opens : Opens opening) : .tried entered left elapsed outcome ∉ opening := by
  intro inside
  obtain ⟨_, _, same, -⟩ := opens _ inside
  cases same

/-- What stands before a report, and reports nothing, says nothing of what it carries. -/
theorem ReportsWith.behind {expected : String → Option String} (reports : ReportsWith expected closing)
    (opens : Opens opening) : ReportsWith expected (opening ++ .tried entered left elapsed outcome :: closing) := by
  intro request result report sent asked
  rcases List.mem_append.mp sent with inside | inside
  · obtain ⟨_, _, found, silent⟩ := opens _ inside
    cases found
    exact absurd asked (silent report)
  · rcases List.mem_cons.mp inside with same | inside
    · cases same
    · exact reports request result report inside asked

/-- The time that Try took has no part in this. -/
theorem Conveys.of_consume {config : Config} {role : Role}
    (conveys : Conveys config role (left.consume elapsed) outcome closing after) :
    Conveys config role left outcome closing after where
  root isRoot complete := by
    have conveyed := conveys.root isRoot (Context.isComplete_consume.mpr complete)
    rwa [Context.consume_responseHeaders] at conveyed
  branch := conveys.branch
  kept incomplete := by
    rw [← Context.consume_responseHeaders left elapsed]
    exact conveys.kept fun isRoot complete => incomplete isRoot (Context.isComplete_consume.mp complete)

theorem Conveys.behind {config : Config} {role : Role} (conveys : Conveys config role left outcome closing after)
    (opens : Opens opening) :
    Conveys config role left outcome (opening ++ .tried entered left elapsed outcome :: closing) after where
  root isRoot complete := by
    obtain ⟨secondStage, parted, reports⟩ := conveys.root isRoot complete
    exact ⟨secondStage, parted, reports.behind opens⟩
  branch isBranch := (conveys.branch isBranch).behind opens
  kept := conveys.kept

theorem Entering.opens {config : Config} {coordinator : String} {entrant : Entrant} {entry : Entry}
    {context behind : Context} {answer : Except Failure String} {deeds : List (Deed α)}
    (entering : Entering config coordinator entrant entry context answer deeds behind) : Opens deeds := by
  intro deed inside
  cases entering with
  | unsent _ _ => cases inside
  | refused _ enrols _ _ => exact ⟨_, _, List.mem_singleton.mp inside, fun report asked => enrols.not_report asked⟩
  | admitted enrols _ => exact ⟨_, _, List.mem_singleton.mp inside, fun report asked => enrols.not_report asked⟩

end Carrying

/-! ### The steps of a run -/

namespace Link

section Steps

variable {σ α : Type} (link : Link σ) (config : Config) (context : Context) (state : Journalled σ α)

/-- A report carries what it is given, and leaves the headers for the caller alone. -/
theorem finish_carries (coordinator : String) (ok : Bool) (tryFailure : Option ServiceFailure)
    (secondStage : Dict String) :
    (link.journalled.finish config coordinator ok tryFailure secondStage context state).context.responseHeaders
        = context.responseHeaders ∧
      ∃ deeds,
        (link.journalled.finish config coordinator ok tryFailure secondStage context state).world.journal
          = state.journal ++ deeds ∧
        Carry (reportHeaders tryFailure secondStage) deeds := by
  rcases link.journalled.finish_cases config coordinator context state ok tryFailure secondStage with
    ⟨failure, -, same⟩ | ⟨request, -, -, headers, same⟩
  · rw [same]
    exact ⟨rfl, [], (List.append_nil _).symm, carry_nil⟩
  · rw [same]
    refine ⟨Context.consume_responseHeaders .., [.sent request (link.send request state.world).1], rfl, ?_⟩
    exact fun deed inside => ⟨request, _, List.mem_singleton.mp inside, headers⟩

/-- What follows Try conveys its headers. -/
theorem conclude_conveys (role : Role) (coordinator : String) (outcome : Except ServiceFailure α) :
    ∃ headers deeds,
      (link.journalled.conclude config role coordinator outcome context state).world.journal
        = state.journal ++ deeds ∧
      Carry headers deeds ∧
      Conveys config role context outcome deeds
        (link.journalled.conclude config role coordinator outcome context state).context.responseHeaders := by
  have concludes := link.journalled.conclude_concludes config coordinator context state role outcome
  generalize link.journalled.conclude config role coordinator outcome context state = step at concludes ⊢
  cases concludes with
  | incomplete missing =>
    have incomplete : ¬ context.IsComplete := fun complete => missing (Context.missing_eq_nil_iff.mpr complete)
    exact ⟨∅, [], (List.append_nil _).symm, carry_nil, fun _ complete => absurd complete incomplete,
      fun _ => reportsWith_nil, fun _ => rfl⟩
  | silent complete due =>
    exact ⟨∅, [], (List.append_nil _).symm, carry_nil, fun isRoot => absurd (.inl isRoot) due,
      fun _ => reportsWith_nil, fun _ => rfl⟩
  | early complete branch failed asked =>
    subst branch
    obtain ⟨stays, deeds, journal, carry⟩ :=
      link.finish_carries config context state coordinator false (failureOf? outcome) ∅
    refine ⟨_, deeds, journal, carry, nofun, fun _ => carry.reportsWith fun name => ?_, fun _ => stays⟩
    rw [get?_reportHeaders]
    exact Option.or_none
  | @final secondStage others complete root parted =>
    subst root
    obtain ⟨stays, deeds, journal, carry⟩ := link.finish_carries config
      { context with responseHeaders := others } state coordinator
      (isConfirmable config context (returnedOk outcome)) (failureOf? outcome) secondStage
    have taken := parted_takeBeginning config.secondStageHeaderStart context.responseHeaders
    rw [parted] at taken
    refine ⟨_, deeds, journal, carry, fun _ _ => ⟨secondStage, ?_, carry.reportsWith (get?_reportHeaders outcome _)⟩,
      nofun, fun incomplete => absurd (Context.missing_eq_nil_iff.mp complete) (incomplete rfl)⟩
    exact stays ▸ taken

/-- Try and what follows it convey its headers. -/
theorem attempt_conveys (role : Role) (coordinator : String) (body : Action σ (Except ServiceFailure α))
    (opens : Opens state.journal) {entered left : Context} {elapsed : Nanoseconds}
    {outcome : Except ServiceFailure α} :
    let tried := link.journalled.attempt (link.witnessed body) context state
    let ended := link.journalled.conclude config role coordinator tried.answer tried.context tried.world
    .tried entered left elapsed outcome ∈ ended.world.journal →
      Conveys config role left outcome ended.world.journal ended.context.responseHeaders := by
  intro tried ended done
  obtain ⟨headers, closing, journal, carry, conveys⟩ :=
    link.conclude_conveys config tried.context tried.world role coordinator tried.answer
  have whole : ended.world.journal = state.journal ++ .tried context (body context state.world).context
      (link.now (body context state.world).world - link.now state.world) (body context state.world).answer :: closing :=
    journal.trans (List.append_assoc _ _ _)
  rw [whole] at done ⊢
  rcases List.mem_append.mp done with inside | inside
  · exact absurd inside opens.not_tried
  · rcases List.mem_cons.mp inside with same | inside
    · cases same
      exact conveys.of_consume.behind opens
    · exact absurd inside carry.not_tried

/-- A run that gets as far as Try conveys its headers. -/
theorem within_conveys (role : Role) (coordinator : String) (entrant : Entrant)
    (body : Action σ (Except ServiceFailure α)) (world : σ) {entered left : Context} {elapsed : Nanoseconds}
    {outcome : Except ServiceFailure α} :
    let run := link.journalled.within config role coordinator entrant (link.witnessed body) context ⟨world, []⟩
    .tried entered left elapsed outcome ∈ run.world.journal →
      Conveys config role left outcome run.world.journal run.context.responseHeaders := by
  unfold within enter
  cases role.entry? with
  | none =>
    exact link.attempt_conveys config context.handedOn ⟨world, []⟩ role coordinator body
      fun _ none => absurd none List.not_mem_nil
  | some entry =>
    obtain ⟨opening, journal, entering⟩ :=
      link.enterBy_journalled config context (⟨world, []⟩ : Journalled σ α) entry coordinator entrant
    simp only
    generalize link.journalled.enterBy entry config coordinator entrant context ⟨world, []⟩ = step
      at journal entering ⊢
    obtain ⟨answer, after, state⟩ := step
    have opens : Opens state.journal := by
      rw [show state.journal = opening from journal]
      exact entering.opens
    cases answer with
    | error failure => exact fun done => absurd done opens.not_tried
    | ok xid => exact link.attempt_conveys config after state role coordinator body opens

end Steps

end Link

/-- **Of the headers that Try left, a report takes those for the second stage, and the caller gets all the others.** A
report that is due is sent once. Whatever becomes of it, and also if no time is left for it, the caller gets the
same. -/
theorem execute_conveys {σ τ α : Type} (link : Link σ) (registry : Registry τ) (service : String)
    (arguments : Json.Datum) (body : Action σ (Except ServiceFailure α)) (context : Context) (world : σ)
    {entered left : Context} {elapsed : Nanoseconds} {outcome : Except ServiceFailure α}
    (tried : .tried entered left elapsed outcome ∈
      (link.recorded registry service arguments body context world).world.journal) :
    ∃ descriptor, registry.descriptor service = .ok descriptor ∧
      (ReportDue (link.settings world) (Role.of (link.settings world) descriptor context) left elapsed outcome →
        timesOf (.asked .finish) (link.recorded registry service arguments body context world).world.journal = 1) ∧
      Conveys (link.settings world) (Role.of (link.settings world) descriptor context) left outcome
        (link.recorded registry service arguments body context world).world.journal
        (link.execute registry service arguments body context world).context.responseHeaders := by
  obtain ⟨descriptor, parameters, registered, written, course⟩ := link.course_of_mem body context world tried
  refine ⟨descriptor, registered, (course.keepsToSequence written).reported tried, ?_⟩
  rw [← link.erased_recorded]
  rw [link.recorded_of_written body context world registered written] at tried ⊢
  exact link.within_conveys _ _ _ _ _ body world tried

/-! ### An order that fails -/

/-- What a Try leaves for the caller and for the second stage. -/
def stockHeaders : Dict String :=
  .ofList [("x-txn-2s-stock", "7"), ("content-type", "text/plain"), ("X-TXN-2S-Lot", "b")]

/-- An order that runs out of stock, and whose report is lost. -/
def spoiltOrder : Visit :=
  { orderVisit with
    body := fun context world =>
      ⟨.error ⟨4001, "out of\r\nstock"⟩, { context with responseHeaders := stockHeaders }, world⟩
    world := .start shopSettings [assigning Message.begun ⟨"R", 0⟩, ⟨0, .error (.network "reset")⟩] () }

/-- What is known of the order behind Try. -/
def spoiltInside : Context := { orderInside with responseHeaders := stockHeaders }

/-- The headers that a deed sends. -/
def Deed.headers {α : Type} : Deed α → List (String × String)
  | .sent request _ => request.headers.entries
  | .tried _ _ _ _ => []

theorem spoiltOrder_deeds : spoiltOrder.journal.map (fun deed => (deed.left?, deed.headers))
    = [(none, []), (some spoiltInside, []),
      (none, [("X-TXN-2S-Lot", "b"), ("x-txn-2s-stock", "7"), (Message.tryErrorCodeHeader, "4001"),
        (Message.tryErrorTextHeader, "out of  stock")])] := by
  decide +kernel

/-- The report was lost, but its headers are not given to the caller. -/
theorem spoiltOrder_conveys : spoiltInside.IsComplete ∧ ∃ elapsed outcome,
    (ReportDue spoiltOrder.config .root spoiltInside elapsed outcome →
      timesOf (.asked .finish) spoiltOrder.journal = 1) ∧
    Conveys spoiltOrder.config .root spoiltInside outcome spoiltOrder.journal
      (spoiltOrder.link.execute spoiltOrder.registry spoiltOrder.service spoiltOrder.arguments spoiltOrder.body
        spoiltOrder.start spoiltOrder.world).context.responseHeaders := by
  have found : (some spoiltInside, []) ∈ spoiltOrder.journal.map fun deed => (deed.left?, deed.headers) := by
    rw [spoiltOrder_deeds]
    exact List.mem_cons_of_mem _ List.mem_cons_self
  obtain ⟨deed, done, same⟩ := List.mem_map.mp found
  rw [Visit.journal] at done ⊢
  rw [Visit.config]
  refine ⟨by rw [← Context.missing_eq_nil_iff]; decide +kernel, ?_⟩
  cases deed with
  | sent => cases same
  | tried entered left elapsed outcome =>
    obtain rfl : left = spoiltInside := Option.some.inj (congrArg Prod.fst same)
    obtain ⟨descriptor, registered, conveys⟩ := execute_conveys spoiltOrder.link spoiltOrder.registry
      spoiltOrder.service spoiltOrder.arguments spoiltOrder.body spoiltOrder.start spoiltOrder.world done
    exact ⟨elapsed, outcome, conveys⟩

end TryConfirmCancel
