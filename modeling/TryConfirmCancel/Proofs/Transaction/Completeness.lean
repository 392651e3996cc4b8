/-
**A context that comes in lacks nothing that its hop can set.**

What is read from headers is either a text with something in it and no white space around it, or nothing; and the
identifiers that a hop needs for itself are made up if they are not read. What a context can still lack is set by the
answer to a begun transaction, all but two identifiers that a branch is told by its caller.

* `Text.Unpadded`, `Context.IsSound`: what the texts of an extracted context are like;
* `LacksUnstated`: what a context lacks because its headers do not tell it;
* `missing_begun`, `lacksUnstated_joined`, `lacksUnstated_handedOn`: what is missing once the hop is inside;
* `Course.missing_of_begun`, `Course.lacksUnstated_of_not_begun`: so it is inside Try, in every course;
* `EndsBegun`: how a run ends that began a transaction;
* `Visit.extracted_completes`: all this holds of every extracted context, in every run.
-/

import TryConfirmCancel.Proofs.Hop.Granting
import TryConfirmCancel.Proofs.Link.Errand
import TryConfirmCancel.Proofs.Transaction.Chain
import TryConfirmCancel.Proofs.Transaction.Settlement

namespace TryConfirmCancel

/-! ### Texts without white space around them -/

/-- No white space stands in front of a text or behind it. -/
structure Text.Unpadded (text : String) : Prop where
  front : ∀ char ∈ text.toList.head?, isBlank char = false
  back : ∀ char ∈ text.toList.getLast?, isBlank char = false

/-- What trimming keeps is not padded. -/
theorem Text.unpadded_of_trim {text : String} (kept : trim text = text) : Unpadded text := by
  rw [← kept]
  constructor
  · rw [trim, String.toList_ofList]
    exact head?_trimEnd (head?_trimStart _)
  · rw [trim, String.toList_ofList]
    exact getLast?_trimEnd _

theorem Text.unpadded_empty : Unpadded "" := unpadded_of_trim rfl

/-! ### What is read of headers -/

namespace Context

section Reading

variable {headers : Headers} {name : String}

theorem held_eq_empty_iff : held headers name = "" ↔ headers.Unstated name := by
  rw [← headerText?_eq_none_iff, held]
  cases found : headerText? headers name with
  | none => simp
  | some text => simpa using (portable_of_headerText? found).2

theorem unpadded_held (headers : Headers) (name : String) : Text.Unpadded (held headers name) := by
  rw [held]
  cases found : headerText? headers name with
  | none => exact Text.unpadded_empty
  | some text => exact Text.unpadded_of_trim (portable_of_headerText? found).1.trimmed

end Reading

/-! ### The texts of an extracted context -/

/-- The texts of a context, the headers aside. -/
def texts (context : Context) : List String :=
  [context.span.traceId, context.span.spanId, context.span.parentSpanId, context.span.replyTo,
    context.transaction.rootXid, context.transaction.parentXid, context.transaction.branchXid,
    context.transaction.agentAddress, context.transaction.formerAgentAddress]

/-- A hop knows where it stands, and no text is padded. -/
structure IsSound (context : Context) : Prop where
  traceId : context.span.traceId ≠ ""
  spanId : context.span.spanId ≠ ""
  parentSpanId : context.span.parentSpanId ≠ ""
  unpadded : ∀ text ∈ context.texts, Text.Unpadded text

section Extracted

variable {traceBits spanBits : Nat} {headers : Headers} {standard : Nanoseconds} {context : Context}

/-- What is not read is made up or left empty, and neither is padded. -/
theorem isSound_of_extract (extracted : extract (Identifier.ofBits traceBits) (Identifier.ofBits spanBits) headers
    standard = .ok context) : context.IsSound := by
  obtain ⟨-, -, -, budget, -⟩ := extract_eq_ok extracted
  obtain ⟨callee, made, -, spanId, parentSpanId, -, inherited, -, -⟩ := extract_of_budget _ _ budget
  cases extracted.symm.trans made
  have trace := portable_traceId extracted ⟨Identifier.portable_ofBits _, Identifier.ofBits_ne_empty _⟩
  have parent : Portable context.span.parentSpanId ∧ context.span.parentSpanId ≠ "" := by
    rw [parentSpanId]
    cases found : headerText? headers HeaderName.spanId with
    | none => exact trace
    | some text => exact portable_of_headerText? found
  have field (field : Inherited) : Text.Unpadded (field.of context) := by
    rw [inherited field]
    exact unpadded_held headers _
  refine ⟨trace.2, ?_, parent.2, ?_⟩
  · rw [spanId]
    exact Identifier.ofBits_ne_empty _
  · simp only [texts, List.forall_mem_cons]
    refine ⟨Text.unpadded_of_trim trace.1.trimmed, ?_, Text.unpadded_of_trim parent.1.trimmed, field .replyTo,
      field .rootXid, field .parentXid, field .branchXid, field .agentAddress, field .formerAgentAddress, by simp⟩
    rw [spanId]
    exact Text.unpadded_of_trim (Identifier.portable_ofBits _).trimmed

end Extracted

/-! ### What is missing inside -/

theorem mem_missing_iff {context : Context} {name : String} :
    name ∈ context.missing ↔ (name, "") ∈ context.identifiers := by
  simp only [missing, List.mem_map, List.mem_filter, String.isEmpty_iff]
  constructor
  · rintro ⟨⟨_, _⟩, ⟨member, rfl⟩, rfl⟩
    exact member
  · exact fun member => ⟨_, ⟨member, rfl⟩, rfl⟩

/-- Of the identifiers, a context lacks just the two of its transaction that it was not told. -/
def LacksUnstated (headers : Headers) (context : Context) : Prop :=
  ∀ name, name ∈ context.missing ↔
    name = "rootXid" ∧ headers.Unstated HeaderName.rootXid ∨
    name = "parentXid" ∧ headers.Unstated HeaderName.parentXid

section Inside

variable {headers : Headers} {context : Context} {xid coordinator : String}

-- for any budget, so that no numbers are compared
theorem IsSound.withBudget (sound : context.IsSound) (budget : Nat) :
    (context.withSpan (context.span.withBudget budget)).IsSound :=
  ⟨sound.traceId, sound.spanId, sound.parentSpanId, sound.unpadded⟩

theorem IsSound.consume (sound : context.IsSound) (spent : Nanoseconds) : (context.consume spent).IsSound :=
  sound.withBudget _

@[simp]
theorem begun_parentXid : (context.begun xid coordinator).transaction.parentXid = context.span.traceId := by
  rw [begun, Transaction.withAgent_eq]

@[simp]
theorem joined_parentXid :
    (context.joined xid coordinator).transaction.parentXid = context.transaction.parentXid := by
  rw [joined, Transaction.withAgent_eq]

/-- The answer to a begun transaction sets all that a context can lack. -/
theorem missing_begun (sound : context.IsSound) (assigned : xid ≠ "") :
    (context.begun xid coordinator).missing = [] := by
  rw [missing_eq_nil_iff]
  simp [IsComplete, identifiers, sound.traceId, sound.spanId, sound.parentSpanId, assigned]

/-- A hop that has a branch lacks just what it was not told. -/
theorem lacksUnstated_of_branch {inside : Context} (sound : context.IsSound) (span : inside.span = context.span)
    (branch : inside.transaction.branchXid ≠ "")
    (rootXid : inside.transaction.rootXid = held headers HeaderName.rootXid)
    (parentXid : inside.transaction.parentXid = held headers HeaderName.parentXid) :
    inside.LacksUnstated headers := by
  intro name
  rw [mem_missing_iff, ← held_eq_empty_iff, ← held_eq_empty_iff, ← rootXid, ← parentXid]
  simp only [identifiers, List.mem_cons, Prod.mk.injEq, @eq_comm _ "", span, sound.traceId, sound.spanId,
    sound.parentSpanId, branch, and_false, false_or, List.not_mem_nil, or_false]

end Inside

/-! ### Entering with an extracted context -/

section Entering

variable {traceBits spanBits : Nat} {headers : Headers} {standard : Nanoseconds} {context : Context}
  {xid coordinator : String}

theorem lacksUnstated_joined (extracted : extract (Identifier.ofBits traceBits) (Identifier.ofBits spanBits) headers
    standard = .ok context) (spent : Nanoseconds) (assigned : xid ≠ "") :
    ((context.consume spent).joined xid coordinator).LacksUnstated headers := by
  obtain ⟨-, -, -, -, rootXid, parentXid, -⟩ := extract_eq_ok extracted
  refine lacksUnstated_of_branch ((isSound_of_extract extracted).consume spent) (joined_span ..) ?_ ?_ ?_
  · rwa [joined_branchXid]
  · rw [joined_rootXid, consume_transaction]
    exact rootXid
  · rw [joined_parentXid, consume_transaction]
    exact parentXid

theorem lacksUnstated_handedOn (extracted : extract (Identifier.ofBits traceBits) (Identifier.ofBits spanBits) headers
    standard = .ok context) : context.handedOn.LacksUnstated headers := by
  obtain ⟨-, -, -, -, rootXid, parentXid, -⟩ := extract_eq_ok extracted
  have sound := isSound_of_extract extracted
  exact lacksUnstated_of_branch sound (handedOn_span _) sound.parentSpanId rootXid parentXid

end Entering

end Context

namespace Link

/-- A hop that got in was assigned an identifier, and its context is the one that holds it. -/
theorem enterBy_admitted {σ : Type} {link : Link σ} {entry : Entry} {config : Config} {coordinator xid : String}
    {entrant : Entrant} {context : Context} {world : σ}
    (admitted : (link.enterBy entry config coordinator entrant context world).answer = .ok xid) :
    xid ≠ "" ∧ ∃ spent, (link.enterBy entry config coordinator entrant context world).context
      = (context.consume spent).enteredBy entry xid coordinator := by
  have enters := link.enterBy_enters config coordinator context world entry entrant
  generalize link.enterBy entry config coordinator entrant context world = step at enters admitted ⊢
  cases enters with
  | unsent failure _ => cases admitted
  | refused failure _ _ _ _ => cases admitted
  | admitted _ _ _ accepts =>
    cases admitted
    exact ⟨accepts.ne_empty, _, rfl⟩

end Link

/-! ### Runs -/

/-- How a run ends that began a transaction: no identifier is missing behind Try, one report is sent unless the time
is spent, and the answer does not say that an identifier is missing. -/
structure EndsBegun {α : Type} (left : Context) (elapsed : Nanoseconds) (closing : List (Deed α))
    (answer : Except Failure α) : Prop where
  complete : left.missing = []
  reported : (left.consume elapsed).span.budget ≠ 0 → ∃ request result report, closing = [.sent request result] ∧
    request.asked? = some (.report report)
  answered : ∀ missing, answer ≠ .error (incompleteContext missing)

theorem Settled.endsBegun {α : Type} {config : Config} {left : Context} {elapsed : Nanoseconds}
    {outcome : Except ServiceFailure α} {closing : List (Deed α)} {answer : Except Failure α} {ok : Bool}
    {result : Option (Except Rpc.Failure Rpc.Response)} (complete : left.IsComplete)
    (settled : Settled config left elapsed outcome closing answer ok result) :
    EndsBegun left elapsed closing answer where
  complete := Context.missing_eq_nil_iff.mpr complete
  reported unspent := by
    cases settled.closes with
    | spent spent => exact absurd spent unspent
    | reported _ asked _ => exact ⟨_, _, _, rfl, asked⟩
  answered missing answered := by
    -- the failure for missing identifiers is raw, and what settles is never told so
    cases settled.not_raw _ answered

section Courses

variable {α : Type} {config : Config} {role : Role} {coordinator : String} {entrant : Entrant}
  {context entered left : Context} {deeds : List (Deed α)} {answer : Except Failure α} {elapsed : Nanoseconds}
  {outcome : Except ServiceFailure α}

/-- Inside Try, a hop that began a transaction lacks nothing. -/
theorem Course.missing_of_begun (course : Course config role coordinator entrant context deeds answer)
    (sound : context.IsSound) (begins : role.entry? = some .beginning)
    (tried : .tried entered left elapsed outcome ∈ deeds) : entered.missing = [] := by
  rcases course.entered_eq tried with ⟨entry, xid, _, _, spent, active, -, accepts, -, rfl⟩ | ⟨passive, -⟩
  · cases begins.symm.trans active
    exact Context.missing_begun (sound.consume spent) accepts.ne_empty
  · cases begins.symm.trans passive

/-- Inside Try, a hop that began none lacks just what it was not told. -/
theorem Course.lacksUnstated_of_not_begun (course : Course config role coordinator entrant context deeds answer)
    {traceBits spanBits : Nat} {headers : Headers} {standard : Nanoseconds}
    (extracted : Context.extract (Identifier.ofBits traceBits) (Identifier.ofBits spanBits) headers standard
      = .ok context)
    (others : role.entry? ≠ some .beginning) (tried : .tried entered left elapsed outcome ∈ deeds) :
    entered.LacksUnstated headers := by
  rcases course.entered_eq tried with ⟨entry, xid, _, _, spent, active, -, accepts, -, rfl⟩ | ⟨-, rfl⟩
  · cases entry with
    | beginning => exact absurd active others
    | joining => exact Context.lacksUnstated_joined extracted spent accepts.ne_empty
  · exact Context.lacksUnstated_handedOn extracted

end Courses

/-- Just those hops begin a transaction that came in without one. -/
theorem Role.begins_iff {config : Config} {descriptor : Descriptor} {context : Context} :
    Role.entry? (.of config descriptor context) = some .beginning ↔ context.transaction.isRoot = true := by
  rw [Role.entry?_eq_beginning_iff, Role.of]
  cases context.transaction.isRoot with
  | true => simp
  | false =>
    simp only [Bool.false_eq_true, if_false, iff_false]
    split <;> simp

namespace Visit

/-- What the caller of a run is told. -/
def answer (visit : Visit) : Except Failure visit.α :=
  (visit.link.execute visit.registry visit.service visit.arguments visit.body visit.start visit.world).answer

/-- What becomes of a context that was read from headers, in each way to enter and in the run that it starts. -/
structure Completes (visit : Visit) (headers : Headers) : Prop where
  sound : visit.start.IsSound
  begun : ∀ config coordinator entrant world xid,
    (visit.link.begin config coordinator entrant visit.start world).answer = .ok xid →
    (visit.link.begin config coordinator entrant visit.start world).context.missing = []
  joined : ∀ config coordinator entrant world xid,
    (visit.link.join config coordinator entrant visit.start world).answer = .ok xid →
    (visit.link.join config coordinator entrant visit.start world).context.LacksUnstated headers
  handedOn : visit.start.handedOn.LacksUnstated headers
  /-- A run that began a transaction ends it, if Try takes no identifier away. -/
  ended : ∀ {xid}, visit.IsAssigned .beginning xid → ∃ request response entered left elapsed outcome closing,
    visit.journal = .sent request (.ok response) :: .tried entered left elapsed outcome :: closing ∧
    entered.missing = [] ∧ (left.missing ⊆ entered.missing → EndsBegun left elapsed closing visit.answer)
  /-- Inside Try, a root lacks nothing, and any other hop lacks just what it was not told. -/
  tried : ∀ {entered}, visit.Tries entered →
    if visit.start.transaction.isRoot then entered.missing = [] else entered.LacksUnstated headers

section Extracted

variable {visit : Visit} {traceBits spanBits : Nat} {headers : Headers} {standard : Nanoseconds}

/-- What is missing inside Try depends on how the hop got there, and this on what its context came in as. -/
theorem missing_of_tries (extracted : Context.extract (Identifier.ofBits traceBits) (Identifier.ofBits spanBits)
    headers standard = .ok visit.start) {entered : Context} (tries : visit.Tries entered) :
    if visit.start.transaction.isRoot then entered.missing = [] else entered.LacksUnstated headers := by
  obtain ⟨left, elapsed, outcome, tried⟩ := tries
  obtain ⟨descriptor, entrant, answer, -, course⟩ := visit.course_of_mem tried
  split
  · rename_i root
    exact course.missing_of_begun (Context.isSound_of_extract extracted) (Role.begins_iff.mpr root) tried
  · rename_i others
    exact course.lacksUnstated_of_not_begun extracted (fun begins => others (Role.begins_iff.mp begins)) tried

/-- Behind a begun transaction comes Try on a complete context, and behind this the end. -/
theorem begun_ends (sound : visit.start.IsSound) {xid : String} (assigned : visit.IsAssigned .beginning xid) :
    ∃ request response entered left elapsed outcome closing,
      visit.journal = .sent request (.ok response) :: .tried entered left elapsed outcome :: closing ∧
      entered.missing = [] ∧ (left.missing ⊆ entered.missing → EndsBegun left elapsed closing visit.answer) := by
  obtain ⟨request, response, message, parameters, sent, asked, accepts⟩ := assigned
  obtain ⟨descriptor, written, -, -, course⟩ := visit.link.course_of_mem visit.body visit.start visit.world sent
  obtain ⟨active, ⟨route, -, resolved, -, -⟩, -⟩ := course.enrols sent asked
  obtain ⟨entered, left, elapsed, outcome, closing, journal, ending⟩ := course.tries sent asked accepts
  have tried : .tried entered left elapsed outcome ∈ visit.journal := by
    rw [Visit.journal, journal]
    exact List.mem_cons_of_mem _ List.mem_cons_self
  have complete := course.missing_of_begun sound active tried
  refine ⟨request, response, entered, left, elapsed, outcome, closing, journal, complete, fun kept => ?_⟩
  rw [complete, List.subset_nil, Context.missing_eq_nil_iff] at kept
  rw [Role.entry?_eq_beginning_iff.mp active] at ending resolved
  obtain ⟨ok, result, settled⟩ := ending.settled resolved kept
  rw [answer, ← visit.link.recorded_answer]
  exact settled.endsBegun kept

/-- **A context that was read from headers lacks nothing that its hop can set.** As a root it is complete once its
transaction has begun, so that a Try that takes no identifier away leaves nothing in the way of the report; inside a
transaction of others it lacks just what the headers do not tell. -/
theorem extracted_completes (extracted : Context.extract (Identifier.ofBits traceBits) (Identifier.ofBits spanBits)
    headers standard = .ok visit.start) : visit.Completes headers where
  sound := Context.isSound_of_extract extracted
  begun config coordinator entrant world xid admitted := by
    obtain ⟨assigned, spent, after⟩ := Link.enterBy_admitted admitted
    rw [Link.begin, after]
    exact Context.missing_begun ((Context.isSound_of_extract extracted).consume spent) assigned
  joined config coordinator entrant world xid admitted := by
    obtain ⟨assigned, spent, after⟩ := Link.enterBy_admitted admitted
    rw [Link.join, after]
    exact Context.lacksUnstated_joined extracted spent assigned
  handedOn := Context.lacksUnstated_handedOn extracted
  ended assigned := begun_ends (Context.isSound_of_extract extracted) assigned
  tried tries := missing_of_tries extracted tries

end Extracted

end Visit

/-! ### An order with a padded trace -/

/-- Headers that tell a trace with blanks around it, and nothing else. -/
def paddedHeaders : Headers := .ofList [(HeaderName.traceId, Utf8.ofText " T-1 ")]

/-- The order that comes with them begins a transaction. -/
def paddedVisit : Visit :=
  { link := Rehearsal.link, registry := shop, service := "orders", arguments := orderArguments
    body := placeOrder, world := shopOpens
    start :=
      { Context.root "T-1" (Identifier.ofBits 2) (ofMilliseconds standardBudget) with
        requestHeaders := paddedHeaders.toDict } }

theorem extract_paddedHeaders : Context.extract (Identifier.ofBits 1) (Identifier.ofBits 2) paddedHeaders
    (ofMilliseconds standardBudget) = .ok paddedVisit.start := by
  decide +kernel

theorem paddedVisit_deeds : paddedVisit.journal.map (fun deed => (deed.assigned?, deed.left?.map Context.missing))
    = [(some (.beginning, "R"), none), (none, some []), (none, none)] := by
  decide +kernel

theorem paddedVisit_assignments : paddedVisit.journal.map Deed.assigned? = [some (.beginning, "R"), none, none] := by
  have each := congrArg (List.map Prod.fst) paddedVisit_deeds
  simpa only [List.map_map, Function.comp_def, List.map_cons, List.map_nil] using each

/-- Headers that tell the branch of the caller, but neither the root of its transaction nor a readable parent. -/
def mutedHeaders : Headers :=
  .ofList [(HeaderName.branchXid, Utf8.ofText "B-1"), (HeaderName.rootXid, Utf8.ofText " "),
    (HeaderName.parentXid, [0xff])]

/-- The order that comes with them is part of a transaction. -/
def mutedVisit : Visit :=
  { link := Rehearsal.link, registry := shop, service := "orders", arguments := orderArguments
    body := placeOrder, world := .start shopSettings [assigning Message.joined ⟨"B-2", 0⟩] ()
    start :=
      { Context.root (Identifier.ofBits 1) (Identifier.ofBits 2) (ofMilliseconds standardBudget) with
        transaction := { Transaction.none with branchXid := "B-1" }
        requestHeaders := mutedHeaders.toDict } }

theorem extract_mutedHeaders : Context.extract (Identifier.ofBits 1) (Identifier.ofBits 2) mutedHeaders
    (ofMilliseconds standardBudget) = .ok mutedVisit.start := by
  decide +kernel

/-- The padded order ends what it began, and the muted one lacks both identifiers that it was not told. -/
theorem paddedVisit_completes :
    (∃ request response entered left elapsed outcome closing,
      paddedVisit.journal = .sent request (.ok response) :: .tried entered left elapsed outcome :: closing ∧
      entered.missing = [] ∧ EndsBegun left elapsed closing paddedVisit.answer) ∧
    ∀ name, name ∈ mutedVisit.start.handedOn.missing ↔ name = "rootXid" ∨ name = "parentXid" := by
  constructor
  · have assigned : paddedVisit.IsAssigned .beginning "R" := by
      rw [Visit.isAssigned_iff, paddedVisit_assignments]
      exact List.mem_cons_self
    obtain ⟨request, response, entered, left, elapsed, outcome, closing, journal, complete, ends⟩ :=
      (Visit.extracted_completes extract_paddedHeaders).ended assigned
    have kept : left.missing = [] := by
      have behind := paddedVisit_deeds
      rw [journal] at behind
      simp only [List.map_cons, Deed.left?, Option.map_some, List.cons.injEq, Prod.mk.injEq, Option.some.injEq]
        at behind
      exact behind.2.1.2
    exact ⟨request, response, entered, left, elapsed, outcome, closing, journal, complete, ends (by simp [kept])⟩
  · intro name
    have rootXid : mutedHeaders.Unstated HeaderName.rootXid :=
      Context.held_eq_empty_iff.mp (by decide +kernel)
    have parentXid : mutedHeaders.Unstated HeaderName.parentXid :=
      Context.held_eq_empty_iff.mp (by decide +kernel)
    rw [(Visit.extracted_completes extract_mutedHeaders).handedOn name]
    simp only [rootXid, parentXid, and_true]

end TryConfirmCancel
