/-
**Whose children the branches of a transaction are.**

A hop that joins names the branch that its caller stands for as its parent. A participant stands for the
branch that it was assigned; a relay, which only hands the transaction on, stands for the span of its own
caller. Where the coordinator assigns what a hop proposes, its span, this is a branch of the transaction as
long as there is no second relay behind the first one.

* `Lineage`: a line of hops, the last one first, each called by the next one, down to a root;
* `Visit.Represents`: the branch that a hop stands for;
* `Placed`, `HandsOn.placed`, `Lineage.placed`: what each hop of a line has;
* `lineage_parent`: the parent of a join is registered in its line behind at most one relay, and is not
  behind two.
-/

import Mathlib.Data.List.Nodup
import TryConfirmCancel.Proofs.Transaction.Chain

namespace TryConfirmCancel

/-- The identifier that an enrolment proposes. -/
def Entry.proposed (entry : Entry) (message : Enrolment) : String :=
  match entry with
  | beginning => message.rootXid
  | joining => message.branchXid

namespace Visit

/-- A hop has a part in the transaction. -/
def Plays (visit : Visit) (role : Role) : Prop :=
  ∃ descriptor, visit.registry.descriptor visit.service = .ok descriptor ∧
    Role.of visit.config descriptor visit.start = role

/-- The coordinator assigns to a hop the identifiers that it proposes. -/
def IsConfirmed (visit : Visit) : Prop :=
  ∀ request response entry message arguments xid, .sent request (.ok response) ∈ visit.journal →
    request.asked? = some (.enrolment entry message arguments) → entry.Accepts response xid →
    xid = entry.proposed message

theorem Plays.unique {visit : Visit} {role other : Role} (plays : visit.Plays role) (plays' : visit.Plays other) :
    role = other := by
  obtain ⟨descriptor, registered, rfl⟩ := plays
  obtain ⟨descriptor', registered', rfl⟩ := plays'
  cases registered.symm.trans registered'
  rfl

/-- What a hop asks for when it enters. -/
theorem enrolment_of_sent {visit : Visit} {request : Rpc.Request}
    {outcome : Except Rpc.Failure Rpc.Response} {entry : Entry} {message : Enrolment} {arguments : Bytes}
    (sent : .sent request outcome ∈ visit.journal)
    (asked : request.asked? = some (.enrolment entry message arguments)) :
    (∃ role, visit.Plays role ∧ role.entry? = some entry) ∧
      entry.proposed message = visit.start.span.spanId ∧
      (entry = .joining → message.parentXid = visit.start.transaction.parentXid) := by
  obtain ⟨descriptor, entrant, answer, registered, course⟩ := visit.course_of_mem sent
  obtain ⟨active, ⟨route, time, -, -, made⟩, -⟩ := course.enrols sent asked
  cases asked.symm.trans made
  refine ⟨⟨_, ⟨descriptor, registered, rfl⟩, active⟩, ?_, ?_⟩
  · cases entry <;> rfl
  · rintro rfl
    rfl

/-- A hop that is assigned an identifier is no relay. -/
theorem IsAssigned.not_relay {visit : Visit} {entry : Entry} {xid : String}
    (assigned : visit.IsAssigned entry xid) : ¬ visit.Plays .propagator := by
  obtain ⟨request, response, message, arguments, sent, asked, -⟩ := assigned
  obtain ⟨⟨role, plays, active⟩, -⟩ := enrolment_of_sent sent asked
  intro relays
  cases plays.unique relays
  cases active

/-- A hop is confirmed if it is assigned its own span, or nothing. -/
theorem isConfirmed_iff {visit : Visit} :
    visit.IsConfirmed ↔ ∀ entry xid, visit.IsAssigned entry xid → xid = visit.start.span.spanId := by
  constructor
  · rintro confirmed entry xid ⟨request, response, message, arguments, sent, asked, accepts⟩
    obtain ⟨-, proposed, -⟩ := enrolment_of_sent sent asked
    exact (confirmed _ _ _ _ _ _ sent asked accepts).trans proposed
  · intro each request response entry message arguments xid sent asked accepts
    obtain ⟨-, proposed, -⟩ := enrolment_of_sent sent asked
    exact (each entry xid ⟨request, response, message, arguments, sent, asked, accepts⟩).trans proposed.symm

/-- The context on which a hop runs Try is that of a participant with its branch, or of a relay. -/
theorem Tries.cases {visit : Visit} {entered : Context} (tries : visit.Tries entered) :
    (∃ entry xid spent coordinator, visit.IsAssigned entry xid ∧
      entered = (visit.start.consume spent).enteredBy entry xid coordinator) ∨
    (visit.Plays .propagator ∧ entered = visit.start.handedOn) := by
  obtain ⟨left, elapsed, outcome, tried⟩ := tries
  obtain ⟨descriptor, entrant, answer, registered, course⟩ := visit.course_of_mem tried
  rcases course.entered_eq tried with
    ⟨entry, xid, request, response, spent, -, ⟨_, _, -, -, asked⟩, accepts, leads, same⟩ | ⟨passive, same⟩
  · have assigned : visit.IsAssigned entry xid :=
      ⟨request, response, _, _, List.mem_of_mem_head? leads, asked, accepts⟩
    exact .inl ⟨entry, xid, spent, _, assigned, same⟩
  · exact .inr ⟨⟨descriptor, registered, Role.entry?_eq_none_iff.mp passive⟩, same⟩

/-- What a hop was assigned is its branch inside Try. -/
theorem IsAssigned.branchXid_eq {visit : Visit} {entry : Entry} {xid : String} {entered : Context}
    (assigned : visit.IsAssigned entry xid) (tries : visit.Tries entered) :
    entered.transaction.branchXid = xid := by
  obtain ⟨request, response, message, arguments, sent, asked, accepts⟩ := assigned
  obtain ⟨left, elapsed, outcome, tried⟩ := tries
  obtain ⟨descriptor, entrant, answer, -, course⟩ := visit.course_of_mem tried
  obtain ⟨active, -, leads⟩ := course.enrols sent asked
  rcases course.entered_eq tried with ⟨_, _, _, _, _, active', -, accepts', leads', rfl⟩ | ⟨passive, -⟩
  · cases leads.symm.trans leads'
    cases active.symm.trans active'
    cases accepts.unique accepts'
    cases entry <;> simp [Context.enteredBy]
  · cases active.symm.trans passive

/-- The branch that a hop stands for where it calls others: its own, or its caller's if it is a relay. -/
inductive Represents (visit : Visit) : String → Prop
  | own {entry : Entry} {xid : String} (assigned : visit.IsAssigned entry xid) : Represents visit xid
  | caller (relays : visit.Plays .propagator) : Represents visit visit.start.span.parentSpanId

end Visit

/-! ### Lines of hops -/

/-- A hop hands its context on to another one, in the headers of a call that it makes inside Try. -/
inductive HandsOn (caller callee : Visit) : Prop
  | call {entered inside : Context} {carried : Headers} {freshTrace freshSpan : String}
      {standard : Nanoseconds} (tries : caller.Tries entered)
      (unedited : inside.identifiers = entered.identifiers)
      (fresh : Carries freshSpan)
      (extracted : Context.extract freshTrace freshSpan (inside.inject carried) standard = .ok callee.start) :
      HandsOn caller callee

/-- A line of hops, the last one first, each called by the next one, down to a root. The coordinator assigns
to all of them what they propose. -/
inductive Lineage : List Visit → Prop
  | first {root : Visit} (plays : root.Plays .root) (span : Carries root.start.span.spanId)
      (confirmed : root.IsConfirmed) : Lineage [root]
  | call {callee caller : Visit} {earlier : List Visit} (lineage : Lineage (caller :: earlier))
      (hands : HandsOn caller callee) (confirmed : callee.IsConfirmed) : Lineage (callee :: caller :: earlier)

/-- An identifier that the coordinator assigned to a hop of a line. -/
def Registered (hops : List Visit) (xid : String) : Prop := ∃ visit ∈ hops, ∃ entry, visit.IsAssigned entry xid

/-- The last two hops of a line are relays. -/
def EndsInRelays : List Visit → Prop
  | last :: former :: _ => last.Plays .propagator ∧ former.Plays .propagator
  | _ => False

/-- What each hop of a line has. -/
structure Placed (visit : Visit) : Prop where
  span : Carries visit.start.span.spanId
  confirmed : visit.IsConfirmed
  parent : visit.Plays .propagator → Carries visit.start.span.parentSpanId

section Hops

variable {caller callee visit : Visit} {earlier : List Visit} {xid : String}

/-- Inside Try, a hop of a line has its span, and the branch that it stands for. -/
theorem Placed.inside (placed : Placed visit) {entered : Context} (tries : visit.Tries entered) :
    entered.span.spanId = visit.start.span.spanId ∧ Carries entered.transaction.branchXid ∧
      visit.Represents entered.transaction.branchXid := by
  rcases tries.cases with ⟨entry, xid, spent, coordinator, assigned, rfl⟩ | ⟨relays, rfl⟩
  · have branch : ((visit.start.consume spent).enteredBy entry xid coordinator).transaction.branchXid = xid := by
      cases entry <;> simp [Context.enteredBy]
    rw [branch]
    refine ⟨by simp, ?_, .own assigned⟩
    rw [Visit.isConfirmed_iff.mp placed.confirmed _ _ assigned]
    exact placed.span
  · exact ⟨rfl, placed.parent relays, .caller relays⟩

/-- **What one hop hands on to another one.** -/
theorem HandsOn.placed (hands : HandsOn caller callee) (placed : Placed caller) :
    Carries callee.start.span.spanId ∧ callee.start.span.parentSpanId = caller.start.span.spanId ∧
      caller.Represents callee.start.transaction.parentXid := by
  obtain @⟨entered, inside, carried, freshTrace, freshSpan, standard, tries, identifiers, fresh,
    extracted⟩ := hands
  obtain ⟨span, carries, represents⟩ := placed.inside tries
  simp only [Context.identifiers, List.cons.injEq, Prod.mk.injEq, true_and, and_true] at identifiers
  obtain ⟨-, sameSpan, -, -, sameBranch, -⟩ := identifiers
  rw [← sameSpan] at span
  rw [← sameBranch] at carries represents
  -- the branch is set, so a callee gets it as its parent
  have forCallee : inside.transaction.forCallee
      = { inside.transaction with parentXid := inside.transaction.branchXid } := by
    rw [Transaction.forCallee_eq, if_neg carries.2]
  have read : ∀ {name text : String}, (name, text) ∈ inside.carriedTexts → Carries text →
      Context.headerText? (inside.inject carried) name = some text :=
    fun handed held => Context.headerText?_inject handed held.1 held.2 carried
  obtain ⟨-, spanId, parentSpanId, -, -, parentXid, -⟩ := Context.extract_eq_ok extracted
  have held : Carries inside.span.spanId := by
    rw [span]
    exact placed.span
  rw [read (by simp [Context.carriedTexts]) held, Option.getD_some] at parentSpanId
  rw [read (by simp [Context.carriedTexts, forCallee]) carries, Option.getD_some] at parentXid
  refine ⟨by rw [spanId]; exact fresh, parentSpanId.trans span, ?_⟩
  rw [parentXid]
  exact represents

/-- **Every hop of a line has its place.** -/
theorem Lineage.placed {hops : List Visit} (lineage : Lineage hops) : ∀ visit ∈ hops, Placed visit := by
  induction lineage with
  | @first root plays span confirmed =>
    intro visit member
    cases List.mem_singleton.mp member
    exact ⟨span, confirmed, fun relays => by cases plays.unique relays⟩
  | call _ hands confirmed ih =>
    intro visit member
    rcases List.mem_cons.mp member with rfl | inside
    · have before := ih _ List.mem_cons_self
      obtain ⟨span, parent, -⟩ := hands.placed before
      exact ⟨span, confirmed, fun _ => by rw [parent]; exact before.span⟩
    · exact ih visit inside

/-- The branch that a hop joins as a child of is the one that its caller stands for. -/
theorem HandsOn.represents (hands : HandsOn caller callee) (placed : Placed caller) {request : Rpc.Request}
    {outcome : Except Rpc.Failure Rpc.Response} {message : Enrolment} {arguments : Bytes}
    (sent : .sent request outcome ∈ callee.journal)
    (asked : request.asked? = some (.enrolment .joining message arguments)) :
    caller.Represents message.parentXid := by
  obtain ⟨-, -, parent⟩ := Visit.enrolment_of_sent sent asked
  obtain ⟨-, -, represents⟩ := hands.placed placed
  rw [parent rfl]
  exact represents

/-- The caller of a relay has that span for its own that the relay stands for, and has run Try. -/
theorem Lineage.caller_of_relay (lineage : Lineage (visit :: earlier)) (relays : visit.Plays .propagator) :
    ∃ caller older, earlier = caller :: older ∧ Placed caller ∧
      visit.start.span.parentSpanId = caller.start.span.spanId ∧
      ∃ entered, caller.Tries entered := by
  cases lineage with
  | first root _ _ => cases root.unique relays
  | call lineage hands _ =>
    have placed := lineage.placed _ List.mem_cons_self
    obtain ⟨-, parent, -⟩ := hands.placed placed
    obtain ⟨tries, -⟩ := hands
    exact ⟨_, _, rfl, placed, parent, _, tries⟩

/-- Behind at most one relay, a branch that a hop stands for is registered. -/
theorem Lineage.registered (lineage : Lineage (caller :: earlier)) (represents : caller.Represents xid)
    (single : ¬ EndsInRelays (caller :: earlier)) : Registered (caller :: earlier) xid := by
  cases represents with
  | own assigned => exact ⟨caller, List.mem_cons_self, _, assigned⟩
  | caller relays =>
    obtain ⟨former, older, rfl, placed, parent, entered, tries⟩ := lineage.caller_of_relay relays
    -- the relay stands for the span of its caller, which that one was assigned unless it is a relay as well
    rcases tries.cases with ⟨entry, xid, _, _, assigned, -⟩ | ⟨relays', -⟩
    · rw [parent, ← Visit.isConfirmed_iff.mp placed.confirmed _ _ assigned]
      exact ⟨former, List.mem_cons_of_mem _ List.mem_cons_self, entry, assigned⟩
    · exact absurd ⟨relays, relays'⟩ single

/-- Behind two relays, the last one stands for the span of the former one, which is registered nowhere. -/
theorem Lineage.unregistered (lineage : Lineage (caller :: earlier)) (represents : caller.Represents xid)
    (relays : EndsInRelays (caller :: earlier))
    (distinct : ((caller :: earlier).map fun visit => visit.start.span.spanId).Nodup) :
    (∃ former ∈ earlier.head?, xid = former.start.span.spanId) ∧ ¬ Registered (caller :: earlier) xid := by
  cases earlier with
  | nil => cases relays
  | cons former older =>
    obtain ⟨last, before⟩ := relays
    cases represents with
    | own assigned => exact absurd last assigned.not_relay
    | caller _ =>
      obtain ⟨former', older', same, -, parent, -⟩ := lineage.caller_of_relay last
      cases same
      refine ⟨⟨former, rfl, parent⟩, ?_⟩
      -- a hop that was assigned the span of the former relay would have that span, and so be that relay
      rintro ⟨visit, member, entry, assigned⟩
      have confirmed := (lineage.placed visit member).confirmed
      have span : visit.start.span.spanId = former.start.span.spanId :=
        (Visit.isConfirmed_iff.mp confirmed _ _ assigned).symm.trans parent
      cases List.inj_on_of_nodup_map distinct member (List.mem_cons_of_mem _ List.mem_cons_self) span
      exact assigned.not_relay before

end Hops

/-- **The parent of a branch.** A hop that joins names a registered branch of its line as its parent if at most
one relay stands between them. Behind two relays in a row it names the span of the former one, which is
registered nowhere in the line as long as no two hops share a span. -/
theorem lineage_parent {caller callee : Visit} {older : List Visit} (lineage : Lineage (caller :: older))
    (hands : HandsOn caller callee) {request : Rpc.Request} {outcome : Except Rpc.Failure Rpc.Response}
    {message : Enrolment} {arguments : Bytes} (sent : .sent request outcome ∈ callee.journal)
    (asked : request.asked? = some (.enrolment .joining message arguments)) :
    (¬ EndsInRelays (caller :: older) → Registered (caller :: older) message.parentXid) ∧
    (EndsInRelays (caller :: older) →
      ((caller :: older).map fun visit => visit.start.span.spanId).Nodup →
      (∃ former ∈ older.head?, message.parentXid = former.start.span.spanId) ∧
        ¬ Registered (caller :: older) message.parentXid) := by
  have represents := hands.represents (lineage.placed _ List.mem_cons_self) sent asked
  exact ⟨lineage.registered represents, lineage.unregistered represents⟩

/-! ### A line in rehearsal -/

theorem Calls.handsOn {caller callee : Visit} {inside : Context} (calls : Calls caller callee inside) :
    HandsOn caller callee := by
  obtain ⟨entered, tries, unedited, -⟩ := calls.unedited
  obtain ⟨carried, freshTrace, spanBits, standard, -, extracted⟩ := calls.handed
  exact .call tries unedited (carries_ofBits spanBits) extracted

/-- The coordinator assigns to the order what it proposes. -/
def confirmedOrder : Visit :=
  { orderVisit with
    world := .start shopSettings
      [assigning Message.begun ⟨Identifier.ofBits 2, 0⟩, assigning Message.ended ⟨0⟩] () }

/-- What is known of the order inside Try. -/
def confirmedInside : Context :=
  (orderContext.consume 0).enteredBy .beginning (Identifier.ofBits 2) shopSettings.coordinatorAddress

theorem confirmedOrder_entered :
    confirmedOrder.journal.map Deed.entered? = [none, some confirmedInside, none] := by
  decide +kernel

theorem confirmedOrder_tries : confirmedOrder.Tries confirmedInside := by
  rw [Visit.tries_iff, confirmedOrder_entered]
  simp

theorem confirmedOrder_lineage : Lineage [confirmedOrder] := by
  refine .first ⟨_, rfl, rfl⟩ (carries_ofBits 2) (Visit.isConfirmed_iff.mpr ?_)
  intro entry xid assigned
  rw [← assigned.branchXid_eq confirmedOrder_tries]
  rfl

theorem relayVisit_confirmed {start : Context} (active : start.transaction.isRoot = false) :
    (relayVisit start).Plays .propagator ∧ (relayVisit start).IsConfirmed := by
  have relays : (relayVisit start).Plays .propagator := by
    refine ⟨_, rfl, ?_⟩
    have deployment : (relayVisit start).config.isPropagatorDeployment = true := rfl
    have begins : (relayVisit start).start = start := rfl
    rw [Role.of, Config.isPropagator, deployment, begins, active]
    simp
  exact ⟨relays, Visit.isConfirmed_iff.mpr fun _ _ assigned => absurd relays assigned.not_relay⟩

/-- What the relay behind the order starts with, and the relay behind that one. -/
def firstRelay : Context := calledFrom confirmedInside 3

def secondRelay : Context := calledFrom firstRelay.handedOn 4

theorem firstRelay_active : firstRelay.transaction.isRoot = false := by decide +kernel

theorem firstRelay_accepted :
    (Context.extract "" (Identifier.ofBits 4) (firstRelay.handedOn.inject .empty) 0).isOk = true := by
  decide +kernel

theorem firstRelay_canJoin : CanJoin (calledFrom firstRelay.handedOn 4) := by decide +kernel

theorem secondRelay_active : secondRelay.transaction.isRoot = false := firstRelay_canJoin.1

theorem secondRelay_canJoin : CanJoin (calledFrom secondRelay.handedOn 5) := by decide +kernel

theorem firstRelay_lineage : Lineage [relayVisit firstRelay, confirmedOrder] :=
  .call confirmedOrder_lineage
    (relayVisit_called confirmedOrder_tries rfl (by decide +kernel) firstRelay_active).handsOn
    (relayVisit_confirmed firstRelay_active).2

theorem secondRelay_lineage :
    Lineage [relayVisit secondRelay, relayVisit firstRelay, confirmedOrder] :=
  .call firstRelay_lineage
    (relayVisit_called (relayVisit_hands firstRelay_active).1 rfl firstRelay_accepted secondRelay_active).handsOn
    (relayVisit_confirmed secondRelay_active).2

/-- Behind one relay, the stock is a child of the order. -/
theorem firstRelay_parent : ∃ request outcome message arguments,
    .sent request outcome ∈ (stockVisit (calledFrom firstRelay.handedOn 4)).journal ∧
    request.asked? = some (.enrolment .joining message arguments) ∧
    Registered [relayVisit firstRelay, confirmedOrder] message.parentXid := by
  obtain ⟨request, message, arguments, sent, asked⟩ := stockVisit_joins firstRelay_canJoin
  have hands : HandsOn (relayVisit firstRelay) (stockVisit (calledFrom firstRelay.handedOn 4)) :=
    (stockVisit_called firstRelay_active firstRelay_accepted).handsOn
  have single : ¬ EndsInRelays [relayVisit firstRelay, confirmedOrder] := by
    rintro ⟨-, relays⟩
    cases relays.unique ⟨_, rfl, rfl⟩
  exact ⟨request, _, message, arguments, sent, asked,
    (lineage_parent firstRelay_lineage hands sent asked).1 single⟩

/-- **Behind two relays, the stock is a child of no branch of the transaction.** -/
theorem secondRelay_orphan : ¬ ∀ (caller callee : Visit) (older : List Visit) (request : Rpc.Request)
    (outcome : Except Rpc.Failure Rpc.Response) (message : Enrolment) (arguments : Bytes),
    Lineage (caller :: older) → HandsOn caller callee → .sent request outcome ∈ callee.journal →
    request.asked? = some (.enrolment .joining message arguments) →
    Registered (caller :: older) message.parentXid := by
  intro registered
  obtain ⟨request, message, arguments, sent, asked⟩ := stockVisit_joins secondRelay_canJoin
  have hands : HandsOn (relayVisit secondRelay) (stockVisit (calledFrom secondRelay.handedOn 5)) :=
    (stockVisit_called secondRelay_active (by decide +kernel)).handsOn
  have represents := hands.represents (secondRelay_lineage.placed _ List.mem_cons_self) sent asked
  have relays : EndsInRelays [relayVisit secondRelay, relayVisit firstRelay, confirmedOrder] :=
    ⟨(relayVisit_confirmed secondRelay_active).1, (relayVisit_confirmed firstRelay_active).1⟩
  have distinct : ([relayVisit secondRelay, relayVisit firstRelay, confirmedOrder].map
      fun visit => visit.start.span.spanId).Nodup := by
    decide +kernel
  exact (secondRelay_lineage.unregistered represents relays distinct).2
    (registered _ _ _ _ _ _ _ secondRelay_lineage hands sent asked)

end TryConfirmCancel
