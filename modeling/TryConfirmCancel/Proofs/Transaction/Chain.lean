/-
**Chains of hops.**

A hop calls others from inside its Try, and hands its context to them in the headers of the call. Which
transaction they take part in, and as whose branch, is then decided by what was handed on, hop by hop.

* `Begins`: a hop that began a transaction; `Calls`: a hop that calls another one;
* `Chain`: the hops that are reached from a first one;
* `Carried`, `Inside`: what holds where a hop starts, and what holds inside its Try;
* `Begins.inside`, `Carried.inside`, `Calls.carried`: what one step of a chain keeps;
* `Chain.reached`: so every hop of a chain has it;
* `chain_continues`: every call of a chain continues the transaction of its first hop;
* `secondRelay_continues`: a stock that an order calls through two relays joins the order's transaction.
-/

import TryConfirmCancel.Proofs.Hop.Carriage
import TryConfirmCancel.Proofs.Transaction.Occasions
import TryConfirmCancel.Proofs.Transaction.Sequence
import TryConfirmCancel.Proofs.Wire.Fitting

namespace TryConfirmCancel

namespace Visit

def Sends (visit : Visit) (request : Rpc.Request) : Prop := ∃ outcome, .sent request outcome ∈ visit.journal

/-- A hop runs Try on a context. -/
def Tries (visit : Visit) (entered : Context) : Prop :=
  ∃ left elapsed outcome, .tried entered left elapsed outcome ∈ visit.journal

theorem course_of_mem (visit : Visit) {deed : Deed visit.α} (done : deed ∈ visit.journal) :
    ∃ descriptor entrant answer, visit.registry.descriptor visit.service = .ok descriptor ∧
      Course visit.config (Role.of visit.config descriptor visit.start)
        ((Role.of visit.config descriptor visit.start).coordinator visit.config visit.start) entrant visit.start
        visit.journal answer := by
  obtain ⟨descriptor, parameters, registered, -, course⟩ := visit.link.course_of_mem _ _ _ done
  exact ⟨descriptor, _, _, registered, course⟩

/-- The coordinator assigns an identifier to a hop, when it begins or when it joins. -/
def IsAssigned (visit : Visit) (entry : Entry) (xid : String) : Prop :=
  ∃ request response message arguments, .sent request (.ok response) ∈ visit.journal ∧
    request.asked? = some (.enrolment entry message arguments) ∧ entry.Accepts response xid

theorem tries_iff {visit : Visit} {entered : Context} :
    visit.Tries entered ↔ some entered ∈ visit.journal.map Deed.entered? := by
  rw [List.mem_map]
  constructor
  · rintro ⟨left, elapsed, outcome, tried⟩
    exact ⟨_, tried, rfl⟩
  · rintro ⟨deed, inside, found⟩
    cases deed with
    | sent => cases found
    | tried entered left elapsed outcome =>
      cases found
      exact ⟨left, elapsed, outcome, inside⟩

theorem isAssigned_iff {visit : Visit} {entry : Entry} {xid : String} :
    visit.IsAssigned entry xid ↔ some (entry, xid) ∈ visit.journal.map Deed.assigned? := by
  rw [List.mem_map]
  constructor
  · rintro ⟨request, response, message, arguments, sent, asked, accepts⟩
    exact ⟨_, sent, Deed.assigned?_eq_some_iff.mpr ⟨_, _, _, _, rfl, asked, accepts⟩⟩
  · rintro ⟨deed, inside, found⟩
    obtain ⟨request, response, message, arguments, rfl, asked, accepts⟩ := Deed.assigned?_eq_some_iff.mp found
    exact ⟨request, response, message, arguments, inside, asked, accepts⟩

/-- A header carries all identifiers unchanged that the coordinator assigns to a hop. -/
def HasPortableXids (visit : Visit) : Prop := ∀ entry xid, visit.IsAssigned entry xid → Portable xid

/-- What is assigned to a hop can be carried if no answer of its coordinator assigns anything else. -/
theorem portableXids_of_answers {visit : Visit}
    (each : ∀ request world response (entry : Entry) xid, (visit.link.send request world).1 = .ok response →
      entry.Accepts response xid → Portable xid) : visit.HasPortableXids := by
  rintro entry xid ⟨request, response, message, arguments, sent, -, accepts⟩
  obtain ⟨before, -, came⟩ := Link.exists_occasion_of_sent sent
  exact each request before response entry xid came accepts

/-- A hop that only hands the transaction on runs Try on what it hands on, and is assigned nothing. -/
theorem of_propagator {visit : Visit} {descriptor : Descriptor} {parameters : Parameters}
    (registered : visit.registry.descriptor visit.service = .ok descriptor)
    (written : Parameters.encode visit.arguments = .ok parameters)
    (passive : Role.of visit.config descriptor visit.start = .propagator) :
    visit.Tries visit.start.handedOn ∧ visit.HasPortableXids := by
  constructor
  · obtain ⟨answer, course⟩ := visit.course registered written
    rw [passive] at course
    rw [Tries]
    generalize visit.journal = deeds at course
    cases course with
    | shutOut active _ => cases active
    | admitted active _ _ => cases active
    | handedOn _ _ => exact ⟨_, _, _, List.mem_cons_self⟩
  · rintro entry xid ⟨request, response, message, arguments, sent, asked, -⟩
    obtain ⟨descriptor', entrant, answer, registered', course⟩ := visit.course_of_mem sent
    cases registered.symm.trans registered'
    obtain ⟨active, -⟩ := course.enrols sent asked
    rw [passive] at active
    cases active

/-- The branch that a hop stands for: the whole transaction for its root, the branch that was assigned, or
the caller's span for a hop that only hands the transaction on. -/
def HasBranch (visit : Visit) (rootXid xid : String) : Prop :=
  ∃ descriptor, visit.registry.descriptor visit.service = .ok descriptor ∧
    match Role.of visit.config descriptor visit.start with
    | .root => xid = rootXid
    | .branch => visit.IsAssigned .joining xid
    | .propagator => xid = visit.start.span.parentSpanId

end Visit

/-! ### Chains -/

/-- A hop on a new context, or on one from the headers of a request, that began a transaction. -/
structure Begins (visit : Visit) (rootXid : String) : Prop where
  made : (∃ traceBits spanBits granted,
      visit.start = .root (Identifier.ofBits traceBits) (Identifier.ofBits spanBits) granted) ∨
    ∃ traceBits spanBits headers standard,
      Context.extract (Identifier.ofBits traceBits) (Identifier.ofBits spanBits) headers standard
        = .ok visit.start
  begun : visit.IsAssigned .beginning rootXid
  portableXids : visit.HasPortableXids
  portableAddress : Portable visit.config.coordinatorAddress

/-- A hop calls another one. The context is the caller's as it stood when the call was made. -/
structure Calls (caller callee : Visit) (inside : Context) : Prop where
  /-- The call is made inside Try, which edits neither the identifiers nor the coordinator. -/
  unedited : ∃ entered, caller.Tries entered ∧ inside.identifiers = entered.identifiers ∧
    inside.transaction.agentAddress = entered.transaction.agentAddress
  /-- The callee's context is made from the headers of the call, which carried none before. -/
  handed : ∃ carried freshTrace spanBits standard, (∀ name ∈ HeaderName.all, carried.first? name = none) ∧
    Context.extract freshTrace (Identifier.ofBits spanBits) (inside.inject carried) standard
      = .ok callee.start
  sameMode : callee.config.commMode = caller.config.commMode
  portableXids : callee.HasPortableXids

/-- The hops that are reached from a first one, which began a transaction. -/
inductive Chain (first : Visit) (rootXid : String) : Visit → Prop
  | first (begins : Begins first rootXid) : Chain first rootXid first
  | call {caller callee : Visit} {inside : Context} (chain : Chain first rootXid caller)
      (calls : Calls caller callee inside) : Chain first rootXid callee

/-! ### What a chain keeps -/

/-- A text that a header carries, and that is there. -/
def Carries (text : String) : Prop := Portable text ∧ text ≠ ""

/-- What holds where a hop starts that was called. -/
structure Carried (first : Visit) (rootXid : String) (start : Context) : Prop where
  trace : start.span.traceId = first.start.span.traceId
  span : Carries start.span.spanId
  parent : Carries start.span.parentSpanId
  root : start.transaction.rootXid = rootXid
  agent : start.transaction.agentAddress = first.config.coordinatorAddress

/-- What holds inside the Try of a hop. -/
structure Inside (first : Visit) (rootXid : String) (visit : Visit) (inside : Context) : Prop where
  trace : inside.span.traceId = first.start.span.traceId
  span : inside.span.spanId = visit.start.span.spanId
  root : inside.transaction.rootXid = rootXid
  agent : inside.transaction.agentAddress = first.config.coordinatorAddress
  branch : visit.HasBranch rootXid inside.transaction.branchXid
  carries : Carries inside.transaction.branchXid

/-! ### The first hop -/

theorem carries_ofBits (bits : Nat) : Carries (Identifier.ofBits bits) :=
  ⟨Identifier.portable_ofBits bits, Identifier.ofBits_ne_empty bits⟩

/-- No address of a coordinator is empty. -/
theorem resolve_empty (config : Config) (route : Route) : Route.resolve config "" ≠ .ok route := by
  rw [Route.resolve]
  cases config.commMode with
  | http => intro resolved; cases resolved
  | mesh => intro resolved; cases resolved

/-- Whether an address is read depends on the mode alone. -/
theorem resolve_of_sameMode {config other : Config} (same : other.commMode = config.commMode) {address : String}
    {route : Route} (resolved : Route.resolve config address = .ok route) :
    ∃ route, Route.resolve other address = .ok route := by
  rw [Route.resolve] at resolved ⊢
  rw [same]
  cases parsed : Coordinator.parse config.commMode address with
  | error fault =>
    rw [parsed] at resolved
    cases resolved
  | ok found => exact ⟨_, rfl⟩

section First

variable {first : Visit} {rootXid : String}

/-- The trace and the span of a first hop can be carried. -/
theorem Begins.carries (begins : Begins first rootXid) :
    Carries first.start.span.traceId ∧ Carries first.start.span.spanId := by
  rcases begins.made with ⟨traceBits, spanBits, granted, made⟩ |
    ⟨traceBits, spanBits, headers, standard, extracted⟩
  · rw [made]
    exact ⟨carries_ofBits traceBits, carries_ofBits spanBits⟩
  · rw [(Context.extract_eq_ok extracted).2.1]
    exact ⟨Context.portable_traceId extracted (carries_ofBits traceBits), carries_ofBits spanBits⟩

/-- What the request that began the transaction tells of the first hop. -/
theorem Begins.enrolled (begins : Begins first rootXid) :
    ∃ descriptor request response, first.registry.descriptor first.service = .ok descriptor ∧
      Role.of first.config descriptor first.start = .root ∧
      first.journal.head? = some (.sent request (.ok response)) ∧
      Entry.beginning.Accepts response rootXid ∧
      ∃ route, Route.resolve first.config first.config.coordinatorAddress = .ok route := by
  obtain ⟨request, response, message, arguments, sent, asked, accepts⟩ := begins.begun
  obtain ⟨descriptor, entrant, answer, registered, course⟩ := first.course_of_mem sent
  obtain ⟨active, enrols, leads⟩ := course.enrols sent asked
  have root := Role.entry?_eq_beginning_iff.mp active
  obtain ⟨route, -, resolved, -⟩ := enrols
  rw [root] at resolved
  exact ⟨descriptor, request, response, registered, root, leads, accepts, route, resolved⟩

/-- **Inside the Try of the first hop**, the hop stands for the whole transaction. -/
theorem Begins.inside (begins : Begins first rootXid) {entered : Context} (tries : first.Tries entered) :
    Inside first rootXid first entered := by
  obtain ⟨descriptor, request, response, registered, root, leads, accepts, -⟩ := begins.enrolled
  obtain ⟨left, elapsed, outcome, tried⟩ := tries
  obtain ⟨descriptor', entrant, answer, registered', course⟩ := first.course_of_mem tried
  cases registered.symm.trans registered'
  rw [root] at course
  rcases course.entered_eq tried with
    ⟨entry, xid, request', response', spent, active, -, accepts', leads', rfl⟩ | ⟨passive, -⟩
  · cases active
    cases leads.symm.trans leads'
    cases accepts.unique accepts'
    refine ⟨by simp [Context.enteredBy], by simp [Context.enteredBy], by simp [Context.enteredBy],
      by simp [Context.enteredBy, Role.coordinator], ⟨descriptor, registered, ?_⟩, ?_⟩
    · simp [root, Context.enteredBy]
    · simp only [Context.enteredBy, Context.begun_branchXid]
      exact ⟨begins.portableXids _ _ begins.begun, accepts.ne_empty⟩
  · cases passive

end First

/-! ### Every other hop -/

section Later

variable {first visit : Visit} {rootXid : String}

/-- A hop that was called is no root. -/
theorem Carried.not_root (carried : Carried first rootXid visit.start) (begun : rootXid ≠ "")
    (descriptor : Descriptor) : Role.of visit.config descriptor visit.start ≠ .root := by
  have active : visit.start.transaction.isRoot = false := by
    simp [Transaction.isRoot, carried.root, begun]
  rw [Role.of, active]
  simp only [Bool.false_eq_true, if_false]
  split <;> simp

/-- A branch that was called joins at the coordinator of the first hop. -/
theorem Carried.coordinator_branch (carried : Carried first rootXid visit.start)
    (addressed : first.config.coordinatorAddress ≠ "") :
    Role.coordinator .branch visit.config visit.start = first.config.coordinatorAddress := by
  rw [Role.coordinator, if_neg (by simp [carried.agent, addressed]), carried.agent]

/-- **Inside the Try of a hop that was called**, the hop stands for its branch, or for its caller. -/
theorem Carried.inside (carried : Carried first rootXid visit.start) (begun : rootXid ≠ "")
    (addressed : first.config.coordinatorAddress ≠ "") (portableXids : visit.HasPortableXids)
    {entered : Context} (tries : visit.Tries entered) : Inside first rootXid visit entered := by
  obtain ⟨left, elapsed, outcome, tried⟩ := tries
  obtain ⟨descriptor, entrant, answer, registered, course⟩ := visit.course_of_mem tried
  have noRoot := carried.not_root begun descriptor
  cases role : Role.of visit.config descriptor visit.start with
  | root => exact absurd role noRoot
  | branch =>
    rw [role, carried.coordinator_branch addressed] at course
    rcases course.entered_eq tried with
      ⟨entry, xid, request, response, spent, active, enrols, accepts, leads, rfl⟩ | ⟨passive, -⟩
    · cases active
      obtain ⟨route, time, -, -, asked⟩ := enrols
      have assigned : visit.IsAssigned .joining xid :=
        ⟨request, response, _, _, List.mem_of_mem_head? leads, asked, accepts⟩
      refine ⟨by simp [Context.enteredBy, carried.trace], by simp [Context.enteredBy],
        by simp [Context.enteredBy, carried.root], by simp [Context.enteredBy],
        ⟨descriptor, registered, ?_⟩, ?_⟩
      · simp [role, Context.enteredBy, assigned]
      · simp only [Context.enteredBy, Context.joined_branchXid]
        exact ⟨portableXids _ _ assigned, accepts.ne_empty⟩
    · cases passive
  | propagator =>
    rw [role] at course
    rcases course.entered_eq tried with ⟨entry, _, _, _, _, active, _⟩ | ⟨-, rfl⟩
    · cases active
    · refine ⟨carried.trace, rfl, carried.root, carried.agent, ⟨descriptor, registered, ?_⟩, carried.parent⟩
      simp [role]

end Later

/-! ### From hop to hop -/

section Steps

variable {first caller callee : Visit} {rootXid : String} {inside : Context}

/-- What holds of a hop that a chain reaches, whether or not it was called. -/
structure Reached (first : Visit) (rootXid : String) (visit : Visit) : Prop where
  begins : Begins first rootXid
  sameMode : visit.config.commMode = first.config.commMode
  span : Carries visit.start.span.spanId
  inside : ∀ entered, visit.Tries entered → Inside first rootXid visit entered

/-- The identifier and the coordinator of the transaction are there, and headers carry them. -/
theorem Begins.shared (begins : Begins first rootXid) :
    Carries rootXid ∧ Carries first.config.coordinatorAddress := by
  obtain ⟨_, _, _, _, _, _, accepts, route, resolved⟩ := begins.enrolled
  refine ⟨⟨begins.portableXids _ _ begins.begun, accepts.ne_empty⟩, begins.portableAddress, fun empty => ?_⟩
  rw [empty] at resolved
  exact resolve_empty _ _ resolved

/-- Inside Try, the context in which a call is made has all that the context had on which Try ran. -/
theorem Calls.holds_inside (calls : Calls caller callee inside)
    (each : ∀ entered, caller.Tries entered → Inside first rootXid caller entered) :
    Inside first rootXid caller inside := by
  obtain ⟨entered, tries, identifiers, agent⟩ := calls.unedited
  have before := each entered tries
  simp only [Context.identifiers, List.cons.injEq, Prod.mk.injEq, true_and, and_true] at identifiers
  obtain ⟨trace, span, -, root, branch, -⟩ := identifiers
  exact ⟨trace.trans before.trace, span.trans before.span, root.trans before.root, agent.trans before.agent,
    branch ▸ before.branch, branch ▸ before.carries⟩

/-- **What a call hands on.** -/
theorem Calls.carried (calls : Calls caller callee inside) (reached : Reached first rootXid caller) :
    Carried first rootXid callee.start ∧
      callee.start.span.parentSpanId = caller.start.span.spanId ∧
      callee.start.transaction.parentXid = inside.transaction.branchXid ∧
      callee.start.span.budget = inside.span.budget := by
  have held := calls.holds_inside reached.inside
  obtain ⟨xid, address⟩ := reached.begins.shared
  obtain ⟨carried, freshTrace, spanBits, standard, -, extracted⟩ := calls.handed
  have identified : ∀ text ∈ [inside.span.traceId, inside.span.spanId, inside.transaction.rootXid,
      inside.transaction.branchXid, inside.transaction.agentAddress], Portable text ∧ text ≠ "" := by
    rw [held.trace, held.span, held.root, held.agent]
    simp only [List.forall_mem_cons]
    exact ⟨reached.begins.carries.1, reached.span, xid, held.carries, address, by simp⟩
  obtain ⟨trace, span, parent, budget, root, parentXid, -, agent⟩ :=
    Context.extract_inject identified extracted
  refine ⟨⟨trace.trans held.trace, ?_, ?_, root.trans held.root, agent.trans held.agent⟩,
    parent.trans held.span, parentXid, budget⟩
  · rw [span]
    exact carries_ofBits spanBits
  · rw [parent, held.span]
    exact reached.span

/-- Every hop of a chain is reached with all that a chain keeps. -/
theorem Chain.reached {visit : Visit} (chain : Chain first rootXid visit) : Reached first rootXid visit := by
  induction chain with
  | first begins => exact ⟨begins, rfl, begins.carries.2, fun entered tries => begins.inside tries⟩
  | call _ calls ih =>
    obtain ⟨xid, address⟩ := ih.begins.shared
    obtain ⟨carried, -⟩ := calls.carried ih
    exact ⟨ih.begins, calls.sameMode.trans ih.sameMode, carried.span,
      fun entered tries => carried.inside xid.2 address.2 calls.portableXids tries⟩

/-- What holds of a hop that was called, of its caller, and of what it sends to join. -/
structure Continues (first : Visit) (rootXid : String) (caller callee : Visit) (inside : Context) : Prop where
  /-- No second transaction is begun. -/
  noBegin : ∀ {request message arguments}, callee.Sends request →
    request.asked? ≠ some (.enrolment .beginning message arguments)
  trace : callee.start.span.traceId = first.start.span.traceId
  parent : callee.start.span.parentSpanId = caller.start.span.spanId
  root : callee.start.transaction.rootXid = rootXid
  /-- The branch that the caller stands for. -/
  branch : caller.HasBranch rootXid inside.transaction.branchXid
  /-- The hop joins as a child of that branch, at the coordinator of the first hop. -/
  joins : ∀ {request message arguments}, callee.Sends request →
    request.asked? = some (.enrolment .joining message arguments) →
    message.rootXid = rootXid ∧ message.parentXid = inside.transaction.branchXid ∧
    ∃ route, Route.resolve callee.config first.config.coordinatorAddress = .ok route ∧
      request.target = route.target callee.config .join
  /-- The address of that coordinator is one in the hop's own mode. -/
  resolves : ∃ route, Route.resolve callee.config first.config.coordinatorAddress = .ok route
  /-- The hop starts with what its caller had left, and enters with no more. -/
  budget : callee.start.span.budget = inside.span.budget
  charged : ∀ {entered}, callee.Tries entered → entered.span.budget ≤ callee.start.span.budget

/-- **Every call of a chain continues the transaction of its first hop.** -/
theorem chain_continues (chain : Chain first rootXid caller) (calls : Calls caller callee inside) :
    Continues first rootXid caller callee inside := by
  have reached := chain.reached
  have held := calls.holds_inside reached.inside
  obtain ⟨carried, parent, parentXid, budget⟩ := calls.carried reached
  obtain ⟨xid, address⟩ := reached.begins.shared
  obtain ⟨_, _, _, _, _, _, _, route, resolved⟩ := reached.begins.enrolled
  have noRoot := carried.not_root xid.2
  refine ⟨?_, carried.trace, parent, carried.root, held.branch, ?_,
    resolve_of_sameMode (calls.sameMode.trans reached.sameMode) resolved, budget, ?_⟩
  · rintro request message arguments ⟨outcome, sent⟩ asked
    obtain ⟨descriptor, entrant, answer, -, course⟩ := callee.course_of_mem sent
    obtain ⟨active, -, -⟩ := course.enrols sent asked
    exact noRoot descriptor (Role.entry?_eq_beginning_iff.mp active)
  · rintro request message arguments ⟨outcome, sent⟩ asked
    obtain ⟨descriptor, entrant, answer, -, course⟩ := callee.course_of_mem sent
    obtain ⟨active, ⟨found, time, resolved, target, enrolment⟩, -⟩ := course.enrols sent asked
    cases asked.symm.trans enrolment
    rw [Role.entry?_eq_joining_iff.mp active, carried.coordinator_branch address.2] at resolved
    exact ⟨carried.root, parentXid, found, resolved, target⟩
  · rintro entered ⟨left, elapsed, outcome, tried⟩
    obtain ⟨descriptor, entrant, answer, -, course⟩ := callee.course_of_mem tried
    rcases course.entered_eq tried with ⟨entry, _, _, _, spent, -, -, -, -, rfl⟩ | ⟨-, rfl⟩
    · rw [Context.enteredBy_span, Context.consume_span, Span.consume_budget]
      exact charged_le _ _
    · exact Nat.le_refl _

end Steps

/-! ### A call in rehearsal -/

/-- The settings of a deployment that only hands transactions on. -/
def relaySettings : Config :=
  { coordinatorAddress := "http://other|begin|join|end", isPropagatorDeployment := true }

def relayVisit (start : Context) : Visit :=
  { link := Rehearsal.link, registry := shop, service := "orders", arguments := .list []
    body := placeOrder, start, world := .start relaySettings [] () }

/-- A relay that is called in a transaction runs Try on what it hands on, and is assigned nothing. -/
theorem relayVisit_hands {start : Context} (active : start.transaction.isRoot = false) :
    (relayVisit start).Tries start.handedOn ∧ (relayVisit start).HasPortableXids := by
  have registered : (relayVisit start).registry.descriptor (relayVisit start).service
      = .ok (((Descriptor.of "orders" "place").withConfirm "book").withCancel "drop") := rfl
  refine Visit.of_propagator registered rfl ?_
  have deployment : (relayVisit start).config.isPropagatorDeployment = true := rfl
  rw [Role.of, Config.isPropagator, deployment, relayVisit, active]
  simp

/-- What a callee makes of the headers of a call. -/
def calledFrom (inside : Context) (spanBits : Nat) : Context :=
  ((Context.extract "" (Identifier.ofBits spanBits) (inside.inject .empty) 0).toOption).getD default

theorem extract_calledFrom {inside : Context} {spanBits : Nat}
    (accepted : (Context.extract "" (Identifier.ofBits spanBits) (inside.inject .empty) 0).isOk = true) :
    Context.extract "" (Identifier.ofBits spanBits) (inside.inject .empty) 0
      = .ok (calledFrom inside spanBits) := by
  obtain ⟨context, extracted⟩ := exists_of_isOk accepted
  rw [calledFrom, extracted]
  rfl

/-- A hop that starts with what it makes of the headers of a call is called. -/
theorem calls_of_calledFrom {caller callee : Visit} {inside : Context} {spanBits : Nat} (tries : caller.Tries inside)
    (mode : callee.config.commMode = caller.config.commMode)
    (accepted : (Context.extract "" (Identifier.ofBits spanBits) (inside.inject .empty) 0).isOk = true)
    (starts : callee.start = calledFrom inside spanBits) (portableXids : callee.HasPortableXids) :
    Calls caller callee inside :=
  { unedited := ⟨inside, tries, rfl, rfl⟩
    handed := ⟨.empty, "", spanBits, 0, fun _ _ => rfl, by rw [starts, extract_calledFrom accepted]⟩
    sameMode := mode
    portableXids }

/-- A relay is called from inside a hop of the same mode. -/
theorem relayVisit_called {caller : Visit} {inside : Context} {spanBits : Nat} (tries : caller.Tries inside)
    (mode : caller.config.commMode = .http)
    (accepted : (Context.extract "" (Identifier.ofBits spanBits) (inside.inject .empty) 0).isOk = true)
    (active : (calledFrom inside spanBits).transaction.isRoot = false) :
    Calls caller (relayVisit (calledFrom inside spanBits)) inside :=
  calls_of_calledFrom tries mode.symm accepted rfl (relayVisit_hands active).2

theorem orderVisit_assigned {entry : Entry} {xid : String} :
    orderVisit.IsAssigned entry xid ↔ entry = .beginning ∧ xid = "R" := by
  rw [Visit.isAssigned_iff, orderVisit_assignments]
  simp

theorem orderVisit_tries : orderVisit.Tries orderInside := by
  rw [Visit.tries_iff, orderVisit_entered]
  simp

theorem orderVisit_begins : Begins orderVisit "R" :=
  { made := .inl ⟨1, 2, _, rfl⟩
    begun := orderVisit_assigned.mpr ⟨rfl, rfl⟩
    portableXids := by
      intro entry xid assigned
      obtain ⟨-, rfl⟩ := orderVisit_assigned.mp assigned
      exact ⟨by decide, by decide⟩
    portableAddress := ⟨by decide +kernel, by decide +kernel⟩ }

/-- What the first relay starts with. -/
def relayStart : Context := calledFrom orderInside 3

theorem relayStart_active : relayStart.transaction.isRoot = false := by decide +kernel

theorem relayStart_called : Calls orderVisit (relayVisit relayStart) orderInside :=
  relayVisit_called orderVisit_tries rfl (by decide +kernel) relayStart_active

/-- What a coordinator answers that has taken the stock in. -/
def stockTaken : Rpc.Response := ⟨200, ∅, (Message.reply Message.joined).bytes ⟨Code.ok, "", some ⟨"B", 0⟩⟩⟩

theorem stockTaken_accepts {entry : Entry} {xid : String} :
    entry.Accepts stockTaken xid ↔ entry = .joining ∧ xid = "B" := by
  have read : (Entry.beginning.assigned stockTaken).toOption = none ∧
      (Entry.joining.assigned stockTaken).toOption = some "B" := by
    decide +kernel
  rw [← Entry.assigned_eq_ok_iff]
  cases entry with
  | beginning =>
    cases assigned : Entry.beginning.assigned stockTaken with
    | error failure => simp
    | ok other =>
      rw [assigned] at read
      cases read.1
  | joining =>
    cases assigned : Entry.joining.assigned stockTaken with
    | error failure =>
      rw [assigned] at read
      cases read.2
    | ok other =>
      rw [assigned] at read
      cases read.2
      simp [eq_comm]

/-- A coordinator that takes in whatever joins. -/
def stockLink : Link (Rehearsal Unit) :=
  { Rehearsal.link with send := fun _ rehearsal => (.ok stockTaken, rehearsal) }

/-- A hop that takes part in the transaction. -/
def stockVisit (start : Context) : Visit :=
  { link := stockLink, registry := shop, service := "orders", arguments := .list []
    body := placeOrder, start, world := .start shopSettings [] () }

theorem stockVisit_portable (start : Context) : (stockVisit start).HasPortableXids := by
  refine Visit.portableXids_of_answers fun request world response entry xid came accepts => ?_
  cases came
  obtain ⟨-, rfl⟩ := stockTaken_accepts.mp accepts
  exact ⟨by decide, by decide⟩

/-- A context with which the stock can ask to join. -/
def CanJoin (start : Context) : Prop :=
  start.transaction.isRoot = false ∧ start.transaction.agentAddress = shopSettings.coordinatorAddress ∧
    start.span.budget ≠ 0 ∧
    (∀ text ∈ [start.transaction.parentXid, start.transaction.rootXid, start.span.spanId],
      text.toList.length ≤ 1000) ∧
    (Base64.encodeChars (Utf8.ofChars (Json.Value.ofTexts start.requestHeaders).chars)).length ≤ 100000

instance (start : Context) : Decidable (CanJoin start) := inferInstanceAs (Decidable (_ ∧ _))

theorem isShort_snapshot {headers : Dict String}
    (few : (Base64.encodeChars (Utf8.ofChars (Json.Value.ofTexts headers).chars)).length ≤ 1000000) :
    IsShort (Snapshot.encode headers) := by
  rw [IsShort, Snapshot.encode, Json.Value.text, Utf8.ofText_ofList, Base64.encode, String.toList_ofList]
  exact few

def stockDescriptor : Descriptor := ((Descriptor.of "orders" "place").withConfirm "book").withCancel "drop"

def stockEntrant : Entrant := ⟨"orders", stockDescriptor.flags, ⟨[]⟩⟩

theorem stockEntrant_body {start : Context} (can : CanJoin start) (route : Route) (time : Nanoseconds) :
    ∃ body, stockEntrant.body Message.joinService
      (stockEntrant.enrolment .joining shopSettings route start time) = .ok body := by
  obtain ⟨-, -, -, identifiers, digits⟩ := can
  refine stockEntrant.body_of_short (stockEntrant.enrolment_range .joining shopSettings route start time) ?_
  have address : ∀ direct, IsShort (Participant.build shopSettings stockEntrant.flags direct).encode := by
    unfold IsShort
    decide +kernel
  have names : IsShort Message.joinService ∧ IsShort stockEntrant.serviceName := by
    unfold IsShort
    decide +kernel
  simp only [List.forall_mem_cons] at identifiers ⊢
  obtain ⟨parent, root, span, -⟩ := identifiers
  exact ⟨names.1, address route.isDirect, Nat.le_trans parent (by decide), Nat.le_trans root (by decide),
    Nat.le_trans span (by decide), names.2, isShort_snapshot (Nat.le_trans digits (by decide)), by simp⟩

/-- The stock is called from inside a relay. -/
theorem stockVisit_called {start : Context} {spanBits : Nat} (active : start.transaction.isRoot = false)
    (accepted : (Context.extract "" (Identifier.ofBits spanBits) (start.handedOn.inject .empty) 0).isOk = true) :
    Calls (relayVisit start) (stockVisit (calledFrom start.handedOn spanBits)) start.handedOn :=
  calls_of_calledFrom (relayVisit_hands active).1 rfl accepted rfl (stockVisit_portable _)

theorem stockVisit_joins {start : Context} (can : CanJoin start) :
    ∃ request message arguments, .sent request (.ok stockTaken) ∈ (stockVisit start).journal ∧
      request.asked? = some (.enrolment .joining message arguments) := by
  have registered : shop.descriptor "orders" = .ok stockDescriptor := rfl
  have written : Parameters.encode (.list []) = .ok ⟨[]⟩ := rfl
  obtain ⟨answer, course⟩ := (stockVisit start).course registered written
  have settings : (stockVisit start).config = shopSettings := rfl
  have starts : (stockVisit start).start = start := rfl
  have branch : Role.of shopSettings stockDescriptor start = .branch := by
    rw [Role.of, can.1]
    rfl
  have coordinator : Role.coordinator .branch shopSettings start = shopSettings.coordinatorAddress := by
    rw [Role.coordinator, can.2.1, ite_self]
  simp only [settings, starts, branch, coordinator] at course
  have free : ∀ failure,
      ¬ Hinders shopSettings shopSettings.coordinatorAddress stockEntrant .joining start failure := by
    rintro failure (⟨⟨spent⟩ | ⟨fault, unresolved⟩⟩ | unwritable)
    · exact can.2.2.1 spent
    · have resolved : (Route.resolve shopSettings shopSettings.coordinatorAddress).isOk = true := by
        decide +kernel
      rw [unresolved] at resolved
      cases resolved
    · obtain ⟨body, made⟩ := stockEntrant_body can _ _
      cases made.symm.trans unwritable
  obtain ⟨request, outcome, sent, route, time, -, -, asked⟩ := course.asks rfl free
  obtain ⟨before, -, came⟩ := Link.exists_occasion_of_sent sent
  cases came
  exact ⟨request, _, _, sent, asked⟩

/-- What the second relay starts with, and the stock behind it. -/
def secondStart : Context := calledFrom relayStart.handedOn 4

def stockStart : Context := calledFrom secondStart.handedOn 5

theorem secondStart_active : secondStart.transaction.isRoot = false := by decide +kernel

theorem secondStart_chain : Chain orderVisit "R" (relayVisit secondStart) :=
  .call (.call (.first orderVisit_begins) relayStart_called)
    (relayVisit_called (relayVisit_hands relayStart_active).1 rfl (by decide +kernel) secondStart_active)

theorem stockStart_canJoin : CanJoin stockStart := by decide +kernel

theorem stockStart_called : Calls (relayVisit secondStart) (stockVisit stockStart) secondStart.handedOn :=
  stockVisit_called secondStart_active (by decide +kernel)

/-- Behind two relays, the stock joins the transaction of the order. -/
theorem secondRelay_continues :
    Chain orderVisit "R" (relayVisit secondStart) ∧
      Calls (relayVisit secondStart) (stockVisit stockStart) secondStart.handedOn ∧
      Continues orderVisit "R" (relayVisit secondStart) (stockVisit stockStart) secondStart.handedOn ∧
      (stockVisit stockStart).IsAssigned .joining "B" ∧
      ∃ request message arguments, (stockVisit stockStart).Sends request ∧
        request.asked? = some (.enrolment .joining message arguments) ∧
        message.rootXid = "R" ∧ message.parentXid = relayStart.span.spanId := by
  have continues := chain_continues secondStart_chain stockStart_called
  obtain ⟨request, message, arguments, sent, asked⟩ := stockVisit_joins stockStart_canJoin
  obtain ⟨root, parent, -⟩ := continues.joins ⟨_, sent⟩ asked
  have branch : secondStart.handedOn.transaction.branchXid = relayStart.span.spanId := by decide +kernel
  exact ⟨secondStart_chain, stockStart_called, continues,
    ⟨request, stockTaken, message, arguments, sent, asked, stockTaken_accepts.mpr ⟨rfl, rfl⟩⟩,
    request, message, arguments, ⟨_, sent⟩, asked, root, parent.trans branch⟩

end TryConfirmCancel
