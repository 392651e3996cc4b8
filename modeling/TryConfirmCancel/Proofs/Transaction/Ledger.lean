/-
**What a run costs.**

A run works on any world, so it also works on a world that keeps a ledger beside it: each deed with the time
that went by while it was done.

* `Link.accounted`: the run on the world with a ledger, which is empty at first;
* `accounted_recorded`: the deeds of the ledger are those of the journal, and without its ledger the run is
  the run itself;
* `Spends`: a ledger takes a budget down to another one, and no request in it is sent outside its limits;
* `execute_accounts`: so does the ledger of every run whose Try leaves the budget alone.
-/

import TryConfirmCancel.Proofs.Transaction.Sequence

namespace TryConfirmCancel

/-! ### A run with a ledger -/

/-- A deed, and the time that went by while it was done. -/
structure Expense (α : Type) where
  deed : Deed α
  elapsed : Nanoseconds

/-- A world with a ledger of the deeds so far. -/
structure Metered (σ α : Type) where
  world : σ
  ledger : List (Expense α)

def Metered.journalled {σ α : Type} (state : Metered σ α) : Journalled σ α :=
  ⟨state.world, state.ledger.map Expense.deed⟩

namespace Link

variable {σ τ α : Type}

/-- A link that puts every request on the ledger, however it ends. -/
def metered (link : Link σ) : Link (Metered σ α) :=
  { settings := fun state => link.settings state.world
    now := fun state => link.now state.world
    send := fun request state =>
      let (outcome, after) := link.send request state.world
      (outcome, ⟨after, state.ledger ++ [⟨.sent request outcome, link.now after - link.now state.world⟩]⟩) }

/-- A Try that is put on the ledger. -/
def timed (link : Link σ) (body : Action σ (Except ServiceFailure α)) :
    Action (Metered σ α) (Except ServiceFailure α) := fun context state =>
  let step := body context state.world
  let elapsed := link.now step.world - link.now state.world
  ⟨step.answer, step.context,
    ⟨step.world, state.ledger ++ [⟨.tried context step.context elapsed step.answer, elapsed⟩]⟩⟩

/-- **A run with its ledger.** -/
def accounted (link : Link σ) (registry : Registry τ) (service : String) (arguments : Json.Datum)
    (body : Action σ (Except ServiceFailure α)) (context : Context) (world : σ) :
    Step (Metered σ α) (Except Failure α) :=
  link.metered.execute registry service arguments (link.timed body) context ⟨world, []⟩

theorem metered_covers (link : Link σ) :
    Covers (link.metered : Link (Metered σ α)) link.journalled Metered.journalled :=
  ⟨fun _ => rfl, fun _ => rfl, fun request state => by simp [journalled, metered, Metered.journalled]⟩

/-- **The ledger of a run lists the deeds of its journal.** -/
theorem accounted_recorded (link : Link σ) (registry : Registry τ) (service : String)
    (arguments : Json.Datum) (body : Action σ (Except ServiceFailure α)) (context : Context) (world : σ) :
    (link.accounted registry service arguments body context world).projected Metered.journalled
      = link.recorded registry service arguments body context world :=
  link.metered_covers.execute context ⟨world, []⟩ registry service arguments fun _ _ => by
    simp [Step.projected, timed, witnessed, Metered.journalled]

end Link

/-! ### What a ledger takes from a budget -/

/-- A request keeps to its limits with so many milliseconds left. -/
structure IsWithin (config : Config) (left : Nat) (request : Rpc.Request) : Prop where
  unspent : left ≠ 0
  timeout_le_left : request.timeout ≤ ofMilliseconds left
  timeout_le_limit : request.timeout ≤ ofMilliseconds config.requestTimeoutMs
  /-- What is kept for the service's own work is not given to a request. -/
  timeout_le_rest : config.maxServiceConsumeMs < left →
    request.timeout ≤ ofMilliseconds (left - config.maxServiceConsumeMs)

/-- Deeds that take a budget down to another one, no request among them outside its limits. -/
inductive Spends {α : Type} (config : Config) : Nat → List (Expense α) → Nat → Prop
  | nothing (budget : Nat) : Spends config budget [] budget
  | sent {budget final : Nat} {request : Rpc.Request} {outcome : Except Rpc.Failure Rpc.Response}
      {elapsed : Nanoseconds} {later : List (Expense α)} (within : IsWithin config budget request)
      (spends : Spends config (charged budget elapsed) later final) :
      Spends config budget (⟨.sent request outcome, elapsed⟩ :: later) final
  | tried {budget final : Nat} {entered left : Context} {outcome : Except ServiceFailure α}
      {elapsed : Nanoseconds} {later : List (Expense α)} (found : entered.span.budget = budget)
      (spends : Spends config (charged budget elapsed) later final) :
      Spends config budget (⟨.tried entered left elapsed outcome, elapsed⟩ :: later) final

/-- The milliseconds that a ledger charges: for each deed those that began while it was done. -/
def spent {α : Type} : List (Expense α) → Nat
  | [] => 0
  | expense :: later => startedMilliseconds expense.elapsed + spent later

section Ledgers

variable {α : Type} {config : Config} {budget middle final : Nat} {ledger later : List (Expense α)}

theorem Spends.append (first : Spends config budget ledger middle) (second : Spends config middle later final) :
    Spends config budget (ledger ++ later) final := by
  induction first with
  | nothing _ => exact second
  | sent within _ hypothesis => exact .sent within (hypothesis second)
  | tried found _ hypothesis => exact .tried found (hypothesis second)

theorem charged_sub_spent (expense : Expense α) :
    charged budget expense.elapsed - spent ledger = budget - spent (expense :: ledger) := by
  rw [charged, spent, Nat.sub_sub]

/-- What is left is what there was less what the ledger charges. -/
theorem Spends.balance (spends : Spends config budget ledger final) : final = budget - spent ledger := by
  induction spends with
  | nothing _ => rfl
  | sent _ _ hypothesis => rw [hypothesis, charged_sub_spent ⟨.sent _ _, _⟩]
  | tried _ _ hypothesis => rw [hypothesis, charged_sub_spent ⟨.tried _ _ _ _, _⟩]

/-- Behind a part of a ledger, the rest takes down what is left. -/
theorem Spends.behind (spends : Spends config budget (ledger ++ later) final) :
    Spends config (budget - spent ledger) later final := by
  induction ledger generalizing budget with
  | nil => exact spends
  | cons expense ledger hypothesis =>
    rw [← charged_sub_spent]
    cases spends with
    | sent _ spends => exact hypothesis spends
    | tried _ spends => exact hypothesis spends

end Ledgers

/-- A ledger that adds up: the budget goes down by what it charges, and each request in it keeps to its
limits with what is left when it is sent. -/
structure Accounts {α : Type} (config : Config) (start : Nat) (ledger : List (Expense α)) (final : Nat) :
    Prop where
  balance : final = start - spent ledger
  within : ∀ earlier request outcome elapsed later,
    ledger = earlier ++ ⟨.sent request outcome, elapsed⟩ :: later →
      IsWithin config (start - spent earlier) request
  /-- Try finds what the requests before it have left. -/
  found : ∀ earlier entered left elapsed outcome spell later,
    ledger = earlier ++ ⟨.tried entered left elapsed outcome, spell⟩ :: later →
      spell = elapsed ∧ entered.span.budget = start - spent earlier

theorem Spends.accounts {α : Type} {config : Config} {start final : Nat} {ledger : List (Expense α)}
    (spends : Spends config start ledger final) : Accounts config start ledger final where
  balance := spends.balance
  within := by
    rintro earlier request outcome elapsed later rfl
    cases spends.behind with
    | sent within _ => exact within
  found := by
    rintro earlier entered left elapsed outcome spell later rfl
    cases spends.behind with
    | tried found _ => exact ⟨rfl, found⟩

/-! ### Every step of a run keeps a ledger that adds up -/

/-- A step adds to a ledger what it takes from a budget. -/
def Step.Accounted {σ α β : Type} (step : Step (Metered σ α) β) (config : Config) (budget : Nat)
    (ledger : List (Expense α)) : Prop :=
  ∃ expenses, step.world.ledger = ledger ++ expenses ∧
    Spends config budget expenses step.context.span.budget

namespace Step.Accounted

variable {σ α β γ : Type} {config : Config} {budget : Nat} {ledger : List (Expense α)}

theorem idle {step : Step (Metered σ α) β} (same : step.world.ledger = ledger)
    (kept : step.context.span.budget = budget) : step.Accounted config budget ledger :=
  ⟨[], by rw [same, List.append_nil], by rw [kept]; exact .nothing budget⟩

theorem andThen {first : Step (Metered σ α) β} {second : Step (Metered σ α) γ}
    (opening : first.Accounted config budget ledger)
    (closing : second.Accounted config first.context.span.budget first.world.ledger) :
    second.Accounted config budget ledger := by
  obtain ⟨expenses, written, spends⟩ := opening
  obtain ⟨later, written', spends'⟩ := closing
  exact ⟨expenses ++ later, by rw [written', written, List.append_assoc], spends.append spends'⟩

end Step.Accounted

theorem Link.bounded_isWithin {config : Config} {span : Span} {target : Rpc.Target} {codec : Rpc.Codec}
    {body : Bytes} {headers : Dict String} (unspent : span.budget ≠ 0) :
    IsWithin config span.budget (bounded config span target codec body headers) := by
  have timeout : (bounded config span target codec body headers).timeout = config.callTimeout span.remaining :=
    rfl
  have share : (if ofMilliseconds config.maxServiceConsumeMs < span.remaining
      then span.remaining - ofMilliseconds config.maxServiceConsumeMs else span.remaining) ≤ span.remaining := by
    split
    · exact Nat.sub_le _ _
    · exact Nat.le_refl _
  refine ⟨unspent, ?_, ?_, fun reserve => ?_⟩
  · rw [timeout]
    exact Nat.le_trans (Nat.min_le_left _ _) share
  · rw [timeout]
    exact Nat.min_le_right _ _
  · have less : ofMilliseconds config.maxServiceConsumeMs < span.remaining :=
      Nat.mul_lt_mul_of_pos_right reserve (by decide)
    have rest : span.remaining - ofMilliseconds config.maxServiceConsumeMs
        = ofMilliseconds (span.budget - config.maxServiceConsumeMs) := (Nat.sub_mul ..).symm
    rw [timeout, Config.callTimeout, if_pos less, rest]
    exact Nat.min_le_left _ _

theorem Sends.isWithin {config : Config} {span : Span} {request : Rpc.Request} (sends : Sends config span request) :
    IsWithin config span.budget request := by
  obtain ⟨unspent, target, codec, body, headers, rfl⟩ := sends
  exact Link.bounded_isWithin unspent

/-- A Try that does not change the budget itself; its time is charged all the same. -/
def KeepsBudget {σ β : Type} (body : Action σ β) : Prop :=
  ∀ context world, (body context world).context.span.budget = context.span.budget

namespace Link

section Steps

variable {σ α : Type} (link : Link σ) (config : Config) (context : Context) (state : Metered σ α)

variable {link config state} in
/-- What a step sends and charges stands on the ledger. -/
theorem IsSparing.accounted {span : Span} {β : Type} {step : Step (Metered σ α) β}
    (sparing : link.metered.IsSparing config state span step) :
    step.Accounted config span.budget state.ledger := by
  cases sparing with
  | idle answer kept => exact .idle rfl (by rw [kept])
  | call answer sends charged =>
    refine ⟨_, rfl, .sent sends.isWithin ?_⟩
    rw [charged, Span.consume_budget]
    exact .nothing _

theorem attempt_accounted {body : Action σ (Except ServiceFailure α)} (keeps : KeepsBudget body) :
    (link.metered.attempt (link.timed body) context state).Accounted config context.span.budget
      state.ledger := by
  refine ⟨_, rfl, .tried rfl ?_⟩
  -- only the time of Try is charged, since Try itself left the budget as it was
  have left : (link.metered.attempt (link.timed body) context state).context.span.budget
      = charged context.span.budget (link.now (body context state.world).world - link.now state.world) := by
    rw [← keeps context state.world]
    exact Span.consume_budget ..
  rw [left]
  exact .nothing _

theorem within_accounted (role : Role) (coordinator : String) (entrant : Entrant)
    {body : Action σ (Except ServiceFailure α)} (keeps : KeepsBudget body) :
    (link.metered.within config role coordinator entrant (link.timed body) context state).Accounted config
      context.span.budget state.ledger := by
  have opening := (link.metered.enter_isSparing config coordinator context state role entrant).accounted
  unfold within
  generalize link.metered.enter config role coordinator entrant context state = entered at opening ⊢
  obtain ⟨answer, after, state'⟩ := entered
  cases answer with
  | error failure => exact opening
  | ok _ =>
    have tried := link.attempt_accounted config after state' keeps
    exact opening.andThen (tried.andThen (link.metered.conclude_isSparing config coordinator _ _ role _).accounted)

end Steps

variable {σ τ α : Type}

theorem accounted_accounts (link : Link σ) (registry : Registry τ) (service : String)
    (arguments : Json.Datum) {body : Action σ (Except ServiceFailure α)} (context : Context) (world : σ)
    (keeps : KeepsBudget body) :
    (link.accounted registry service arguments body context world).Accounted (link.settings world)
      context.span.budget [] := by
  unfold accounted execute
  cases registry.descriptor service with
  | error failure => exact .idle rfl rfl
  | ok descriptor =>
    cases Parameters.encode arguments with
    | error fault => exact .idle rfl rfl
    | ok parameters => exact link.within_accounted _ context ⟨world, []⟩ _ _ _ keeps

end Link

/-- **The ledger of every run adds up**, if Try does not change the budget itself: behind the run there is
left what there was less the time of every request, answered or failed, and of Try, each in milliseconds that
have begun; no request is sent once nothing is left, and none may take longer than what is left, than the
request timeout, or than what is left beyond the reserve. -/
theorem execute_accounts {σ τ α : Type} (link : Link σ) (registry : Registry τ) (service : String)
    (arguments : Json.Datum) {body : Action σ (Except ServiceFailure α)} (context : Context) (world : σ)
    (keeps : KeepsBudget body) :
    let run := link.accounted registry service arguments body context world
    run.projected Metered.journalled = link.recorded registry service arguments body context world ∧
    Accounts (link.settings world) context.span.budget run.world.ledger
      (link.execute registry service arguments body context world).context.span.budget := by
  intro run
  have same : run.projected Metered.journalled = link.recorded registry service arguments body context world :=
    link.accounted_recorded registry service arguments body context world
  have budget : (link.execute registry service arguments body context world).context = run.context := by
    rw [← link.erased_recorded registry service arguments body context world, ← same]
    rfl
  obtain ⟨expenses, written, spends⟩ :=
    link.accounted_accounts registry service arguments context world keeps
  rw [List.nil_append] at written
  refine ⟨same, ?_⟩
  rw [budget, written]
  exact spends.accounts

/-! ### A run in rehearsal -/

/-- The coordinator takes one and a half milliseconds to begin, and forty to end. -/
def shopIsSlow : Rehearsal Unit :=
  .start shopSettings [{ assigning Message.begun ⟨"R", 0⟩ with delay := 1500000 },
    { assigning Message.ended ⟨0⟩ with delay := ofMilliseconds 40 }] ()

/-- A Try that takes a little more than seven milliseconds. -/
def placeSlowly : Action (Rehearsal Unit) (Except ServiceFailure Nat) := fun context world =>
  ⟨.ok 1, context, world.wait (ofMilliseconds 7 + 1)⟩

theorem placeSlowly_keeps : KeepsBudget placeSlowly := fun _ _ => rfl

theorem placeSlowly_budget :
    (Rehearsal.link.execute shop "orders" orderArguments placeSlowly orderContext
      shopIsSlow).context.span.budget = standardBudget - 50 := by
  decide +kernel

/-- The ledger of a slow order adds up to the fifty milliseconds that it took. -/
theorem placeSlowly_accounts : Accounts shopSettings orderContext.span.budget
    (Rehearsal.link.accounted shop "orders" orderArguments placeSlowly orderContext shopIsSlow).world.ledger
    (standardBudget - 50) := by
  rw [← placeSlowly_budget]
  exact (execute_accounts Rehearsal.link shop "orders" orderArguments orderContext shopIsSlow
    placeSlowly_keeps).2

end TryConfirmCancel
