/-
**A budget that is spent along a chain of calls.**

Time is charged to a context, and in between it is handed to children and callees, within a process or in the headers of
a request.

* `roundedUp`, `spent`: what charges come to, each of them rounded up to whole milliseconds;
* `Lapse.toNat_charge`: machine words make the same of a charge as numbers do;
* `Passage`, `Context.passAll`: what may happen to a context, in any order;
* `Context.pass_budget`, `Context.exists_passAll`: a passage takes its charge from the budget, and so does a run;
* `Context.passAll_remains`: what a run leaves of the budget, whatever it consists of.
-/

import Mathlib.Algebra.Order.Floor.Div
import Mathlib.GroupTheory.GroupAction.Ring
import TryConfirmCancel.Proofs.Hop.Crossing

namespace TryConfirmCancel

/-! ### Charges -/

/-- The milliseconds that have begun are the duration rounded up. -/
theorem startedMilliseconds_eq (elapsed : Nanoseconds) : startedMilliseconds elapsed = elapsed ⌈/⌉ nanosPerMilli := by
  rw [startedMilliseconds, Nat.ceilDiv_eq_add_pred_div, Nat.add_sub_assoc (by decide)]

/-- The milliseconds that have begun are the full ones, and one more if there is a rest. -/
theorem startedMilliseconds_eq_ite (elapsed : Nat) :
    startedMilliseconds elapsed = if elapsed % nanosPerMilli = 0 then elapsed / nanosPerMilli
      else elapsed / nanosPerMilli + 1 := by
  rw [startedMilliseconds, nanosPerMilli]
  split <;> omega

/-- What durations come to, each of them rounded up to whole milliseconds. -/
def roundedUp (durations : List Nanoseconds) : Nat := (durations.map (· ⌈/⌉ nanosPerMilli)).sum

theorem roundedUp_nil : roundedUp [] = 0 := rfl

theorem roundedUp_cons (elapsed : Nanoseconds) (durations : List Nanoseconds) :
    roundedUp (elapsed :: durations) = elapsed ⌈/⌉ nanosPerMilli + roundedUp durations := List.sum_cons

theorem roundedUp_append (front back : List Nanoseconds) :
    roundedUp (front ++ back) = roundedUp front + roundedUp back := by
  rw [roundedUp, List.map_append, List.sum_append, roundedUp, roundedUp]

theorem roundedUp_perm {durations other : List Nanoseconds} (same : other.Perm durations) :
    roundedUp other = roundedUp durations := List.Perm.sum_nat (same.map _)

/-- A duration is rounded up at least as far in pieces as at once. -/
theorem sum_ceilDiv_le_roundedUp (pieces : List Nanoseconds) : pieces.sum ⌈/⌉ nanosPerMilli ≤ roundedUp pieces := by
  have positive : 0 < nanosPerMilli := by decide
  induction pieces with
  | nil => exact Nat.le_of_eq (zero_ceilDiv _)
  | cons elapsed rest ih =>
    rw [List.sum_cons, roundedUp_cons, ceilDiv_le_iff_le_mul positive, Nat.mul_add]
    exact Nat.add_le_add ((ceilDiv_le_iff_le_mul positive).mp (Nat.le_refl _)) ((ceilDiv_le_iff_le_mul positive).mp ih)

/-! ### A charge in machine words -/

/-- A duration as a clock tells it: full seconds in 64 bits, and the nanoseconds of the second that has begun. -/
structure Lapse where
  seconds : UInt64
  nanos : UInt32
  below : nanos.toNat < 1000000000

namespace Lapse

variable (lapse : Lapse)

/-- The duration as a number. -/
def elapsed : Nanoseconds := lapse.seconds.toNat * 1000000000 + lapse.nanos.toNat

/-- The duration in a word of 128 bits. -/
def nanoseconds : BitVec 128 := .ofNat 128 lapse.elapsed

/-- The milliseconds that have begun, in a word of 128 bits: the full ones, and one more if there is a rest. -/
def milliseconds : BitVec 128 :=
  let whole := lapse.nanoseconds / .ofNat 128 nanosPerMilli
  if lapse.nanoseconds % .ofNat 128 nanosPerMilli = 0 then whole else whole + 1

/-- What a duration costs, in a word of 64 bits: the largest one if the milliseconds do not fit. -/
def cost : UInt64 :=
  if lapse.milliseconds.toNat ≤ maxWord64 then .ofNat lapse.milliseconds.toNat else .ofNat maxWord64

/-- A budget of 64 bits less the cost, or nothing if the cost is more. -/
def charge (budget : UInt64) (lapse : Lapse) : UInt64 := if lapse.cost ≤ budget then budget - lapse.cost else 0

theorem elapsed_lt : lapse.elapsed < 2 ^ 64 * 1000000000 := by
  have seconds : lapse.seconds.toNat + 1 ≤ 2 ^ 64 := lapse.seconds.toNat_lt
  calc lapse.elapsed < (lapse.seconds.toNat + 1) * 1000000000 := by
        rw [elapsed, Nat.add_mul, Nat.one_mul]
        exact Nat.add_lt_add_left lapse.below _
    _ ≤ 2 ^ 64 * 1000000000 := Nat.mul_le_mul_right _ seconds

/-- No duration is too long for 128 bits. -/
theorem toNat_nanoseconds : lapse.nanoseconds.toNat = lapse.elapsed := by
  rw [nanoseconds, BitVec.toNat_ofNat, Nat.mod_eq_of_lt (Nat.lt_trans lapse.elapsed_lt (by decide))]

theorem startedMilliseconds_lt : startedMilliseconds lapse.elapsed < 2 ^ 128 := by
  have shorter : startedMilliseconds lapse.elapsed ≤ 2 ^ 64 * 1000000000 := by
    rw [startedMilliseconds_eq, ceilDiv_le_iff_le_mul (by decide)]
    exact Nat.le_trans (Nat.le_of_lt lapse.elapsed_lt) (by decide)
  exact Nat.lt_of_le_of_lt shorter (by decide)

theorem toNat_milliseconds : lapse.milliseconds.toNat = startedMilliseconds lapse.elapsed := by
  have million : (BitVec.ofNat 128 nanosPerMilli).toNat = nanosPerMilli := by decide
  have rest : lapse.nanoseconds % .ofNat 128 nanosPerMilli = 0 ↔ lapse.elapsed % nanosPerMilli = 0 := by
    rw [← BitVec.toNat_inj, BitVec.toNat_umod, toNat_nanoseconds, million]
    rfl
  have whole : (lapse.nanoseconds / .ofNat 128 nanosPerMilli).toNat = lapse.elapsed / nanosPerMilli := by
    rw [BitVec.toNat_udiv, toNat_nanoseconds, million]
  have fits := lapse.startedMilliseconds_lt
  rw [startedMilliseconds_eq_ite] at fits ⊢
  unfold milliseconds
  by_cases even : lapse.elapsed % nanosPerMilli = 0
  · rw [if_pos (rest.mpr even), if_pos even, whole]
  · rw [if_neg even] at fits
    rw [if_neg fun none => even (rest.mp none), if_neg even, BitVec.toNat_add, whole]
    exact Nat.mod_eq_of_lt fits

theorem toNat_cost : lapse.cost.toNat = min (startedMilliseconds lapse.elapsed) maxWord64 := by
  rw [cost, toNat_milliseconds]
  by_cases fits : startedMilliseconds lapse.elapsed ≤ maxWord64
  · rw [if_pos fits, Nat.min_eq_left fits, UInt64.toNat_ofNat']
    exact Nat.mod_eq_of_lt (Nat.lt_succ_of_le fits)
  · rw [if_neg fits, Nat.min_eq_right (Nat.le_of_not_le fits)]
    rfl

/-- **Words make the same of a charge as numbers do**: neither the clamp nor the width shows. -/
theorem toNat_charge (budget : UInt64) : (lapse.charge budget).toNat = charged budget.toNat lapse.elapsed := by
  have fits : budget.toNat ≤ maxWord64 := Nat.le_of_lt_succ budget.toNat_lt
  -- the clamp takes effect only where nothing is left of the budget anyway
  have clamped (started bound budget : Nat) (fits : budget ≤ bound) :
      budget - min started bound = budget - started := by omega
  rw [charge, charged, ← clamped _ _ _ fits, ← lapse.toNat_cost]
  by_cases within : lapse.cost ≤ budget
  · rw [if_pos within, UInt64.toNat_sub_of_le _ _ within]
  · rw [if_neg within, UInt64.toNat_zero]
    rw [UInt64.le_iff_toNat_le] at within
    exact (Nat.sub_eq_zero_of_le (Nat.le_of_not_le within)).symm

/-- Charges one after the other take the sum of what they come to. -/
theorem toNat_foldl_charge (lapses : List Lapse) (budget : UInt64) :
    (lapses.foldl charge budget).toNat = budget.toNat - roundedUp (lapses.map elapsed) := by
  induction lapses generalizing budget with
  | nil => rfl
  | cons lapse rest ih =>
    rw [List.foldl_cons, ih, toNat_charge, charged, startedMilliseconds_eq, List.map_cons, roundedUp_cons, Nat.sub_sub]

end Lapse

/-! ### Passages -/

/-- What may happen to a context along a chain of calls. -/
inductive Passage
  /-- Time is charged. -/
  | spend (elapsed : Nanoseconds)
  /-- A span below the present one takes its place. -/
  | child (spanId : String)
  /-- The context is handed to a callee. -/
  | downstream (spanId : String)
  /-- The context is written into the headers of a request, and the callee reads its own from them. -/
  | wire (freshTrace freshSpan : String) (standard : Nanoseconds)
  deriving DecidableEq

/-- The time that a passage charges. -/
def Passage.elapsed? : Passage → Option Nanoseconds
  | spend elapsed => some elapsed
  | child _ | downstream _ | wire _ _ _ => none

/-- The times that passages charge, one after the other. -/
def durations (passages : List Passage) : List Nanoseconds := passages.filterMap Passage.elapsed?

/-- What the charges of passages come to. -/
def expenses (passages : List Passage) : Nat := roundedUp (durations passages)

theorem expenses_cons (passage : Passage) (passages : List Passage) :
    expenses (passage :: passages) = expenses [passage] + expenses passages := by
  rw [expenses, expenses, expenses, ← roundedUp_append, durations, durations, durations, ← List.filterMap_append]
  rfl

theorem expenses_append (front back : List Passage) : expenses (front ++ back) = expenses front + expenses back := by
  rw [expenses, durations, List.filterMap_append, roundedUp_append]
  rfl

theorem expenses_spend (elapsed : Nanoseconds) : expenses [.spend elapsed] = elapsed ⌈/⌉ nanosPerMilli := by
  have single : durations [.spend elapsed] = [elapsed] := rfl
  rw [expenses, single, roundedUp_cons, roundedUp_nil, Nat.add_zero]

/-- A duration costs at least as much in pieces as at once, whatever stands between the pieces. -/
theorem expenses_spend_le {pieces : List Passage} {elapsed : Nanoseconds}
    (whole : (durations pieces).sum = elapsed) : expenses [.spend elapsed] ≤ expenses pieces := by
  rw [expenses_spend, ← whole]
  exact sum_ceilDiv_le_roundedUp _

namespace Context

/-- The context behind a passage. -/
def pass (context : Context) : Passage → Except HeaderFault Context
  | .spend elapsed => .ok (context.consume elapsed)
  | .child spanId => .ok (context.withSpan (context.span.child spanId))
  | .downstream spanId => .ok (context.downstream spanId)
  | .wire freshTrace freshSpan standard => extract freshTrace freshSpan (context.inject .empty) standard

/-- The context behind passages. -/
def passAll (context : Context) (passages : List Passage) : Except HeaderFault Context :=
  passages.foldlM pass context

/-- **A passage takes its charge from the budget**, and a hop takes nothing. -/
theorem pass_budget {context : Context} (fits : context.span.budget ≤ maxWord64) (passage : Passage) :
    ∃ behind, context.pass passage = .ok behind ∧
      behind.span.budget = context.span.budget - expenses [passage] := by
  cases passage with
  | spend elapsed =>
    refine ⟨_, rfl, ?_⟩
    rw [consume_span, Span.consume_budget, charged, startedMilliseconds_eq, expenses_spend]
  | child spanId => exact ⟨_, rfl, rfl⟩
  | downstream spanId => exact ⟨_, rfl, rfl⟩
  | wire freshTrace freshSpan standard =>
    -- the header of the budget is always written, so the callee never falls back to its standard
    obtain ⟨callee, extracted, -, -, -, budget, -⟩ :=
      extract_of_budget freshTrace freshSpan (headerBudget_inject .empty fits standard)
    exact ⟨callee, extracted, budget⟩

/-- **A run takes all its charges from the budget.** -/
theorem exists_passAll {context : Context} (fits : context.span.budget ≤ maxWord64) (passages : List Passage) :
    ∃ reached, context.passAll passages = .ok reached ∧
      reached.span.budget = context.span.budget - expenses passages := by
  induction passages generalizing context with
  | nil => exact ⟨context, rfl, rfl⟩
  | cons passage rest ih =>
    obtain ⟨behind, passed, left⟩ := context.pass_budget fits passage
    obtain ⟨reached, ran, budget⟩ := ih (left ▸ Nat.le_trans (Nat.sub_le _ _) fits)
    refine ⟨reached, ?_, ?_⟩
    · rw [passAll, List.foldlM_cons, passed]
      exact ran
    · rw [budget, left, Nat.sub_sub, ← expenses_cons]

theorem passAll_append {context between : Context} {front : List Passage} (ran : context.passAll front = .ok between)
    (back : List Passage) : context.passAll (front ++ back) = between.passAll back := by
  rw [passAll, List.foldlM_append, ← passAll, ran]
  rfl

end Context

/-! ### What is left -/

/-- What a run of passages leaves of a budget. -/
structure Remains (start : Context) (passages : List Passage) (reached : Context) : Prop where
  /-- What is not spent is left, and never less than nothing. -/
  budget : (reached.span.budget : Int) = max 0 ((start.span.budget : Int) - (expenses passages : Int))
  remaining : reached.span.remaining = ofMilliseconds (start.span.budget - expenses passages)
  /-- The budget is spent just if the charges come to all of it. -/
  expired : reached.span.isExpired = true ↔ start.span.budget ≤ expenses passages
  /-- Wherever the run is interrupted, the budget has not grown so far, and does not grow any more. -/
  falls : ∀ {front back}, passages = front ++ back → ∃ between, start.passAll front = .ok between ∧
    between.passAll back = .ok reached ∧
    reached.span.budget ≤ between.span.budget ∧ between.span.budget ≤ start.span.budget
  /-- Another run with the same charges leaves the same, whatever their order and whatever the hops between them. -/
  unordered : ∀ {other}, (durations other).Perm (durations passages) → ∃ arrived,
    start.passAll other = .ok arrived ∧ arrived.span.budget = reached.span.budget
  /-- If some of the charges are pieces of a duration, the run leaves no more than one that charges it at once. -/
  pieces : ∀ {front pieces back elapsed}, passages = front ++ pieces ++ back → (durations pieces).sum = elapsed →
    ∃ arrived, start.passAll (front ++ .spend elapsed :: back) = .ok arrived ∧
      reached.span.budget ≤ arrived.span.budget
  /-- Machine words come to the same, however long the durations are. -/
  words : ∀ {budget : UInt64} {lapses : List Lapse}, budget.toNat = start.span.budget →
    lapses.map Lapse.elapsed = durations passages →
    (lapses.foldl Lapse.charge budget).toNat = reached.span.budget

/-- All of it follows from how much is left, since the same holds of every run from the same start. -/
theorem Context.remains_of_left {start reached : Context} {passages : List Passage}
    (fits : start.span.budget ≤ maxWord64) (ran : start.passAll passages = .ok reached)
    (left : reached.span.budget = start.span.budget - expenses passages) : Remains start passages reached where
  budget := by
    rw [left]
    omega
  remaining := by rw [Span.remaining, left]
  expired := by rw [Span.isExpired, beq_iff_eq, left, Nat.sub_eq_zero_iff_le]
  falls := by
    rintro front back rfl
    obtain ⟨between, ranFront, leftFront⟩ := exists_passAll fits front
    refine ⟨between, ranFront, (passAll_append ranFront back).symm.trans ran, ?_, ?_⟩
    · rw [left, leftFront, expenses_append]
      exact Nat.sub_le_sub_left (Nat.le_add_right _ _) _
    · rw [leftFront]
      exact Nat.sub_le _ _
  unordered := by
    intro other same
    obtain ⟨arrived, ranOther, leftOther⟩ := exists_passAll fits other
    refine ⟨arrived, ranOther, ?_⟩
    rw [left, leftOther, expenses, expenses, roundedUp_perm same]
  pieces := by
    rintro front pieces back elapsed rfl whole
    obtain ⟨arrived, ranWhole, leftWhole⟩ := exists_passAll fits (front ++ .spend elapsed :: back)
    have less : expenses [.spend elapsed] ≤ expenses pieces := expenses_spend_le whole
    refine ⟨arrived, ranWhole, ?_⟩
    rw [left, leftWhole, expenses_append, expenses_append, expenses_append, expenses_cons]
    omega
  words := by
    intro budget lapses same charges
    rw [Lapse.toNat_foldl_charge, charges, same, left, expenses]

/-- **What is left of a budget depends on the charges alone**: neither on their order nor on the hops between them. -/
theorem Context.passAll_remains {start : Context} (fits : start.span.budget ≤ maxWord64) (passages : List Passage) :
    ∃ reached, start.passAll passages = .ok reached ∧ Remains start passages reached := by
  obtain ⟨reached, ran, left⟩ := exists_passAll fits passages
  exact ⟨reached, ran, remains_of_left fits ran left⟩

/-- A microsecond, four milliseconds and a nanosecond, with hops between them. -/
def shortVisit : List Passage :=
  [.spend 1000, .child "S-2", .spend 4000000, .wire "T-2" "S-3" 0, .downstream "S-4", .spend 1]

theorem shortVisit_remains : Context.loneCaller.span.budget ≤ maxWord64 ∧
    ∃ reached, Context.loneCaller.passAll shortVisit = .ok reached ∧ reached.span.budget = 4994 ∧
      reached.span.isExpired = false := by
  have fits : Context.loneCaller.span.budget ≤ maxWord64 := by decide
  obtain ⟨reached, ran, remains⟩ := Context.passAll_remains fits shortVisit
  have come : expenses shortVisit = 6 := by decide +kernel
  have left := remains.budget
  rw [come] at left
  have granted : Context.loneCaller.span.budget = 5000 := rfl
  refine ⟨fits, reached, ran, ?_, ?_⟩
  · omega
  · rw [Span.isExpired, beq_eq_false_iff_ne]
    omega

end TryConfirmCancel
