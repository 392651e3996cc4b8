/-
**Durations and timeout budgets.**

A duration is a number of nanoseconds; a budget is a number of milliseconds that fits into 64 bits.

* `startedMilliseconds`: every millisecond that has begun counts, so no time is free;
* `wholeMilliseconds`: only full milliseconds count;
* `timestamp`: a point of time as messages carry it;
* `charged`: a budget less a duration, never below zero.
-/

import TryConfirmCancel.Number.Bounds

namespace TryConfirmCancel

/-- A duration, or a point of time since the epoch, in nanoseconds. -/
abbrev Nanoseconds := Nat

def nanosPerMilli : Nat := 1000000

/-- A number of milliseconds as a duration. -/
def ofMilliseconds (count : Nat) : Nanoseconds := count * nanosPerMilli

/-- The milliseconds that have begun within a duration. -/
def startedMilliseconds (elapsed : Nanoseconds) : Nat := (elapsed + (nanosPerMilli - 1)) / nanosPerMilli

/-- The full milliseconds of a duration. -/
def wholeMilliseconds (elapsed : Nanoseconds) : Nat := elapsed / nanosPerMilli

/-- A point of time in milliseconds since the epoch, as a signed number of 64 bits. -/
def timestamp (time : Nanoseconds) : Int := (wholeMilliseconds time : Int).bmod (maxWord64 + 1)

/-- The budget that a duration grants, in 64 bits. -/
def budgetOf (granted : Nanoseconds) : Nat := wholeMilliseconds granted % (maxWord64 + 1)

/-- What is left of a budget after a duration. -/
def charged (budget : Nat) (elapsed : Nanoseconds) : Nat := budget - startedMilliseconds elapsed

theorem charged_le (budget : Nat) (elapsed : Nanoseconds) : charged budget elapsed ≤ budget := Nat.sub_le _ _

end TryConfirmCancel
