/-
**A coordinator that answers from a script.**

For trying out participants without a network. Time stands still but for the delays in the script.

* `Rehearsal`: the settings, a clock, the answers to come, the requests received so far, and whatever
  the players note down;
* `Rehearsal.link`: the link to the coordinator.
-/

import TryConfirmCancel.Link.Basic

namespace TryConfirmCancel

/-- What the coordinator does on one request. -/
structure Turn where
  delay : Nanoseconds
  outcome : Except Rpc.Failure Rpc.Response

/-- The state of a rehearsal. -/
structure Rehearsal (ν : Type) where
  live : LiveConfig
  clock : Nanoseconds
  turns : List Turn
  /-- The requests received, the last one first. -/
  received : List Rpc.Request
  notes : ν
  deriving Inhabited

namespace Rehearsal

variable {ν : Type}

def startOfTime : Nanoseconds := ofMilliseconds 1700000000000

/-- A rehearsal that has not begun. -/
def start (config : Config) (turns : List Turn) (notes : ν) : Rehearsal ν :=
  ⟨⟨config⟩, startOfTime, turns, [], notes⟩

/-- Takes the next turn; behind the last one the coordinator cannot be reached. -/
def send (request : Rpc.Request) (rehearsal : Rehearsal ν) :
    Except Rpc.Failure Rpc.Response × Rehearsal ν :=
  let heard := { rehearsal with received := request :: rehearsal.received }
  match heard.turns with
  | [] => (.error (.network "no scripted reply"), heard)
  | turn :: turns => (turn.outcome, { heard with turns, clock := heard.clock + turn.delay })

def link : Link (Rehearsal ν) :=
  { settings := fun rehearsal => rehearsal.live.current, now := Rehearsal.clock, send }

def wait (rehearsal : Rehearsal ν) (duration : Nanoseconds) : Rehearsal ν :=
  { rehearsal with clock := rehearsal.clock + duration }

end Rehearsal

end TryConfirmCancel
