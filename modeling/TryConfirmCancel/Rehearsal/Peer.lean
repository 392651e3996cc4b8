/-
**A peer that answers posts from a script.**

For trying out the client for HTTP without a network. Time moves only by waiting: for an answer, for a
pause, or for a time limit. Pauses and time limits end on a full millisecond.

* `Reaction`: what the peer does with one post;
* `Peer.transport`: an answer that is complete only when the time limit ends comes too late; what is
  posted to another host finds nobody.
-/

import TryConfirmCancel.Rpc.Http.Client

namespace TryConfirmCancel.Rpc

/-- What the peer does with one post. -/
inductive Reaction
  /-- Answers; the whole answer has arrived after a delay. -/
  | answer (delay : Nanoseconds) (answer : Answer)
  /-- Promises more than it sends. -/
  | truncate (delay : Nanoseconds)
  | drop (delay : Nanoseconds)
  | hang
  deriving Inhabited

/-- The state of the peer. -/
structure Peer where
  /-- The host at which the peer listens, without encryption. -/
  host : String
  clock : Nanoseconds
  reactions : List Reaction
  /-- The posts received with their times, the last one first. -/
  received : List (Post × Nanoseconds)

namespace Peer

/-- A peer that has received nothing. -/
def start (host : String) (reactions : List Reaction) : Peer := ⟨host, 0, reactions, []⟩

/-- The point of time at which a wait ends. -/
def wakeAt (peer : Peer) (duration : Nanoseconds) : Nanoseconds :=
  ofMilliseconds (startedMilliseconds (peer.clock + duration))

def sleep (duration : Nanoseconds) (peer : Peer) : Peer := { peer with clock := peer.wakeAt duration }

/-- What the peer does once it has nothing left to answer. -/
def exhausted : Reaction := .answer 0 ⟨500, .empty, Utf8.ofText "no scripted reply"⟩

/-- How a reaction ends, and after what delay. -/
def ending : Reaction → Option (Nanoseconds × Except Failure Answer)
  | .answer delay answer => some (delay, .ok answer)
  | .truncate delay => some (delay, .error (.undecodable "the body ends too early"))
  | .drop delay => some (delay, .error (.network "the connection was closed"))
  | .hang => none

def receive (post : Post) (limit : Nanoseconds) (peer : Peer) : Except Failure Answer × Peer :=
  let heard := { peer with received := (post, peer.clock) :: peer.received
                           reactions := peer.reactions.tail }
  let late := (.error (.timeout "no answer in time"), { heard with clock := peer.wakeAt limit })
  match ending (peer.reactions.headD exhausted) with
  | none => late
  | some (delay, outcome) =>
    if peer.clock + delay < peer.wakeAt limit then (outcome, { heard with clock := peer.clock + delay })
    else late

/-- Posts to the peer, if its host is meant. -/
def post (post : Post) (limit : Nanoseconds) (peer : Peer) : Except Failure Answer × Peer :=
  if post.url.isSecure || post.url.authority != Text.lowered peer.host then (.error (.network "nobody listens"), peer)
  else receive post limit peer

def transport : Transport Peer := { now := Peer.clock, sleep, post }

end Peer

end TryConfirmCancel.Rpc
