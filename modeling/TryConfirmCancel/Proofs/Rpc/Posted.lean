/-
**What a call posts.**

* `Transport.tracked`: any transport, which keeps what it is given to post; `Client.posted`: what a call posts;
* `call_tracked`: without what is kept, a call is the call itself;
* `posted_eq`: a call posts one and the same thing again and again, and at least once if it has any time.
-/

import TryConfirmCancel.Proofs.Rpc.Network

namespace TryConfirmCancel.Rpc

/-- A world with what has been posted so far. -/
structure Tracked (σ : Type) where
  world : σ
  posted : List Post

section Definitions

variable {σ : Type}

/-- The same transport, which keeps what it is given to post. -/
def Transport.tracked (transport : Transport σ) : Transport (Tracked σ) :=
  { now := fun state => transport.now state.world
    sleep := fun duration state => { state with world := transport.sleep duration state.world }
    post := fun post limit state =>
      let (outcome, after) := transport.post post limit state.world
      (outcome, ⟨after, state.posted ++ [post]⟩) }

/-- The same client, of which it is kept what it posts. -/
def Client.tracked (client : Client σ) : Client (Tracked σ) := ⟨client.transport.tracked, client.settings⟩

/-- What a call posts. -/
def Client.posted (client : Client σ) (request : Request) (world : σ) : List Post :=
  (client.tracked.call request ⟨world, []⟩).2.posted

theorem Transport.tracked_covers (transport : Transport σ) : Covers transport.tracked transport Tracked.world :=
  ⟨fun _ => rfl, fun _ _ => rfl, fun _ _ _ => rfl⟩

end Definitions

/-- What is posted is posted where the settings send it. -/
theorem Post.url_of_of? {settings : Settings} {request : Request} {post : Post}
    (made : Post.of? settings request = some post) : Url.parse? (settings.urlOf request.target) = some post.url := by
  unfold Post.of? at made
  obtain ⟨url, parsed, fields⟩ := Option.bind_eq_some_iff.mp made
  obtain ⟨written, -, same⟩ := Option.bind_eq_some_iff.mp fields
  cases same
  exact parsed

namespace Client

section Calls

variable {σ : Type} (client : Client σ) {request : Request}

/-- An attempt posts what the settings make of its request, which may be nothing. -/
theorem posted_of_attempt {limit : Nanoseconds} {outcome : Except Failure Response} {state after : Tracked σ}
    (tried : client.tracked.attempt request limit state = (outcome, after)) :
    after.posted = state.posted ++ (Post.of? client.settings request).toList := by
  unfold attempt tracked at tried
  cases posted : Post.of? client.settings request with
  | none =>
    rw [posted] at tried
    cases tried
    exact (List.append_nil _).symm
  | some post =>
    rw [posted] at tried
    cases tried
    rfl

variable {start : Nanoseconds} {repetitions attempts backoff : Nat} {state : Tracked σ}
  {result : Except Failure Response × Tracked σ}

/-- A call that goes on posts the same again and again, at least once if it has any time left. -/
theorem posted_of_goes
    (goes : client.tracked.Goes request start repetitions attempts backoff state result) :
    ∃ count ≤ repetitions + 1, (client.left request start state.world ≠ 0 → count ≠ 0) ∧
      result.2.posted
        = state.posted ++ (List.replicate count (Post.of? client.settings request).toList).flatten := by
  induction goes with
  | expired expired =>
    exact ⟨0, Nat.zero_le _, fun opened => absurd expired opened, (List.append_nil _).symm⟩
  | last opened tried final =>
    refine ⟨1, Nat.le_add_left .., fun _ => Nat.one_ne_zero, ?_⟩
    rw [client.posted_of_attempt tried, List.replicate_one, List.flatten_singleton]
  | again opened tried passing _ hypothesis =>
    obtain ⟨count, few, -, posted⟩ := hypothesis
    refine ⟨count + 1, Nat.succ_le_succ few, fun _ => Nat.succ_ne_zero _, ?_⟩
    have first := client.posted_of_attempt tried
    -- the pause posts nothing
    rw [posted, List.replicate_succ, List.flatten_cons, ← List.append_assoc, ← first]
    rfl

variable (request)

/-- **Without what is kept, a call is the call itself.** -/
theorem call_tracked (state : Tracked σ) :
    ((client.tracked.call request state).1, (client.tracked.call request state).2.world)
      = client.call request state.world :=
  client.transport.tracked_covers.call client.settings request state

/-- **A call posts one and the same thing again and again**, and at least once if it has any time. -/
theorem posted_eq (world : σ) :
    ∃ count ≤ request.retries + 1, (request.timeout ≠ 0 → count ≠ 0) ∧
      client.posted request world = (List.replicate count (Post.of? client.settings request).toList).flatten := by
  obtain ⟨count, few, some, posted⟩ := client.posted_of_goes (client.tracked.goes request
    (client.transport.now world) request.retries 0 client.settings.initialBackoff ⟨world, []⟩)
  refine ⟨count, few, fun limited => some ?_, posted⟩
  show request.timeout - (client.transport.now world - client.transport.now world) ≠ 0
  rwa [Nat.sub_self, Nat.sub_zero]

variable {request} {world : σ}

theorem of?_of_mem_posted {post : Post} (inside : post ∈ client.posted request world) :
    Post.of? client.settings request = some post := by
  obtain ⟨count, -, -, posted⟩ := client.posted_eq request world
  rw [posted] at inside
  obtain ⟨same, among, member⟩ := List.mem_flatten.mp inside
  rw [List.eq_of_mem_replicate among] at member
  exact Option.mem_toList.mp member

theorem mem_posted_of_of? {post : Post} (limited : request.timeout ≠ 0)
    (made : Post.of? client.settings request = some post) : post ∈ client.posted request world := by
  obtain ⟨count, -, often, posted⟩ := client.posted_eq request world
  rw [posted, made]
  exact List.mem_flatten.mpr ⟨[post], List.mem_replicate.mpr ⟨often limited, rfl⟩, List.mem_singleton_self post⟩

end Calls

end Client

end TryConfirmCancel.Rpc
