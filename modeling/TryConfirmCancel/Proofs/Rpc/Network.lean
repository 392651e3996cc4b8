/-
**Calls over a network that may refuse.**

* `Encounter`: what becomes of a post, which is delivered or refused;
* `Network`: encounters within a time limit, and a clock that runs only while something waits;
* `Network.logged`: the same network with a log of the posts; `Network.posts`: the log of one call;
* `Client.Goes`: all that a call can do; `Transport.Covers.call`: a call in a larger world is the call itself;
* `call_logged`: without the log, a call is the call itself;
* `now_call_le`: a call ends within the time limit of its request;
* `call_reaches`: something of a call is delivered, or the call ends as one of which nothing is (`Unheard`);
* `Line.network`: a network in rehearsal.
-/

import TryConfirmCancel.Rpc.Http.Client

namespace TryConfirmCancel.Rpc

/-- What becomes of a post. -/
inductive Encounter
  /-- It is delivered, and this comes of it. -/
  | delivered (outcome : Except Failure Answer)
  /-- The connection is refused, and nobody learns of the post. -/
  | refused (detail : String)

namespace Encounter

def outcome : Encounter → Except Failure Answer
  | delivered outcome => outcome
  | refused detail => .error (.network detail)

def isDelivered : Encounter → Bool
  | delivered _ => true
  | refused _ => false

end Encounter

/-- A network in which time passes only by waiting, and no wait is longer than it may be. -/
structure Network (σ : Type) where
  now : σ → Nanoseconds
  sleep : Nanoseconds → σ → σ
  /-- Takes a post to its peer, and waits until a duration has passed. -/
  meet : Post → Nanoseconds → σ → Encounter × σ
  now_sleep : ∀ duration world, now (sleep duration world) = now world + duration
  now_meet : ∀ post limit world, now world ≤ now (meet post limit world).2 ∧
    now (meet post limit world).2 ≤ now world + limit

/-- A world with a log of the posts so far. -/
structure Logged (σ : Type) where
  world : σ
  log : List (Post × Encounter)

namespace Network

section Definitions

variable {σ : Type} (network : Network σ)

def transport : Transport σ :=
  { now := network.now
    sleep := network.sleep
    post := fun post limit world =>
      let (encounter, after) := network.meet post limit world
      (encounter.outcome, after) }

def client (settings : Settings) : Client σ := ⟨network.transport, settings⟩

/-- The same network, which writes down each post and what became of it. -/
def logged : Network (Logged σ) :=
  { now := fun state => network.now state.world
    sleep := fun duration state => { state with world := network.sleep duration state.world }
    meet := fun post limit state =>
      let (encounter, after) := network.meet post limit state.world
      (encounter, ⟨after, state.log ++ [(post, encounter)]⟩)
    now_sleep := fun duration state => network.now_sleep duration state.world
    now_meet := fun post limit state => network.now_meet post limit state.world }

/-- What a call posts, and what becomes of it. -/
def posts (settings : Settings) (request : Request) (world : σ) : List (Post × Encounter) :=
  ((network.logged.client settings).call request ⟨world, []⟩).2.log

end Definitions

/-! ### One attempt -/

section Attempts

variable {σ : Type} (network : Network σ) {settings : Settings} {request : Request} {limit : Nanoseconds}
  {outcome : Except Failure Response}

/-- An attempt posts nothing that HTTP cannot express, and otherwise posts once. -/
theorem attempt_cases {world after : σ}
    (tried : (network.client settings).attempt request limit world = (outcome, after)) :
    (Post.of? settings request = none ∧ outcome = .error (.network "the request cannot be sent") ∧
      after = world) ∨
    ∃ post, Post.of? settings request = some post ∧
      outcome = (network.meet post limit world).1.outcome.bind Answer.result ∧
      after = (network.meet post limit world).2 := by
  unfold Client.attempt client at tried
  cases posted : Post.of? settings request with
  | none =>
    rw [posted] at tried
    cases tried
    exact .inl ⟨rfl, rfl, rfl⟩
  | some post =>
    rw [posted] at tried
    cases tried
    exact .inr ⟨post, rfl, rfl, rfl⟩

/-- An attempt waits no longer than it may. -/
theorem now_attempt {world after : σ}
    (tried : (network.client settings).attempt request limit world = (outcome, after)) :
    network.now after ≤ network.now world + limit := by
  rcases network.attempt_cases tried with ⟨-, -, rfl⟩ | ⟨post, -, -, rfl⟩
  · exact Nat.le_add_right _ _
  · exact (network.now_meet post limit world).2

/-- What an attempt posts is delivered, or the attempt ends with a refusal. -/
theorem attempt_reaches {state after : Logged σ}
    (tried : (network.logged.client settings).attempt request limit state = (outcome, after)) :
    ∃ first, after.log = state.log ++ first ∧ ((∃ posted ∈ first, posted.2.isDelivered = true) ∨
      (∀ posted ∈ first, posted.2.isDelivered = false) ∧ first.length ≤ 1 ∧
      ∃ detail, outcome = .error (.network detail)) := by
  rcases network.logged.attempt_cases tried with ⟨-, rfl, rfl⟩ | ⟨post, -, rfl, rfl⟩
  · exact ⟨[], (List.append_nil _).symm, .inr ⟨by simp, by simp, _, rfl⟩⟩
  · refine ⟨[(post, (network.meet post limit state.world).1)], rfl, ?_⟩
    show _ ∨ _ ∧ _ ∧ ∃ detail, (network.meet post limit state.world).1.outcome.bind Answer.result = _
    cases (network.meet post limit state.world).1 with
    | delivered outcome => exact .inl ⟨_, List.mem_singleton_self _, rfl⟩
    | refused detail => exact .inr ⟨by simp [Encounter.isDelivered], by simp, detail, rfl⟩

end Attempts

end Network

/-! ### How a call goes on -/

namespace Client

section Going

variable {σ : Type} (client : Client σ) (request : Request) (start : Nanoseconds)

/-- How a call goes on: the repetitions and the pause that it has left, the attempts made before, the world, and
what comes of it. -/
inductive Goes : Nat → Nat → Nat → σ → Except Failure Response × σ → Prop
  /-- The time is up. -/
  | expired {repetitions attempts backoff : Nat} {world : σ} (expired : client.left request start world = 0) :
      Goes repetitions attempts backoff world (.error (spent request attempts), world)
  /-- An attempt that succeeds, or that cannot be repeated. -/
  | last {repetitions attempts backoff : Nat} {world after : σ} {outcome : Except Failure Response}
      (opened : client.left request start world ≠ 0)
      (tried : client.attempt request (client.left request start world) world = (outcome, after))
      (final : ∀ failure, outcome = .error failure → repetitions = 0 ∨ failure.isPermanent = true) :
      Goes repetitions attempts backoff world (outcome, after)
  /-- An attempt that fails, and is repeated behind a pause. -/
  | again {repetitions attempts backoff : Nat} {world after : σ} {failure : Failure}
      {result : Except Failure Response × σ} (opened : client.left request start world ≠ 0)
      (tried : client.attempt request (client.left request start world) world = (.error failure, after))
      (passing : failure.isPermanent = false)
      (rest : Goes repetitions (attempts + 1) (nextBackoff client.settings backoff)
        (client.transport.sleep (min (ofMilliseconds backoff) (client.left request start after)) after) result) :
      Goes (repetitions + 1) attempts backoff world result

theorem goes (repetitions attempts backoff : Nat) (world : σ) :
    client.Goes request start repetitions attempts backoff world
      (client.callFrom request start repetitions attempts backoff world) := by
  induction repetitions generalizing attempts backoff world with
  | zero =>
    rw [callFrom]
    split
    · exact .expired ‹_›
    · cases tried : client.attempt request (client.left request start world) world with
      | mk outcome after =>
        cases outcome with
        | ok response => exact .last ‹_› tried (by rintro _ ⟨⟩)
        | error failure => exact .last ‹_› tried fun _ _ => .inl rfl
  | succ repetitions hypothesis =>
    rw [callFrom]
    split
    · exact .expired ‹_›
    · cases tried : client.attempt request (client.left request start world) world with
      | mk outcome after =>
        cases outcome with
        | ok response => exact .last ‹_› tried (by rintro _ ⟨⟩)
        | error failure =>
          simp only
          split
          · exact .last ‹_› tried fun _ same => .inr (by cases same; assumption)
          · exact .again ‹_› tried (Bool.eq_false_iff.mpr ‹_›) (hypothesis _ _ _)

variable {client request start} {repetitions attempts backoff : Nat} {world : σ}

/-- Only one thing comes of a call. -/
theorem Goes.eq {result result' : Except Failure Response × σ}
    (goes : client.Goes request start repetitions attempts backoff world result)
    (goes' : client.Goes request start repetitions attempts backoff world result') : result = result' := by
  induction goes with
  | expired expired =>
    cases goes' with
    | expired _ => rfl
    | last opened _ _ => exact absurd expired opened
    | again opened _ _ _ => exact absurd expired opened
  | last opened tried final =>
    cases goes' with
    | expired expired => exact absurd expired opened
    | last _ tried' _ => exact tried.symm.trans tried'
    | again _ tried' passing _ =>
      cases tried.symm.trans tried'
      rcases final _ rfl with none | permanent
      · cases none
      · rw [passing] at permanent
        cases permanent
  | again opened tried passing _ hypothesis =>
    cases goes' with
    | expired expired => exact absurd expired opened
    | last _ tried' final =>
      cases tried.symm.trans tried'
      rcases final _ rfl with none | permanent
      · cases none
      · rw [passing] at permanent
        cases permanent
    | again _ tried' _ rest =>
      cases tried.symm.trans tried'
      exact hypothesis rest

end Going

end Client

/-! ### A call in a larger world -/

/-- A transport agrees with another one on what a projection keeps of its world. -/
structure Transport.Covers {σ τ : Type} (fine : Transport σ) (coarse : Transport τ) (project : σ → τ) : Prop where
  now : ∀ world, coarse.now (project world) = fine.now world
  sleep : ∀ duration world, coarse.sleep duration (project world) = project (fine.sleep duration world)
  post : ∀ post limit world, coarse.post post limit (project world)
    = ((fine.post post limit world).1, project (fine.post post limit world).2)

namespace Transport.Covers

section Calls

variable {σ τ : Type} {fine : Transport σ} {coarse : Transport τ} {project : σ → τ}
  (covers : Covers fine coarse project) (settings : Settings) (request : Request)

include covers

variable {settings request} in
theorem attempt {limit : Nanoseconds} {outcome : Except Failure Response} {world after : σ}
    (tried : (Client.mk fine settings).attempt request limit world = (outcome, after)) :
    (Client.mk coarse settings).attempt request limit (project world) = (outcome, project after) := by
  unfold Client.attempt at tried ⊢
  cases posted : Post.of? settings request with
  | none =>
    simp only [posted] at tried ⊢
    cases tried
    rfl
  | some post =>
    simp only [posted, covers.post] at tried ⊢
    cases tried
    rfl

variable {settings request} in
theorem goes {start : Nanoseconds} {repetitions attempts backoff : Nat} {world : σ}
    {result : Except Failure Response × σ}
    (goes : (Client.mk fine settings).Goes request start repetitions attempts backoff world result) :
    (Client.mk coarse settings).Goes request start repetitions attempts backoff (project world)
      (result.1, project result.2) := by
  have left (world : σ) : (Client.mk coarse settings).left request start (project world)
      = (Client.mk fine settings).left request start world := by
    unfold Client.left
    rw [covers.now]
  induction goes with
  | expired expired => exact .expired ((left _).trans expired)
  | last opened tried final =>
    have tried' := covers.attempt tried
    rw [← left] at opened tried'
    exact .last opened tried' final
  | again opened tried passing _ hypothesis =>
    have tried' := covers.attempt tried
    rw [← left] at opened tried'
    refine .again opened tried' passing ?_
    rw [left, covers.sleep]
    exact hypothesis

/-- **A call in a larger world is the call itself**, with something beside it. -/
theorem call (world : σ) :
    (((Client.mk fine settings).call request world).1, project ((Client.mk fine settings).call request world).2)
      = (Client.mk coarse settings).call request (project world) := by
  have started : (Client.mk coarse settings).call request (project world)
      = (Client.mk coarse settings).callFrom request (fine.now world) request.retries 0 settings.initialBackoff
        (project world) := by
    rw [← covers.now]
    rfl
  rw [started]
  exact (covers.goes ((Client.mk fine settings).goes ..)).eq ((Client.mk coarse settings).goes ..)

end Calls

end Transport.Covers

/-! ### A whole call -/

namespace Network

section Calls

variable {σ : Type} (network : Network σ) (settings : Settings) (request : Request) {start : Nanoseconds}
  {repetitions attempts backoff : Nat}

theorem logged_covers : Transport.Covers network.logged.transport network.transport Logged.world :=
  ⟨fun _ => rfl, fun _ _ => rfl, fun _ _ _ => rfl⟩

/-- **Without the log, a call is the call itself.** -/
theorem call_logged (state : Logged σ) :
    let run := (network.logged.client settings).call request state
    (run.1, run.2.world) = (network.client settings).call request state.world :=
  network.logged_covers.call settings request state

section Limits

variable {timeout before ended : Nat}

/-- A wait for no longer than the time left ends in time. -/
theorem ends_within (within : before ≤ start + timeout)
    (bounded : ended ≤ before + (timeout - (before - start))) : ended ≤ start + timeout := by
  omega

/-- A pause ends in time. -/
theorem pause_within (within : before ≤ start + timeout) (pause : Nat) :
    before + min pause (timeout - (before - start)) ≤ start + timeout := by
  omega

/-- No time is left just when the limit is used up. -/
theorem ends_at (limited : timeout ≠ 0) (expired : timeout - (ended - start) = 0)
    (within : ended ≤ start + timeout) : ended = start + timeout := by
  omega

end Limits

/-- A call that goes on within the time limit of its request ends within it. -/
theorem now_le_of_goes {world : σ} {result : Except Failure Response × σ}
    (goes : (network.client settings).Goes request start repetitions attempts backoff world result)
    (within : network.now world ≤ start + request.timeout) :
    network.now result.2 ≤ start + request.timeout := by
  induction goes with
  | expired _ => exact within
  | last _ tried _ => exact ends_within within (network.now_attempt tried)
  | @again _ _ _ _ after _ _ _ tried _ _ hypothesis =>
    refine hypothesis ?_
    show network.now (network.sleep _ after) ≤ _
    rw [network.now_sleep]
    exact pause_within (ends_within within (network.now_attempt tried)) _

/-- **A call ends within the time limit of its request.** -/
theorem now_call_le (world : σ) : network.now ((network.client settings).call request world).2
    ≤ network.now world + request.timeout :=
  network.now_le_of_goes settings request ((network.client settings).goes ..) (Nat.le_add_right _ _)

/-- A call of which nothing is delivered: it ends with a refusal, or time runs out while it could still be
repeated. -/
structure Unheard (start : Nanoseconds) (repetitions : Nat) (world : σ) (posts : List (Post × Encounter))
    (result : Except Failure Response × σ) : Prop where
  unheard : ∀ posted ∈ posts, posted.2.isDelivered = false
  ended : (∃ detail, result.1 = .error (.network detail)) ∨
    ∃ attempts, result.1 = .error (Client.spent request attempts) ∧ posts.length ≤ repetitions ∧
      ((network.client settings).left request start world ≠ 0 → 0 < repetitions) ∧
      (network.client settings).left request start result.2 = 0

variable {network settings request} in
/-- One more attempt that is not delivered, in front of the others. -/
theorem Unheard.again {world world' : σ} {posts first : List (Post × Encounter)}
    {result : Except Failure Response × σ}
    (rest : network.Unheard settings request start repetitions world posts result)
    (unheard : ∀ posted ∈ first, posted.2.isDelivered = false) (once : first.length ≤ 1) :
    network.Unheard settings request start (repetitions + 1) world' (first ++ posts) result := by
  refine ⟨fun posted inside => ?_, rest.ended.imp_right ?_⟩
  · rcases List.mem_append.mp inside with inside | inside
    · exact unheard posted inside
    · exact rest.unheard posted inside
  · rintro ⟨attempts, spent, fewer, -, expired⟩
    exact ⟨attempts, spent, by rw [List.length_append]; omega, fun _ => Nat.succ_pos _, expired⟩

/-- Something of a call is delivered, or it ends as one of which nothing is. -/
theorem reaches_of_goes {state : Logged σ} {result : Except Failure Response × Logged σ}
    (goes : (network.logged.client settings).Goes request start repetitions attempts backoff state result) :
    ∃ posts, result.2.log = state.log ++ posts ∧ ((∃ posted ∈ posts, posted.2.isDelivered = true) ∨
      network.Unheard settings request start repetitions state.world posts (result.1, result.2.world)) := by
  induction goes with
  | expired expired =>
    exact ⟨[], (List.append_nil _).symm,
      .inr ⟨by simp, .inr ⟨_, rfl, Nat.zero_le _, fun opened => absurd expired opened, expired⟩⟩⟩
  | last _ tried _ =>
    obtain ⟨first, log, met⟩ := network.attempt_reaches tried
    exact ⟨first, log, met.imp_right fun missed => ⟨missed.1, .inl missed.2.2⟩⟩
  | again _ tried _ _ hypothesis =>
    obtain ⟨first, log, met⟩ := network.attempt_reaches tried
    obtain ⟨posts, log', met'⟩ := hypothesis
    refine ⟨first ++ posts, ?_, ?_⟩
    · rw [log', ← List.append_assoc, ← log]
      rfl
    · rcases met with ⟨posted, inside, heard⟩ | ⟨unheard, once, -⟩
      · exact .inl ⟨posted, List.mem_append_left _ inside, heard⟩
      · rcases met' with ⟨posted, inside, heard⟩ | rest
        · exact .inl ⟨posted, List.mem_append_right _ inside, heard⟩
        · exact .inr (rest.again unheard once)

/-- **Something of a call is delivered, or the call ends as one of which nothing is.** -/
theorem call_reaches (world : σ) :
    (∃ posted ∈ network.posts settings request world, posted.2.isDelivered = true) ∨
      network.Unheard settings request (network.now world) request.retries world
        (network.posts settings request world) ((network.client settings).call request world) := by
  obtain ⟨posts, log, met⟩ := network.reaches_of_goes settings request
    ((network.logged.client settings).goes request (network.now world) request.retries 0
      (network.logged.client settings).settings.initialBackoff ⟨world, []⟩)
  have same : network.posts settings request world = posts := log
  rw [same, ← network.call_logged settings request ⟨world, []⟩]
  exact met

/-- A call without a time limit does not succeed. -/
theorem timeout_ne_zero_of_ok {world : σ} {response : Response}
    (succeeded : ((network.client settings).call request world).1 = .ok response) : request.timeout ≠ 0 := by
  intro none
  have expired : (network.client settings).left request (network.now world) world = 0 := by
    show request.timeout - _ = 0
    rw [none, Nat.zero_sub]
  have spent := ((network.client settings).goes request (network.now world) request.retries 0
    settings.initialBackoff world).eq (.expired expired)
  have same : (network.client settings).call request world = (.error (Client.spent request 0), world) := spent
  rw [same] at succeeded
  cases succeeded

variable {network settings request} in
theorem Unheard.not_ok {world : σ} {posts : List (Post × Encounter)} {result : Except Failure Response × σ}
    (silent : network.Unheard settings request start repetitions world posts result) (response : Response) :
    result.1 ≠ .ok response := by
  intro succeeded
  rcases silent.ended with ⟨detail, refused⟩ | ⟨attempts, spent, -⟩
  · cases succeeded.symm.trans refused
  · cases succeeded.symm.trans spent

variable {network settings request} in
/-- **Time runs out for a call of which nothing is delivered only if it could be repeated, and exactly when its
time limit is used up.** -/
theorem Unheard.elapsed {world : σ} {posts : List (Post × Encounter)} {detail : String}
    (silent : network.Unheard settings request (network.now world) request.retries world posts
      ((network.client settings).call request world))
    (limited : request.timeout ≠ 0)
    (late : ((network.client settings).call request world).1 = .error (.timeout detail)) :
    0 < request.retries ∧ posts.length ≤ request.retries ∧
      network.now ((network.client settings).call request world).2 = network.now world + request.timeout := by
  have within := network.now_call_le settings request world
  rcases silent.ended with ⟨detail', refused⟩ | ⟨attempts, -, fewer, repeatable, expired⟩
  · cases late.symm.trans refused
  · have opened : (network.client settings).left request (network.now world) world ≠ 0 := by
      show request.timeout - (network.now world - network.now world) ≠ 0
      rwa [Nat.sub_self, Nat.sub_zero]
    exact ⟨repeatable opened, fewer, ends_at limited expired within⟩

end Calls

end Network

end TryConfirmCancel.Rpc

namespace TryConfirmCancel

/-! ### A network in rehearsal -/

/-- A line to a peer: the answers to come, none of them where the peer stays silent. Behind the last one the line is
cut. -/
structure Line where
  clock : Nanoseconds
  coming : List (Option Rpc.Answer)

def Line.meet (_ : Rpc.Post) (limit : Nanoseconds) (line : Line) : Rpc.Encounter × Line :=
  match line.coming with
  | [] => (.refused "the line is cut", line)
  | some answer :: coming => (.delivered (.ok answer), { line with coming })
  | none :: coming => (.delivered (.error (.timeout "no answer in time")), ⟨line.clock + limit, coming⟩)

def Line.network : Rpc.Network Line :=
  { now := Line.clock
    sleep := fun duration line => { line with clock := line.clock + duration }
    meet := Line.meet
    now_sleep := fun _ _ => rfl
    now_meet := fun post limit line => by
      unfold Line.meet
      split
      · exact ⟨Nat.le_refl _, Nat.le_add_right _ _⟩
      · exact ⟨Nat.le_refl _, Nat.le_add_right _ _⟩
      · exact ⟨Nat.le_add_right _ _, Nat.le_refl _⟩ }

end TryConfirmCancel
