/-
**The attempts of a call.**

A call over a network makes its attempts one after another, each in the world that the failure before it and
the pause behind this failure have led to.

* `Failure.IsPassing`: the failures behind which a repetition may help;
* `pauseBefore`: the pause in front of a repetition; `Network.ahead`: the world in which a next attempt is made;
* `Network.Begins`: an attempt of a call, behind the attempts that came before it;
* `Network.Ends`: the last attempt decides, or no time is left for one more;
* `call_paced`: the attempts of every call, what comes of it, and that it ends in time.
-/

import Mathlib.Algebra.Group.Nat.Defs
import TryConfirmCancel.Proofs.Rpc.Network

namespace TryConfirmCancel.Rpc

/-! ### Failures that may pass -/

/-- A failure behind which a repetition may help: there was no answer at all, or one whose status does not blame
the request. -/
inductive Failure.IsPassing : Failure → Prop
  | network (detail : String) : IsPassing (.network detail)
  | status {number : Nat} (body : String) (blameless : number < 400 ∨ 500 ≤ number) :
      IsPassing (.status number body)

theorem Failure.isPassing_iff {failure : Failure} : failure.IsPassing ↔ failure.isPermanent = false := by
  constructor
  · rintro (⟨detail⟩ | ⟨body, blameless⟩)
    · rfl
    · rw [isPermanent, Bool.and_eq_false_iff, decide_eq_false_iff_not, decide_eq_false_iff_not]
      omega
  · intro passing
    cases failure with
    | timeout detail => cases passing
    | undecodable detail => cases passing
    | network detail => exact .network detail
    | status number body =>
      rw [isPermanent, Bool.and_eq_false_iff, decide_eq_false_iff_not, decide_eq_false_iff_not] at passing
      exact .status body (by omega)

/-! ### Pauses -/

/-- The pause in front of a repetition, in milliseconds: it doubles from one repetition to the next, up to two
seconds. -/
def pauseBefore (repetition : Nat) : Nat := min (100 * 2 ^ (repetition - 1)) 2000

theorem pauseBefore_of_large {repetition : Nat} (large : 6 ≤ repetition) : pauseBefore repetition = 2000 := by
  have power : 2 ^ 5 ≤ 2 ^ (repetition - 1) := Nat.pow_le_pow_right (by decide) (by omega)
  rw [pauseBefore, Nat.min_eq_right (by omega)]

example : [1, 2, 3, 4, 5, 6, 7].map pauseBefore = [100, 200, 400, 800, 1600, 2000, 2000] := by decide

/-- Standard settings make a pause from the one before it. -/
theorem nextBackoff_pauseBefore (gateway : String) (repetition : Nat) :
    Client.nextBackoff { gateway } (pauseBefore (repetition + 1)) = pauseBefore (repetition + 2) := by
  have settled : Client.nextBackoff { gateway } 2000 = 2000 := by
    show min ((Binary64.ofNat 2).mul (.ofNat 2000) |>.truncated maxWord64) 2000 = 2000
    decide +kernel
  by_cases large : 5 ≤ repetition
  · rw [pauseBefore_of_large (by omega), pauseBefore_of_large (by omega), settled]
  · have growing : ∀ early < 5, min ((Binary64.ofNat 2).mul (.ofNat (pauseBefore (early + 1))) |>.truncated
        maxWord64) 2000 = pauseBefore (early + 2) := by
      decide +kernel
    exact growing repetition (by omega)

/-! ### Attempts -/

/-- An attempt of a call: the time that it has, what comes of it, and the worlds in front of it and behind it. -/
structure Attempt (σ : Type) where
  limit : Nanoseconds
  before : σ
  outcome : Except Failure Response
  after : σ

/-- An attempt that failed in a way that may pass. -/
def Attempt.IsPassing {σ : Type} (attempt : Attempt σ) : Prop :=
  ∃ failure, attempt.outcome = .error failure ∧ failure.IsPassing

namespace Network

section Series

variable {σ : Type} (network : Network σ) (gateway : String) (request : Request) (world : σ)

/-- The time that is left of a call that was started in a world. -/
def timeLeft (later : σ) : Nanoseconds := request.timeout - (network.now later - network.now world)

/-- The world in which a call makes its next attempt: the one in which it was started, or the one behind the pause
that follows the last of its failures, which is cut to the time left. -/
def ahead (earlier : List (Attempt σ)) : σ :=
  match earlier.getLast? with
  | none => world
  | some failed =>
    network.sleep (min (ofMilliseconds (pauseBefore earlier.length)) (network.timeLeft request world failed.after))
      failed.after

/-- An attempt of a call behind earlier ones. -/
structure Begins (earlier : List (Attempt σ)) (attempt : Attempt σ) : Prop where
  /-- Only behind failures that may pass is there another attempt. -/
  passing : ∀ failed ∈ earlier, failed.IsPassing
  before : attempt.before = network.ahead request world earlier
  limit : attempt.limit = network.timeLeft request world attempt.before
  opened : attempt.limit ≠ 0
  /-- Every attempt posts the same. -/
  posted : ∀ post, Post.of? { gateway } request = some post →
    attempt.outcome = (network.meet post attempt.limit attempt.before).1.outcome.bind Answer.result ∧
    attempt.after = (network.meet post attempt.limit attempt.before).2
  /-- What HTTP cannot express is not posted, and fails at once. -/
  unposted : Post.of? { gateway } request = none →
    (∃ detail, attempt.outcome = .error (.network detail)) ∧ attempt.after = attempt.before

/-- The attempts of a call, each behind those before it. -/
def Series (attempts : List (Attempt σ)) : Prop :=
  ∀ earlier attempt later, attempts = earlier ++ attempt :: later →
    network.Begins gateway request world earlier attempt

/-- How a call ends behind its attempts. -/
inductive Ends (attempts : List (Attempt σ)) : Except Failure Response × σ → Prop
  /-- The last attempt cannot be repeated. -/
  | decided {last : Attempt σ} (ending : attempts.getLast? = some last)
      (allowed : attempts.length ≤ request.retries + 1)
      (final : last.IsPassing → attempts.length = request.retries + 1) : Ends attempts (last.outcome, last.after)
  /-- One more attempt is allowed, but no time is left for it. -/
  | outOfTime (allowed : attempts.length ≤ request.retries) (passing : ∀ failed ∈ attempts, failed.IsPassing)
      (expired : network.timeLeft request world (network.ahead request world attempts) = 0) :
      Ends attempts (.error (Client.spent request attempts.length), network.ahead request world attempts)

variable {network gateway request world}

theorem series_nil : network.Series gateway request world [] := by
  intro earlier attempt later none
  simp at none

/-- One more attempt behind a series. -/
theorem Series.concat {attempts : List (Attempt σ)} {attempt : Attempt σ}
    (series : network.Series gateway request world attempts)
    (begins : network.Begins gateway request world attempts attempt) :
    network.Series gateway request world (attempts ++ [attempt]) := by
  intro earlier found later same
  rcases List.eq_nil_or_concat later with rfl | ⟨later', last, rfl⟩
  · obtain ⟨rfl, same'⟩ := List.append_inj' same rfl
    cases same'
    exact begins
  · refine series earlier found later' ?_
    have whole : attempts ++ [attempt] = (earlier ++ found :: later') ++ [last] := by
      rw [same]
      simp
    exact (List.append_inj' whole rfl).1

theorem ahead_concat (earlier : List (Attempt σ)) (failed : Attempt σ) :
    network.ahead request world (earlier ++ [failed]) = network.sleep
      (min (ofMilliseconds (pauseBefore (earlier.length + 1))) (network.timeLeft request world failed.after))
      failed.after := by
  rw [ahead, List.getLast?_concat, List.length_append, List.length_singleton]

/-- The next attempt of a client. -/
theorem begins_of_attempt {earlier : List (Attempt σ)} {outcome : Except Failure Response} {after : σ}
    (passing : ∀ failed ∈ earlier, failed.IsPassing)
    (opened : network.timeLeft request world (network.ahead request world earlier) ≠ 0)
    (tried : (network.client { gateway }).attempt request
      (network.timeLeft request world (network.ahead request world earlier)) (network.ahead request world earlier)
        = (outcome, after)) :
    network.Begins gateway request world earlier
      ⟨network.timeLeft request world (network.ahead request world earlier), network.ahead request world earlier,
        outcome, after⟩ := by
  refine ⟨passing, rfl, rfl, opened, fun post posted => ?_, fun unposted => ?_⟩
  · rcases network.attempt_cases tried with ⟨none, -⟩ | ⟨post', some, came, behind⟩
    · cases posted.symm.trans none
    · cases posted.symm.trans some
      exact ⟨came, behind⟩
  · rcases network.attempt_cases tried with ⟨-, rfl, behind⟩ | ⟨post, some, -⟩
    · exact ⟨⟨_, rfl⟩, behind⟩
    · cases unposted.symm.trans some

end Series

/-! ### Whole calls -/

section Calls

variable {σ : Type} (network : Network σ) (gateway : String) (request : Request) (world : σ)

variable {network gateway request world} in
/-- A call that goes on behind failures that may pass makes a longer series and ends it. -/
theorem series_of_goes {repetitions attempts backoff : Nat} {here : σ} {result : Except Failure Response × σ}
    (goes : (network.client { gateway }).Goes request (network.now world) repetitions attempts backoff here result)
    {made : List (Attempt σ)} (series : network.Series gateway request world made)
    (passing : ∀ failed ∈ made, failed.IsPassing) (counted : made.length = attempts)
    (allowed : made.length + repetitions = request.retries) (pause : backoff = pauseBefore (made.length + 1))
    (reached : here = network.ahead request world made) :
    ∃ all, network.Series gateway request world all ∧ network.Ends request world all result := by
  induction goes generalizing made with
  | expired expired =>
    subst reached
    refine ⟨made, series, ?_⟩
    rw [← counted]
    exact .outOfTime (by omega) passing expired
  | @last repetitions _ _ _ after outcome opened tried final =>
    subst reached
    refine ⟨_, series.concat (begins_of_attempt passing opened tried), ?_⟩
    refine .decided List.getLast?_concat ?_ ?_
    · rw [List.length_append, List.length_singleton]
      omega
    · rintro ⟨failure, failed, mayPass⟩
      rcases final failure failed with none | permanent
      · rw [List.length_append, List.length_singleton]
        omega
      · rw [Failure.isPassing_iff.mp mayPass] at permanent
        cases permanent
  | @again repetitions _ backoff _ after failure _ opened tried mayPass _ hypothesis =>
    subst reached
    refine hypothesis (series.concat (begins_of_attempt passing opened tried)) ?_ ?_ ?_ ?_ ?_
    · intro failed inside
      rcases List.mem_append.mp inside with earlier | now
      · exact passing failed earlier
      · cases List.mem_singleton.mp now
        exact ⟨failure, rfl, Failure.isPassing_iff.mpr mayPass⟩
    · rw [List.length_append, List.length_singleton, counted]
    · rw [List.length_append, List.length_singleton]
      omega
    · rw [pause, List.length_append, List.length_singleton]
      exact nextBackoff_pauseBefore gateway made.length
    · rw [ahead_concat, pause]
      rfl

/-- The attempts of a call, and what comes of them. -/
structure Paced (attempts : List (Attempt σ)) (result : Except Failure Response × σ) : Prop where
  /-- The call ends within its time limit. -/
  inTime : network.now result.2 ≤ network.now world + request.timeout
  few : attempts.length ≤ request.retries + 1
  series : network.Series gateway request world attempts
  /-- The call succeeds just with the first success, behind which there is no other attempt. -/
  succeeds : ∀ response, result.1 = .ok response ↔ ∃ attempt ∈ attempts, attempt.outcome = .ok response
  /-- A failure that may pass is that of the last attempt that is allowed. -/
  exhausted : ∀ failure, result.1 = .error failure → failure.IsPassing →
    attempts.length = request.retries + 1 ∧ ∃ last, attempts.getLast? = some last ∧ last.outcome = .error failure
  /-- If all attempts failed in a way that may pass and one more is allowed, then no time is left for it. -/
  outOfTime : attempts.length ≤ request.retries → (∀ failed ∈ attempts, failed.IsPassing) →
    network.timeLeft request world (network.ahead request world attempts) = 0 ∧
    result = (.error (Client.spent request attempts.length), network.ahead request world attempts)
  /-- In all other cases the last attempt decides. -/
  decided : request.retries < attempts.length ∨ (∃ attempt ∈ attempts, ¬ attempt.IsPassing) →
    ∃ last, attempts.getLast? = some last ∧ result = (last.outcome, last.after)

variable {network gateway request world} in
/-- Only the last attempt of a series may be one that cannot be repeated. -/
theorem Series.eq_getLast {attempts : List (Attempt σ)} (series : network.Series gateway request world attempts)
    {attempt : Attempt σ} (inside : attempt ∈ attempts) (final : ¬ attempt.IsPassing) :
    attempts.getLast? = some attempt := by
  obtain ⟨earlier, later, rfl⟩ := List.append_of_mem inside
  rcases List.eq_nil_or_concat later with rfl | ⟨later', next, rfl⟩
  · exact List.getLast?_concat
  · -- the attempt behind it was made only because it may pass
    have begins := series (earlier ++ attempt :: later') next [] (by simp)
    exact absurd (begins.passing attempt (by simp)) final

theorem Series.paced {attempts : List (Attempt σ)} {result : Except Failure Response × σ}
    (series : network.Series gateway request world attempts) (ends : network.Ends request world attempts result)
    (inTime : network.now result.2 ≤ network.now world + request.timeout) :
    network.Paced gateway request world attempts result := by
  cases ends with
  | @decided last ending allowed final =>
    have inside : last ∈ attempts := List.mem_of_getLast? ending
    refine ⟨inTime, allowed, series, fun response => ⟨fun same => ⟨last, inside, same⟩, ?_⟩, ?_, ?_,
      fun _ => ⟨last, ending, rfl⟩⟩
    · rintro ⟨attempt, among, same⟩
      have decides := series.eq_getLast among (by
        rintro ⟨failure, failed, -⟩
        cases same.symm.trans failed)
      cases ending.symm.trans decides
      exact same
    · intro failure failed mayPass
      exact ⟨final ⟨failure, failed, mayPass⟩, last, ending, failed⟩
    · intro one passing
      have whole := final (passing last inside)
      omega
  | outOfTime allowed passing expired =>
    refine ⟨inTime, by omega, series, fun response => ⟨by rintro ⟨⟩, ?_⟩, ?_, fun _ _ => ⟨expired, rfl⟩, ?_⟩
    · rintro ⟨attempt, among, same⟩
      obtain ⟨failure, failed, -⟩ := passing attempt among
      cases same.symm.trans failed
    · rintro failure ⟨⟩ ⟨⟩
    · rintro (many | ⟨attempt, among, final⟩)
      · omega
      · exact absurd (passing attempt among) final

/-- **Every call keeps its pace**: it makes its attempts in one series, each of them behind a failure that may pass
and behind a pause that doubles, ends with the first success or with what no repetition can help, and takes no
longer than its time limit. -/
theorem call_paced : ∃ attempts, network.Paced gateway request world attempts
    ((network.client { gateway }).call request world) := by
  obtain ⟨attempts, series, ends⟩ := series_of_goes
    ((network.client { gateway }).goes request (network.now world) request.retries 0 (pauseBefore 1) world)
    series_nil (by simp) rfl (Nat.zero_add _) rfl rfl
  exact ⟨attempts, series.paced network gateway request world ends
    (network.now_call_le { gateway } request world)⟩

end Calls

end Network

/-! ### A call in rehearsal -/

/-- A request to a peer that is too busy at first. -/
def patientRequest : Request :=
  { target := .url "http://peer/path", body := [], headers := ∅, timeout := ofMilliseconds 500, retries := 2
    codec := .json }

/-- The peer is busy twice. -/
def busyPeer : Line := ⟨0, [some ⟨503, .empty, []⟩, some ⟨503, .empty, []⟩, some ⟨200, .empty, []⟩]⟩

/-- An attempt of the call succeeds, behind pauses of 100 and of 200 milliseconds. -/
theorem busyPeer_paced :
    let result := (Line.network.client { gateway := "" }).call patientRequest busyPeer
    result.2.clock = ofMilliseconds 300 ∧
      ∃ attempts response, Line.network.Paced "" patientRequest busyPeer attempts result ∧
        result.1 = .ok response ∧ ∃ attempt ∈ attempts, attempt.outcome = .ok response := by
  intro result
  obtain ⟨attempts, paced⟩ := Line.network.call_paced "" patientRequest busyPeer
  have answered : result.1.isOk = true ∧ result.2.clock = ofMilliseconds 300 := by decide +kernel
  cases succeeded : result.1 with
  | error failure =>
    rw [succeeded] at answered
    cases answered.1
  | ok response => exact ⟨answered.2, attempts, response, paced, rfl, (paced.succeeds response).mp succeeded⟩

end TryConfirmCancel.Rpc
