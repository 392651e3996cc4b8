/-
**What an endpoint serves.**

The checks of a configuration and those of the endpoint look at the same two paths. They agree on all of them but one:
the endpoint refuses to be called back for Confirm at the path for health, although requests there would be told apart
by their methods, as they are for Cancel.

* `Router.of_of_valid`: the endpoint that valid settings describe, or the refusal;
* `Router.route_eq_callback_iff`, `Router.route_eq_health_iff`: a method and a path together say what is asked for;
* `Router.Serves`: a stage is run only by what is posted to its path, and health is told at its own path;
* `serves_of_validate`: valid settings are served so, if Confirm is not called back at the path for health;
* `healthConfirm_refused`: a configuration that passes the checks and cannot be served.
-/

import TryConfirmCancel.Proofs.Callback.Upshot

namespace TryConfirmCancel

/-! ### The two checks -/

/-- The paths of a configuration that passes the checks are absolute and distinct. -/
theorem Config.paths_of_validate {config : Config} (valid : config.validate = .ok ()) :
    isAbsolutePath config.confirmPath = true ∧ isAbsolutePath config.cancelPath = true ∧
      config.confirmPath ≠ config.cancelPath := by
  unfold validate at valid
  by_cases absolute : isAbsolutePath config.confirmPath = true ∧ isAbsolutePath config.cancelPath = true
  · refine ⟨absolute.1, absolute.2, fun same => ?_⟩
    simp only [if_pos same] at valid
    repeat' split at valid
    all_goals cases valid
  · have relative : (!isAbsolutePath config.confirmPath || !isAbsolutePath config.cancelPath) = true := by
      rwa [← Bool.not_and, Bool.not_eq_true', ← Bool.not_eq_true, Bool.and_eq_true]
    rw [if_pos relative] at valid
    repeat' split at valid
    all_goals cases valid

namespace Router

/-- Valid settings describe an endpoint, unless Confirm is to be called back at the path for health. -/
theorem of_of_valid {config : Config} (valid : config.validate = .ok ()) :
    Router.of config = if config.confirmPath = healthPath then
        .error (.equalPaths config.confirmPath config.cancelPath)
      else .ok ⟨config.confirmPath, config.cancelPath⟩ := by
  obtain ⟨confirm, cancel, different⟩ := Config.paths_of_validate valid
  simp [Router.of, confirm, cancel, different]

/-! ### Methods and paths -/

section Routes

variable {router : Router} {method path : String} {endpoint : Endpoint}

/-- Whatever a request stands for, it is offered at its path. -/
theorem route_eq_iff (served : endpoint ≠ .wrongMethod ∧ endpoint ≠ .unknown) :
    router.route method path = endpoint ↔ lookupEntry method (router.offers path) = some endpoint := by
  refine ⟨fun routed => ?_, route_of_offered⟩
  unfold route at routed
  split at routed
  · exact absurd routed.symm served.2
  · cases found : lookupEntry method (router.offers path) with
    | none =>
      rw [found] at routed
      exact absurd routed.symm served.1
    | some other =>
      rw [found] at routed
      exact congrArg some routed

/-- Health is asked for by reading, and nothing else is. -/
theorem lookup_offers_of_ne (router : Router) (path : String) (reads : method ≠ "POST") :
    lookupEntry method (router.offers path)
      = if path = healthPath ∧ (method = "GET" ∨ method = "HEAD") then some .health else none := by
  have unposted : ∀ (holds : Prop) [Decidable holds] (endpoint : Endpoint),
      lookupEntry method (if holds then [("POST", endpoint)] else []) = none := by
    intro holds _ endpoint
    by_cases held : holds <;> simp [held, lookupEntry, reads.symm]
  rw [offers, lookupEntry_append, lookupEntry_append, unposted, unposted, Option.or_none, Option.or_none]
  by_cases here : path = healthPath
  · by_cases gets : method = "GET"
    · simp [here, gets, lookupEntry]
    · by_cases heads : method = "HEAD"
      · simp [here, heads, lookupEntry]
      · simp [here, gets, heads, lookupEntry, Ne.symm gets, Ne.symm heads]
  · simp [here, lookupEntry]

/-- **A stage is asked for by what is posted to its path**, and by nothing else. -/
theorem route_eq_callback_iff (distinct : router.confirmPath ≠ router.cancelPath) (stage : Stage) :
    router.route method path = .callback stage ↔ method = "POST" ∧ path = router.path stage := by
  rw [route_eq_iff ⟨by rintro ⟨⟩, by rintro ⟨⟩⟩]
  by_cases posts : method = "POST"
  · subst posts
    rw [lookup_offers]
    by_cases confirms : path = router.confirmPath
    · rw [if_pos confirms, Option.some_or]
      cases stage <;> simp [Router.path, confirms, distinct]
    · by_cases cancels : path = router.cancelPath
      · cases stage <;> simp [Router.path, cancels, distinct.symm]
      · cases stage <;> simp [Router.path, confirms, cancels]
  · rw [lookup_offers_of_ne router path posts]
    by_cases health : path = healthPath ∧ (method = "GET" ∨ method = "HEAD") <;> simp [health, posts]

/-- **Health is asked for by reading at its path**, even if that path is also one for a stage. -/
theorem route_eq_health_iff :
    router.route method path = .health ↔ path = healthPath ∧ (method = "GET" ∨ method = "HEAD") := by
  rw [route_eq_iff ⟨by rintro ⟨⟩, by rintro ⟨⟩⟩]
  by_cases posts : method = "POST"
  · subst posts
    rw [lookup_offers]
    refine iff_of_false (fun routed => ?_) (by simp)
    by_cases confirms : path = router.confirmPath
    · rw [if_pos confirms] at routed
      cases routed
    · rw [if_neg confirms, Option.none_or, ite_eq_iff'] at routed
      by_cases cancels : path = router.cancelPath
      · cases routed.1 cancels
      · cases routed.2 cancels
  · rw [lookup_offers_of_ne router path posts]
    by_cases health : path = healthPath ∧ (method = "GET" ∨ method = "HEAD") <;> simp [health]

end Routes

end Router

/-! ### Requests -/

section Serving

variable {σ : Type} {registry : Registry σ} {freshTrace freshSpan : String} {config : Config} {stage : Stage}
  {headers : Headers} {body : Bytes} {count : Nat} {world after : σ} {upshot : Upshot}
  {answer : Nat × CallbackReply} {occurrences : List Occurrence}

/-- Of what comes of a callback, only its own stage is run. -/
theorem Comes.stage_eq (comes : Comes registry freshTrace freshSpan config stage headers body count world upshot
    answer occurrences after) {number : Nat} {other : Stage} {context : Context}
    {outcome : Except ServiceFailure Unit} (ran : .ran number other context outcome ∈ occurrences) :
    other = stage := by
  cases comes with
  | done =>
    simp only [List.mem_cons, reduceCtorEq, Occurrence.ran.injEq, List.not_mem_nil, or_false, false_or] at ran
    exact ran.2.1
  | failed =>
    simp only [List.mem_cons, reduceCtorEq, Occurrence.ran.injEq, List.not_mem_nil, or_false, false_or] at ran
    exact ran.2.1
  | unhandled => cases ran
  | unread => cases ran
  | misread => simp at ran

end Serving

/-- **What an endpoint serves**, whatever settings are in force by then. -/
structure Router.Serves {σ : Type} (router : Router) (registry : Registry σ) : Prop where
  /-- What is posted to the path of a stage and taken in is a callback, and runs this stage or nothing. -/
  callback : ∀ (freshTrace freshSpan : String) (config : Config) (stage : Stage) (target : String)
    (headers : Headers) (body : Bytes) (state : Observed σ), Router.pathOf target = router.path stage →
    Router.TakesIn body →
    let request : Incoming := ⟨"POST", target, headers, body⟩
    let run := serve router registry.observed freshTrace freshSpan config request state
    (run.1, run.2.world) = serve router registry freshTrace freshSpan config request state.world ∧
    ∃ answer occurrences upshot, run.1 = ⟨answer.1, some (Message.callbackReply.write answer.2)⟩ ∧
      run.2.record = state.record ++ occurrences ∧
      Comes registry freshTrace freshSpan config stage headers body state.count state.world upshot answer
        occurrences run.2.world ∧
      ∀ number other context outcome, .ran number other context outcome ∈ occurrences → other = stage
  /-- What the framework does not take in is turned away, and runs nothing. -/
  tooLong : ∀ (freshTrace freshSpan : String) (config : Config) (stage : Stage) (target : String)
    (headers : Headers) (body : Bytes) (world : σ), Router.pathOf target = router.path stage →
    ¬ Router.TakesIn body →
    serve router registry freshTrace freshSpan config ⟨"POST", target, headers, body⟩ world = (.tooLong, world)
  /-- Health is told at its path, also if that is the path of a stage. -/
  health : ∀ (freshTrace freshSpan : String) (config : Config) (target : String) (headers : Headers)
    (body : Bytes) (world : σ), Router.pathOf target = Router.healthPath →
    serve router registry freshTrace freshSpan config ⟨"GET", target, headers, body⟩ world
      = (⟨200, some (healthReport registry.services)⟩, world)
  /-- No other request does anything. -/
  idle : ∀ (freshTrace freshSpan : String) (config : Config) (request : Incoming) (world : σ),
    (∀ stage, ¬ (request.method = "POST" ∧ Router.pathOf request.target = router.path stage)) →
    (serve router registry freshTrace freshSpan config request world).2 = world

/-- An endpoint with two paths serves both of them. -/
theorem Router.serves {σ : Type} {router : Router} (distinct : router.confirmPath ≠ router.cancelPath)
    (registry : Registry σ) : router.Serves registry where
  callback := by
    intro freshTrace freshSpan config stage target headers body state posted takenIn
    have routed : router.route "POST" (pathOf target) = .callback stage :=
      (route_eq_callback_iff distinct stage).mpr ⟨rfl, posted⟩
    have observed := dispatch_observed registry freshTrace freshSpan config stage headers body state
    obtain ⟨occurrences, upshot, recorded, comes⟩ :=
      exists_comes registry freshTrace freshSpan config stage headers body state
    unfold serve
    simp only [routed, if_pos takenIn]
    rw [← observed]
    exact ⟨rfl, _, occurrences, upshot, rfl, recorded, comes, fun _ _ _ _ ran => comes.stage_eq ran⟩
  tooLong := by
    intro freshTrace freshSpan config stage target headers body world posted long
    exact serve_tooLong ((route_eq_callback_iff distinct stage).mpr ⟨rfl, posted⟩) long world
  health := by
    intro freshTrace freshSpan config target headers body world asked
    have routed : router.route "GET" (pathOf target) = .health := route_eq_health_iff.mpr ⟨asked, .inl rfl⟩
    unfold serve
    simp only [routed]
    rfl
  idle := by
    intro freshTrace freshSpan config request world other
    unfold serve
    split
    · rfl
    · rename_i stage routed
      exact absurd ((route_eq_callback_iff distinct stage).mp routed) (other stage)
    · rfl
    · rfl

/-- **Valid settings are served**: what is posted to the path for Confirm or for Cancel runs that stage only, and health
is told at its path. The exception is that Confirm is to be called back at the path for health; that is refused. -/
theorem serves_of_validate {σ : Type} (registry : Registry σ) {config : Config} (valid : config.validate = .ok ()) :
    (config.confirmPath ≠ Router.healthPath → ∃ router, Router.of config = .ok router ∧
      router.path .confirm = config.confirmPath ∧ router.path .cancel = config.cancelPath ∧
      router.Serves registry) ∧
    (config.confirmPath = Router.healthPath →
      Router.of config = .error (.equalPaths Router.healthPath config.cancelPath)) := by
  have described := Router.of_of_valid valid
  refine ⟨fun free => ?_, fun taken => ?_⟩
  · rw [if_neg free] at described
    exact ⟨_, described, rfl, rfl, Router.serves (Router.distinct_of described) registry⟩
  · rw [described, if_pos taken, taken]

/-- Settings by which Cancel is called back at the path for health, and Confirm at one that begins like it. -/
def sharedPath : Config := { confirmPath := "/healthy", cancelPath := "/health" }

/-- A payment that comes to the path for Confirm is refused by its till and runs nothing else, and health is told. -/
theorem sharedPath_serves : sharedPath.validate = .ok () ∧ sharedPath.confirmPath ≠ Router.healthPath ∧
    ∃ router run, Router.of sharedPath = .ok router ∧
      run = serve router counter.observed "T" "S" {} ⟨"POST", "/healthy?again", .empty, paymentBody⟩ ⟨(), 0, []⟩ ∧
      run.1.status = 500 ∧
      (∀ number stage context outcome, .ran number stage context outcome ∈ run.2.record → stage = .confirm) ∧
      serve router counter "T" "S" {} ⟨"GET", "/health?now", .empty, []⟩ ()
        = (⟨200, some (healthReport ["till"])⟩, ()) := by
  have free : sharedPath.confirmPath ≠ Router.healthPath := by decide
  obtain ⟨served, -⟩ := @serves_of_validate _ counter sharedPath rfl
  obtain ⟨router, described, -, -, serves⟩ := served free
  cases described
  obtain ⟨-, answer, occurrences, upshot, answered, recorded, -, alone⟩ :=
    serves.callback "T" "S" {} .confirm "/healthy?again" .empty paymentBody ⟨(), 0, []⟩ (by decide)
      (by decide +kernel)
  refine ⟨rfl, free, _, _, rfl, rfl, by decide +kernel, fun number stage context outcome ran => ?_,
    serves.health "T" "S" {} "/health?now" .empty [] () (by decide)⟩
  rw [recorded, List.nil_append] at ran
  exact alone number stage context outcome ran

/-- Settings by which Confirm is called back at the path for health. -/
def healthConfirm : Config := { confirmPath := Router.healthPath }

/-- **Settings that pass the checks cannot be served** if Confirm is called back at the path for health. -/
theorem healthConfirm_refused : healthConfirm.validate = .ok () ∧
    Router.of healthConfirm = .error (.equalPaths "/health" "/v1/txn/cancel") ∧
    ¬ ∀ config : Config, config.validate = .ok () → ∃ router, Router.of config = .ok router := by
  have refused : Router.of healthConfirm = .error (.equalPaths "/health" "/v1/txn/cancel") := rfl
  refine ⟨rfl, refused, fun served => ?_⟩
  obtain ⟨router, described⟩ := served healthConfirm rfl
  rw [refused] at described
  cases described

end TryConfirmCancel
