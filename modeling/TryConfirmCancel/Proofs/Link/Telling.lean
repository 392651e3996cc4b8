/-
**The failure of Try on its way to the coordinator.**

A report tells the failure of Try in two headers: its number, and its message on one line. Line breaks are taken out of
the message, but no other control is, and HTTP has no header with one.

* `IsTellable`, `isSome_writable?_onOneLine`: the messages that a header can hold on one line;
* `Dispatch.Tells`: what a report tells, and when anything of it is posted;
* `reporting_tells`: so does every report of a failed Try that is not kept from being sent;
* `bell_untold`: a message with a control keeps the coordinator from hearing that it has to cancel.
-/

import TryConfirmCancel.Proofs.Link.Gateway
import TryConfirmCancel.Proofs.Rpc.Fields

namespace TryConfirmCancel

/-! ### Messages on one line -/

/-- A message whose only controls are tabs and line breaks. -/
def IsTellable (text : String) : Prop :=
  ∀ char ∈ text.toList, Headers.isControl char = true → char = '\r' ∨ char = '\n'

/-- **A header can hold a message on one line just if its only controls are tabs and line breaks.** -/
theorem isSome_writable?_onOneLine {text : String} :
    (Headers.writable? (onOneLine text)).isSome = true ↔ IsTellable text := by
  rw [Headers.isSome_writable?_iff, onOneLine, String.toList_ofList, List.forall_mem_map, IsTellable]
  refine forall₂_congr fun char _ => ?_
  by_cases broken : char = '\r' ∨ char = '\n'
  · rw [if_pos broken]
    exact iff_of_true rfl fun _ => broken
  · rw [if_neg broken]
    simp [broken]

instance (text : String) : Decidable (IsTellable text) := decidable_of_iff _ isSome_writable?_onOneLine

example : IsTellable "out of\r\nstock" ∧ ¬ IsTellable "out of stock\x07" := by decide +kernel

/-- The headers that tell the failure of Try. -/
def failureHeaders : List String := [Message.tryErrorCodeHeader, Message.tryErrorTextHeader]

section Headers

variable {failure : ServiceFailure} {secondStage : Dict String}

theorem get?_code_reportHeaders :
    (reportHeaders (some failure) secondStage).get? Message.tryErrorCodeHeader = some (toString failure.code) := by
  have other : Message.tryErrorTextHeader ≠ Message.tryErrorCodeHeader := by decide
  rw [reportHeaders, Dict.get?_insert, if_neg other, Dict.get?_insert, if_pos rfl]

theorem get?_text_reportHeaders :
    (reportHeaders (some failure) secondStage).get? Message.tryErrorTextHeader = some (onOneLine failure.message) := by
  rw [reportHeaders, Dict.get?_insert, if_pos rfl]

/-- HTTP can express a report of a failure just if the message can be told and the rest can be expressed. -/
theorem isSome_of?_telling {settings : Rpc.Settings} {request : Rpc.Request}
    (headers : request.headers = reportHeaders (some failure) secondStage) :
    (Rpc.Post.of? settings request).isSome = true ↔ IsTellable failure.message ∧
      (Rpc.Post.of? settings (request.without failureHeaders)).isSome = true := by
  rw [Rpc.Post.isSome_of?_without failureHeaders, and_comm, and_congr_left_iff]
  intro _
  have named : Rpc.Post.isName Message.tryErrorCodeHeader = true ∧
      Rpc.Post.isName Message.tryErrorTextHeader = true := by decide +kernel
  have code := Headers.isSome_writable?_toString failure.code
  simp only [failureHeaders, List.forall_mem_cons, headers, get?_code_reportHeaders, get?_text_reportHeaders,
    Option.some.injEq, forall_eq', Rpc.Post.isSome_field?_iff, named.1, named.2, code, isSome_writable?_onOneLine,
    List.not_mem_nil, false_implies, implies_true, true_and, and_true]

end Headers

/-! ### The report -/

/-- What a report of a failed Try tells, and when anything of it is posted: if there is time, the message can be told,
and HTTP can express the rest of the report. -/
structure Dispatch.Tells {σ : Type} (transport : Rpc.Transport σ) (failure : ServiceFailure) (dispatch : Dispatch σ) :
    Prop where
  code : dispatch.request.headers.get? Message.tryErrorCodeHeader = some (toString failure.code)
  code_writable : (Headers.writable? (toString failure.code)).isSome = true
  text : dispatch.request.headers.get? Message.tryErrorTextHeader = some (onOneLine failure.message)
  text_writable : (Headers.writable? (onOneLine failure.message)).isSome = true ↔ IsTellable failure.message
  posted : dispatch.posted transport ≠ [] ↔ dispatch.snapshot.requestTimeoutMs ≠ 0 ∧ IsTellable failure.message ∧
    (Rpc.Post.of? dispatch.before.clientSettings (dispatch.request.without failureHeaders)).isSome = true

section Reporting

variable {σ : Type} (transport : Rpc.Transport σ)

theorem Dispatch.tells {failure : ServiceFailure} {secondStage : Dict String} {dispatch : Dispatch σ}
    (bounded : IsBounded dispatch.snapshot dispatch.request)
    (headers : dispatch.request.headers = reportHeaders (some failure) secondStage) :
    dispatch.Tells transport failure where
  code := by rw [headers, get?_code_reportHeaders]
  code_writable := Headers.isSome_writable?_toString failure.code
  text := by rw [headers, get?_text_reportHeaders]
  text_writable := isSome_writable?_onOneLine
  posted := by
    rw [posted, Rpc.Client.posted_ne_nil_iff, isSome_of?_telling headers]
    exact and_congr_left fun _ => not_congr bounded.timeout_eq_zero_iff

/-- What comes of a report that HTTP cannot express. -/
theorem reportResult_unexpressed {settings : Rpc.Settings} {request : Rpc.Request} (world : σ)
    (unexpressed : Rpc.Post.of? settings request = none) :
    reportResult ((Rpc.Client.mk transport settings).call request world).1
        = .error (.rpc (.network "the request cannot be sent")) ∨
      ∃ detail, reportResult ((Rpc.Client.mk transport settings).call request world).1
        = .error (.endTimedOut detail) := by
  rcases (Rpc.Client.mk transport settings).call_unexpressed unexpressed world with refused | ⟨attempts, spent⟩
  · rw [refused]
    exact .inl rfl
  · rw [spent]
    exact .inr ⟨_, rfl⟩

/-- What is known behind a request, and what came back for it. -/
theorem following_send (request : Rpc.Request) (station : Station σ) :
    (Link.overHttp transport).following.send request ⟨station, []⟩
      = (((Rpc.Client.mk transport station.clientSettings).call request station.world).1,
          ⟨(station.send transport request).2, [.sending request station]⟩) := rfl

/-- **Of a report of a failed Try something is posted just if its message can be told**, there is time for it and HTTP
can express the rest of it. A message that cannot be told shows as a failure of the network, or as a report that was
not answered in time. -/
theorem reporting_tells (config : Config) (coordinator : String) (ok : Bool) (failure : ServiceFailure)
    (secondStage : Dict String) (context : Context) (station : Station σ) :
    let errand := Errand.reporting ok (some failure) secondStage
    let answer := ((Link.overHttp transport).undertake config coordinator errand context station).answer
    let dispatches := (Event.run config coordinator errand context).dispatches transport station
    (∃ cause, Bars config coordinator .finish context.span.budget cause ∧ dispatches = [] ∧ answer = .error cause) ∨
    ∃ dispatch, dispatches = [dispatch] ∧ Reports config coordinator context ok dispatch.request ∧
      dispatch.IsFaithful transport ∧ dispatch.Tells transport failure ∧
      (¬ IsTellable failure.message → answer = .error (.rpc (.network "the request cannot be sent")) ∨
        ∃ detail, answer = .error (.endTimedOut detail)) := by
  intro errand answer dispatches
  have erased := (Link.overHttp transport).following_erases.undertake config coordinator context ⟨station, []⟩ errand
  have told : answer = ((Link.overHttp transport).following.undertake config coordinator errand context
    ⟨station, []⟩).answer := congrArg Step.answer erased.symm
  have sent : dispatches = ((Link.overHttp transport).following.undertake config coordinator errand context
    ⟨station, []⟩).world.occasions.filterMap (Occasion.dispatch? config) := rfl
  rw [Link.undertake] at told sent
  rcases (Link.overHttp transport).following.finish_cases config coordinator context ⟨station, []⟩ ok (some failure)
    secondStage with ⟨cause, barred, same⟩ | ⟨request, sends, reports, headers, same⟩
  · rw [same] at told sent
    exact .inl ⟨cause, barred, sent, told⟩
  · rw [same, Step.map, following_send] at told sent
    rw [List.filterMap_cons, List.filterMap_nil, Occasion.dispatch?] at sent
    have tells : Dispatch.Tells transport failure ⟨config, request, station⟩ :=
      Dispatch.tells transport sends.isBounded headers
    refine .inr ⟨_, sent, reports, Dispatch.isFaithful transport _, tells, fun untellable => ?_⟩
    have unexpressed : Rpc.Post.of? station.clientSettings request = none := by
      rw [← Option.not_isSome_iff_eq_none, isSome_of?_telling headers]
      exact fun expressed => untellable expressed.1
    rcases reportResult_unexpressed transport station.world unexpressed with refused | ⟨detail, late⟩
    · rw [refused, Except.map] at told
      exact .inl told
    · rw [late, Except.map] at told
      exact .inr ⟨detail, told⟩

end Reporting

/-! ### A bell in a message -/

/-- A failed Try is reported to a coordinator that takes it without a word. -/
def failedReport (message : String) : List (Dispatch Line) :=
  Event.dispatches Line.network.transport (.start ⟨shopSettings⟩ ⟨0, [none]⟩)
    (.run shopSettings shopSettings.coordinatorAddress (.reporting false (some ⟨4001, message⟩) ∅) orderContext)

/-- How often each request is posted. -/
def timesPosted (dispatches : List (Dispatch Line)) : List Nat :=
  dispatches.map fun dispatch => (dispatch.posted Line.network.transport).length

example : timesPosted (failedReport "out of\r\nstock") = [1] := by decide +kernel

/-- **A message with a control keeps a report from being sent that would be sent without it**: no header can hold it,
and the coordinator does not hear that it has to cancel. -/
theorem bell_untold : Headers.writable? (onOneLine "out of stock\x07") = none ∧
    timesPosted (failedReport "out of stock") = [1] ∧ timesPosted (failedReport "out of stock\x07") = [0] := by
  decide +kernel

end TryConfirmCancel
