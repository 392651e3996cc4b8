/-
**To which gateway a station posts.**

Errands take their settings from a snapshot, and the settings in force may change at any time. But the client of a
station is made once, when the station sends its first request, and keeps the gateway that it was made with.

* `Event`: an errand or a change of the settings; `dispatched`: what a history of events sends;
* `Dispatch.IsFaithful`: what is posted for a request is what its call posts;
* `Dispatch.GoesTo`: all that is posted for a request to a topic is posted to a gateway;
* `dispatched_goTo_first`: in every history, to the gateway that was in force when the first request was sent;
* `reload_misdirects`: which may be that of older settings than the snapshot, or of newer ones.
-/

import TryConfirmCancel.Proofs.Link.Errand
import TryConfirmCancel.Proofs.Rpc.Posted
import TryConfirmCancel.Proofs.Transaction.Delivery
import TryConfirmCancel.Proofs.Transaction.Occasions

namespace TryConfirmCancel

/-! ### Histories -/

/-- Something that happens at a station. Nothing but the first sending reads the settings in force, so that a change
while an errand waits for its answer is one behind the errand. -/
inductive Event
  | reload (config : Config)
  /-- An errand with the settings of a snapshot, whenever this was taken. -/
  | run (snapshot : Config) (coordinator : String) (errand : Errand) (context : Context)

/-- A request that a station sends: the settings that it was made with, and the station that sends it. -/
structure Dispatch (σ : Type) where
  snapshot : Config
  request : Rpc.Request
  before : Station σ

/-- The request of an occasion. -/
def Occasion.dispatch? {σ : Type} (snapshot : Config) : Occasion (Station σ) → Option (Dispatch σ)
  | .sending request before => some ⟨snapshot, request, before⟩
  | .trying _ _ => none

section Histories

variable {σ : Type} (transport : Rpc.Transport σ)

/-- The station behind an event. -/
def Event.after (station : Station σ) : Event → Station σ
  | .reload config => { station with live := station.live.replace config }
  | .run snapshot coordinator errand context =>
    ((Link.overHttp transport).undertake snapshot coordinator errand context station).world

/-- What an event sends. -/
def Event.dispatches (station : Station σ) : Event → List (Dispatch σ)
  | .reload _ => []
  | .run snapshot coordinator errand context =>
    ((Link.overHttp transport).following.undertake snapshot coordinator errand context
      ⟨station, []⟩).world.occasions.filterMap (Occasion.dispatch? snapshot)

/-- What a history sends. -/
def dispatched : List Event → Station σ → List (Dispatch σ)
  | [], _ => []
  | event :: later, station => event.dispatches transport station ++ dispatched later (event.after transport station)

/-- What is posted for a request. -/
def Dispatch.posted (dispatch : Dispatch σ) : List Rpc.Post :=
  (Rpc.Client.mk transport dispatch.before.clientSettings).posted dispatch.request dispatch.before.world

/-- What is posted for a request is posted by the very call that is made: with what is posted kept, it comes to the
same. -/
def Dispatch.IsFaithful (dispatch : Dispatch σ) : Prop :=
  let client := Rpc.Client.mk transport dispatch.before.clientSettings
  let run := client.tracked.call dispatch.request ⟨dispatch.before.world, []⟩
  run.2.posted = dispatch.posted transport ∧
    (run.1, run.2.world) = client.call dispatch.request dispatch.before.world

theorem Dispatch.isFaithful (dispatch : Dispatch σ) : dispatch.IsFaithful transport :=
  ⟨rfl, Rpc.Client.call_tracked _ dispatch.request ⟨dispatch.before.world, []⟩⟩

/-- The URL of a topic at a gateway. -/
def topicUrl? (gateway topic : String) : Option Rpc.Url :=
  Rpc.Url.parse? (Address.withoutSlashesBehind gateway ++ "/v1/topics/" ++ topic)

/-- For a request to a topic, all that is posted is posted to a gateway. Something is posted, unless the settings leave
no time for requests or HTTP cannot express this one. -/
structure Dispatch.GoesTo (gateway : String) (dispatch : Dispatch σ) : Prop where
  url : ∀ place topic, dispatch.request.target = .topic place topic →
    ∀ post ∈ dispatch.posted transport, topicUrl? gateway topic = some post.url
  posts : dispatch.snapshot.requestTimeoutMs ≠ 0 → ∀ post, Rpc.Post.of? { gateway } dispatch.request = some post →
    post ∈ dispatch.posted transport

/-! ### One event -/

/-- A request that was made with its snapshot, and that is posted with some settings. -/
structure Dispatch.Uses (settings : Rpc.Settings) (dispatch : Dispatch σ) : Prop where
  bounded : IsBounded dispatch.snapshot dispatch.request
  settings_eq : dispatch.before.clientSettings = settings

/-- What an event can do at a station: what it sends, and the station behind it. -/
inductive Event.Happens (station : Station σ) : List (Dispatch σ) → Station σ → Prop
  /-- It sends nothing, and leaves the client as it is. -/
  | quiet {after : Station σ} (kept : after.client? = station.client?) : Happens station [] after
  /-- It sends one request, and leaves the client that this was posted with. -/
  | sent {dispatch : Dispatch σ} {after : Station σ} (before : dispatch.before = station)
      (uses : dispatch.Uses station.clientSettings) (kept : after.client? = some station.clientSettings) :
      Happens station [dispatch] after

theorem Event.happens (event : Event) (station : Station σ) :
    Happens station (event.dispatches transport station) (event.after transport station) := by
  cases event with
  | reload config => exact .quiet rfl
  | run snapshot coordinator errand context =>
    have erased := (Link.overHttp transport).following_erases.undertake snapshot coordinator context
      ⟨station, []⟩ errand
    have sparing := (Link.overHttp transport).following.undertake_isSparing snapshot coordinator context
      ⟨station, []⟩ errand
    rw [dispatches, after, ← erased]
    generalize (Link.overHttp transport).following.undertake snapshot coordinator errand context ⟨station, []⟩
      = step at sparing ⊢
    cases sparing with
    | idle answer kept => exact .quiet rfl
    | @call answer request after sends spent =>
      show Happens station [⟨snapshot, request, station⟩] ((Link.overHttp transport).send request station).2
      exact .sent rfl ⟨sends.isBounded, rfl⟩ rfl

/-! ### Whole histories -/

/-- A station that has a client sends everything with it. -/
theorem dispatched_uses {station : Station σ} {settings : Rpc.Settings} (made : station.client? = some settings)
    (events : List Event) : ∀ dispatch ∈ dispatched transport events station, dispatch.Uses settings := by
  induction events generalizing station with
  | nil => rintro dispatch ⟨⟩
  | cons event later hypothesis =>
    have happens := event.happens transport station
    rw [dispatched]
    generalize event.dispatches transport station = dispatches, event.after transport station = after at happens ⊢
    cases happens with
    | quiet kept => exact hypothesis (kept.trans made)
    | sent before uses kept =>
      have same : station.clientSettings = settings := by rw [Station.clientSettings, made, Option.getD_some]
      rw [same] at uses kept
      intro dispatch inside
      rcases List.mem_cons.mp inside with rfl | behind
      · exact uses
      · exact hypothesis kept dispatch behind

/-- A station without a client makes it when it sends its first request, from the settings that are in force then. -/
theorem dispatched_uses_first {station : Station σ} (unmade : station.client? = none) {events : List Event}
    {first : Dispatch σ} {rest : List (Dispatch σ)} (sent : dispatched transport events station = first :: rest) :
    ∀ dispatch ∈ first :: rest, dispatch.Uses (.ofConfig first.before.live.current) := by
  induction events generalizing station with
  | nil => cases sent
  | cons event later hypothesis =>
    have happens := event.happens transport station
    rw [dispatched] at sent
    generalize event.dispatches transport station = dispatches, event.after transport station = after at happens sent
    cases happens with
    | quiet kept => exact hypothesis (kept.trans unmade) sent
    | sent before uses kept =>
      have fresh : station.clientSettings = .ofConfig station.live.current := by
        rw [Station.clientSettings, unmade, Option.getD_none]
      cases sent
      rw [fresh, ← before] at uses kept
      intro dispatch inside
      rcases List.mem_cons.mp inside with rfl | behind
      · exact uses
      · exact dispatched_uses transport kept later dispatch behind

variable {transport} in
theorem Dispatch.Uses.goesTo {config : Config} {dispatch : Dispatch σ} (uses : dispatch.Uses (.ofConfig config)) :
    dispatch.GoesTo transport config.meshGatewayUrl where
  url place topic aimed post inside := by
    rw [posted, uses.settings_eq] at inside
    have parsed := Rpc.Post.url_of_of? (Rpc.Client.of?_of_mem_posted _ inside)
    rw [aimed] at parsed
    exact parsed
  posts limited post made := by
    have limited' : dispatch.request.timeout ≠ 0 := fun none => limited (uses.bounded.timeout_eq_zero_iff.mp none)
    rw [posted, uses.settings_eq]
    exact Rpc.Client.mem_posted_of_of? _ limited' made

/-- **In every history each request is made with its snapshot, but is posted to the gateway that was in force when
the first request was sent**, whatever the settings in force have changed to and whichever gateway the snapshot
names. -/
theorem dispatched_goTo_first (live : LiveConfig) (world : σ) {events : List Event} {first : Dispatch σ}
    {rest : List (Dispatch σ)} (sent : dispatched transport events (.start live world) = first :: rest) :
    ∀ dispatch ∈ first :: rest, IsBounded dispatch.snapshot dispatch.request ∧ dispatch.IsFaithful transport ∧
      dispatch.GoesTo transport first.before.live.current.meshGatewayUrl := by
  intro dispatch inside
  have uses := dispatched_uses_first transport rfl sent dispatch inside
  exact ⟨uses.bounded, dispatch.isFaithful transport, uses.goesTo⟩

end Histories

/-! ### A gateway that moves -/

/-- Something that is posted for a request to a topic misses the gateway that the snapshot names. -/
def Dispatch.strays {σ : Type} (transport : Rpc.Transport σ) (dispatch : Dispatch σ) : Bool :=
  match dispatch.request.target with
  | .url _ => false
  | .topic _ topic => (dispatch.posted transport).any fun post =>
    decide (topicUrl? dispatch.snapshot.meshGatewayUrl topic ≠ some post.url)

theorem Dispatch.not_goesTo_of_strays {σ : Type} {transport : Rpc.Transport σ} {dispatch : Dispatch σ}
    (strays : dispatch.strays transport = true) :
    ¬ dispatch.GoesTo transport dispatch.snapshot.meshGatewayUrl := by
  intro goes
  unfold Dispatch.strays at strays
  split at strays
  · cases strays
  · rename_i place topic aimed
    obtain ⟨post, inside, missed⟩ := List.any_eq_true.mp strays
    exact of_decide_eq_true missed (goes.url place topic aimed post inside)

/-- Settings of a station in the mesh. -/
def meshSettings (gateway : String) : Config := { shopSettings with commMode := .mesh, meshGatewayUrl := gateway }

/-- A report to a coordinator in the mesh, with the settings of a snapshot. -/
def meshReport (gateway : String) : Event :=
  .run (meshSettings gateway) "acme|shop|dev|east|txn|one|BEGIN|JOIN|END" (.reporting true none ∅) orderContext

/-- A station in the mesh whose coordinator takes two reports without a word. -/
def meshStation : Station Line := .start ⟨meshSettings "http://old"⟩ ⟨0, [none, none]⟩

/-- The gateway moves between two reports: both go where it was. -/
def movedBetween : List Event :=
  [meshReport "http://old", .reload (meshSettings "http://new"), meshReport "http://new"]

/-- The gateway moves while the first report is being made: it goes where the gateway is now. -/
def movedBefore : List Event := [.reload (meshSettings "http://new"), meshReport "http://old"]

example : (dispatched Line.network.transport movedBetween meshStation).map (fun dispatch =>
    (dispatch.snapshot.meshGatewayUrl, (dispatch.posted Line.network.transport).map fun post => post.url.authority))
      = [("http://old", ["old"]), ("http://new", ["old"])] := by
  decide +kernel

/-- Both reports are posted to the gateway that was there first. -/
theorem movedBetween_goTo_first : ∃ first rest,
    dispatched Line.network.transport movedBetween meshStation = first :: rest ∧
    first.before.live.current.meshGatewayUrl = "http://old" ∧
    ∀ dispatch ∈ first :: rest, IsBounded dispatch.snapshot dispatch.request ∧
      dispatch.IsFaithful Line.network.transport ∧
      dispatch.GoesTo Line.network.transport first.before.live.current.meshGatewayUrl := by
  have opening : (dispatched Line.network.transport movedBetween meshStation).head?.map
      (fun dispatch => dispatch.before.live.current.meshGatewayUrl) = some "http://old" := by decide +kernel
  cases sent : dispatched Line.network.transport movedBetween meshStation with
  | nil =>
    rw [sent] at opening
    cases opening
  | cons first rest =>
    rw [sent] at opening
    exact ⟨first, rest, rfl, Option.some.inj opening,
      dispatched_goTo_first Line.network.transport ⟨meshSettings "http://old"⟩ ⟨0, [none, none]⟩ sent⟩

/-- **A change of the settings may come too late for a request, or too early**: one that is made with the new
settings is posted to the old gateway, and one that was made with the old settings to the new one. -/
theorem reload_misdirects :
    (∃ dispatch ∈ dispatched Line.network.transport movedBetween meshStation,
      ¬ dispatch.GoesTo Line.network.transport dispatch.snapshot.meshGatewayUrl) ∧
    ∃ dispatch ∈ dispatched Line.network.transport movedBefore meshStation,
      ¬ dispatch.GoesTo Line.network.transport dispatch.snapshot.meshGatewayUrl := by
  have late : ((dispatched Line.network.transport movedBetween meshStation).any
      (Dispatch.strays Line.network.transport)) = true := by decide +kernel
  have early : ((dispatched Line.network.transport movedBefore meshStation).any
      (Dispatch.strays Line.network.transport)) = true := by decide +kernel
  obtain ⟨behind, sent, strays⟩ := List.any_eq_true.mp late
  obtain ⟨before, sent', strays'⟩ := List.any_eq_true.mp early
  exact ⟨⟨behind, sent, Dispatch.not_goesTo_of_strays strays⟩,
    ⟨before, sent', Dispatch.not_goesTo_of_strays strays'⟩⟩

end TryConfirmCancel
