/-
**A hop is called back in the way in which it calls.**

What a hop sends to enter a transaction tells the coordinator where to call it back. Where the request goes, what
address it tells, and what the command line prints as this address are worked out separately.

* `HasUrlShape`, `HasTopicShape`: the two shapes of an address; no address has both;
* `LivesHere`: the coordinator lives in the instance that the settings describe;
* `Agrees`: a target and an address fit each other, and both are those of the macro service just if the coordinator
  lives here;
* `enterBy_agrees`: so do the target and the address of every request to enter, and the command line prints the
  address that is told to the configured coordinator.
-/

import TryConfirmCancel.CommandLine
import TryConfirmCancel.Proofs.Address.Coordinators
import TryConfirmCancel.Proofs.Address.Participants
import TryConfirmCancel.Proofs.Transaction.Sequence

namespace TryConfirmCancel

/-! ### The shape of an address -/

/-- A mode, a base URL and a field for each method of the second stage. -/
def HasUrlShape (address : String) : Prop :=
  ∃ base confirm cancel, address = Text.join '|' ["http", base, confirm, cancel]

/-- A mode and a field for each method of the second stage. -/
def HasTopicShape (address : String) : Prop := ∃ confirm cancel, address = Text.join '|' ["mesh", confirm, cancel]

theorem head_split_join {first : String} (free : '|' ∉ first.toList) (rest : List String) :
    (Text.split '|' (Text.join '|' (first :: rest))).head? = some first := by
  rw [Text.split_join '|' (List.cons_ne_nil _ _), List.flatMap_cons, Text.split_of_not_mem free]
  rfl

/-- The shape of an address shows in its first field. -/
theorem HasUrlShape.not_topics {address : String} (urls : HasUrlShape address) : ¬ HasTopicShape address := by
  rintro ⟨confirm', cancel', topics⟩
  obtain ⟨base, confirm, cancel, rfl⟩ := urls
  have first := congrArg (fun text => (Text.split '|' text).head?) topics
  rw [head_split_join (by decide), head_split_join (by decide)] at first
  exact absurd first (by decide)

/-! ### Whether the coordinator lives here -/

/-- The coordinator of an address lives in the instance that the settings describe: calls go over the mesh, there is a
macro service, and the sixth field of the address names the instance, up to the white space around it. -/
structure LivesHere (config : Config) (coordinator : String) : Prop where
  mesh : config.commMode = .mesh
  macroService : config.macroService = true
  named : config.localInstanceId ≠ ""
  same : ((Text.split '|' coordinator)[5]?).map Text.trim = some config.localInstanceId

section Routes

variable {config : Config} {coordinator : String} {route : Route}

/-- A route leads to the address that was read. -/
theorem Route.resolve_eq_ok_iff : Route.resolve config coordinator = .ok route ↔
    Coordinator.parse config.commMode coordinator = .ok route.address ∧
      route.isDirect = Route.isLocal config route.address := by
  rw [resolve]
  cases Coordinator.parse config.commMode coordinator with
  | error fault => simp [Except.map]
  | ok address =>
    obtain ⟨target, direct⟩ := route
    simp only [Except.map, Except.ok.injEq, mk.injEq]
    constructor
    · rintro ⟨rfl, rfl⟩
      exact ⟨rfl, rfl⟩
    · rintro ⟨rfl, rfl⟩
      exact ⟨rfl, rfl⟩

/-- **A route is direct just if the coordinator lives here.** -/
theorem isDirect_iff (resolved : Route.resolve config coordinator = .ok route) :
    route.isDirect = true ↔ LivesHere config coordinator := by
  obtain ⟨read, direct⟩ := Route.resolve_eq_ok_iff.mp resolved
  obtain ⟨mode, fields⟩ := (Coordinator.parse_eq_ok_iff.mp read).1.fields_eq
  have sixth : ((Text.split '|' coordinator)[5]?).map Text.trim = route.address.fields[5]? := by
    rw [fields, Coordinator.fieldsOf, List.getElem?_map]
  rw [direct, Route.isLocal]
  cases address : route.address with
  | urls base paths =>
    rw [address] at mode
    refine iff_of_false (by simp [Coordinator.instanceId?]) fun here => ?_
    cases mode.trans here.mesh
  | topics place names =>
    rw [address] at mode sixth
    have instanceId : (Coordinator.topics place names).fields[5]? = some place.instanceId := rfl
    rw [instanceId] at sixth
    simp only [Coordinator.instanceId?, Bool.and_eq_true, Bool.not_eq_true', String.isEmpty_eq_false_iff, beq_iff_eq]
    constructor
    · rintro ⟨⟨macroService, named⟩, same⟩
      exact ⟨mode.symm, macroService, named, sixth.trans same⟩
    · rintro ⟨-, macroService, named, same⟩
      exact ⟨⟨macroService, named⟩, sixth.symm.trans same⟩

end Routes

/-! ### Targets and addresses that fit each other -/

section Addresses

variable (config : Config) (flags : Flags)

/-- The fields of the address that a deployment has of its own. -/
def Config.ownAddress : List String :=
  match config.commMode with
  | .http => ["http", config.participantBaseUrl, Participant.named flags.hasConfirm config.confirmPath,
      Participant.named flags.hasCancel config.cancelPath]
  | .mesh => ["mesh", Participant.named flags.hasConfirm config.confirmEventId,
      Participant.named flags.hasCancel config.cancelEventId]

/-- The fields of the address that a deployment has below its macro service. -/
def Config.macroAddress : List String :=
  ["http", config.macroServiceBaseUrl, Participant.named flags.hasConfirm config.confirmPath,
    Participant.named flags.hasCancel config.cancelPath]

theorem Participant.encode_build_direct :
    (build config flags true).encode = Text.join '|' (config.macroAddress flags) := rfl

theorem Participant.encode_build_own :
    (build config flags false).encode = Text.join '|' (config.ownAddress flags) := by
  rw [build, Config.ownAddress]
  cases config.commMode <;> rfl

variable {config flags} in
/-- Only the methods of a service count for its address. -/
theorem Participant.build_congr {other : Flags} (confirm : other.hasConfirm = flags.hasConfirm)
    (cancel : other.hasCancel = flags.hasCancel) (direct : Bool) :
    build config other direct = build config flags direct := by
  rw [build, build, confirm, cancel]

end Addresses

/-- A target and an address fit each other. Both are those of the macro service if the coordinator lives here, and
otherwise the target is the coordinator's own and the address the deployment's own. -/
structure Agrees (config : Config) (coordinator : String) (flags : Flags) (operation : Operation)
    (target : Rpc.Target) (address : String) : Prop where
  urls : (∃ url, target = .url url) ↔ HasUrlShape address
  topics : (∃ place topic, target = .topic place topic) ↔ HasTopicShape address
  /-- In the mesh, this is what makes the difference. -/
  mesh : config.commMode = .mesh → (HasUrlShape address ↔ LivesHere config coordinator)
  here : LivesHere config coordinator → ∃ known, Coordinator.parse config.commMode coordinator = .ok known ∧
    target = .url (Address.join config.macroServiceBaseUrl (known.endpoint operation)) ∧
    address = Text.join '|' (config.macroAddress flags)
  elsewhere : ¬ LivesHere config coordinator → ∃ known, Coordinator.parse config.commMode coordinator = .ok known ∧
    target = known.target operation ∧ address = Text.join '|' (config.ownAddress flags)

section Agreement

variable {config : Config} {coordinator : String} {route : Route}

/-- A target and an address that are both of URLs or both of topics have the shapes that go with this. -/
theorem shapes_of_urls (url : String) {address : String} (shape : HasUrlShape address) :
    ((∃ found, Rpc.Target.url url = .url found) ↔ HasUrlShape address) ∧
      ((∃ place topic, Rpc.Target.url url = .topic place topic) ↔ HasTopicShape address) :=
  ⟨iff_of_true ⟨url, rfl⟩ shape, iff_of_false (by rintro ⟨_, _, ⟨⟩⟩) shape.not_topics⟩

theorem shapes_of_topics (place : MeshPlace) (topic : String) {address : String}
    (shape : HasTopicShape address) :
    ((∃ found, Rpc.Target.topic place topic = .url found) ↔ HasUrlShape address) ∧
      ((∃ at_ name, Rpc.Target.topic place topic = .topic at_ name) ↔ HasTopicShape address) :=
  ⟨iff_of_false (by rintro ⟨_, ⟨⟩⟩) fun urls => urls.not_topics shape, iff_of_true ⟨place, topic, rfl⟩ shape⟩

/-- **What a route leads to and what is advertised on it agree.** -/
theorem agrees_of_resolve (resolved : Route.resolve config coordinator = .ok route) (flags : Flags)
    (operation : Operation) : Agrees config coordinator flags operation (route.target config operation)
      (Participant.build config flags route.isDirect).encode := by
  have local_iff := isDirect_iff resolved
  obtain ⟨read, -⟩ := Route.resolve_eq_ok_iff.mp resolved
  obtain ⟨mode, -⟩ := (Coordinator.parse_eq_ok_iff.mp read).1.fields_eq
  rw [Route.target]
  cases direct : route.isDirect with
  | true =>
    have here := local_iff.mp direct
    have shape : HasUrlShape (Participant.build config flags true).encode := ⟨_, _, _, rfl⟩
    obtain ⟨urls, topics⟩ :=
      shapes_of_urls (Address.join config.macroServiceBaseUrl (route.address.endpoint operation)) shape
    exact ⟨urls, topics, fun _ => iff_of_true shape here,
      fun _ => ⟨route.address, read, rfl, Participant.encode_build_direct ..⟩,
      fun elsewhere => absurd here elsewhere⟩
  | false =>
    have elsewhere : ¬ LivesHere config coordinator := fun here => by cases direct.symm.trans (local_iff.mpr here)
    rw [if_neg Bool.false_ne_true, Participant.encode_build_own]
    have own : ∃ known, Coordinator.parse config.commMode coordinator = .ok known ∧
        route.address.target operation = known.target operation ∧
        Text.join '|' (config.ownAddress flags) = Text.join '|' (config.ownAddress flags) :=
      ⟨route.address, read, rfl, rfl⟩
    cases address : route.address with
    | urls base paths =>
      have http : config.commMode = .http := by rw [← mode, address]; rfl
      have shape : HasUrlShape (Text.join '|' (config.ownAddress flags)) := by
        rw [Config.ownAddress, http]
        exact ⟨_, _, _, rfl⟩
      obtain ⟨urls, topics⟩ := shapes_of_urls (Address.join base (paths.of operation)) shape
      refine ⟨urls, topics, fun mesh => ?_, fun here => absurd here elsewhere, fun _ => address ▸ own⟩
      cases http.symm.trans mesh
    | topics place names =>
      have mesh : config.commMode = .mesh := by rw [← mode, address]; rfl
      have shape : HasTopicShape (Text.join '|' (config.ownAddress flags)) := by
        rw [Config.ownAddress, mesh]
        exact ⟨_, _, rfl⟩
      obtain ⟨urls, topics⟩ := shapes_of_topics place (names.of operation) shape
      exact ⟨urls, topics, fun _ => iff_of_false (fun urls => urls.not_topics shape) elsewhere,
        fun here => absurd here elsewhere, fun _ => address ▸ own⟩

end Agreement

/-! ### What is printed -/

/-- The command line prints an address for the configuration: from any file that holds it, and any arguments that name
the file and say of each method of the second stage whether the service has it. -/
def IsPrinted (config : Config) (flags : Flags) (address : String) : Prop :=
  ∀ (read : String → Except FileFault Bytes) (lookUp : String → Option String) (arguments : List String) (path : String)
    (asked : Flags), Config.ofFile path (read path) = .ok config →
    CommandLine.Invocation.of lookUp arguments = .run (.participantAddress path asked) →
    asked.hasConfirm = flags.hasConfirm → asked.hasCancel = flags.hasCancel →
    (CommandLine.Invocation.of lookUp arguments).outcome read = .success address

/-- The command line prints the address that is advertised on the way to the configured coordinator. -/
theorem isPrinted_of_resolve {config : Config} {route : Route}
    (resolved : Route.resolve config config.coordinatorAddress = .ok route) (flags : Flags) :
    IsPrinted config flags (Participant.build config flags route.isDirect).encode := by
  intro read lookUp arguments path asked found invoked confirm cancel
  have advertised : CommandLine.advertised config asked = Participant.build config flags route.isDirect := by
    rw [CommandLine.advertised, resolved]
    exact Participant.build_congr confirm cancel route.isDirect
  rw [invoked, ← advertised]
  show CommandLine.withConfig path (read path) _ = _
  rw [CommandLine.withConfig, found]

/-! ### Requests to enter -/

/-- What an enrolment tells as its address. -/
theorem enrolment_participantAddress (entrant : Entrant) (entry : Entry) (config : Config) (route : Route)
    (context : Context) (time : Nanoseconds) :
    (entrant.enrolment entry config route context time).participantAddress
      = (Participant.build config entrant.flags route.isDirect).encode := by
  cases entry <;> rfl

/-- What is sent to enter tells an address that agrees with its target and, at the configured coordinator, with what
the command line prints. -/
theorem Enrols.agrees {config : Config} {coordinator : String} {entrant : Entrant} {context : Context} {entry : Entry}
    {request : Rpc.Request} (enrols : Enrols config coordinator entrant context entry request) :
    ∃ message, request.asked? = some (.enrolment entry message entrant.parameters.toBytes) ∧
      Agrees config coordinator entrant.flags entry.operation request.target message.participantAddress ∧
      (coordinator = config.coordinatorAddress → IsPrinted config entrant.flags message.participantAddress) := by
  obtain ⟨route, time, resolved, target, asked⟩ := enrols
  refine ⟨_, asked, ?_, ?_⟩
  · rw [target, enrolment_participantAddress]
    exact agrees_of_resolve resolved entrant.flags entry.operation
  · rintro rfl
    rw [enrolment_participantAddress]
    exact isPrinted_of_resolve resolved entrant.flags

section Entering

variable {σ : Type} (link : Link σ) (entry : Entry) (config : Config) (coordinator : String) (entrant : Entrant)
  (context : Context) (world : σ)

/-- An enrolment that does not fit into a body, or for which no time is left. -/
def IsUnsendable (entry : Entry) (config : Config) (entrant : Entrant) (route : Route) (context : Context)
    (time : Nanoseconds) : Prop :=
  context.span.budget = 0 ∨
    ∃ fault, entrant.body entry.service (entrant.enrolment entry config route context time) = .error fault

/-- On a way to a coordinator, one request to enter is sent, unless it cannot be. -/
theorem Link.enterBy_sends {route : Route} (resolved : Route.resolve config coordinator = .ok route) :
    (IsUnsendable entry config entrant route context (link.now world) ∧
      ∃ failure, link.enterBy entry config coordinator entrant context world = ⟨.error failure, context, world⟩) ∨
    ∃ request, Enrols config coordinator entrant context entry request ∧
      (link.enterBy entry config coordinator entrant context world).world = (link.send request world).2 := by
  unfold enterBy
  simp only [resolved]
  unfold enrol
  cases made : entrant.body entry.service (entrant.enrolment entry config route context (link.now world)) with
  | error fault => exact .inl ⟨.inr ⟨fault, made⟩, _, rfl⟩
  | ok body =>
    rcases link.request_cases config context world entry.operation (route.target config entry.operation) .text body ∅
      with ⟨spent, same⟩ | ⟨request, shape, -, same⟩
    · simp only [same]
      exact .inl ⟨.inl spent, _, rfl⟩
    · simp only [same]
      refine .inr ⟨request, ?_, ?_⟩
      · rw [shape]
        exact ⟨route, _, resolved, rfl, asked?_enrolment made⟩
      · split <;> rfl

end Entering

/-- **A hop is called back in the way in which it calls.** On every way to a coordinator a request to begin or to join
is sent, unless it cannot be. Its target and the address that it tells are both of URLs or both of topics, and are those
of the macro service just if the coordinator lives here. The address that is told to the configured coordinator is the
one that the command line prints. -/
theorem enterBy_agrees {σ α : Type} (link : Link σ) (entry : Entry) (config : Config) (coordinator : String)
    (entrant : Entrant) (context : Context) (world : σ) {route : Route}
    (resolved : Route.resolve config coordinator = .ok route) :
    let step := link.journalled.enterBy entry config coordinator entrant context (⟨world, []⟩ : Journalled σ α)
    step.erased = link.enterBy entry config coordinator entrant context world ∧
    ((IsUnsendable entry config entrant route context (link.now world) ∧ step.world.journal = [] ∧
        ∃ failure, step.answer = .error failure) ∨
      ∃ request outcome message, step.world.journal = [.sent request outcome] ∧
        request.asked? = some (.enrolment entry message entrant.parameters.toBytes) ∧
        Agrees config coordinator entrant.flags entry.operation request.target message.participantAddress ∧
        (coordinator = config.coordinatorAddress → IsPrinted config entrant.flags message.participantAddress)) := by
  refine ⟨link.journalled_covers.enterBy config context ⟨world, []⟩ entry coordinator entrant, ?_⟩
  rcases link.journalled.enterBy_sends entry config coordinator entrant context (⟨world, []⟩ : Journalled σ α) resolved
    with ⟨unsendable, failure, same⟩ | ⟨request, enrols, same⟩
  · rw [same]
    exact .inl ⟨unsendable, rfl, failure, rfl⟩
  · obtain ⟨message, asked, agrees, printed⟩ := enrols.agrees
    rw [same]
    exact .inr ⟨request, (link.send request world).1, message, rfl, asked, agrees, printed⟩

/-! ### A coordinator in the same instance -/

/-- The configuration of a deployment whose coordinator lives with it in one instance. -/
def hereText : String :=
  "\x7b\"comm_mode\":\"mesh\",\"coordinator_address\":\"acme|shop|dev|east|txn| one |BEGIN|JOIN|END\"," ++
    "\"macro_service\":true,\"macro_service_base_url\":\"http://here/\",\"local_instance_id\":\"one\"\x7d"

def hereConfig : Config :=
  { commMode := .mesh, coordinatorAddress := "acme|shop|dev|east|txn| one |BEGIN|JOIN|END", macroService := true
    macroServiceBaseUrl := "http://here/", localInstanceId := "one" }

set_option maxRecDepth 10000 in
theorem ofFile_hereText : Config.ofFile "txn.json" (.ok (Utf8.ofText hereText)) = .ok hereConfig := by
  rfl

/-- The way to the coordinator in the same instance. -/
def hereRoute : Route :=
  ⟨.topics ⟨"acme", "shop", "dev", "east", "txn", "one"⟩ ⟨"BEGIN", "JOIN", "END"⟩, true⟩

/-- A service with a Cancel method only. -/
def hereEntrant : Entrant := ⟨"orders", .cancel, ⟨[]⟩⟩

/-- The order begins at the macro service, tells an address there, and the command line prints this address. -/
theorem hereConfig_agrees : Route.resolve hereConfig hereConfig.coordinatorAddress = .ok hereRoute ∧
    LivesHere hereConfig hereConfig.coordinatorAddress ∧ ∃ request outcome message,
      (Rehearsal.link.journalled.enterBy .beginning hereConfig hereConfig.coordinatorAddress hereEntrant orderContext
        (⟨shopOpens, []⟩ : Journalled (Rehearsal Unit) Unit)).world.journal = [.sent request outcome] ∧
      request.asked? = some (.enrolment .beginning message hereEntrant.parameters.toBytes) ∧
      request.target = .url "http://here/BEGIN" ∧ message.participantAddress = "http|http://here/||/v1/txn/cancel" ∧
      (CommandLine.Invocation.of (fun _ => none) ["participant-address", "--cancel", "-c", "txn.json"]).outcome
        (fun _ => .ok (Utf8.ofText hereText)) = .success "http|http://here/||/v1/txn/cancel" := by
  have resolved : Route.resolve hereConfig hereConfig.coordinatorAddress = .ok hereRoute := by rfl
  have here : LivesHere hereConfig hereConfig.coordinatorAddress := (isDirect_iff resolved).mp rfl
  refine ⟨resolved, here, ?_⟩
  have sent : (Rehearsal.link.journalled.enterBy .beginning hereConfig hereConfig.coordinatorAddress hereEntrant
      orderContext (⟨shopOpens, []⟩ : Journalled (Rehearsal Unit) Unit)).world.journal.length = 1 := by decide +kernel
  obtain ⟨-, ⟨-, unsent, -⟩ | ⟨request, outcome, message, journal, asked, agrees, printed⟩⟩ :=
    @enterBy_agrees _ Unit Rehearsal.link .beginning hereConfig hereConfig.coordinatorAddress hereEntrant orderContext
      shopOpens _ resolved
  · rw [unsent] at sent
    cases sent
  · obtain ⟨known, read, target, address⟩ := agrees.here here
    obtain rfl : hereRoute.address = known := Except.ok.inj ((Route.resolve_eq_ok_iff.mp resolved).1.symm.trans read)
    have url : Address.join hereConfig.macroServiceBaseUrl (hereRoute.address.endpoint .begin)
        = "http://here/BEGIN" := by decide +kernel
    have told : Text.join '|' (hereConfig.macroAddress .cancel) = "http|http://here/||/v1/txn/cancel" := by
      decide +kernel
    have invoked : CommandLine.Invocation.of (fun _ => none) ["participant-address", "--cancel", "-c", "txn.json"]
        = .run (.participantAddress "txn.json" .cancel) := by decide +kernel
    have shown := printed rfl (fun _ => .ok (Utf8.ofText hereText)) _ _ _ _ ofFile_hereText invoked rfl rfl
    rw [address.trans told] at shown
    exact ⟨request, outcome, message, journal, asked, target.trans (congrArg _ url), address.trans told, shown⟩

end TryConfirmCancel
