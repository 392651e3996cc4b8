/-
**The command line.**

It inspects the settings of a deployment without talking to a coordinator.

* `Invocation.of`: what a list of arguments asks for. An option that takes a value has it attached or
  as the next argument; what begins with a hyphen is an option unless `--` stands before it;
* `Command.run`: what a command prints, given the content of its configuration file.
-/

import TryConfirmCancel.Address.Participant
import TryConfirmCancel.Address.Route
import TryConfirmCancel.Config.Document

namespace TryConfirmCancel.CommandLine

/-- What can be asked for. -/
inductive Command
  /-- The endpoints of the coordinator that a configuration names. -/
  | check (config : String)
  /-- The address that a deployment advertises for a service. -/
  | participantAddress (config : String) (flags : Flags)
  /-- The fields of a participant's address. -/
  | parseAddress (address : String)
  deriving DecidableEq, Repr, Inhabited

/-- What a list of arguments asks for. -/
inductive Invocation
  | run (command : Command)
  | version
  | help
  | misuse
  deriving DecidableEq, Repr, Inhabited

/-! ### Reading arguments -/

/-- What a command takes. -/
structure Shape where
  takesConfig : Bool
  takesMethods : Bool
  takesValue : Bool

/-- What has been given so far. -/
structure Given where
  config : Option String := none
  confirm : Bool := false
  cancel : Bool := false
  value : Option String := none

/-- Why reading stops early. -/
inductive Stop
  | help
  | misuse

namespace Given

/-- A configuration file, which is named once and not by the empty text. -/
def withConfig (given : Given) (path : String) : Except Stop Given :=
  if given.config.isSome || path.isEmpty then .error .misuse else .ok { given with config := some path }

/-- The service has a Confirm method, which is said once. -/
def withConfirm (given : Given) : Except Stop Given :=
  if given.confirm then .error .misuse else .ok { given with confirm := true }

/-- The service has a Cancel method, which is said once. -/
def withCancel (given : Given) : Except Stop Given :=
  if given.cancel then .error .misuse else .ok { given with cancel := true }

/-- A value, of which there is one at most. -/
def withValue (given : Given) (shape : Shape) (value : String) : Except Stop Given :=
  if shape.takesValue && given.value.isNone then .ok { given with value := some value }
  else .error .misuse

end Given

/-- An argument that is no value unless `--` stands before it. -/
def isOption (argument : String) : Bool :=
  match argument.toList with
  | ['-'] => false
  | '-' :: _ => true
  | _ => false

/-- One argument taken apart. -/
inductive Piece
  /-- Everything behind it is a value. -/
  | onlyValues
  /-- An option with what is attached to it. -/
  | option (name : String) (attached : Option String)
  | value (text : String)

def Piece.of (argument : String) : Piece :=
  match argument.toList with
  | ['-', '-'] => .onlyValues
  | '-' :: '-' :: rest =>
    match rest.dropWhile fun char => char != '=' with
    | [] => .option (.ofList rest) none
    | _ :: attached => .option (.ofList (rest.takeWhile fun char => char != '=')) (some (.ofList attached))
  | ['-', letter] => .option (.singleton letter) none
  | '-' :: letter :: '=' :: attached => .option (.singleton letter) (some (.ofList attached))
  | '-' :: letter :: attached => .option (.singleton letter) (some (.ofList attached))
  | _ => .value argument

/-- Reads arguments that are all values. -/
def readValues (shape : Shape) (given : Given) (arguments : List String) : Except Stop Given :=
  arguments.foldlM (fun given argument => given.withValue shape argument) given

def bare (attached : Option String) (given : Except Stop Given) : Except Stop Given :=
  if attached.isSome then .error .misuse else given

/-- Reads the arguments of a command. -/
def readArguments (shape : Shape) (given : Given) : List String → Except Stop Given
  | [] => .ok given
  | argument :: rest =>
    match Piece.of argument with
    | .onlyValues => readValues shape given rest
    | .value text => do readArguments shape (← given.withValue shape text) rest
    | .option name attached =>
      if shape.takesConfig && (name == "config" || name == "c") then
        match attached, rest with
        | some path, rest => do readArguments shape (← given.withConfig path) rest
        | none, [] => .error .misuse
        | none, path :: rest => do
          if isOption path then .error .misuse
          readArguments shape (← given.withConfig path) rest
      else if shape.takesMethods && name == "confirm" then do
        readArguments shape (← bare attached given.withConfirm) rest
      else if shape.takesMethods && name == "cancel" then do
        readArguments shape (← bare attached given.withCancel) rest
      else if name == "h" || (name == "help" && attached.isNone) then .error .help
      else .error .misuse

/-! ### What is asked for -/

/-- The variable that names the configuration file if no option does. -/
def configVariable : String := "MESH_TXN_CONFIG"

/-- The command that given arguments make. -/
def commandOf (given : Except Stop Given) (build : Given → Option Command) : Invocation :=
  match given with
  | .error .help => .help
  | .error .misuse => .misuse
  | .ok given =>
    match build given with
    | some command => .run command
    | none => .misuse

/-- Flags for the methods that a service has. -/
def Given.flags (given : Given) : Flags :=
  let confirm := if given.confirm then Flags.none.join .confirm else .none
  if given.cancel then confirm.join .cancel else confirm

/-- Letters behind a hyphen of which the first asks for the version. -/
def asksVersion (argument : String) : Bool :=
  argument == "--version" || "-V".toList.isPrefixOf argument.toList

/-- Letters behind a hyphen of which the first asks for help. -/
def asksHelp (argument : String) : Bool :=
  argument == "--help" || "-h".toList.isPrefixOf argument.toList

/-- Help is about the program or about one of its commands, and help is one of them. -/
def helpAbout : List String → Invocation
  | [] => .help
  | [name] => if ["check", "participant-address", "parse-address", "help"].contains name then .help else .misuse
  | _ => .misuse

/-- What a list of arguments asks for; `lookUp` finds a variable of the environment. -/
def Invocation.of (lookUp : String → Option String) (arguments : List String) : Invocation :=
  let config (given : Given) : Option String :=
    (given.config.or (lookUp configVariable)).filter fun path => !path.isEmpty
  match arguments with
  | [] => .misuse
  | name :: rest =>
    if asksVersion name then .version
    else if asksHelp name then .help
    else if name == "help" then helpAbout rest
    else if name == "check" then
      commandOf (readArguments ⟨true, false, false⟩ {} rest) fun given => (config given).map .check
    else if name == "participant-address" then
      commandOf (readArguments ⟨true, true, false⟩ {} rest) fun given =>
        (config given).map fun path => .participantAddress path given.flags
    else if name == "parse-address" then
      commandOf (readArguments ⟨false, false, true⟩ {} rest) fun given => given.value.map .parseAddress
    else .misuse

/-! ### What is printed -/

/-- What a command leaves behind. -/
structure Outcome where
  code : Nat
  output : String
  errors : String
  deriving DecidableEq, Repr, Inhabited

/-- A command that worked prints one text. -/
def Outcome.success (text : String) : Outcome := ⟨0, text ++ "\n", ""⟩

/-- A command that failed, with the reason behind the message if there is one. -/
def Outcome.failure (message : String) (cause : Option String) : Outcome :=
  let behind := match cause with
    | none => ""
    | some text => "\n\nCaused by:\n    " ++ text
  ⟨1, "", "Error: " ++ message ++ behind ++ "\n"⟩

def Outcome.ofConfigFault (fault : ConfigFault) : Outcome :=
  match fault with
  | .unreadable reason => .failure fault.message (some reason.message)
  | _ => .failure fault.message none

def Outcome.ofAddressFault (fault : AddressFault) : Outcome := .failure fault.failure.message none

/-- Where a request goes, as an object. -/
def describe : Rpc.Target → Json.Value
  | .url url => .object [("url", .string url)]
  | .topic place topic =>
    .object
      [("topic", .string topic), ("org", .string place.org), ("workspace", .string place.workspace),
        ("env", .string place.env), ("unit", .string place.unit), ("node_id", .string place.nodeId),
        ("instance_id", .string place.instanceId)]

def describeRoute (config : Config) (route : Route) : Json.Value :=
  let endpoints := Operation.all.map fun operation =>
    (operation.name, describe (route.target config operation))
  .object
    [("mode", .string config.commMode.name), ("coordinator", .string route.address.encode),
      ("instance_id", .ofText? route.address.instanceId?), ("macro_service_override", .bool route.isDirect),
      ("endpoints", .object endpoints)]

/-- The fields of a participant's address. -/
def describeParticipant (address : Participant) : Json.Value :=
  .object
    [("mode", .string address.mode.name), ("base_url", .string address.baseUrl),
      ("confirm", .string address.confirm), ("cancel", .string address.cancel),
      ("confirm_url", .ofText? address.confirmUrl?), ("cancel_url", .ofText? address.cancelUrl?)]

/-- The address that a deployment advertises; a coordinator that cannot be resolved is none of its own. -/
def advertised (config : Config) (flags : Flags) : Participant :=
  let direct := match Route.resolve config config.coordinatorAddress with
    | .ok route => route.isDirect
    | .error _ => false
  Participant.build config flags direct

def withConfig (path : String) (content : Except FileFault Bytes) (print : Config → Outcome) : Outcome :=
  match Config.ofFile path content with
  | .error fault => .ofConfigFault fault
  | .ok config => print config

/-- What a command prints; `read` gives the content of a file. -/
def Command.run (read : String → Except FileFault Bytes) : Command → Outcome
  | .check path => withConfig path (read path) fun config =>
    match Route.resolve config config.coordinatorAddress with
    | .error fault => .ofAddressFault fault
    | .ok route => .success (describeRoute config route).ordered.pretty
  | .participantAddress path flags => withConfig path (read path) fun config =>
    .success (advertised config flags).encode
  | .parseAddress text =>
    match Participant.parse text with
    | .error fault => .ofAddressFault fault
    | .ok address => .success (describeParticipant address).ordered.pretty

def usage : String := "Usage: mesh-tcc <check|participant-address|parse-address> [arguments]\n"

/-- The name and the version of the program. -/
def versionText : String := "mesh-tcc 0.5.0"

def Invocation.outcome (read : String → Except FileFault Bytes) : Invocation → Outcome
  | .run command => command.run read
  | .version => .success versionText
  | .help => ⟨0, usage, ""⟩
  | .misuse => ⟨2, "", usage⟩

/-- The configuration file that an invocation reads. -/
def Invocation.file? : Invocation → Option String
  | .run (.check path) => some path
  | .run (.participantAddress path _) => some path
  | _ => none

end TryConfirmCancel.CommandLine
