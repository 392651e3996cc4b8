/-
**The address at which the coordinator calls a participant back.**

It is a text of fields with bars between them: the name of the mode, in the mode of URLs the base URL,
and what names the Confirm and the Cancel method; a method that the service lacks has an empty field.

* `Participant.build`: the address that a deployment advertises for a service;
* `Participant.encode`, `Participant.parse`: its text;
* `Participant.confirmUrl?`, `Participant.cancelUrl?`: the URLs of the callbacks.
-/

import TryConfirmCancel.Address.Fault
import TryConfirmCancel.Address.Join
import TryConfirmCancel.Config.Basic
import TryConfirmCancel.Service.Flags
import TryConfirmCancel.Text.Fields

namespace TryConfirmCancel

/-- Where the coordinator calls a participant back. -/
structure Participant where
  mode : CommMode
  /-- Empty in the mode of topics. -/
  baseUrl : String
  /-- A path or a topic, empty without a Confirm method. -/
  confirm : String
  /-- A path or a topic, empty without a Cancel method. -/
  cancel : String
  deriving DecidableEq, Repr, Inhabited

namespace Participant

/-- A name for a method that exists. -/
def named (present : Bool) (name : String) : String := if present then name else ""

/-- The address that a deployment advertises for a service. A direct one names URLs of the macro
service whatever the mode is. -/
def build (config : Config) (flags : Flags) (direct : Bool) : Participant :=
  if direct || config.commMode == .http then
    { mode := .http
      baseUrl := if direct then config.macroServiceBaseUrl else config.participantBaseUrl
      confirm := named flags.hasConfirm config.confirmPath
      cancel := named flags.hasCancel config.cancelPath }
  else
    { mode := .mesh
      baseUrl := ""
      confirm := named flags.hasConfirm config.confirmEventId
      cancel := named flags.hasCancel config.cancelEventId }

/-- The fields behind the name of the mode. -/
def places (address : Participant) : List String :=
  match address.mode with
  | .http => [address.baseUrl, address.confirm, address.cancel]
  | .mesh => [address.confirm, address.cancel]

def encode (address : Participant) : String := Text.join '|' (address.mode.name :: address.places)

/-- The address that fields behind the name of the mode make. -/
def ofPlaces? : CommMode → List String → Option Participant
  | .http, [baseUrl, confirm, cancel] => some ⟨.http, baseUrl, confirm, cancel⟩
  | .mesh, [confirm, cancel] => some ⟨.mesh, "", confirm, cancel⟩
  | _, _ => none

/-- Reads an address. Its mode may be spelt in any way that settings allow; the other fields are taken
as they stand. -/
def parse (text : String) : Except AddressFault Participant :=
  let fields := Text.split '|' text
  match CommMode.parse (fields.headD "") with
  | .error fault => .error (.participantMode fault text)
  | .ok mode =>
    match ofPlaces? mode fields.tail with
    | some address => .ok address
    | none => .error (.participantFields mode fields.length text)

/-- The URL of a callback, if it has a path. -/
def callbackUrl? (address : Participant) (path : String) : Option String :=
  if address.mode == .http && !path.isEmpty then some (Address.join address.baseUrl path) else none

def confirmUrl? (address : Participant) : Option String := address.callbackUrl? address.confirm

def cancelUrl? (address : Participant) : Option String := address.callbackUrl? address.cancel

end Participant

end TryConfirmCancel
