/-
**The address of a coordinator.**

It is a text of fields with bars between them: in the mode of URLs a base URL and a path for each
operation, in the mode of topics the place of an instance and a topic for each operation.

* `Coordinator.parse`: the fields are trimmed; their number must fit the mode, and none may be blank;
* `Coordinator.encode`: the fields with bars between them;
* `Coordinator.target`: where a request for an operation goes.
-/

import TryConfirmCancel.Address.Fault
import TryConfirmCancel.Address.Join
import TryConfirmCancel.Rpc.Request
import TryConfirmCancel.Text.Fields

namespace TryConfirmCancel

/-- A path or a topic for each operation. -/
structure Endpoints where
  begin : String
  join : String
  finish : String
  deriving DecidableEq, Repr, Inhabited

def Endpoints.of (endpoints : Endpoints) : Operation → String
  | .begin => endpoints.begin
  | .join => endpoints.join
  | .finish => endpoints.finish

/-- The address of a coordinator. -/
inductive Coordinator
  /-- Paths below a base URL. -/
  | urls (base : String) (paths : Endpoints)
  /-- Topics of an instance in the mesh. -/
  | topics (place : MeshPlace) (topics : Endpoints)
  deriving DecidableEq, Repr, Inhabited

namespace Coordinator

/-- The fields of an address, trimmed. -/
def fieldsOf (text : String) : List String := (Text.split '|' text).map Text.trim

/-- The address that as many fields make as the mode asks for. -/
def ofFields? : CommMode → List String → Option Coordinator
  | .http, [base, begin, join, finish] => some (.urls base ⟨begin, join, finish⟩)
  | .mesh, [org, workspace, env, unit, nodeId, instanceId, begin, join, finish] =>
    some (.topics ⟨org, workspace, env, unit, nodeId, instanceId⟩ ⟨begin, join, finish⟩)
  | _, _ => none

/-- The position of the first empty field. -/
def emptyField? (fields : List String) : Option Nat := fields.findIdx? String.isEmpty

def parse (mode : CommMode) (text : String) : Except AddressFault Coordinator :=
  let fields := fieldsOf text
  match ofFields? mode fields with
  | none => .error (.coordinatorFields mode fields.length text)
  | some address =>
    match emptyField? fields with
    | some position => .error (.blankCoordinatorField position text)
    | none => .ok address

def mode : Coordinator → CommMode
  | urls _ _ => .http
  | topics _ _ => .mesh

def fields : Coordinator → List String
  | urls base paths => [base, paths.begin, paths.join, paths.finish]
  | topics place names =>
    [place.org, place.workspace, place.env, place.unit, place.nodeId, place.instanceId,
      names.begin, names.join, names.finish]

def encode (address : Coordinator) : String := Text.join '|' address.fields

/-- The instance that hosts the coordinator, which only topics tell. -/
def instanceId? : Coordinator → Option String
  | urls _ _ => none
  | topics place _ => some place.instanceId

/-- The path or topic of an operation. -/
def endpoint (address : Coordinator) (operation : Operation) : String :=
  match address with
  | urls _ paths => paths.of operation
  | topics _ names => names.of operation

/-- Where a request for an operation goes. -/
def target (address : Coordinator) (operation : Operation) : Rpc.Target :=
  match address with
  | urls base _ => .url (Address.join base (address.endpoint operation))
  | topics place _ => .topic place (address.endpoint operation)

end Coordinator

end TryConfirmCancel
