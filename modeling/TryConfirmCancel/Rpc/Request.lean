/-
**Remote calls: where they go, what they carry, what comes back.**

* `Target`: a URL, or a topic of an instance in the mesh;
* `Request`: a body with headers for a target, with a time limit and a number of repetitions;
* `Response`: a status, headers and a body.
-/

import TryConfirmCancel.Bytes.Utf8
import TryConfirmCancel.Dict
import TryConfirmCancel.Hop.Duration
import TryConfirmCancel.Json.Reader
import TryConfirmCancel.Rpc.Failure

namespace TryConfirmCancel

/-- The place of an instance in the mesh. -/
structure MeshPlace where
  org : String
  workspace : String
  env : String
  unit : String
  nodeId : String
  instanceId : String
  deriving DecidableEq, Repr, Inhabited

namespace Rpc

/-- Where a request goes. -/
inductive Target
  | url (url : String)
  | topic (place : MeshPlace) (topic : String)
  deriving DecidableEq, Repr, Inhabited

/-- How a body is declared. -/
inductive Codec
  /-- Bytes that nobody interprets on the way. -/
  | text
  | json
  deriving DecidableEq, Repr, Inhabited

/-- The content type of a body. -/
def Codec.contentType : Codec → String
  | .text => "text/plain; charset=utf-8"
  | .json => "application/json"

/-- One remote call. -/
structure Request where
  target : Target
  body : Bytes
  headers : Dict String
  timeout : Nanoseconds
  /-- How often the call may be repeated. -/
  retries : Nat
  codec : Codec
  deriving Inhabited

namespace Request

/-- The time limit of requests that name none. -/
def standardTimeout : Nanoseconds := ofMilliseconds 10000

/-- A JSON body for a target, not to be repeated. -/
def of (target : Target) (body : Bytes) : Request :=
  { target, body, headers := ∅, timeout := standardTimeout, retries := 0, codec := .json }

def withTimeout (request : Request) (timeout : Nanoseconds) : Request := { request with timeout }

def withRetries (request : Request) (retries : Nat) : Request := { request with retries }

/-- With a declaration of the body. -/
def withCodec (request : Request) (codec : Codec) : Request := { request with codec }

def withHeader (request : Request) (name value : String) : Request :=
  { request with headers := request.headers.insert name value }

/-- With more headers, which replace those of the same names. -/
def withHeaders (request : Request) (headers : Dict String) : Request :=
  { request with headers := request.headers.overlay headers }

end Request

/-- What comes back from a remote call. -/
structure Response where
  status : Nat
  headers : Dict String
  body : Bytes
  deriving Inhabited

def Response.json {α : Type} (response : Response) (reader : Json.Reader α) : Except Failure α :=
  match reader.ofBytes? response.body with
  | some value => .ok value
  | none => .error (.undecodable "not the expected JSON")

end Rpc

end TryConfirmCancel
