/-
**Requests as they are posted over HTTP.**

* `Settings`: the gateway for topics and the pauses between attempts;
* `Settings.urlOf`: a topic is posted to the gateway, under its name;
* `Post.of?`: the URL, the headers and the body that are sent; nothing if the URL cannot be read or a
  header has a name or a value that HTTP does not allow;
* `Answer.result`: a status from 200 to 299 is a success; an answer without content has no body.
-/

import TryConfirmCancel.Address.Join
import TryConfirmCancel.Config.Basic
import TryConfirmCancel.Headers
import TryConfirmCancel.Rpc.Http.Url
import TryConfirmCancel.Rpc.Mesh

namespace TryConfirmCancel.Rpc

/-- The settings of a client for HTTP. -/
structure Settings where
  /-- The gateway that delivers calls to topics. -/
  gateway : String := "http://localhost:18080"
  /-- The first pause in milliseconds. -/
  initialBackoff : Nat := 100
  /-- The longest pause after the first one, in milliseconds. -/
  maxBackoff : Nat := 2000
  /-- By what a pause grows. -/
  multiplier : Binary64 := .ofNat 2

instance : Inhabited Settings := ⟨{}⟩

namespace Settings

/-- The settings that a configuration gives. -/
def ofConfig (config : Config) : Settings := { gateway := config.meshGatewayUrl }

def urlOf (settings : Settings) : Target → String
  | .url url => url
  | .topic _ topic => Address.withoutSlashesBehind settings.gateway ++ "/v1/topics/" ++ topic

end Settings

/-- What is posted. -/
structure Post where
  url : Url
  headers : Headers
  body : Bytes
  deriving Inhabited

namespace Post

/-- A character that may stand in the name of a header. -/
def isNameChar (char : Char) : Bool := char.isAlphanum || "!#$%&'*+-.^_\x60|~".toList.contains char

def isName (name : String) : Bool := !name.isEmpty && name.toList.all isNameChar

/-- A header, if HTTP allows it. -/
def field? (name value : String) : Option (String × Bytes) :=
  if isName name then (Headers.writable? value).map fun bytes => (name, bytes) else none

/-- The headers of a request: the content type, the place of a topic, then the others. -/
def headersOf (request : Request) : List (String × String) :=
  let place := match request.target with
    | .url _ => []
    | .topic place topic => place.headers topic
  ("content-type", request.codec.contentType) :: place ++ request.headers.entries

/-- What is posted for a request. -/
def of? (settings : Settings) (request : Request) : Option Post := do
  let url ← Url.parse? (settings.urlOf request.target)
  let fields ← (headersOf request).mapM fun field => field? field.1 field.2
  some ⟨url, .ofList fields, request.body⟩

end Post

/-- What a peer answers. -/
structure Answer where
  status : Nat
  headers : Headers
  body : Bytes
  deriving Inhabited

namespace Answer

/-- The value of a header as text, without the blanks around it. -/
def trimmed (text : String) : String :=
  let isPadding (char : Char) : Bool := char == ' ' || char == '\t'
  .ofList ((text.toList.dropWhile isPadding).reverse.dropWhile isPadding).reverse

/-- The body of an answer; statuses that announce that there is none have none. -/
def content (answer : Answer) : Bytes :=
  if answer.status = 204 ∨ answer.status = 304 then [] else answer.body

/-- An answer as the result of an attempt. -/
def result (answer : Answer) : Except Failure Response :=
  if 200 ≤ answer.status ∧ answer.status < 300 then
    .ok
      { status := answer.status
        headers := .ofList (answer.headers.texts.map fun field => (field.1, trimmed field.2))
        body := answer.content }
  else .error (.status answer.status (Utf8.lossyText answer.content))

end Answer

end TryConfirmCancel.Rpc
