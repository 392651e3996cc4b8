/-
**The endpoint that the coordinator calls.**

* `Router.of`: takes the two paths from the settings; they must be absolute, and distinct from each other
  and from the path for health;
* `Router.route`: what a method and a path stand for;
* `Router.TakesIn`: the bodies that the framework takes in; a callback with a longer one is turned away unread;
* `serve`: the answer to a request.

The paths of the settings are taken literally. To the framework, a colon or an asterisk in a path would begin a pattern
that other texts match; settings with such paths, which may also clash with each other, are not meant.
-/

import TryConfirmCancel.Callback.Dispatch

namespace TryConfirmCancel

/-- The paths of an endpoint, which stand for themselves. -/
structure Router where
  confirmPath : String
  cancelPath : String
  deriving DecidableEq, Repr, Inhabited

/-- Why there can be no endpoint. -/
inductive RouterFault
  | relativePath (path : String)
  | equalPaths (confirm cancel : String)
  deriving DecidableEq, Repr

def RouterFault.message : RouterFault → String
  | .relativePath path => s!"callback path must start with '/': {Text.quoted path}"
  | .equalPaths confirm cancel =>
    s!"callback paths must be distinct: confirm {Text.quoted confirm}, cancel {Text.quoted cancel}"

/-- A fault as the failure of a call. -/
def RouterFault.failure (fault : RouterFault) : Failure := .config fault.message

/-- What a request stands for. -/
inductive Endpoint
  | health
  | callback (stage : Stage)
  /-- The path exists for other methods. -/
  | wrongMethod
  | unknown
  deriving DecidableEq, Repr, Inhabited

namespace Router

def healthPath : String := "/health"

/-- The endpoint that the settings describe, if their paths are literal. -/
def of (config : Config) : Except RouterFault Router :=
  if !Config.isAbsolutePath config.confirmPath then .error (.relativePath config.confirmPath)
  else if !Config.isAbsolutePath config.cancelPath then .error (.relativePath config.cancelPath)
  else if config.confirmPath = config.cancelPath ∨ config.confirmPath = healthPath then
    .error (.equalPaths config.confirmPath config.cancelPath)
  else .ok ⟨config.confirmPath, config.cancelPath⟩

/-- What stands at a path: a method with what it stands for. -/
def offers (router : Router) (path : String) : List (String × Endpoint) :=
  (if path = healthPath then [("GET", .health), ("HEAD", .health)] else [])
    ++ (if path = router.confirmPath then [("POST", .callback .confirm)] else [])
    ++ (if path = router.cancelPath then [("POST", .callback .cancel)] else [])

/-- What a method and a path stand for: a path is looked up as it is written. -/
def route (router : Router) (method path : String) : Endpoint :=
  match router.offers path with
  | [] => .unknown
  | offers => (lookupEntry method offers).getD .wrongMethod

/-- The path of a request without its query. -/
def pathOf (target : String) : String := .ofList (target.toList.takeWhile fun char => char != '?')

/-- How many bytes the body of a callback may have. The endpoint sets no limit of its own; this is the framework's. -/
def bodyLimit : Nat := 2097152

/-- The framework takes in a body and hands it over. -/
def TakesIn (body : Bytes) : Prop := body.length ≤ bodyLimit

instance (body : Bytes) : Decidable (TakesIn body) := inferInstanceAs (Decidable (_ ≤ _))

end Router

/-- A request to the endpoint, with the whole body that was sent. -/
structure Incoming where
  method : String
  target : String
  headers : Headers
  body : Bytes
  deriving Inhabited

/-- What the endpoint answers. -/
structure Served where
  status : Nat
  /-- Nothing stands for an empty body, and a string for a plain text: no answer in JSON is a string. -/
  body : Option Json.Value
  deriving Inhabited

/-- The answer to a callback whose body is too long. -/
def Served.tooLong : Served := ⟨413, some (.string "Failed to buffer the request body: length limit exceeded")⟩

/-- That the endpoint is up, with the services it serves. -/
def healthReport (services : List String) : Json.Value :=
  .object [("status", .string "healthy"), ("services", .strings services)]

/-- The answer to a request; the two identifiers are new. -/
def serve {σ : Type} (router : Router) (registry : Registry σ) (freshTrace freshSpan : String)
    (config : Config) (request : Incoming) (world : σ) : Served × σ :=
  match router.route request.method (Router.pathOf request.target) with
  | .health =>
    (⟨200, if request.method = "HEAD" then none else some (healthReport registry.services)⟩, world)
  | .callback stage =>
    if Router.TakesIn request.body then
      let (answer, after) := dispatch registry freshTrace freshSpan config stage request.headers request.body
        world
      (⟨answer.1, some (Message.callbackReply.write answer.2)⟩, after)
    else (.tooLong, world)
  | .wrongMethod => (⟨405, none⟩, world)
  | .unknown => (⟨404, none⟩, world)

end TryConfirmCancel
