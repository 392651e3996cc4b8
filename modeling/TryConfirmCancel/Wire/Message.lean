/-
**The messages between participants and coordinators.**

* `Message.enrolment`, `Message.report`: what a participant sends to begin or join, and to end;
* `Message.reply`: what a coordinator answers: an error code and text, and data if it accepts;
* `Message.callback`, `Message.callbackReply`: what a coordinator sends to confirm or cancel, and what
  it gets;
* `Reply.accepted`: the data of an accepted request, or the rejection as a failure.
-/

import TryConfirmCancel.Failure
import TryConfirmCancel.Json.Format

namespace TryConfirmCancel

/-- A request with the name of the service that it is for. -/
structure Addressed (α : Type) where
  service : String
  request : α
  deriving Inhabited

/-- What begins or joins a transaction. -/
structure Enrolment where
  participantAddress : String
  requestTime : Int
  parentXid : String
  rootXid : String
  branchXid : String
  serviceName : String
  /-- A snapshot of the request headers. -/
  headers : String
  deriving DecidableEq, Repr, Inhabited

/-- What ends the part of a participant. -/
structure Report where
  rootXid : String
  branchXid : String
  parentXid : String
  ok : Bool
  requestTime : Int
  tryFailedIgnoreCallbackCancel : Bool
  deriving DecidableEq, Repr, Inhabited

/-- What a coordinator answers. -/
structure Reply (α : Type) where
  errorCode : Int
  errorText : String
  data : Option α
  deriving Inhabited

/-- What a begun transaction is called. -/
structure BegunData where
  rootXid : String
  responseTime : Int
  deriving DecidableEq, Repr, Inhabited

/-- What a joined branch is called. -/
structure JoinedData where
  branchXid : String
  responseTime : Int
  deriving DecidableEq, Repr, Inhabited

/-- What a coordinator tells about an end. -/
structure EndedData where
  responseTime : Int
  deriving DecidableEq, Repr, Inhabited

/-- What confirms or cancels a branch. -/
structure Callback where
  rootXid : String
  parentXid : String
  branchXid : String
  serviceName : String
  /-- A snapshot of the request headers of Try and the headers for the second stage. -/
  headers : String
  deriving DecidableEq, Repr, Inhabited

/-- What a coordinator gets for a callback. -/
structure CallbackReply where
  errorCode : Int
  errorText : String
  deriving DecidableEq, Repr, Inhabited

/-- The data of an accepted request, or the rejection as a failure. -/
def Reply.accepted {α : Type} (reply : Reply α) : Except Failure (Option α) :=
  if reply.errorCode = Code.ok then .ok reply.data
  else .error (.rejected reply.errorCode reply.errorText)

def CallbackReply.ok : CallbackReply := ⟨Code.ok, ""⟩

/-- A failure as a coordinator gets it. -/
def CallbackReply.ofFailure (failure : Failure) : CallbackReply := ⟨failure.code, failure.message⟩

namespace Message

def beginService : String := "rootTxnBeginRequest"

def joinService : String := "branchTxnJoinRequest"

def endService : String := "txnEndRequest"

def callbackService : String := "txnCallbackRequest"

/-- The header with the code of a failed Try. -/
def tryErrorCodeHeader : String := "x-txn-try-error-code"

/-- The header with the text of a failed Try. -/
def tryErrorTextHeader : String := "x-txn-try-error-msg"

/-- How the name of a service stands in JSON. -/
def head : Json.Format String :=
  { write := fun service => .object [("service", .string service)]
    reader := .record ["service"] fun fields => fields.required "service" .string }

/-- How an addressed request stands in JSON. -/
def addressed {α : Type} (request : Json.Format α) : Json.Format (Addressed α) :=
  { write := fun message =>
      .object [("head", head.write message.service), ("request", request.write message.request)]
    reader := .record ["head", "request"] fun fields => do
      some
        { service := ← fields.required "head" head.reader
          request := ← fields.required "request" request.reader } }

/-- How an enrolment stands in JSON. -/
def enrolment : Json.Format Enrolment :=
  { write := fun message =>
      .object
        [("participantAddress", .string message.participantAddress),
          ("requestTime", .int message.requestTime), ("parentXid", .string message.parentXid),
          ("rootXid", .string message.rootXid), ("branchXid", .string message.branchXid),
          ("serviceName", .string message.serviceName), ("headers", .string message.headers)]
    reader := .record
      ["participantAddress", "requestTime", "parentXid", "rootXid", "branchXid", "serviceName", "headers"]
      fun fields => do
        some
          { participantAddress := ← fields.required "participantAddress" .string
            requestTime := ← fields.required "requestTime" .signed64
            parentXid := ← fields.required "parentXid" .string
            rootXid := ← fields.required "rootXid" .string
            branchXid := ← fields.required "branchXid" .string
            serviceName := ← fields.required "serviceName" .string
            headers := ← fields.required "headers" .string } }

/-- How a report stands in JSON. -/
def report : Json.Format Report :=
  { write := fun message =>
      .object
        [("rootXid", .string message.rootXid), ("branchXid", .string message.branchXid),
          ("parentXid", .string message.parentXid), ("ok", .bool message.ok),
          ("requestTime", .int message.requestTime),
          ("tryFailedIgnoreCallbackCancel", .bool message.tryFailedIgnoreCallbackCancel)]
    reader := .record
      ["rootXid", "branchXid", "parentXid", "ok", "requestTime", "tryFailedIgnoreCallbackCancel"]
      fun fields => do
        some
          { rootXid := ← fields.required "rootXid" .string
            branchXid := ← fields.required "branchXid" .string
            parentXid := ← fields.required "parentXid" .string
            ok := ← fields.required "ok" .bool
            requestTime := ← fields.required "requestTime" .signed64
            tryFailedIgnoreCallbackCancel := ← fields.required "tryFailedIgnoreCallbackCancel" .bool } }

def dataValue {α : Type} (format : Json.Format α) : Option α → Json.Value
  | none => .null
  | some data => format.write data

/-- How a coordinator's answer stands in JSON. -/
def reply {α : Type} (data : Json.Format α) : Json.Format (Reply α) :=
  { write := fun message =>
      .object
        [("errorCode", .int message.errorCode), ("errorMsg", .string message.errorText),
          ("data", dataValue data message.data)]
    reader := .record ["errorCode", "errorMsg", "data"] fun fields => do
      some
        { errorCode := ← fields.withDefault "errorCode" Code.ok .signed64
          errorText := ← fields.withDefault "errorMsg" "" .string
          data := ← fields.optional "data" data.reader } }

/-- How the data of a begun transaction stands in JSON. -/
def begun : Json.Format BegunData :=
  { write := fun data =>
      .object [("rootXid", .string data.rootXid), ("responseTime", .int data.responseTime)]
    reader := .record ["rootXid", "responseTime"] fun fields => do
      some
        { rootXid := ← fields.required "rootXid" .string
          responseTime := ← fields.withDefault "responseTime" 0 .signed64 } }

/-- How the data of a joined branch stands in JSON. -/
def joined : Json.Format JoinedData :=
  { write := fun data =>
      .object [("branchXid", .string data.branchXid), ("responseTime", .int data.responseTime)]
    reader := .record ["branchXid", "responseTime"] fun fields => do
      some
        { branchXid := ← fields.required "branchXid" .string
          responseTime := ← fields.withDefault "responseTime" 0 .signed64 } }

/-- How the data of an end stands in JSON. -/
def ended : Json.Format EndedData :=
  { write := fun data => .object [("responseTime", .int data.responseTime)]
    reader := .record ["responseTime"] fun fields => do
      some { responseTime := ← fields.withDefault "responseTime" 0 .signed64 } }

/-- How a callback stands in JSON. -/
def callback : Json.Format Callback :=
  { write := fun message =>
      .object
        [("rootXid", .string message.rootXid), ("parentXid", .string message.parentXid),
          ("branchXid", .string message.branchXid), ("serviceName", .string message.serviceName),
          ("headers", .string message.headers)]
    reader := .record ["rootXid", "parentXid", "branchXid", "serviceName", "headers"] fun fields => do
      some
        { rootXid := ← fields.required "rootXid" .string
          parentXid := ← fields.withDefault "parentXid" "" .string
          branchXid := ← fields.required "branchXid" .string
          serviceName := ← fields.required "serviceName" .string
          headers := ← fields.withDefault "headers" "" .string } }

/-- How the answer to a callback stands in JSON. -/
def callbackReply : Json.Format CallbackReply :=
  { write := fun message =>
      .object [("errorCode", .int message.errorCode), ("errorMsg", .string message.errorText)]
    reader := .record ["errorCode", "errorMsg"] fun fields => do
      some
        { errorCode := ← fields.required "errorCode" .signed64
          errorText := ← fields.required "errorMsg" .string } }

end Message

end TryConfirmCancel
