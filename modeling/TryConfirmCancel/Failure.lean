/-
**How a transactional call fails.**

* `ServiceFailure`: a failure that a business method reports, with a code of its own;
* `Failure`: the causes for which a transactional call ends without an answer;
* `Failure.code`, `Failure.message`: the number and the wording that a caller sees;
* `Failure.isStructural`, `Failure.isTimeout`: the classes that decide how a failure is passed on.
-/

import TryConfirmCancel.Phase
import TryConfirmCancel.Rpc.Failure

namespace TryConfirmCancel

/-- A failure that a business method reports. -/
structure ServiceFailure where
  code : Int
  message : String
  deriving DecidableEq, Repr, Inhabited

/-- The wording of a service's failure where it stands alone. -/
def ServiceFailure.text (failure : ServiceFailure) : String :=
  s!"Service error {failure.code}: {failure.message}"

/-! ### Codes -/

namespace Code

def ok : Int := 0

/-- An address or a context has not the form it must have. -/
def structural : Int := 10001

/-- The budget was spent before a call. -/
def deadlineExceeded : Int := 10002

def config : Int := 10003

/-- Data cannot be written, or an answer lacks what it must hold. -/
def codec : Int := 10004

def rpc : Int := 10005

def beginFailed : Int := 11001

def joinFailed : Int := 11002

def confirmFailed : Int := 12001

def cancelFailed : Int := 12002

/-- It is not known whether the coordinator confirmed. -/
def confirmTimeout : Int := 12003

/-- It is not known whether the coordinator cancelled. -/
def cancelTimeout : Int := 12004

/-- The end of a transaction could not be reported. -/
def endFailed : Int := 12005

/-- The report of the end was not answered in time. -/
def endTimedOut : Int := 12006

def decode : Int := 13001

/-- No such service or stage is registered. -/
def notRegistered : Int := 13002

/-- A service of that name is registered already. -/
def alreadyRegistered : Int := 13003

end Code

/-! ### Failures -/

/-- Why a transactional call ended without the answer of its Try. -/
inductive Failure
  /-- An address is malformed or the context incomplete. -/
  | structural (detail : String)
  /-- The budget of the chain was spent before the call was sent. -/
  | deadlineExceeded (operation : Operation)
  | config (detail : String)
  | codec (detail : String)
  | rpc (failure : Rpc.Failure)
  /-- The coordinator answered with an error code. -/
  | rejected (code : Int) (detail : String)
  /-- The report of the end was not answered in time; the transaction may still be settled. -/
  | endTimedOut (detail : String)
  | beginFailed (cause : Failure)
  | joinFailed (cause : Failure)
  | confirmFailed (code : Int) (detail : String)
  | cancelFailed (code : Int) (detail : String)
  | confirmTimeout (detail : String)
  | cancelTimeout (detail : String)
  /-- The end could not be reported; the code is that of Try if Try failed too. -/
  | endFailed (code : Int) (detail : String)
  | undecodable (detail : String)
  | notRegistered (service : String) (phase : Phase)
  | alreadyRegistered (service : String)
  | business (failure : ServiceFailure)
  deriving DecidableEq, Repr, Inhabited

namespace Failure

/-- The number of a failure. Business failures and rejections keep their own. -/
def code : Failure → Int
  | structural _ => Code.structural
  | deadlineExceeded _ => Code.deadlineExceeded
  | config _ => Code.config
  | codec _ => Code.codec
  | rpc _ => Code.rpc
  | rejected code _ => code
  | endTimedOut _ => Code.endTimedOut
  | beginFailed _ => Code.beginFailed
  | joinFailed _ => Code.joinFailed
  | confirmFailed _ _ => Code.confirmFailed
  | cancelFailed _ _ => Code.cancelFailed
  | confirmTimeout _ => Code.confirmTimeout
  | cancelTimeout _ => Code.cancelTimeout
  | endFailed code _ => code
  | undecodable _ => Code.decode
  | notRegistered _ _ => Code.notRegistered
  | alreadyRegistered _ => Code.alreadyRegistered
  | business failure => failure.code

def message : Failure → String
  | structural detail => s!"Structural error: {detail}"
  | deadlineExceeded operation => s!"Deadline exceeded before {operation.name}"
  | config detail => s!"Configuration error: {detail}"
  | codec detail => s!"Codec error: {detail}"
  | rpc failure => s!"RPC error: {failure.message}"
  | rejected code detail => s!"Coordinator rejected request ({code}): {detail}"
  | endTimedOut detail => s!"Transaction end timed out: {detail}"
  | beginFailed cause => s!"Transaction begin failed: {cause.message}"
  | joinFailed cause => s!"Transaction join failed: {cause.message}"
  | confirmFailed code detail => s!"Callback confirm error ({code}): {detail}"
  | cancelFailed code detail => s!"Callback cancel error ({code}): {detail}"
  | confirmTimeout detail => s!"Callback confirm timeout: {detail}"
  | cancelTimeout detail => s!"Callback cancel timeout: {detail}"
  | endFailed _ detail => s!"Transaction end error: {detail}"
  | undecodable detail => s!"Decode error: {detail}"
  | notRegistered service phase => s!"No {phase.name} method registered for service {service}"
  | alreadyRegistered service => s!"Service already registered: {service}"
  | business failure => failure.text

/-- The failure lies in the form of an address or a context. -/
def isStructural : Failure → Bool
  | structural _ => true
  | _ => false

/-- An answer that may still have been given did not come in time. -/
def isTimeout : Failure → Bool
  | endTimedOut _ => true
  | confirmTimeout _ => true
  | cancelTimeout _ => true
  | rpc failure => failure.isTimeout
  | _ => false

/-- A failure as the calling method sees it. -/
def toService (failure : Failure) : ServiceFailure := ⟨failure.code, failure.message⟩

end Failure

/-! ### Steps that may fail -/

section Steps

variable {ε δ α β : Type}

@[simp]
theorem mapError_ok (convert : ε → δ) (value : α) :
    (Except.ok value : Except ε α).mapError convert = .ok value := rfl

@[simp]
theorem mapError_error (convert : ε → δ) (fault : ε) :
    (Except.error fault : Except ε α).mapError convert = .error (convert fault) := rfl

/-- Two steps succeed if each of them does. -/
theorem bind_eq_ok_iff {step : Except ε α} {next : α → Except ε β} {value : β} :
    (step >>= next) = .ok value ↔ ∃ found, step = .ok found ∧ next found = .ok value := by
  cases step <;> simp [bind, Except.bind]

theorem exists_of_isOk {step : Except ε α} (succeeds : step.isOk = true) : ∃ value, step = .ok value := by
  cases step with
  | error fault => cases succeeds
  | ok value => exact ⟨value, rfl⟩

end Steps

end TryConfirmCancel
