/-
**How a remote call fails.**

* `Rpc.Failure`: the kinds of failure, each with a text;
* `Rpc.Failure.message`: the wording;
* `Rpc.Failure.isPermanent`: no repetition of the call can help.
-/

namespace TryConfirmCancel.Rpc

/-- A failure of a remote call. -/
inductive Failure
  /-- No answer came in time. -/
  | timeout (detail : String)
  | network (detail : String)
  /-- The peer answered with a status that is no success. -/
  | status (number : Nat) (body : String)
  /-- The answer cannot be read. -/
  | undecodable (detail : String)
  deriving DecidableEq, Repr

def Failure.message : Failure → String
  | .timeout detail => s!"Request timed out: {detail}"
  | .network detail => s!"Network error: {detail}"
  | .status number body => s!"Server error {number}: {body}"
  | .undecodable detail => s!"Response decode error: {detail}"

/-- No repetition of the call can help: time is spent, the answer makes no sense, or the request
itself is refused. -/
def Failure.isPermanent : Failure → Bool
  | .timeout _ => true
  | .undecodable _ => true
  | .status number _ => 400 ≤ number && number < 500
  | .network _ => false

def Failure.isTimeout : Failure → Bool
  | .timeout _ => true
  | _ => false

end TryConfirmCancel.Rpc
