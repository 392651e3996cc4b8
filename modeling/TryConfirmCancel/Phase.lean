/-
**The stages of a compensable service.**

Try comes first and runs in the service that calls; Confirm or Cancel comes second, when the
coordinator calls back.
-/

namespace TryConfirmCancel

/-- A method of the second stage. -/
inductive Stage
  | confirm
  | cancel
  deriving DecidableEq, Repr, Inhabited

/-- A stage of a compensable service. -/
inductive Phase
  | attempt
  | second (stage : Stage)
  deriving DecidableEq, Repr, Inhabited

def Phase.name : Phase → String
  | .attempt => "try"
  | .second .confirm => "confirm"
  | .second .cancel => "cancel"

/-- What a participant asks of its coordinator. -/
inductive Operation
  | begin
  /-- Take part in one as a branch. -/
  | join
  | finish
  deriving DecidableEq, Repr, Inhabited

def Operation.name : Operation → String
  | .begin => "begin"
  | .join => "join"
  | .finish => "end"

def Operation.all : List Operation := [.begin, .join, .finish]

end TryConfirmCancel
