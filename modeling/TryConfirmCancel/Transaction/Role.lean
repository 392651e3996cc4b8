/-
**The part of a hop in the global transaction.**

* `Role.of`: without a transaction the hop begins one; with one it joins, unless its service only
  hands the transaction on;
* `Role.coordinator`: whom the hop talks to.
-/

import TryConfirmCancel.Config.Basic
import TryConfirmCancel.Service.Descriptor

namespace TryConfirmCancel

/-- The part of a hop in the global transaction. -/
inductive Role
  /-- No transaction is active: begin one. -/
  | root
  /-- Hand the transaction on without taking part. -/
  | propagator
  | branch
  deriving DecidableEq, Repr, Inhabited

namespace Role

def name : Role → String
  | root => "root"
  | propagator => "propagator"
  | branch => "branch"

/-- The role of a service in a context. -/
def of (config : Config) (descriptor : Descriptor) (context : Context) : Role :=
  if context.transaction.isRoot then root
  else if descriptor.isPropagator || config.isPropagator descriptor.serviceName then propagator
  else branch

/-- The address of the coordinator: the root's settings name it, a branch takes that of the
transaction if it has one. -/
def coordinator (role : Role) (config : Config) (context : Context) : String :=
  match role with
  | root => config.coordinatorAddress
  | propagator => ""
  | branch =>
    if context.transaction.agentAddress.isEmpty then config.coordinatorAddress
    else context.transaction.agentAddress

end Role

end TryConfirmCancel
