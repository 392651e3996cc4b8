/-
**Why an address is refused.**

An address is a text of fields with bars between them; it is refused if the fields are not those that
its mode asks for.
-/

import TryConfirmCancel.Config.Mode
import TryConfirmCancel.Failure

namespace TryConfirmCancel

/-- How many fields the address of a coordinator has. -/
def CommMode.coordinatorFields : CommMode → Nat
  | .http => 4
  | .mesh => 9

/-- Why an address is refused. -/
inductive AddressFault
  | coordinatorFields (mode : CommMode) (found : Nat) (text : String)
  | blankCoordinatorField (position : Nat) (text : String)
  | participantMode (fault : ConfigFault) (text : String)
  | participantFields (mode : CommMode) (found : Nat) (text : String)
  deriving DecidableEq, Repr

def AddressFault.message : AddressFault → String
  | .coordinatorFields mode found text =>
    s!"{mode.name} coordinator address needs {mode.coordinatorFields} fields, got {found}: " ++
      Text.quoted text
  | .blankCoordinatorField position text =>
    s!"coordinator address field {position} is empty: {Text.quoted text}"
  | .participantMode fault text => s!"participant address {Text.quoted text}: {fault.message}"
  | .participantFields mode found text =>
    s!"{mode.name} participant address has {found} fields: {Text.quoted text}"

/-- A refused address as the failure of a call. -/
def AddressFault.failure (fault : AddressFault) : Failure := .structural fault.message

@[simp]
theorem AddressFault.isStructural_failure (fault : AddressFault) : fault.failure.isStructural = true := rfl

end TryConfirmCancel
