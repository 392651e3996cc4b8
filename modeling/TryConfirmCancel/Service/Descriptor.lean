/-
**The record of a compensable service.**

* `Descriptor.of`, `Descriptor.withConfirm`, `Descriptor.withCancel`, `Descriptor.propagator`: how a
  record is made;
* `Flags.has`: the service has the method of a stage;
* `Flags.format`, `Descriptor.format`: how the records stand in JSON.
-/

import TryConfirmCancel.Json.Format
import TryConfirmCancel.Phase
import TryConfirmCancel.Service.Flags

namespace TryConfirmCancel

/-- The service has the method of a stage. -/
def Flags.has (flags : Flags) : Stage → Bool
  | .confirm => flags.hasConfirm
  | .cancel => flags.hasCancel

def Flags.format : Json.Format Flags :=
  { write := fun flags => .nat flags.bits.toNat
    reader := .mapped (fun bits => ⟨.ofNat bits⟩) (.natural 255) }

/-- What is registered for a service. -/
structure Descriptor where
  serviceName : String
  tryMethod : String
  /-- Empty without a Confirm method. -/
  confirmMethod : String
  /-- Empty without a Cancel method. -/
  cancelMethod : String
  flags : Flags
  /-- The service only hands the transaction on. -/
  isPropagator : Bool
  deriving DecidableEq, Repr, Inhabited

namespace Descriptor

/-- A service with nothing but a Try method. -/
def of (serviceName tryMethod : String) : Descriptor :=
  { serviceName, tryMethod, confirmMethod := "", cancelMethod := "", flags := .none, isPropagator := false }

def withConfirm (descriptor : Descriptor) (method : String) : Descriptor :=
  { descriptor with confirmMethod := method, flags := descriptor.flags.join .confirm }

def withCancel (descriptor : Descriptor) (method : String) : Descriptor :=
  { descriptor with cancelMethod := method, flags := descriptor.flags.join .cancel }

/-- As one that only hands the transaction on. -/
def propagator (descriptor : Descriptor) : Descriptor := { descriptor with isPropagator := true }

/-- How a record stands in JSON. -/
def format : Json.Format Descriptor :=
  { write := fun descriptor =>
      .object
        [("serviceName", .string descriptor.serviceName), ("tryMethod", .string descriptor.tryMethod),
          ("confirmMethod", .string descriptor.confirmMethod),
          ("cancelMethod", .string descriptor.cancelMethod), ("flags", Flags.format.write descriptor.flags),
          ("isPropagator", .bool descriptor.isPropagator)]
    reader := .record
      ["serviceName", "tryMethod", "confirmMethod", "cancelMethod", "flags", "isPropagator"] fun fields => do
        some
          { serviceName := ← fields.required "serviceName" .string
            tryMethod := ← fields.required "tryMethod" .string
            confirmMethod := ← fields.required "confirmMethod" .string
            cancelMethod := ← fields.required "cancelMethod" .string
            flags := ← fields.required "flags" Flags.format.reader
            isPropagator := ← fields.required "isPropagator" .bool } }

end Descriptor

end TryConfirmCancel
