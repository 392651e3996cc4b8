/-
**Which methods of the second stage a service has.**

* `Flags.ofBits`: the two bits that have a meaning;
* `Flags.contains`, `Flags.join`: inclusion and union of the bits.
-/

namespace TryConfirmCancel

/-- The methods of the second stage that a service has, one bit for each. -/
structure Flags where
  bits : UInt8
  deriving DecidableEq, Repr, Inhabited

namespace Flags

def none : Flags := ⟨0⟩

def confirm : Flags := ⟨1⟩

def cancel : Flags := ⟨2⟩

def both : Flags := ⟨3⟩

/-- Flags from the bits that have a meaning. -/
def ofBits (bits : UInt8) : Flags := ⟨bits &&& both.bits⟩

/-- All bits of other flags are set. -/
def contains (flags other : Flags) : Bool := flags.bits &&& other.bits == other.bits

/-- The service has a Confirm method. -/
def hasConfirm (flags : Flags) : Bool := flags.contains confirm

/-- The service has a Cancel method. -/
def hasCancel (flags : Flags) : Bool := flags.contains cancel

def join (flags other : Flags) : Flags := ⟨flags.bits ||| other.bits⟩

end Flags

end TryConfirmCancel
