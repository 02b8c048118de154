/-!
# Transport faults

Failed transport calls are counted and reported together, under the first channel that failed.
-/

namespace AmpControl

/-- Failed transport calls. -/
structure TransportFault where
  /-- The first channel that failed. -/
  channel : UInt8
  /-- The number of failed calls, which stays at its largest value. -/
  failed : UInt32
  deriving DecidableEq, Repr

namespace TransportFault

/-- The channel under which a failure of the shared reset line is reported. -/
def sharedLine : UInt8 := 255

def single (channel : UInt8) : TransportFault := ⟨channel, 1⟩

/-- The fault of a number of failed calls, if there are any. -/
def ofCount (channel : UInt8) (failures : Nat) : Option TransportFault :=
  if failures = 0 then none else some ⟨channel, UInt32.ofNatClamp failures⟩

/-- Both faults together, under the channel of the first. -/
def merge (first second : TransportFault) : TransportFault :=
  ⟨first.channel, UInt32.ofNatClamp (first.failed.toNat + second.failed.toNat)⟩

/-- Both faults together, where either may be absent. -/
def join : Option TransportFault → Option TransportFault → Option TransportFault
  | none, second => second
  | first, none => first
  | some first, some second => some (first.merge second)

def message (fault : TransportFault) : String :=
  s!"{fault.failed} transport operation(s) failed, first on channel {fault.channel}"

end TransportFault

end AmpControl
