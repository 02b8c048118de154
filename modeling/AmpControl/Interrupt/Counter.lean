/-!
# Detection counters

Every interrupt source has two counters, of the detections since they were last read and of all
detections since the payload was loaded. Both stay at their largest value.
-/

namespace AmpControl

/-- The counters of one interrupt source. -/
structure Counter where
  sinceRead : UInt8
  total : UInt64
  deriving DecidableEq, Repr

namespace Counter

def zero : Counter := ⟨0, 0⟩

def record (counter : Counter) : Counter :=
  ⟨UInt8.ofNatClamp (counter.sinceRead.toNat + 1), UInt64.ofNatClamp (counter.total.toNat + 1)⟩

def recordMany (counter : Counter) (times : Nat) : Counter := Nat.repeat record times counter

/-- What is left of the counters after they were read. -/
def afterRead (counter : Counter) : Counter := { counter with sinceRead := 0 }

end Counter

end AmpControl
