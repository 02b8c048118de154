/-!
# Storm debounce

A channel whose interrupts are detected again and again within one window of time is stuck, and
acting on it would never end. The window opens at a detection; it is over at the first detection
more than its length later, which opens the next one.
-/

namespace AmpControl

/-- What to do about a detection. -/
inductive Verdict where
  | act
  /-- There were too many detections; leave the channel alone. -/
  | stuck
  deriving DecidableEq, Repr

/-- The detections in the open window. -/
structure Debounce where
  count : UInt32
  /-- When the window opened, in microseconds. -/
  opened : Option Nat
  deriving DecidableEq, Repr

namespace Debounce

def fresh : Debounce := ⟨0, none⟩

/-- The open window is over at the given time. -/
def isOver (debounce : Debounce) (now window : Nat) : Bool :=
  match debounce.opened with
  | none => true
  | some opened => opened + window < now

def note (debounce : Debounce) (now window : Nat) : Debounce :=
  if debounce.isOver now window then ⟨1, some now⟩
  else { debounce with count := UInt32.ofNatClamp (debounce.count.toNat + 1) }

/-- Takes a detection in: more than `limit` of them in one window mean a stuck channel. -/
def detect (debounce : Debounce) (now : Nat) (limit : UInt32) (window : Nat) :
    Debounce × Verdict :=
  let noted := debounce.note now window
  (noted, if limit < noted.count then .stuck else .act)

end Debounce

end AmpControl
