import AmpControl.Control.Dispatch

/-!
# The control panel

The controls of a payload with the value that is stored for each. A write that is refused changes
nothing; an accepted one stores its value, also when sending it to the hardware fails.
-/

namespace AmpControl

open Tuning (Control Timing)

/-- Why a write was not carried out. -/
inductive WriteError where
  | refused (error : RangeError)
  /-- The value was stored and could not be sent. -/
  | transport (fault : TransportFault)
  deriving DecidableEq, Repr

/-- Controls and the stored value of each. -/
structure ControlPanel where
  controls : List Control
  values : List Int
  deriving DecidableEq, Repr

namespace ControlPanel

def start (controls : List Control) : ControlPanel := ⟨controls, Control.initials controls⟩

def value (panel : ControlPanel) (id : Nat) : Except RangeError Int :=
  match panel.values[id]? with
  | some value => .ok value
  | none => .error (.unknownControl id)

/-- Stores the value of an accepted write and carries the write out. -/
def commit (panel : ControlPanel) (accepted : Except RangeError Control.Write) (value : Int)
    (bus : Bus) : Bus × ControlPanel × Except WriteError Control.Outcome :=
  match accepted with
  | .error error => (bus, panel, .error (.refused error))
  | .ok write =>
      let (after, fault) := write.carryOut bus
      (after, { panel with values := panel.values.set write.id value },
        match fault with
        | some fault => .error (.transport fault)
        | none => .ok write.outcome)

/-- Writes a control while the channels of `playing` play. -/
def put (panel : ControlPanel) (id : Nat) (value : Int) (playing : UInt8) (bus : Bus) :
    Bus × ControlPanel × Except WriteError Control.Outcome :=
  panel.commit (Control.accept panel.controls id value playing) value bus

def putNamed (panel : ControlPanel) (name : String) (value : Int) (playing : UInt8) (bus : Bus) :
    Bus × ControlPanel × Except WriteError Control.Outcome :=
  panel.commit (Control.acceptNamed panel.controls name value playing) value bus

/-- Dispatches the stored values of a channel and a timing. -/
def replay (panel : ControlPanel) (channel : UInt8) (timing : Timing) (bus : Bus) :
    Bus × Option TransportFault :=
  Control.replay panel.controls panel.values channel timing bus

end ControlPanel

end AmpControl
