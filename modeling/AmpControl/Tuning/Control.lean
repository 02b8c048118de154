import AmpControl.Tuning.Name
import AmpControl.Tuning.Script

/-!
# Controls

A control is a named value that a user may change. An integer control picks one of a list of
candidates: its value `v` stands for candidate `(v - lowest) / step`. A choice control picks one of
a list of labelled scripts, and its value is the place of the label. Both say when a stored value
reaches the hardware.
-/

namespace AmpControl.Tuning

/-- When a stored value reaches the hardware. -/
inductive Timing where
  /-- On every write. -/
  | anytime
  /-- While powering up, before the core script. -/
  | beforePowerUp
  /-- In the work that is put off until after power-up. -/
  | afterPowerUp
  deriving DecidableEq, Repr

/-- How a candidate is written to its register. -/
inductive WriteMode where
  | single
  | burst
  | masked
  deriving DecidableEq, Repr

/-- The width of candidates. -/
inductive Element where
  | byte
  | word
  deriving DecidableEq, Repr

/-- A control over a list of candidates. -/
structure IntegerControl where
  register : Register
  mode : WriteMode
  mask : UInt32
  lowest : Int32
  highest : Int32
  step : Int32
  initial : Int32
  element : Element
  candidates : List UInt32
  deriving DecidableEq, Repr

/-- A control over a list of labelled scripts. -/
structure ChoiceControl where
  initial : UInt32
  items : List (String × Script)
  deriving DecidableEq, Repr

/-- What a control picks from. -/
inductive ControlBody where
  | integer (body : IntegerControl)
  | choice (body : ChoiceControl)
  deriving DecidableEq, Repr

/-- A control of one channel. -/
structure Control where
  name : String
  channel : UInt8
  timing : Timing
  body : ControlBody
  deriving DecidableEq, Repr

namespace Timing

def code : Timing → UInt8
  | anytime => 0
  | beforePowerUp => 1
  | afterPowerUp => 2

def read : Read Timing := do
  match ← Read.byte with
  | 0 => return .anytime
  | 1 => return .beforePowerUp
  | 2 => return .afterPowerUp
  | other => throw (.invalidRecord .applyTiming other.toUInt32)

def label : Timing → String
  | anytime => "Anytime"
  | beforePowerUp => "PrePowerUp"
  | afterPowerUp => "PostPowerUp"

end Timing

namespace WriteMode

def code : WriteMode → UInt8
  | single => 0
  | burst => 1
  | masked => 2

def read : Read WriteMode := do
  match ← Read.byte with
  | 0 => return .single
  | 1 => return .burst
  | 2 => return .masked
  | other => throw (.invalidRecord .writeMode other.toUInt32)

end WriteMode

namespace Element

def code : Element → UInt8
  | byte => 0
  | word => 1

def read : Read Element := do
  match ← Read.byte with
  | 0 => return .byte
  | 1 => return .word
  | other => throw (.invalidRecord .elementKind other.toUInt32)

/-- The stored form of a candidate; a byte holds its largest value for all that do not fit. -/
def encode : Element → UInt32 → Bytes
  | byte, candidate => [UInt8.ofNatClamp candidate.toNat]
  | word, candidate => LittleEndian.word candidate

def readCandidate : Element → Read UInt32
  | byte => do return (← Read.byte).toUInt32
  | word => Read.word

end Element

namespace IntegerControl

/--
The candidate that a value stands for; none when the value is out of range, between two steps or
past the last candidate.
-/
def index? (control : IntegerControl) (value : Int) : Option Nat :=
  let lowest := control.lowest.toInt
  let step := control.step.toInt
  if value < lowest ∨ control.highest.toInt < value ∨ step ≤ 0 then none
  else if (value - lowest) % step ≠ 0 then none
  else
    let index := ((value - lowest) / step).toNat
    if index < control.candidates.length then some index else none

def encode (control : IntegerControl) : Bytes :=
  LittleEndian.word control.register.raw ++ [control.mode.code] ++
    LittleEndian.word control.mask ++ LittleEndian.word control.lowest.toUInt32 ++
    LittleEndian.word control.highest.toUInt32 ++ LittleEndian.word control.step.toUInt32 ++
    LittleEndian.word control.initial.toUInt32 ++ [control.element.code] ++
    LittleEndian.count control.candidates.length ++
    control.candidates.flatMap control.element.encode

/-- The body of an integer control. The step is positive and the range is not empty. -/
def read : Read IntegerControl := do
  let register ← Read.word
  let mode ← WriteMode.read
  let mask ← Read.word
  let lowest ← Read.signedWord
  let highest ← Read.signedWord
  let step ← Read.signedWord
  let initial ← Read.signedWord
  if step ≤ 0 then
    throw (.invalidRecord .controlStep (UInt32.ofNat step.toInt.natAbs))
  if highest < lowest then
    throw (.invalidRecord .controlRange (UInt32.ofNat lowest.toInt.natAbs))
  let element ← Element.read
  let candidates ← Read.counted element.readCandidate
  return ⟨⟨register⟩, mode, mask, lowest, highest, step, initial, element, candidates⟩

end IntegerControl

namespace ChoiceControl

def index? (control : ChoiceControl) (value : Int) : Option Nat :=
  if 0 ≤ value ∧ value < control.items.length then some value.toNat else none

def encodeItem (item : String × Script) : Bytes := Name.encode item.1 ++ Script.encode item.2

def encode (control : ChoiceControl) : Bytes :=
  LittleEndian.word control.initial ++ LittleEndian.count control.items.length ++
    control.items.flatMap encodeItem

def readItem : Read (String × Script) := do
  let label ← Name.read
  return (label, ← Script.read)

def read : Read ChoiceControl := do
  let initial ← Read.word
  return ⟨initial, ← Read.counted readItem⟩

end ChoiceControl

namespace Control

/-- The value that a control has when its payload is loaded. -/
def initial (control : Control) : Int :=
  match control.body with
  | .integer body => body.initial.toInt
  | .choice body => body.initial.toNat

/-- The candidate or item that a value stands for, if the control accepts the value. -/
def index? (control : Control) (value : Int) : Option Nat :=
  match control.body with
  | .integer body => body.index? value
  | .choice body => body.index? value

def labels (control : Control) : List String :=
  match control.body with
  | .integer _ => []
  | .choice body => body.items.map (·.1)

def encode (control : Control) : Bytes :=
  let identity := Name.encode control.name ++ [control.channel, control.timing.code]
  match control.body with
  | .integer body => 0 :: identity ++ body.encode
  | .choice body => 1 :: identity ++ body.encode

def read : Read Control := do
  let kind ← Read.byte
  let name ← Name.read
  let channel ← Read.byte
  let timing ← Timing.read
  match kind with
  | 0 => return ⟨name, channel, timing, .integer (← IntegerControl.read)⟩
  | 1 => return ⟨name, channel, timing, .choice (← ChoiceControl.read)⟩
  | other => throw (.invalidRecord .controlKind other.toUInt32)

/-- The stored form of the controls of a payload. -/
def encodeTable (controls : List Control) : Bytes :=
  LittleEndian.count controls.length ++ controls.flatMap encode

def readTable : Read (List Control) := Read.counted read

/-- The place of the first control with the given name. -/
def find? (controls : List Control) (name : String) : Option Nat :=
  controls.findIdx? fun control => control.name == name

end Control

end AmpControl.Tuning
