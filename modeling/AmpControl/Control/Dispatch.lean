import AmpControl.Bus.Execution
import AmpControl.Channel
import AmpControl.RangeError
import AmpControl.Tuning.Control

/-!
# Control writes

Every control has a stored value. A write is first checked against the control; a value that passes
is stored, and it is dispatched to the hardware at once if the control applies at any time or its
channel plays. Other values wait until they are replayed at a power transition.
-/

namespace AmpControl.Tuning.Control

/-- Puts a candidate of an integer control into its register. -/
def dispatchCandidate (channel : UInt8) (body : IntegerControl) (candidate : UInt32) (bus : Bus) :
    Bus × Bool :=
  match body.mode, body.element with
  | .single, _ => bus.write channel body.register candidate
  | .masked, _ => bus.update channel body.register body.mask candidate
  | .burst, .byte => bus.burst channel body.register [candidate.toUInt8]
  | .burst, .word => bus.burst channel body.register (LittleEndian.wordHighFirst candidate)

/-- Sends a candidate or an item to the hardware; a place without one sends nothing. -/
def dispatch (control : Control) (index : Nat) (bus : Bus) : Bus × Option TransportFault :=
  match control.body with
  | .integer body =>
      match body.candidates[index]? with
      | none => (bus, none)
      | some candidate =>
          let outcome := dispatchCandidate control.channel body candidate bus
          (outcome.1, Bus.faultOf control.channel outcome.2)
  | .choice body =>
      match body.items[index]? with
      | none => (bus, none)
      | some item => bus.execute control.channel item.2

/-- The candidate or item that a value stands for, or the report that there is none. -/
def validate (control : Control) (value : Int) : Except RangeError Nat :=
  match control.index? value with
  | some index => .ok index
  | none => .error (.controlValue control.name value)

def initials (controls : List Control) : List Int := controls.map initial

/-- What happened to an accepted write. -/
inductive Outcome where
  /-- It was dispatched. -/
  | applied
  /-- It waits for a replay. -/
  | deferred
  deriving DecidableEq, Repr

/-- An accepted write. -/
structure Write where
  id : Nat
  control : Control
  /-- The candidate or item that the value stands for. -/
  index : Nat
  /-- What is to happen to the write. -/
  outcome : Outcome
  deriving DecidableEq, Repr

/-- Checks a write while the channels of `playing` play. -/
def accept (controls : List Control) (id : Nat) (value : Int) (playing : UInt8) :
    Except RangeError Write :=
  match controls[id]? with
  | none => .error (.unknownControl id)
  | some control =>
      match control.validate value with
      | .error error => .error error
      | .ok index =>
          .ok ⟨id, control, index,
            if control.timing = .anytime ∨ Channel.within playing control.channel then .applied
            else .deferred⟩

def acceptNamed (controls : List Control) (name : String) (value : Int) (playing : UInt8) :
    Except RangeError Write :=
  match find? controls name with
  | none => .error (.unknownControlName name)
  | some id => accept controls id value playing

/-- Dispatches an accepted write if it is to be applied. -/
def Write.carryOut (write : Write) (bus : Bus) : Bus × Option TransportFault :=
  match write.outcome with
  | .applied => write.control.dispatch write.index bus
  | .deferred => (bus, none)

/-- The controls of a channel and a timing whose stored value they accept, in order. -/
def replayable (controls : List Control) (values : List Int) (channel : UInt8) (timing : Timing) :
    List Write :=
  controls.zipIdx.filterMap fun (control, id) =>
    if control.channel = channel ∧ control.timing = timing then
      ((values[id]?).bind control.index?).map fun index => ⟨id, control, index, .applied⟩
    else none

/-- Dispatches writes in order, each of them whether or not those before it succeeded. -/
def carryOutAll : List Write → (held : Option TransportFault) → Bus → Bus × Option TransportFault
  | [], held, bus => (bus, held)
  | write :: others, held, bus =>
      let outcome := write.carryOut bus
      carryOutAll others (TransportFault.join held outcome.2) outcome.1

/-- Dispatches the stored values of a channel and a timing. -/
def replay (controls : List Control) (values : List Int) (channel : UInt8) (timing : Timing)
    (bus : Bus) : Bus × Option TransportFault :=
  carryOutAll (replayable controls values channel timing) none bus

end AmpControl.Tuning.Control
