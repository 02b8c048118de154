import AmpControl.Bytes
import AmpControl.Register

/-!
# The register transport

The transport carries single calls to the registers of the channels on one bus. It keeps what every
register holds and which calls were attempted. A call is refused when its channel or its register is
set to fail, and a refused call changes no register. The reset line is shared by all channels; when
it is stuck, a reset does not get through to the registers at all.
-/

namespace AmpControl.Bus

/-- A call on the transport. -/
inductive Call where
  /-- Selects the bank of a channel. -/
  | select (channel : UInt8) (bank : Bank)
  | read (channel : UInt8) (register : Register)
  | write (channel : UInt8) (register : Register) (value : UInt32)
  /-- Writes consecutive registers from the given one on. -/
  | burst (channel : UInt8) (register : Register) (data : Bytes)
  /-- Changes the bits of a register that the mask selects. -/
  | update (channel : UInt8) (register : Register) (mask value : UInt32)
  /-- Pulses the shared reset line. -/
  | reset
  deriving DecidableEq, Repr

namespace Call

/-- The channel that a call addresses; a reset addresses all of them. -/
def channel? : Call → Option UInt8
  | select channel _ | read channel _ | write channel _ _ | burst channel _ _
  | update channel _ _ _ => some channel
  | reset => none

def register? : Call → Option Register
  | read _ register | write _ register _ | burst _ register _ | update _ register _ _ =>
      some register
  | select _ _ | reset => none

/-- A call that is meant to change a register. -/
def isWrite : Call → Bool
  | write _ _ _ | burst _ _ _ | update _ _ _ _ => true
  | select _ _ | read _ _ | reset => false

/-- A call that selects a bank of the given channel. -/
def selects (wanted : UInt8) : Call → Bool
  | select channel _ => channel == wanted
  | _ => false

end Call

/-- A call that was attempted. -/
structure Attempt where
  call : Call
  accepted : Bool
  deriving DecidableEq, Repr

/-- What every register of every channel holds. -/
abbrev Registers := UInt8 → Register → UInt32

namespace Registers

/-- Zero everywhere. -/
def cleared : Registers := fun _ _ => 0

def store (registers : Registers) (channel : UInt8) (register : Register) (value : UInt32) :
    Registers :=
  fun otherChannel other =>
    if otherChannel = channel ∧ other = register then value else registers otherChannel other

/-- Changes consecutive registers; past the last address it is the last register that changes. -/
def storeAll (channel : UInt8) (register : Register) :
    (distance : Nat) → Bytes → Registers → Registers
  | _, [], registers => registers
  | distance, value :: others, registers =>
      storeAll channel register (distance + 1) others
        (registers.store channel (register.advance distance) value.toUInt32)

/-- What the registers hold after a call was carried out. -/
def apply (registers : Registers) : Call → Registers
  | .select _ _ | .read _ _ => registers
  | .write channel register value => registers.store channel register value
  | .burst channel register data => storeAll channel register 0 data registers
  | .update channel register mask value =>
      registers.store channel register
        ((registers channel register &&& ~~~mask) ||| (value &&& mask))
  | .reset => cleared

end Registers

/-- The state of the transport. -/
structure Transport where
  registers : Registers
  failingChannels : List UInt8
  failingRegisters : List (UInt8 × Register)
  /-- The reset line is stuck. -/
  resetFails : Bool
  /-- The attempted calls, the latest first. -/
  attempts : List Attempt

namespace Transport

/-- A transport whose registers hold zero and on which nothing fails. -/
def new : Transport := ⟨Registers.cleared, [], [], false, []⟩

def refuses (transport : Transport) : Call → Bool
  | .reset => transport.resetFails
  | .select channel _ => transport.failingChannels.contains channel
  | .read channel register | .write channel register _ | .burst channel register _
  | .update channel register _ _ =>
      transport.failingChannels.contains channel ||
        transport.failingRegisters.contains (channel, register)

/-- Attempts a call and says whether it was carried out. -/
def attempt (call : Call) (transport : Transport) : Transport × Bool :=
  if transport.refuses call then
    ({ transport with attempts := ⟨call, false⟩ :: transport.attempts }, false)
  else
    ({ transport with
        registers := transport.registers.apply call
        attempts := ⟨call, true⟩ :: transport.attempts }, true)

/-- Puts a value into a register without a call. -/
def preset (channel : UInt8) (register : Register) (value : UInt32) (transport : Transport) :
    Transport :=
  { transport with registers := transport.registers.store channel register value }

/-- From now on every call to a channel is refused. -/
def failChannel (channel : UInt8) (transport : Transport) : Transport :=
  { transport with failingChannels := channel :: transport.failingChannels }

/-- From now on every call to a register is refused. -/
def failRegister (channel : UInt8) (register : Register) (transport : Transport) : Transport :=
  { transport with failingRegisters := (channel, register) :: transport.failingRegisters }

/-- From now on calls to channels and registers are carried out again. -/
def clearFailures (transport : Transport) : Transport :=
  { transport with failingChannels := [], failingRegisters := [] }

def clearAttempts (transport : Transport) : Transport := { transport with attempts := [] }

/-- The calls that reached the registers' side, oldest first; a reset on a stuck line did not. -/
def calls (transport : Transport) : List Call :=
  (transport.attempts.filter fun attempt => attempt.accepted || attempt.call != .reset).reverse.map
    (·.call)

/-- How often a write of any kind addressed a register. -/
def writesTo (transport : Transport) (channel : UInt8) (register : Register) : Nat :=
  transport.calls.countP fun call =>
    call.isWrite && call.channel? == some channel && call.register? == some register

/-- How often a bank of a channel was selected. -/
def selections (transport : Transport) (channel : UInt8) : Nat :=
  transport.calls.countP (Call.selects channel)

def resets (transport : Transport) : Nat := transport.calls.count .reset

end Transport

end AmpControl.Bus
