import AmpControl.Bus.Fault
import AmpControl.Bus.Transport
import AmpControl.Tuning.FormatError

/-!
# Banked access

The bank of a register has to be selected before the register can be accessed. The bus remembers
which bank is selected on each channel and selects a bank only where it is not the remembered one.
A refused selection and a reset make the selected bank unknown. The bus also holds the clock, which
moves on only when something waits.
-/

namespace AmpControl

open Bus (Call Transport)

/-- The transport, the remembered banks, and the time in microseconds. -/
structure Bus where
  transport : Transport
  /-- The bank that is known to be selected on each channel. -/
  selected : Vector (Option Bank) Tuning.maxChannels
  clock : Nat

namespace Bus

def new : Bus := ⟨Transport.new, Vector.replicate Tuning.maxChannels none, 0⟩

/-- The bank that is known to be selected on a channel. -/
def selected? (bus : Bus) (channel : UInt8) : Option Bank := bus.selected[channel.toNat]?.join

/-- Remembers what is known of the bank of a channel; channels past the last are not remembered. -/
def remember (bus : Bus) (channel : UInt8) (bank : Option Bank) : Bus :=
  { bus with selected := bus.selected.setIfInBounds channel.toNat bank }

def forget (channel : UInt8) (bus : Bus) : Bus := bus.remember channel none

def forgetAll (bus : Bus) : Bus :=
  { bus with selected := Vector.replicate Tuning.maxChannels none }

def wait (microseconds : Nat) (bus : Bus) : Bus :=
  { bus with clock := bus.clock + microseconds }

/-- Attempts a call and says whether it was carried out. -/
def attempt (call : Call) (bus : Bus) : Bus × Bool :=
  let outcome := bus.transport.attempt call
  ({ bus with transport := outcome.1 }, outcome.2)

/-- Sees to it that a bank is selected on a channel, and says whether it is. -/
def select (channel : UInt8) (bank : Bank) (bus : Bus) : Bus × Bool :=
  if bus.selected? channel = some bank then (bus, true)
  else
    let outcome := bus.attempt (.select channel bank)
    (outcome.1.remember channel (if outcome.2 then some bank else none), outcome.2)

/-- Selects the bank of a register and then attempts a call to the register. -/
def access (channel : UInt8) (register : Register) (call : Call) (bus : Bus) : Bus × Bool :=
  let prepared := bus.select channel register.bank
  if prepared.2 then prepared.1.attempt call else (prepared.1, false)

/-- Reads a register; nothing is read where a call was refused. -/
def read (channel : UInt8) (register : Register) (bus : Bus) : Bus × Option UInt32 :=
  let outcome := bus.access channel register (.read channel register)
  (outcome.1,
    if outcome.2 then some (outcome.1.transport.registers channel register) else none)

def write (channel : UInt8) (register : Register) (value : UInt32) (bus : Bus) : Bus × Bool :=
  bus.access channel register (.write channel register value)

def burst (channel : UInt8) (register : Register) (data : Bytes) (bus : Bus) : Bus × Bool :=
  bus.access channel register (.burst channel register data)

/-- Changes the bits of a register that the mask selects. -/
def update (channel : UInt8) (register : Register) (mask value : UInt32) (bus : Bus) :
    Bus × Bool :=
  bus.access channel register (.update channel register mask value)

/-- Pulses the reset line; whether or not it moves, no bank is known afterwards. -/
def reset (bus : Bus) : Bus × Bool :=
  let outcome := bus.attempt .reset
  (outcome.1.forgetAll, outcome.2)

/-- The fault of an access that was or was not carried out. -/
def faultOf (channel : UInt8) (carriedOut : Bool) : Option TransportFault :=
  if carriedOut then none else some (TransportFault.single channel)

end Bus

end AmpControl
