import AmpControl.Control.Dispatch
import AmpControl.Device.Deferred
import AmpControl.Device.Error
import AmpControl.Device.ErrorCode
import AmpControl.Firmware
import AmpControl.Interrupt.Classification
import AmpControl.Interrupt.Debounce
import AmpControl.Selection

/-!
# The state of a device

A device drives the channels of one tuning payload over one bus. Besides its present state it keeps
a history of what it did to the channels, the latest first: which scripts it carried out and how the
channel stood then, which control values it sent, when it reset the hardware, and what each recovery
came to.
-/

namespace AmpControl

open Tuning (Framing Payload Phase Setting SlotKey)

/-- The power state of a channel. -/
inductive Power where
  | shutdown
  | active
  /-- Powered with muted output and masked interrupts. -/
  | mute
  deriving DecidableEq, Repr

/-- The state of a channel. -/
structure ChannelState where
  power : Power
  /-- Interrupts can fire. -/
  unmasked : Bool
  debounce : Debounce
  /-- One counter per interrupt source. -/
  counters : List Counter
  deriving DecidableEq, Repr

def ChannelState.fresh (sources : Nat) : ChannelState :=
  ⟨.shutdown, false, Debounce.fresh, List.replicate sources Counter.zero⟩

/-- What a script is carried out for. -/
inductive Role where
  | softReset
  | initialisation
  | setting (setting : Setting)
  | slot
  | mask
  | unmask
  | clear
  | profile (phase : Phase)
  | powerUp
  | powerDown
  | mute
  deriving DecidableEq, Repr

/-- What the recovery of a channel came to. -/
inductive Remedy where
  /-- Nothing is wrong with the channel; its interrupts go on. -/
  | resume
  | hardReset
  | softReset
  /-- The channel is to be powered, which has to be checked. -/
  | checkPower
  | shutDown
  /-- The channel is not in a state that calls for anything. -/
  | leave
  deriving DecidableEq, Repr

/-- The channels that a recovery pass found and what it did to them, as masks. -/
structure RecoveryReport where
  detected : UInt8
  stuck : UInt8
  clockOnly : UInt8
  reset : UInt8
  repowered : UInt8
  shutDown : UInt8
  deriving DecidableEq, Repr

def RecoveryReport.nothing : RecoveryReport := ⟨0, 0, 0, 0, 0, 0⟩

/-- Something that a device did. -/
inductive Event where
  /-- A payload took the place of the one before. -/
  | installed
  /-- A script began on a channel, while the channel stood as told. -/
  | ran (channel : UInt8) (role : Role) (power : Power) (waiting locked : Bool)
  /-- The power-up sequence of a channel began. -/
  | poweringUp (channel : UInt8)
  /-- A candidate or item of a control was sent to the hardware. -/
  | dispatched (control index : Nat)
  /-- The reset line was pulsed. -/
  | hardReset
  /-- A channel was found stuck and left alone. -/
  | stuck (channel : UInt8)
  /-- A channel on which something fired was cleared, and recovered in this way. -/
  | recovered (channel : UInt8) (remedy : Remedy)
  /-- A recovery pass that began at this time ended with this report. -/
  | surveyed (start : Nat) (report : RecoveryReport)
  deriving DecidableEq, Repr

/-- Numbers of things done, which stay at their largest value. -/
structure Stats where
  loads : UInt32
  deferredRuns : UInt32
  recoveries : UInt32
  stuckDetections : UInt32
  resets : UInt32
  restarts : UInt32
  deriving DecidableEq, Repr

def Stats.zero : Stats := ⟨0, 0, 0, 0, 0, 0⟩

/-- One more, up to the largest value. -/
def Stats.increment (amount : UInt32) : UInt32 := UInt32.ofNatClamp (amount.toNat + 1)

/-- The state of a device. -/
structure Device where
  config : Config
  bus : Bus
  firmware : FirmwareSource
  payload : Option Payload
  loadState : LoadState
  activeProfile : Nat
  channels : List ChannelState
  errors : ErrorCode
  /-- The stored value of every control. -/
  values : List Int
  /-- Control writes that wait for a payload, oldest first. -/
  cachedWrites : List (String × Int)
  deferred : DeferredQueue
  restarts : UInt32
  /-- The channels that are shut down for good. -/
  lockedOut : UInt8
  framing : Framing
  /-- The slot configuration that is in use. -/
  slot : Option SlotKey
  stats : Stats
  /-- An interrupt was notified and is not taken up yet. -/
  notified : Bool
  history : List Event

namespace Device

def initial (config : Config) (firmware : FirmwareSource) : Device where
  config := config
  bus := Bus.new
  firmware := firmware
  payload := none
  loadState := .notLoaded
  activeProfile := 0
  channels := []
  errors := ErrorCode.empty
  values := []
  cachedWrites := []
  deferred := DeferredQueue.empty
  restarts := 0
  lockedOut := 0
  framing := .tdm
  slot := none
  stats := Stats.zero
  notified := false
  history := []

/-- The time in microseconds. -/
def clock (device : Device) : Nat := device.bus.clock

def wait (microseconds : Nat) (device : Device) : Device :=
  { device with bus := device.bus.wait microseconds }

def record (event : Event) (device : Device) : Device :=
  { device with history := event :: device.history }

def channel? (device : Device) (channel : UInt8) : Option ChannelState :=
  device.channels[channel.toNat]?

/-- Changes the state of a channel; a channel that is not there is left alone. -/
def onChannel (channel : UInt8) (change : ChannelState → ChannelState) (device : Device) : Device :=
  { device with channels := device.channels.modify channel.toNat change }

/-- The power state of a channel; a channel that is not there is shut down. -/
def power (device : Device) (channel : UInt8) : Power :=
  ((device.channel? channel).map (·.power)).getD .shutdown

def unmasked (device : Device) (channel : UInt8) : Bool :=
  (device.channel? channel).any (·.unmasked)

def waiting (device : Device) (channel : UInt8) : Bool := device.deferred.isPending channel

/-- A channel is shut down for good. -/
def locked (device : Device) (channel : UInt8) : Bool := Channel.within device.lockedOut channel

def setPower (channel : UInt8) (power : Power) (device : Device) : Device :=
  device.onChannel channel fun state => { state with power := power }

/-- Notes whether interrupts of a channel can fire. -/
def setUnmasked (channel : UInt8) (unmasked : Bool) (device : Device) : Device :=
  device.onChannel channel fun state => { state with unmasked := unmasked }

def latch (errorClass : ErrorClass) (channel : UInt8) (device : Device) : Device :=
  { device with errors := device.errors.set errorClass channel }

def count (change : Stats → Stats) (device : Device) : Device :=
  { device with stats := change device.stats }

def cancelDeferred (channel : UInt8) (device : Device) : Device :=
  { device with deferred := device.deferred.cancel channel }

/-- The latest time there is. -/
def lastInstant : Nat := UInt64.size - 1

def scheduleDeferred (channel : UInt8) (device : Device) : Device :=
  let due := device.clock + Bus.milliseconds device.config.postPowerUpDelay.toNat
  { device with deferred := device.deferred.schedule channel (min due lastInstant) }

/-- The channels in a power state, as a mask. -/
def maskOf (device : Device) (wanted : Power) : UInt8 :=
  Channel.mask ((Channel.upTo (UInt8.ofNat device.channels.length)).filter fun channel =>
    device.power channel = wanted)

def selection (device : Device) (payload : Payload) : Selection := ⟨payload, device.activeProfile⟩

/-- Latches a transport fault on its channel; the shared reset line has no channel. -/
def latchFault (fault : Option TransportFault) (device : Device) : Device :=
  match fault with
  | some fault =>
      if fault.channel = TransportFault.sharedLine then device
      else device.latch .transport fault.channel
  | none => device

end Device

end AmpControl
