import AmpControl.Device.State

/-!
# Work on channels

A piece of work changes a device and may meet a transport fault. Work is made of scripts and of
smaller work: every part is carried out, the fault of each part is latched on its channel, and all
faults are reported together.
-/

namespace AmpControl

open Tuning (AudioInterface Control InterruptTable Payload Phase Script SlotConfig Timing)

/-- A piece of work on a device. -/
abbrev Work := Device → Device × Option TransportFault

namespace Work

def idle : Work := fun device => (device, none)

def silent (change : Device → Device) : Work := fun device => (change device, none)

def reading (choose : Device → Work) : Work := fun device => choose device device

/-- One part of larger work that has met `held` so far: its fault is latched and added. -/
def part (work : Work) (state : Device × Option TransportFault) :
    Device × Option TransportFault :=
  let outcome := work state.1
  (outcome.1.latchFault outcome.2, TransportFault.join state.2 outcome.2)

/-- All parts, in order. -/
def inOrder (parts : List Work) : Work := fun device =>
  parts.foldl (fun state work => work.part state) (device, none)

/-- Work on each of some channels, in order. -/
def each (channels : List UInt8) (work : UInt8 → Work) : Work := inOrder (channels.map work)

end Work

namespace Device

def onBus (change : Bus → Bus × Option TransportFault) : Work := fun device =>
  let outcome := change device.bus
  ({ device with bus := outcome.1 }, outcome.2)

def run (channel : UInt8) (role : Role) (script : Script) : Work := fun device =>
  onBus (Bus.execute channel script)
    (device.record
      (.ran channel role (device.power channel) (device.waiting channel) (device.locked channel)))

/-- Sends the stored values of a channel and a timing to the hardware. -/
def replay (payload : Payload) (channel : UInt8) (timing : Timing) : Work := fun device =>
  let writes := Control.replayable payload.controls device.values channel timing
  let noted := writes.foldl
    (fun held write => held.record (.dispatched write.id write.index)) device
  onBus (Control.carryOutAll writes none) noted

/-- Carries out the script of the active profile for a point of a power transition. -/
def applyProfile (payload : Payload) (phase : Phase) (channel : UInt8) : Work := fun device =>
  match (device.selection payload).profile? channel with
  | some profile => run channel (.profile phase) (profile.script phase) device
  | none => (device, none)

def maskInterrupts (payload : Payload) (channel : UInt8) : Work := fun device =>
  let masked := device.setUnmasked channel false
  match payload.interrupts? channel with
  | some table => run channel .mask table.mask masked
  | none => (masked, none)

def clearInterrupts (payload : Payload) (channel : UInt8) : Work :=
  match payload.interrupts? channel with
  | some table => run channel .clear table.clear
  | none => Work.idle

def unmaskInterrupts (payload : Payload) (channel : UInt8) : Work :=
  match payload.interrupts? channel with
  | some table =>
      Work.inOrder [run channel .unmask table.unmask,
        Work.silent (Device.setUnmasked channel true)]
  | none => Work.idle

/-- The slot configuration of a channel that is in use. -/
def slotInUse? (device : Device) (payload : Payload) (channel : UInt8) : Option SlotConfig := do
  let key ← device.slot
  let tables ← payload.channel? channel
  let audioInterface ← tables.audioInterface
  audioInterface.slots.find? fun config => config.key = key

/-- Carries out the script of the slot configuration that is in use. -/
def armSense (payload : Payload) (channel : UInt8) : Work := fun device =>
  match device.slotInUse? payload channel with
  | some config => run channel .slot config.script device
  | none => (device, none)

def softReset (payload : Payload) (channel : UInt8) : Work :=
  match payload.channel? channel with
  | some tables => run channel .softReset tables.power.softReset
  | none => Work.idle

/-- Carries out the fallback of every audio interface setting that has one. -/
def applyFallbacks (channel : UInt8) (audioInterface : Option AudioInterface) : Work :=
  match audioInterface with
  | some tables =>
      Work.inOrder (tables.fallbacks.map fun (setting, script) =>
        run channel (.setting setting) script)
  | none => Work.idle

/--
Initialises a channel: its initialisation script, the fallbacks of the audio interface, the slot
configuration in use, and the controls that apply at any time.
-/
def initialise (payload : Payload) (channel : UInt8) : Work :=
  match payload.channel? channel with
  | some tables =>
      Work.inOrder [
        run channel .initialisation tables.initialisation,
        applyFallbacks channel tables.audioInterface,
        armSense payload channel,
        replay payload channel .anytime]
  | none => Work.idle

/-- Polls a channel, and counts what fired on it. -/
def poll (table : InterruptTable) (channel : UInt8) (powered : Bool) (device : Device) :
    Device × Except TransportFault Reading :=
  let counters := ((device.channel? channel).map (·.counters)).getD []
  let poll := table.classify channel powered counters device.bus
  ({ device with bus := poll.bus }.onChannel channel fun state =>
    { state with counters := poll.counters }, poll.result channel)

end Device

end AmpControl
