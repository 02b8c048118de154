import AmpControl.Device.Work

/-!
# Power transitions

Powering a channel up masks its interrupts, arms sense data again if the profile says so, carries
out the profile's script and the controls that come before power-up, then the core script and the
profile's script after it, and leaves the rest to deferred work. Powering down and muting also mask
interrupts and drop the deferred work. A shut-down channel cannot be muted.
-/

namespace AmpControl.Device

open Tuning (Payload Profile)

/-- Clears interrupts and arms sense data, if the active profile says so. -/
def rearmSense (payload : Payload) (channel : UInt8) : Work :=
  Work.reading fun device =>
    if (device.selection payload).capabilities &&& Profile.rearmBit ≠ 0 then
      Work.inOrder [clearInterrupts payload channel, armSense payload channel]
    else Work.idle

/-- Notes that the power-up sequence of a channel begins. -/
def beginPowerUp (channel : UInt8) : Work :=
  Work.silent (Device.record (.poweringUp channel))

/-- A channel is powered, and its deferred work waits. -/
def endPowerUp (channel : UInt8) : Work :=
  Work.silent fun device => (device.setPower channel .active).scheduleDeferred channel

def powerUp (payload : Payload) (channel : UInt8) : Work :=
  match payload.channel? channel with
  | some tables =>
      Work.inOrder [
        beginPowerUp channel,
        maskInterrupts payload channel,
        rearmSense payload channel,
        applyProfile payload .beforePowerUp channel,
        replay payload channel .beforePowerUp,
        run channel .powerUp tables.power.powerUp,
        applyProfile payload .afterPowerUp channel,
        endPowerUp channel]
  | none => Work.idle

def powerDown (payload : Payload) (channel : UInt8) : Work :=
  match payload.channel? channel with
  | some tables =>
      Work.inOrder [
        maskInterrupts payload channel,
        Work.silent (cancelDeferred channel),
        applyProfile payload .beforePowerDown channel,
        run channel .powerDown tables.power.powerDown,
        applyProfile payload .afterPowerDown channel,
        Work.silent (setPower channel .shutdown)]
  | none => Work.idle

def mute (payload : Payload) (channel : UInt8) : Work :=
  match payload.channel? channel with
  | some tables =>
      Work.inOrder [
        maskInterrupts payload channel,
        Work.silent (cancelDeferred channel),
        run channel .mute tables.power.mute,
        Work.silent (setPower channel .mute)]
  | none => Work.idle

/-- Moves a channel to a power state; a channel that is there already is left alone. -/
def transition (payload : Payload) (target : Power) (channel : UInt8) : Work :=
  Work.reading fun device =>
    match device.power channel, target with
    | .active, .active | .shutdown, .shutdown | .mute, .mute | .shutdown, .mute => Work.idle
    | _, .active => powerUp payload channel
    | _, .shutdown => powerDown payload channel
    | .active, .mute => mute payload channel

/-- Brings a channel that was reset back to the power state it had. -/
def restore (payload : Payload) (former : Power) (channel : UInt8) : Work :=
  match former with
  | .active => powerUp payload channel
  | .mute => Work.inOrder [powerUp payload channel, mute payload channel]
  | .shutdown => Work.idle

end AmpControl.Device
