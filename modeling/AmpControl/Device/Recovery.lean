import AmpControl.Device.Power

/-!
# Interrupt recovery

One pass masks the interrupts of every channel, polls each channel, and acts on the channels on
which something fired:

    only clock-based sources   the channel goes on
    a reset is asked for       the channel, or all of them, are reset and brought back
    power is asked for         the channel is powered up again if its registers say that it is not
    anything else              the channel is shut down

A channel on which too much fires in too little time is stuck and left alone. Channels on which
nothing fired are unmasked again if they were. Only channels that play are unmasked here.

When every channel has failed on the bus, the hardware is reset and all channels are brought back;
if that was done too often already, they are shut down for good.
-/

namespace AmpControl

open Tuning (InterruptTable Payload)

/-- What is to be done about what fired on a channel in some power state. -/
def Reading.remedy (reading : Reading) (power : Power) : Remedy :=
  if reading.clockOnly then .resume
  else if reading.needsReset then
    if reading.needsHardReset then .hardReset else .softReset
  else if reading.needsPowerOn then
    if power = .active then .checkPower else .leave
  else if power = .shutdown then .leave
  else .shutDown

namespace Device

/-- Unmasks a channel that plays and has no deferred work waiting. -/
def resumeInterrupts (payload : Payload) (channel : UInt8) : Work :=
  Work.reading fun device =>
    if device.power channel = .active ∧ ¬device.waiting channel then
      unmaskInterrupts payload channel
    else Work.idle

def pulseReset : Work := fun device =>
  onBus (fun bus =>
    let outcome := bus.reset
    (outcome.1, Bus.faultOf TransportFault.sharedLine outcome.2)) (device.record .hardReset)

def afterHardReset (channel : UInt8) (device : Device) : Device :=
  (device.cancelDeferred channel).onChannel channel fun state =>
    { state with power := .shutdown, unmasked := false, debounce := Debounce.fresh }

/--
Resets the hardware, initialises every channel, and brings those that played or were muted back;
channels that are shut down for good stay so.
-/
def restartAll (payload : Payload) : Work :=
  Work.reading fun device =>
    let unlocked (mask : UInt8) : List UInt8 :=
      Channel.among (mask &&& ~~~device.lockedOut) payload.channelCount
    let playing := unlocked (device.maskOf .active)
    let muted := unlocked (device.maskOf .mute)
    Work.inOrder (
      [pulseReset] ++
      (payload.allChannels.flatMap fun channel =>
        [Work.silent (afterHardReset channel), initialise payload channel]) ++
      playing.map (restore payload .active) ++ muted.map (restore payload .mute))

/-- Resets one channel by its own script and brings it back to the power state it had. -/
def restartChannel (payload : Payload) (channel : UInt8) : Work :=
  Work.reading fun device =>
    Work.inOrder [softReset payload channel, initialise payload channel,
      restore payload (device.power channel) channel]

/-- Compares the registers of a channel with those of a powered one. -/
def checkPower (payload : Payload) (channel : UInt8) (device : Device) :
    Device × Except TransportFault Bool :=
  match payload.channel? channel with
  | some tables =>
      let outcome := device.bus.verify channel tables.power.check
      ({ device with bus := outcome.1 }, outcome.2)
  | none => (device, .ok true)

/-- Shuts channels down for good. -/
def lockOut (payload : Payload) (channels : List UInt8) (device : Device) : Device :=
  channels.foldl (fun held channel =>
    let down := (powerDown payload channel held).1
    { down.latch .lockedOut channel with lockedOut := down.lockedOut ||| Channel.bit channel })
    device

/-- Every channel of a payload has a latched transport error. -/
def allFailing (payload : Payload) (device : Device) : Bool :=
  let all := Channel.all payload.channelCount
  payload.channelCount != 0 && device.errors.channels .transport &&& all == all

/-- Counts a restart and forgets the transport errors that led to it. -/
def beginRestart (device : Device) : Device :=
  { (device.count fun stats => { stats with restarts := Stats.increment stats.restarts }) with
    restarts := Stats.increment device.restarts
    errors := device.errors.clear .transport }

/-- Restarts the device when every channel failed, or shuts the channels down for good. -/
def escalate (payload : Payload) (device : Device) : Device :=
  if ¬device.allFailing payload then device
  else if device.restarts < device.config.maxRestarts then
    (restartAll payload device.beginRestart).1
  else
    device.lockOut payload
      (Channel.among (Channel.all payload.channelCount &&& ~~~device.lockedOut)
        payload.channelCount)

/-- A recovery pass on its way. -/
structure Pass where
  device : Device
  report : RecoveryReport
  fault : Option TransportFault

namespace Pass

/-- Carries out work as a part of the pass. -/
def perform (work : Work) (pass : Pass) : Pass :=
  let (device, fault) := work.part (pass.device, pass.fault)
  { pass with device := device, fault := fault }

def silently (change : Device → Device) (pass : Pass) : Pass :=
  { pass with device := change pass.device }

def reporting (change : RecoveryReport → RecoveryReport) (pass : Pass) : Pass :=
  { pass with report := change pass.report }

def noteReset (channel : UInt8) (pass : Pass) : Pass :=
  (pass.reporting fun report =>
    { report with reset := report.reset ||| Channel.bit channel }).silently
    (Device.count fun stats => { stats with resets := Stats.increment stats.resets })

/-- Carries out what is to be done about a channel. -/
def apply (payload : Payload) (channel : UInt8) (remedy : Remedy) (pass : Pass) : Pass :=
  let bit := Channel.bit channel
  match remedy with
  | .resume =>
      (pass.reporting fun report => { report with clockOnly := report.clockOnly ||| bit }).perform
        (resumeInterrupts payload channel)
  | .hardReset =>
      (pass.noteReset channel).perform fun device =>
        match restartAll payload device with
        | (restarted, none) => resumeInterrupts payload channel restarted
        | failed => failed
  | .softReset => (pass.noteReset channel).perform (restartChannel payload channel)
  | .checkPower =>
      match checkPower payload channel pass.device with
      | (checked, .error fault) =>
          { pass with device := checked }.perform fun device => (device, some fault)
      | (checked, .ok true) =>
          { pass with device := checked }.perform (resumeInterrupts payload channel)
      | (checked, .ok false) =>
          ({ pass with device := checked }.reporting fun report =>
            { report with repowered := report.repowered ||| bit }).perform
            (powerUp payload channel)
  | .shutDown =>
      (pass.reporting fun report => { report with shutDown := report.shutDown ||| bit }).perform
        (powerDown payload channel)
  | .leave => pass

/-- Takes a detection into the storm window of a channel. -/
def debounce (start : Nat) (channel : UInt8) (pass : Pass) : Pass × Verdict :=
  match pass.device.channel? channel with
  | none => (pass, .act)
  | some state =>
      let config := pass.device.config
      let (noted, verdict) := state.debounce.detect start config.stormLimit
        (Bus.milliseconds config.stormWindow.toNat)
      (pass.silently (Device.onChannel channel fun state => { state with debounce := noted }),
        verdict)

/-- Leaves a stuck channel alone, after looking at its registers. -/
def skipStuck (table : InterruptTable) (channel : UInt8) (pass : Pass) : Pass :=
  (pass.reporting fun report =>
    { report with stuck := report.stuck ||| Channel.bit channel }).silently
    fun device =>
      let counted := device.count fun stats =>
        { stats with stuckDetections := Stats.increment stats.stuckDetections }
      let latched := (counted.latch .stuckInterrupt channel).record (.stuck channel)
      { latched with bus := (latched.bus.readAll channel table.dump).1 }

/-- Clears what fired on a channel, waits for it to settle, and recovers the channel. -/
def recover (payload : Payload) (table : InterruptTable) (channel : UInt8) (reading : Reading)
    (pass : Pass) : Pass :=
  let counted := pass.silently (Device.count fun stats =>
    { stats with recoveries := Stats.increment stats.recoveries })
  let settled := (counted.perform (run channel .clear table.clear)).silently
    (Device.wait (Bus.milliseconds table.settleTime.toNat))
  let remedy := reading.remedy (settled.device.power channel)
  (settled.silently (Device.record (.recovered channel remedy))).apply payload channel remedy

/-- Polls one channel and does what is to be done about it; the pass began at `start`. -/
def visit (payload : Payload) (start : Nat) (channel : UInt8) (pass : Pass) : Pass :=
  match payload.interrupts? channel with
  | none => pass
  | some table =>
      match pass.device.poll table channel (pass.device.power channel = .active) with
      | (polled, .error fault) =>
          { pass with device := polled }.perform fun device => (device, some fault)
      | (polled, .ok reading) =>
          let read := { pass with device := polled }
          if ¬reading.any then read
          else
            let (noted, verdict) :=
              (read.reporting fun report =>
                { report with detected := report.detected ||| Channel.bit channel }).debounce
                start channel
            match verdict with
            | .stuck => noted.skipStuck table channel
            | .act => noted.recover payload table channel reading

/-- Unmasks a channel again, unless that was done or is left to its deferred work. -/
def unmaskAgain (payload : Payload) (channel : UInt8) : Work :=
  Work.reading fun device =>
    if device.waiting channel ∨ device.unmasked channel then Work.idle
    else unmaskInterrupts payload channel

/-- Ends a pass: what went wrong on the bus may lead to a restart. -/
def finish (payload : Payload) (start : Nat) (pass : Pass) : Device × RecoveryReport :=
  let ended := if pass.fault.isSome then pass.device.escalate payload else pass.device
  (ended.record (.surveyed start pass.report), pass.report)

end Pass

/-- Masks the interrupts of a channel that has an interrupt table. -/
def maskForSurvey (payload : Payload) (channel : UInt8) : Work :=
  match payload.interrupts? channel with
  | some table =>
      Work.inOrder [run channel .mask table.mask, Work.silent (setUnmasked channel false)]
  | none => Work.idle

/-- One recovery pass over the channels of a payload that uses interrupts. -/
def survey (payload : Payload) (device : Device) : Device × RecoveryReport :=
  let channels := payload.allChannels
  let unmaskedBefore := Channel.mask (channels.filter device.unmasked)
  let masked := (Pass.mk device RecoveryReport.nothing none).perform
    (Work.each channels (maskForSurvey payload))
  let start := masked.device.clock
  let visited := channels.foldl (fun pass channel => pass.visit payload start channel) masked
  let quiet := Channel.among (unmaskedBefore &&& ~~~visited.report.detected) payload.channelCount
  (visited.perform (Work.each quiet (Pass.unmaskAgain payload))).finish payload start

end Device

end AmpControl
