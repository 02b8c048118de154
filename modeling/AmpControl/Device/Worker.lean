import AmpControl.Device.Recovery

/-!
# Workers

Two loops run beside the requests to a device. One does deferred work when it is due; the other
waits for interrupt notifications and makes a recovery pass a little later, so that one pass answers
many notifications. Both take turns on the device: what is under way is finished before the other
loop begins, and at equal times deferred work goes first.
-/

namespace AmpControl.Device

open Tuning (Payload)

/-- The payload, while it is loaded and ready for use. -/
def ready? (device : Device) : Option Payload :=
  if device.loadState = .ready then device.payload else none

/-- Polls a channel that was powered up and forgets what fired meanwhile. -/
def pollAfterPowerUp (payload : Payload) (channel : UInt8) : Work := fun device =>
  match payload.interrupts? channel with
  | none => (device, none)
  | some table =>
      match device.poll table channel true with
      | (polled, .ok _) => (polled, none)
      | (polled, .error fault) => (polled, some fault)

/--
The deferred work of a channel: what fired is looked at and cleared, the channel is unmasked, and
the controls that come after power-up are sent.
-/
def finishPowerUp (payload : Payload) (channel : UInt8) (device : Device) : Device :=
  let (worked, fault) := Work.inOrder [
    pollAfterPowerUp payload channel,
    clearInterrupts payload channel,
    unmaskInterrupts payload channel,
    replay payload channel .afterPowerUp] device
  let counted := worked.count fun stats =>
    { stats with deferredRuns := Stats.increment stats.deferredRuns }
  if fault.isSome then counted.latch .transport channel else counted

/-- What a turn of the deferred work found. -/
inductive DeferredTurn where
  /-- Nothing is due. -/
  | idle
  /-- There is no payload to work with, and all work was dropped. -/
  | dropped
  /-- The channel does not play any more. -/
  | skipped
  | ran
  deriving DecidableEq, Repr

/-- Takes the deferred work that is due first and does it. -/
def deferredTurn (device : Device) : Device × DeferredTurn :=
  match device.deferred.takeDue device.clock with
  | none => (device, .idle)
  | some ((channel, _), left) =>
      let taken := { device with deferred := left }
      match taken.ready? with
      | none => ({ taken with deferred := left.cancelAll }, .dropped)
      | some payload =>
          if taken.power channel = .active then
            (taken.finishPowerUp payload channel, .ran)
          else (taken, .skipped)

/-- At most `bound` turns, until nothing is due; returns how often work was done. -/
def deferredTurns : (bound : Nat) → (ran : Nat) → Device → Device × Nat
  | 0, ran, device => (device, ran)
  | bound + 1, ran, device =>
      match device.deferredTurn with
      | (after, .idle) | (after, .dropped) => (after, ran)
      | (after, .skipped) => deferredTurns bound ran after
      | (after, .ran) => deferredTurns bound (ran + 1) after

/--
Does all deferred work that is due, also what becomes due meanwhile, and returns how often work was
done. Work is never scheduled here, so each channel has at most one turn.
-/
def runDeferred (device : Device) : Device × Nat :=
  deferredTurns (Tuning.maxChannels + 1) 0 device

/-- A recovery pass, if there is a payload to work with. -/
def handleInterrupt (device : Device) : Device × Except LoadState RecoveryReport :=
  match device.ready? with
  | none => (device, .error device.loadState)
  | some payload =>
      if payload.header.interruptsSupported then
        let (surveyed, report) := device.survey payload
        (surveyed, .ok report)
      else (device, .ok RecoveryReport.nothing)

def notifyInterrupt (device : Device) : Device := { device with notified := true }

/-- Moves the clock forward to the given time; it never goes back. -/
def waitUntil (instant : Nat) (device : Device) : Device :=
  device.wait (instant - device.clock)

/-- Does deferred work as it becomes due, up to the given time, with at most `bound` pauses. -/
def deferredUntil : (bound : Nat) → (ending : Nat) → Device → Device
  | 0, _, device => device
  | bound + 1, ending, device =>
      match device.deferred.nextDue? with
      | some due =>
          if due ≤ ending then
            deferredUntil bound ending (device.waitUntil due).runDeferred.1
          else device
      | none => device

/-- The pauses in which all deferred work is done: each of them leaves fewer channels waiting. -/
def deferredPauses : Nat := Tuning.maxChannels + 1

/--
Runs both loops for a time. A notification is taken up at once, and its pass begins when the
debounce delay is over, unless the time is over first; the notification is gone in either case.
-/
def runFor (microseconds : Nat) (device : Device) : Device :=
  let ending := device.clock + microseconds
  let passTime := device.clock + Bus.milliseconds device.config.debounceDelay.toNat
  let begun := { device with notified := false }
  let recovered :=
    if device.notified ∧ passTime ≤ ending then
      ((deferredUntil deferredPauses passTime begun).waitUntil passTime).handleInterrupt.1
    else begun
  (deferredUntil deferredPauses ending recovered).waitUntil ending

end AmpControl.Device
