import AmpControl.Device.Work

/-!
# Loading

Loading asks the firmware source for the image until a payload can be taken out of it or the
attempts are used up. A payload takes the place of the one before in one step: every channel starts
out shut down, is reset and initialised, and the control writes that waited for a payload are made.
Transport faults on the way are latched and do not undo the installation.
-/

namespace AmpControl.Device

open Tuning (Control ImageError ParsedImage Payload)

/-- Makes the control writes that waited for a payload; those that are not accepted are dropped. -/
def makeCachedWrites (payload : Payload) (device : Device) : Device :=
  device.cachedWrites.foldl (fun held (name, value) =>
    match Control.acceptNamed payload.controls name value 0 with
    | .error _ => held
    | .ok write =>
        let stored := { held with values := held.values.set write.id value }
        match write.outcome with
        | .applied =>
            (onBus write.carryOut (stored.record (.dispatched write.id write.index))).1
        | .deferred => stored) { device with cachedWrites := [] }

/-- The state of a channel that a payload begins with. -/
def freshChannel (payload : Payload) (channel : UInt8) : ChannelState :=
  ChannelState.fresh (((payload.interrupts? channel).map (·.sources.length)).getD 0)

/-- Puts a payload in place, before any channel is initialised. -/
def adopt (payload : Payload) (device : Device) : Device :=
  { device.record .installed with
    deferred := device.deferred.cancelAll
    channels := payload.allChannels.map (freshChannel payload)
    values := Control.initials payload.controls
    activeProfile :=
      if device.activeProfile < payload.profiles.length then device.activeProfile else 0
    payload := some payload }

def initialiseAll (payload : Payload) : Work :=
  Work.inOrder (payload.allChannels.flatMap fun channel =>
    [softReset payload channel, initialise payload channel])

def install (payload : Payload) (device : Device) : Device :=
  let prepared := (initialiseAll payload (device.adopt payload)).1
  { (prepared.makeCachedWrites payload).count fun stats =>
      { stats with loads := Stats.increment stats.loads } with
    loadState := .ready }

def fetch (device : Device) : Device × Except ImageError Payload :=
  let (source, answer) := device.firmware.request device.config.firmwareName
  ({ device with firmware := source },
    match answer with
    | some image => (ParsedImage.ofImage image device.config.revision).outcome
    | none => .error (.container .empty))

/-- Loads in at most `tries` attempts, with a pause between two of them; `last` failed before. -/
def attempt : (tries : Nat) → (last : ImageError) → Device → Device × Except ImageError Unit
  | 0, last, device => ({ device with loadState := .loadFailed }, .error last)
  | tries + 1, _, device =>
      match device.fetch with
      | (fetched, .ok payload) => (fetched.install payload, .ok ())
      | (fetched, .error error) =>
          if error.isRetryable then
            let paused :=
              if tries = 0 then fetched
              else fetched.wait (Bus.milliseconds device.config.loadRetryDelay.toNat)
            attempt tries error paused
          else ({ fetched with loadState := .parseFailed }, .error error)

/-- Loads in at most `tries` attempts, and at least one. A payload that is in place is replaced. -/
def load (tries : UInt32) (device : Device) : Device × Except ImageError Unit :=
  attempt (max tries.toNat 1) (.container .empty) { device with loadState := .loading }

end AmpControl.Device
