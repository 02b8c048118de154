import AmpControl.Device.Loading
import AmpControl.Device.Worker

/-!
# Requests

What a user asks of a device. Most requests load the payload first if that was not done; a request
that fails leaves the device as far changed as it was when the failure showed.
-/

namespace AmpControl

open Tuning (AlgorithmParameter AudioInterface Control Framing Payload Script Setting SlotConfig
  SlotKey SlotRequest Variant)

/-- A request: it returns an answer or an error, and leaves a device in either case. -/
abbrev Request := EStateM DeviceError Device

namespace Device

/-- A device over a bus on which nothing happened, if its configuration is sound. -/
def new (config : Config) (firmware : FirmwareSource) : Except ConfigError Device := do
  config.validate
  return initial config firmware

end Device

namespace Request

def change (step : Device → Device) : Request Unit := modify step

/-- Carries out work; the fault it meets, if any, is the error. -/
def perform (work : Work) : Request Unit := fun device =>
  match work device with
  | (after, none) => .ok () after
  | (after, some fault) => .error (.transport fault) after

/-- The payload, while it is loaded and ready for use. -/
def payload : Request Payload := fun device =>
  match device.ready? with
  | some payload => .ok payload device
  | none => .error (.notReady device.loadState) device

/-- Loads the image in at most `tries` attempts. -/
def load (tries : UInt32) : Request Unit := fun device =>
  match device.load tries with
  | (after, .ok ()) => .ok () after
  | (after, .error error) => .error (.image error) after

/-- Loads the image with the attempts that are meant for the start. -/
def probe : Request Unit := do
  load (← get).config.loadTries

/-- Loads the image if that was not done; a failure says how far loading came. -/
def ensureReady : Request Unit := fun device =>
  if device.loadState = .ready then .ok () device
  else
    match device.load device.config.lazyLoadTries with
    | (after, .ok ()) => .ok () after
    | (after, .error _) => .error (.notReady after.loadState) after

/-- Loads the image if that was not done, and returns the payload. -/
def loadedPayload : Request Payload := do
  ensureReady
  payload

/-! ## Profiles -/

def profileNames : Request (List String) := do
  return (← loadedPayload).profileNames

/-- Makes another profile active for the power transitions to come. -/
def selectProfile (index : Nat) : Request Unit := do
  let payload ← loadedPayload
  match ((← get).selection payload).choose index with
  | .ok chosen => change fun device => { device with activeProfile := chosen.active }
  | .error error => throw (.range error)

def capabilities : Request UInt32 := do
  let payload ← payload
  return ((← get).selection payload).capabilities

/-- The active profile lets power requests touch a channel. -/
def channelAllowed (channel : UInt8) : Request Bool := do
  let payload ← payload
  return Channel.within ((← get).selection payload).channelMask channel

/-! ## Power -/

/--
Moves the channels of a mask to a power state. Channels outside of the active profile are left out,
and so are locked channels, unless they are to be shut down.
-/
def power (mask : UInt8) (target : Power) : Request Unit := do
  let payload ← loadedPayload
  let device ← get
  let count := payload.channelCount
  let selected := mask &&& (device.selection payload).channelMask
  let locked := selected &&& device.lockedOut
  if locked ≠ 0 ∧ target ≠ .shutdown ∧ selected = locked then
    throw (.lockedOut ((Channel.among locked count).headD 0))
  let wanted := if target = .shutdown then selected else selected &&& ~~~device.lockedOut
  let (moved, fault) :=
    Work.each (Channel.among wanted count) (Device.transition payload target) device
  match fault with
  | none => set moved
  | some fault =>
      set (moved.escalate payload)
      throw (.transport fault)

/-! ## Interrupts -/

def handleInterrupt : Request RecoveryReport := fun device =>
  match device.handleInterrupt with
  | (after, .ok report) => .ok report after
  | (after, .error state) => .error (.notReady state) after

/-- The counters of a channel's sources by name, which are thereby read. -/
def counters (channel : UInt8) : Request (List (String × Counter)) := do
  let payload ← payload
  match payload.interrupts? channel with
  | none => return []
  | some table =>
      match (← get).channel? channel with
      | none => throw (.invalidChannel channel)
      | some state =>
          let read := table.sources.zip state.counters
          change (Device.onChannel channel fun state =>
            { state with
              counters := (state.counters.take read.length).map Counter.afterRead ++
                state.counters.drop read.length })
          return read.map fun (source, counter) => (source.name, counter)

/-- The latched errors, of which all but locked channels are thereby forgotten. -/
def takeErrors : Request ErrorCode := do
  let device ← get
  change fun device =>
    { device with errors := (device.errors.clear .transport).clear .stuckInterrupt }
  return device.errors

/-- Does the deferred work that is due, and returns how often work was done. -/
def runDeferred : Request Nat := fun device =>
  let (after, ran) := device.runDeferred
  .ok ran after

/-! ## Controls -/

def controls : Request (List Control) := do
  return (← loadedPayload).controls

def getControl (id : Nat) : Request Int := do
  let _ ← loadedPayload
  match (← get).values[id]? with
  | some value => return value
  | none => throw (.range (.unknownControl id))

/-- Dispatches a write that was stored, if it is to be applied. -/
def dispatch (write : Control.Write) : Request Unit :=
  match write.outcome with
  | .deferred => pure ()
  | .applied => fun device =>
      match Device.onBus write.carryOut (device.record (.dispatched write.id write.index)) with
      | (after, none) => .ok () after
      | (after, some fault) => .error (.transport fault) (after.latch .transport fault.channel)

/-- Writes a control; a value is stored even when sending it fails. -/
def putControl (id : Nat) (value : Int) : Request Control.Outcome := do
  let payload ← loadedPayload
  match Control.accept payload.controls id value ((← get).maskOf .active) with
  | .error error => throw (.range error)
  | .ok write =>
      change fun device => { device with values := device.values.set id value }
      dispatch write
      return write.outcome

/-- Keeps a write by name until there is a payload; it takes the place of one kept before. -/
def cacheWrite (name : String) (value : Int) : Request Control.Outcome := do
  change fun device =>
    { device with
      cachedWrites := (device.cachedWrites.filter fun entry => entry.1 != name) ++ [(name, value)] }
  return .deferred

def putFound (name : String) (value : Int) : Request Control.Outcome := do
  let payload ← payload
  match Control.find? payload.controls name with
  | some id => putControl id value
  | none => throw (.range (.unknownControlName name))

/-- Writes a control by name, now or as soon as there is a payload. -/
def putControlNamed (name : String) (value : Int) : Request Control.Outcome := fun device =>
  match ensureReady device with
  | .error _ after => cacheWrite name value after
  | .ok () after => putFound name value after

/-! ## Audio interface -/

/--
Carries out the scripts that `choose` finds for channels, each of them whether or not those before
it met a fault, until it refuses a channel.
-/
def programAll (role : Role) (choose : UInt8 → Except DeviceError (Option Script)) :
    List UInt8 → (held : Option TransportFault) → Request (Option TransportFault)
  | [], held => return held
  | channel :: others, held => do
      match choose channel with
      | .error error => throw error
      | .ok none => programAll role choose others held
      | .ok (some script) =>
          let outcome := Work.part (Device.run channel role script) (← get, held)
          set outcome.1
          programAll role choose others outcome.2

/-- Fails with a fault, if there is one. -/
def raise (fault : Option TransportFault) : Request Unit :=
  match fault with
  | some fault => throw (.transport fault)
  | none => return ()

def interface? (payload : Payload) (channel : UInt8) : Option AudioInterface :=
  (payload.channel? channel).bind (·.audioInterface)

/-- Carries out the script for a variant of a setting on every channel that has the tables. -/
def applySetting (setting : Setting) (variant : Variant) : Request Unit := do
  let payload ← loadedPayload
  let choose (channel : UInt8) : Except DeviceError (Option Script) :=
    match interface? payload channel with
    | none => .ok none
    | some tables =>
        match tables.select setting variant with
        | .ok script => .ok (some script)
        | .error unsupported => .error (.unsupported unsupported)
  raise (← programAll (.setting setting) choose payload.allChannels none)

/-- Chooses the framing for the slot negotiations to come. -/
def setFraming (framing : Framing) : Request Unit := do
  ensureReady
  change fun device => { device with framing := framing }

/-- The best slot configuration of each channel that authors any, none where nothing fits. -/
def slotChoices (payload : Payload) (request : SlotRequest) : List (Option SlotConfig) :=
  (payload.allChannels.filterMap (interface? payload)).map fun tables =>
    request.resolve tables.slots

/--
Programs the best slot configuration on every channel with audio interface tables. The configuration
of the last of them is the one in use from then on.
-/
def negotiate (slotWidth : UInt8) : Request SlotKey := do
  let payload ← loadedPayload
  let request : SlotRequest := ⟨slotWidth, (← get).framing, payload.channelCount,
    payload.header.senseWidth, payload.header.voltageSense⟩
  let choose (channel : UInt8) : Except DeviceError (Option Script) :=
    match interface? payload channel with
    | none => .ok none
    | some tables =>
        match request.resolve tables.slots with
        | some config => .ok (some config.script)
        | none => .error (.noSlotConfig slotWidth)
  let fault ← programAll .slot choose payload.allChannels none
  match (slotChoices payload request).getLast?.join with
  | none => throw (.noSlotConfig slotWidth)
  | some config =>
      change fun device => { device with slot := some config.key }
      raise fault
      return config.key

/-- The parameters for the algorithm outside of the driver. -/
def algorithm : Request (List AlgorithmParameter) := do
  return (← payload).algorithm

end Request

end AmpControl
