import AmpControl.Device.Request
import AmpControl.Tuning.Draft

/-!
# Runs of operations

A run is a list of operations: the requests of users, the workers, time that passes, and what
happens around the device, which is that the transport or the firmware source changes in any way.
-/

namespace AmpControl

open Tuning (Control Draft Framing InterruptTable Script Setting Variant)

/-- The device that a request leaves behind, whether or not it is fulfilled. -/
def Request.leaves {α : Type} (request : Request α) (device : Device) : Device :=
  match request device with
  | .ok _ after => after
  | .error _ after => after

/-- Something that happens to a device between two observations of it. -/
inductive Operation where
  | load (tries : UInt32)
  | probe
  | profileNames
  | selectProfile (index : Nat)
  | capabilities
  | channelAllowed (channel : UInt8)
  | power (mask : UInt8) (target : Power)
  | handleInterrupt
  | counters (channel : UInt8)
  | takeErrors
  | runDeferred
  | controls
  | getControl (id : Nat)
  | putControl (id : Nat) (value : Int)
  | putControlNamed (name : String) (value : Int)
  | applySetting (setting : Setting) (variant : Variant)
  | setFraming (framing : Framing)
  | negotiate (slotWidth : UInt8)
  | algorithm
  /-- An interrupt fires. -/
  | notify
  /-- Both workers run for a time. -/
  | runFor (microseconds : Nat)
  /-- Time passes. -/
  | wait (microseconds : Nat)
  /-- Registers change by themselves, and calls begin or cease to fail. -/
  | disturb (change : Bus.Transport → Bus.Transport)
  /-- Other images are supplied. -/
  | supply (firmware : FirmwareSource)

/-- Carries out an operation. -/
def Operation.perform : Operation → Device → Device
  | load tries => (Request.load tries).leaves
  | probe => Request.probe.leaves
  | profileNames => Request.profileNames.leaves
  | selectProfile index => (Request.selectProfile index).leaves
  | capabilities => Request.capabilities.leaves
  | channelAllowed channel => (Request.channelAllowed channel).leaves
  | power mask target => (Request.power mask target).leaves
  | handleInterrupt => Request.handleInterrupt.leaves
  | counters channel => (Request.counters channel).leaves
  | takeErrors => Request.takeErrors.leaves
  | runDeferred => Request.runDeferred.leaves
  | controls => Request.controls.leaves
  | getControl id => (Request.getControl id).leaves
  | putControl id value => (Request.putControl id value).leaves
  | putControlNamed name value => (Request.putControlNamed name value).leaves
  | applySetting setting variant => (Request.applySetting setting variant).leaves
  | setFraming framing => (Request.setFraming framing).leaves
  | negotiate slotWidth => (Request.negotiate slotWidth).leaves
  | algorithm => Request.algorithm.leaves
  | notify => Device.notifyInterrupt
  | runFor microseconds => Device.runFor microseconds
  | wait microseconds => Device.wait microseconds
  | disturb change => fun device =>
      { device with bus := { device.bus with transport := change device.bus.transport } }
  | supply firmware => fun device => { device with firmware := firmware }

namespace Device

/-- The device after a run of operations. -/
def after (operations : List Operation) (device : Device) : Device :=
  operations.foldl (fun held operation => operation.perform held) device

theorem after_append (early late : List Operation) (device : Device) :
    device.after (early ++ late) = (device.after early).after late :=
  List.foldl_append

/-- The device after a run that began with a device that had loaded nothing. -/
def reached (config : Config) (firmware : FirmwareSource) (operations : List Operation) : Device :=
  (initial config firmware).after operations

end Device

/-! ## Small images -/

namespace Tuning.Draft

/-- One channel with a control that applies at any time and a fault as its interrupt source. -/
def small : Draft :=
  let status := Register.ofParts 0 0 0x10
  let table : InterruptTable := {
    sources := [⟨"fault", status, 0x02, 0, false⟩]
    unmask := Script.writing (Register.ofParts 0 0 0x11) 0xFF
    mask := Script.writing (Register.ofParts 0 0 0x11) 0x00
    clear := Script.writing status 0x00
    settleTime := 2
    dump := [] }
  let gain : Control := ⟨"gain", 0, .anytime, .integer {
    register := Register.ofParts 0 0 0x20
    mode := .single
    mask := 0
    lowest := 0
    highest := 3
    step := 1
    initial := 2
    element := .byte
    candidates := [0x00, 0x20, 0x40, 0x60] }⟩
  ((Draft.new 1).withInterrupts 0 table).addControl gain

/-- Some channels, each with one interrupt source that asks for a recovery. -/
def watching (channels : UInt8) (actions : UInt32) : Draft :=
  let status := Register.ofParts 0 0 0x10
  let table : InterruptTable := {
    sources := [⟨"watched", status, 0x02, actions, false⟩]
    unmask := Script.writing (Register.ofParts 0 0 0x11) 0xFF
    mask := Script.writing (Register.ofParts 0 0 0x11) 0x00
    clear := Script.writing status 0x00
    settleTime := 2
    dump := [] }
  (Channel.upTo channels).foldl (fun draft channel => draft.withInterrupts channel table)
    (Draft.new channels)

end Tuning.Draft

/-- The source of the small image. -/
def FirmwareSource.small : FirmwareSource := .new (some Tuning.Draft.small.build)

/-- The source of an image with interrupt sources that ask for a recovery. -/
def FirmwareSource.watching (channels : UInt8) (actions : UInt32) : FirmwareSource :=
  .new (some (Tuning.Draft.watching channels actions).build)

end AmpControl
