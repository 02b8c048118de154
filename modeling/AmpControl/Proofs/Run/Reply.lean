import AmpControl.Proofs.Run.Request

/-!
# What operations reply

Every operation is one request, which replies with an answer or an error. Together with the device
that is left behind, the replies are all that a user sees of a run.
-/

namespace AmpControl

open Tuning (AlgorithmParameter Control SlotKey)

/-- What an operation answers. -/
inductive Reply where
  | done
  | names (names : List String)
  | capabilities (bits : UInt32)
  | allowed (allowed : Bool)
  | report (report : RecoveryReport)
  | counters (counters : List (String × Counter))
  | errors (errors : ErrorCode)
  | ran (count : Nat)
  | controls (controls : List Control)
  | value (value : Int)
  | outcome (outcome : Control.Outcome)
  | slot (key : SlotKey)
  | parameters (parameters : List AlgorithmParameter)

theorem Request.leaves_map {α β : Type} (answer : α → β) (request : Request α) (device : Device) :
    (answer <$> request).leaves device = request.leaves device := by
  simp only [leaves, Functor.map, EStateM.map]
  cases request device <;> rfl

namespace Operation

/-- The request that an operation is. -/
def request : Operation → Request Reply
  | load tries => (fun _ => .done) <$> Request.load tries
  | probe => (fun _ => .done) <$> Request.probe
  | profileNames => .names <$> Request.profileNames
  | selectProfile index => (fun _ => .done) <$> Request.selectProfile index
  | capabilities => .capabilities <$> Request.capabilities
  | channelAllowed channel => .allowed <$> Request.channelAllowed channel
  | power mask target => (fun _ => .done) <$> Request.power mask target
  | handleInterrupt => .report <$> Request.handleInterrupt
  | counters channel => .counters <$> Request.counters channel
  | takeErrors => .errors <$> Request.takeErrors
  | runDeferred => .ran <$> Request.runDeferred
  | controls => .controls <$> Request.controls
  | getControl id => .value <$> Request.getControl id
  | putControl id value => .outcome <$> Request.putControl id value
  | putControlNamed name value => .outcome <$> Request.putControlNamed name value
  | applySetting setting variant => (fun _ => .done) <$> Request.applySetting setting variant
  | setFraming framing => (fun _ => .done) <$> Request.setFraming framing
  | negotiate slotWidth => .slot <$> Request.negotiate slotWidth
  | algorithm => .parameters <$> Request.algorithm
  | notify => (fun _ => .done) <$> Request.change Device.notifyInterrupt
  | runFor microseconds => (fun _ => .done) <$> Request.change (Device.runFor microseconds)
  | wait microseconds => (fun _ => .done) <$> Request.change (Device.wait microseconds)
  | disturb change => (fun _ => .done) <$> Request.change (perform (disturb change))
  | supply firmware => (fun _ => .done) <$> Request.change (perform (supply firmware))

/-- An operation leaves behind what its request does. -/
theorem leaves_request (operation : Operation) (device : Device) :
    operation.request.leaves device = operation.perform device := by
  cases operation <;> exact Request.leaves_map _ _ device

/-- What an operation replies: an answer or an error. -/
def reply (operation : Operation) (device : Device) : Except DeviceError Reply :=
  match operation.request device with
  | .ok answer _ => .ok answer
  | .error error _ => .error error

end Operation

namespace Device

/-- What the operations of a run reply, in order. -/
def replies : List Operation → Device → List (Except DeviceError Reply)
  | [], _ => []
  | operation :: others, device =>
      operation.reply device :: replies others (operation.perform device)

end Device

end AmpControl
