import AmpControl.Device.Recovery
import AmpControl.Proofs.Control.Write
import AmpControl.Proofs.Device.ErrorCode
import AmpControl.Proofs.Device.Work
import Mathlib.Logic.Relation

/-!
# Steps of work

Everything that work on the channels of a payload does to a device is a row of the steps listed
here. A step leaves the payload, the stored values and the channels that are shut down for good
alone, and what it adds to the history is lawful: interrupts are unmasked on playing channels
only, no locked channel is powered or muted, and a control is sent with its stored value.
-/

namespace AmpControl

open Tuning (Control Payload Script Timing)

/-- A script may have a role on a channel that stands as told. -/
def Role.Permitted (role : Role) (power : Power) (waiting locked : Bool) : Prop :=
  match role with
  | .unmask => power = .active ∧ waiting = false ∧ locked = false
  | .powerUp | .mute => locked = false
  | _ => True

namespace Event

/-- A script was carried out on a channel that may have it. -/
def Lawful : Event → Prop
  | .ran _ role power waiting locked => role.Permitted power waiting locked
  | _ => True

/-- A script that powers, mutes or unmasks is carried out only on a channel that is not locked. -/
theorem Lawful.unlocked {channel : UInt8} {role : Role} {power : Power} {waiting locked : Bool}
    (lawful : Lawful (.ran channel role power waiting locked))
    (affected : role = .powerUp ∨ role = .mute ∨ role = .unmask) : locked = false := by
  rcases affected with rfl | rfl | rfl
  · exact lawful
  · exact lawful
  · exact lawful.2.2

/-- A script was carried out in the knowledge of which channels are shut down for good. -/
def Sees (lockedOut : UInt8) : Event → Prop
  | .ran channel _ _ _ locked => Channel.within lockedOut channel = true → locked = true
  | _ => True

/-- A control was sent with the stored value. -/
def Faithful (controls : List Control) (values : List Int) : Event → Prop
  | .dispatched id index => Control.wanted? controls values id = some index
  | _ => True

/--
What was sent to a channel is lost: a reset loses what applies at any time, and a power-up begins
anew with what belongs to it.
-/
def Outdates (channel : UInt8) (timing : Timing) : Event → Prop
  | .installed | .hardReset => timing = .anytime
  | .ran reset .softReset _ _ _ => timing = .anytime ∧ reset = channel
  | .poweringUp powered => timing ≠ .anytime ∧ powered = channel
  | _ => False

/--
An event that work may add to the history of a device: it is lawful, it goes by what the device
holds, and it outdates nothing but `stale`.
-/
structure Proper (payload : Payload) (stale : UInt8 → Timing → Prop) (device : Device)
    (event : Event) : Prop where
  lawful : event.Lawful
  sees : event.Sees device.lockedOut
  faithful : event.Faithful payload.controls device.values
  spares : ∀ channel timing, event.Outdates channel timing → stale channel timing

/-- A remark of a recovery pass on itself. -/
def IsRemark : Event → Prop
  | .stuck _ | .recovered _ _ | .surveyed _ _ => True
  | _ => False

end Event

namespace Device

/-- A script may be carried out in a role on a channel as it stands now. -/
def Permits (device : Device) (channel : UInt8) (role : Role) : Prop :=
  role.Permitted (device.power channel) (device.waiting channel) (device.locked channel)

/--
One step of work on the channels of a payload. What was sent to the channels and timings of
`stale` may be lost by it.
-/
inductive Step (payload : Payload) (stale : UInt8 → Timing → Prop) : Device → Device → Prop where
  | ran {device : Device} {channel : UInt8} {role : Role} (script : Script)
      (permitted : device.Permits channel role)
      (lost : role = .softReset → stale channel .anytime) :
      Step payload stale device (run channel role script device).1
  | replayed {device : Device} (channel : UInt8) (timing : Timing) :
      Step payload stale device (replay payload channel timing device).1
  | began {device : Device} {channel : UInt8}
      (lost : ∀ timing, timing ≠ .anytime → stale channel timing) :
      Step payload stale device (device.record (.poweringUp channel))
  | pulsed {device : Device} (lost : ∀ channel, stale channel .anytime) :
      Step payload stale device (pulseReset device).1
  | latched {device : Device} (fault : Option TransportFault) :
      Step payload stale device (device.latchFault fault)
  | changed {device : Device} (channel : UInt8) (change : ChannelState → ChannelState) :
      Step payload stale device (device.onChannel channel change)
  | cancelled {device : Device} (channel : UInt8) :
      Step payload stale device (device.cancelDeferred channel)
  | scheduled {device : Device} (channel : UInt8) :
      Step payload stale device (device.scheduleDeferred channel)
  | drove {device : Device} (bus : Bus) : Step payload stale device { device with bus := bus }
  | counted {device : Device} (change : Stats → Stats) :
      Step payload stale device (device.count change)
  | reported {device : Device} {errorClass : ErrorClass} (apart : errorClass ≠ .lockedOut)
      (channel : UInt8) : Step payload stale device (device.latch errorClass channel)
  | remarked {device : Device} (event : Event) (remark : event.IsRemark) :
      Step payload stale device (device.record event)

/-- A row of steps. -/
def Steps (payload : Payload) (stale : UInt8 → Timing → Prop) : Device → Device → Prop :=
  Relation.ReflTransGen (Step payload stale)

/-- What no work on channels changes. -/
structure Frame (before after : Device) : Prop where
  payload : after.payload = before.payload
  loadState : after.loadState = before.loadState
  values : after.values = before.values
  lockedOut : after.lockedOut = before.lockedOut
  length_channels : after.channels.length = before.channels.length
  locked_errors : after.errors.channels .lockedOut = before.errors.channels .lockedOut

namespace Frame

theorem refl (device : Device) : Frame device device := ⟨rfl, rfl, rfl, rfl, rfl, rfl⟩

theorem trans {before middle after : Device} (first : Frame before middle)
    (second : Frame middle after) : Frame before after where
  payload := second.payload.trans first.payload
  loadState := second.loadState.trans first.loadState
  values := second.values.trans first.values
  lockedOut := second.lockedOut.trans first.lockedOut
  length_channels := second.length_channels.trans first.length_channels
  locked_errors := second.locked_errors.trans first.locked_errors

theorem locked {before after : Device} (frame : Frame before after) (channel : UInt8) :
    after.locked channel = before.locked channel := by
  rw [Device.locked, frame.lockedOut, Device.locked]

end Frame

theorem frame_latch (device : Device) {errorClass : ErrorClass} (apart : errorClass ≠ .lockedOut)
    (channel : UInt8) : Frame device (device.latch errorClass channel) :=
  ⟨rfl, rfl, rfl, rfl, rfl, ErrorCode.channels_set_of_ne _ apart _⟩

theorem frame_latchFault (device : Device) (fault : Option TransportFault) :
    Frame device (device.latchFault fault) := by
  unfold latchFault
  split
  · split
    · exact Frame.refl device
    · exact frame_latch device (by decide) _
  · exact Frame.refl device

theorem frame_onChannel (device : Device) (channel : UInt8) (change : ChannelState → ChannelState) :
    Frame device (device.onChannel channel change) :=
  ⟨rfl, rfl, rfl, rfl, List.length_modify .., rfl⟩

/-- Recording events changes the history and nothing else. -/
theorem foldl_record {α : Type} (events : α → Event) (items : List α) (device : Device) :
    items.foldl (fun held item => held.record (events item)) device =
      { device with history := (items.map events).reverse ++ device.history } := by
  induction items generalizing device with
  | nil => rfl
  | cons first others ih =>
      rw [List.foldl_cons, ih]
      simp [record]

/-- What sending the stored values of a channel adds to the history. -/
def replayEvents (payload : Payload) (device : Device) (channel : UInt8) (timing : Timing) :
    List Event :=
  ((Control.replayable payload.controls device.values channel timing).map fun write =>
    .dispatched write.id write.index).reverse

theorem replay_eq (payload : Payload) (channel : UInt8) (timing : Timing) (device : Device) :
    replay payload channel timing device =
      onBus (Control.carryOutAll
        (Control.replayable payload.controls device.values channel timing) none)
        { device with
          history := replayEvents payload device channel timing ++ device.history } := by
  unfold replay
  simp only [foldl_record, replayEvents]

theorem Step.frame {payload : Payload} {stale : UInt8 → Timing → Prop} {before after : Device}
    (step : Step payload stale before after) : Frame before after := by
  cases step with
  | latched fault => exact frame_latchFault before fault
  | changed channel change => exact frame_onChannel before channel change
  | reported apart channel => exact frame_latch before apart channel
  | replayed channel timing =>
      rw [replay_eq]
      exact ⟨rfl, rfl, rfl, rfl, rfl, rfl⟩
  | _ => exact ⟨rfl, rfl, rfl, rfl, rfl, rfl⟩

theorem Steps.frame {payload : Payload} {stale : UInt8 → Timing → Prop} {before after : Device}
    (steps : Steps payload stale before after) : Frame before after := by
  induction steps with
  | refl => exact Frame.refl before
  | tail _ last ih => exact ih.trans last.frame

/-- The history grew, and everything new in it has a property. -/
def Adds (property : Event → Prop) (before after : Device) : Prop :=
  ∃ added, after.history = added ++ before.history ∧ ∀ event ∈ added, property event

namespace Adds

variable {property : Event → Prop} {before middle after : Device}

theorem same (unchanged : after.history = before.history) : Adds property before after :=
  ⟨[], unchanged, fun _ member => absurd member List.not_mem_nil⟩

theorem one {event : Event} (added : after.history = event :: before.history)
    (holds : property event) : Adds property before after := by
  refine ⟨[event], added, ?_⟩
  intro other member
  rw [List.mem_singleton.mp member]
  exact holds

theorem trans (first : Adds property before middle) (second : Adds property middle after) :
    Adds property before after := by
  obtain ⟨early, grown, earlyHolds⟩ := first
  obtain ⟨late, grownAgain, lateHolds⟩ := second
  refine ⟨late ++ early, ?_, ?_⟩
  · rw [grownAgain, grown, List.append_assoc]
  · intro event member
    rcases List.mem_append.mp member with isLate | isEarly
    · exact lateHolds event isLate
    · exact earlyHolds event isEarly

theorem mono {weaker : Event → Prop} (adds : Adds property before after)
    (weaken : ∀ event, property event → weaker event) : Adds weaker before after := by
  obtain ⟨added, grown, holds⟩ := adds
  exact ⟨added, grown, fun event member => weaken event (holds event member)⟩

theorem mem (adds : Adds property before after) {event : Event} (old : event ∈ before.history) :
    event ∈ after.history := by
  obtain ⟨added, grown, _⟩ := adds
  rw [grown]
  exact List.mem_append_right added old

theorem forall_mem (adds : Adds property before after)
    (before_holds : ∀ event ∈ before.history, property event) :
    ∀ event ∈ after.history, property event := by
  obtain ⟨added, grown, holds⟩ := adds
  intro event member
  rw [grown] at member
  rcases List.mem_append.mp member with isNew | isOld
  · exact holds event isNew
  · exact before_holds event isOld

end Adds

/-- Exactly the accepted stored values of a channel and a timing are sent. -/
theorem mem_replayEvents {payload : Payload} {device : Device} {channel : UInt8}
    {timing : Timing} {event : Event} :
    event ∈ replayEvents payload device channel timing ↔
      ∃ id control index, payload.controls[id]? = some control ∧ control.channel = channel ∧
        control.timing = timing ∧
        Control.wanted? payload.controls device.values id = some index ∧
        event = .dispatched id index := by
  simp only [replayEvents, List.mem_reverse, List.mem_map, Control.mem_replayable]
  constructor
  · rintro ⟨write, ⟨found, onChannel, onTiming, wanted, _⟩, rfl⟩
    exact ⟨write.id, write.control, write.index, found, onChannel, onTiming, wanted, rfl⟩
  · rintro ⟨id, control, index, found, onChannel, onTiming, wanted, rfl⟩
    exact ⟨⟨id, control, index, .applied⟩, ⟨found, onChannel, onTiming, wanted, rfl⟩, rfl⟩

theorem Step.history {payload : Payload} {stale : UInt8 → Timing → Prop} {before after : Device}
    (step : Step payload stale before after) :
    Adds (Event.Proper payload stale before) before after := by
  cases step with
  | @ran channel role script permitted lost =>
      refine Adds.one rfl ⟨permitted, id, trivial, ?_⟩
      intro outdated timing outdates
      cases role <;> first | exact outdates.elim | skip
      obtain ⟨rfl, rfl⟩ := outdates
      exact lost rfl
  | replayed channel timing =>
      rw [replay_eq]
      refine ⟨_, rfl, ?_⟩
      intro event member
      obtain ⟨id, control, index, _, _, _, wanted, rfl⟩ := mem_replayEvents.mp member
      exact ⟨trivial, trivial, wanted, fun _ _ outdates => outdates.elim⟩
  | began lost =>
      refine Adds.one rfl ⟨trivial, trivial, trivial, ?_⟩
      rintro channel timing ⟨late, rfl⟩
      exact lost timing late
  | pulsed lost =>
      refine Adds.one rfl ⟨trivial, trivial, trivial, ?_⟩
      rintro channel timing rfl
      exact lost channel
  | latched fault => exact Adds.same (by rw [latchFault_eq])
  | remarked event remark =>
      refine Adds.one rfl ?_
      cases event <;> first
        | exact ⟨trivial, trivial, trivial, fun _ _ outdates => outdates.elim⟩
        | exact remark.elim
  | _ => exact Adds.same rfl

theorem Steps.history {payload : Payload} {stale : UInt8 → Timing → Prop} {before after : Device}
    (steps : Steps payload stale before after) :
    Adds (Event.Proper payload stale before) before after := by
  induction steps with
  | refl => exact Adds.same rfl
  | tail first last ih =>
      have frame := Steps.frame first
      refine ih.trans (last.history.mono fun event proper => ?_)
      exact ⟨proper.lawful, frame.lockedOut ▸ proper.sees, frame.values ▸ proper.faithful,
        proper.spares⟩

end Device

end AmpControl
