import AmpControl.Proofs.Bus.Charges
import AmpControl.Proofs.Control.Lanes
import AmpControl.Proofs.Device.Composition
import AmpControl.Proofs.Device.Visits

/-!
# Work on different channels does not interfere

What a power transition does to a channel is decided by this channel alone: by its state, its lane,
whether deferred work waits for it, and what work on channels never changes. Transitions of
different channels may therefore be carried out in any order.
-/

namespace AmpControl

open Tuning (Payload Phase Script Timing)

namespace Work

theorem snd_foldl_part (parts : List Work) (device : Device) (met : Option TransportFault) :
    (parts.foldl (fun state work => work.part state) (device, met)).2 =
      TransportFault.join met (inOrder parts device).2 := by
  induction parts generalizing device met with
  | nil => exact (TransportFault.join_none met).symm
  | cons first others ih =>
      have whole : (inOrder (first :: others) device).2 =
          TransportFault.join (first device).2 (inOrder others (first.leaves device)).2 := ih _ _
      rw [whole, ← TransportFault.join_assoc]
      exact ih _ _

theorem snd_inOrder_cons (first : Work) (others : List Work) (device : Device) :
    (inOrder (first :: others) device).2 =
      TransportFault.join (first device).2 (inOrder others (first.leaves device)).2 :=
  snd_foldl_part others (first.leaves device) (first device).2

end Work

namespace Device

/-- A device with all that work on channels changes taken from another one. -/
def changedTo (device other : Device) : Device :=
  { device with
    bus := other.bus
    channels := other.channels
    errors := other.errors
    deferred := other.deferred
    history := other.history }

/-- Two devices that differ in other channels, in errors, in time and in history at most. -/
structure Alike (channel : UInt8) (first second : Device) : Prop where
  rest : first.changedTo second = second
  places : first.channels.length = second.channels.length
  state : first.channel? channel = second.channel? channel
  waiting : first.waiting channel = second.waiting channel
  lane : Bus.lane channel first.bus = Bus.lane channel second.bus

variable {channel other : UInt8} {first second third device : Device} {payload : Payload}
  {change : Device → Device}

namespace Alike

theorem refl (channel : UInt8) (device : Device) : Alike channel device device :=
  ⟨rfl, rfl, rfl, rfl, rfl⟩

theorem symm (alike : Alike channel first second) : Alike channel second first where
  rest := by rw [← alike.rest]; rfl
  places := alike.places.symm
  state := alike.state.symm
  waiting := alike.waiting.symm
  lane := alike.lane.symm

theorem trans (early : Alike channel first second) (late : Alike channel second third) :
    Alike channel first third where
  rest := by rw [← late.rest, ← early.rest]; rfl
  places := early.places.trans late.places
  state := early.state.trans late.state
  waiting := early.waiting.trans late.waiting
  lane := early.lane.trans late.lane

theorem power (alike : Alike channel first second) :
    first.power channel = second.power channel := by
  rw [Device.power, alike.state, Device.power]

/-- What work on channels never changes is the same in both devices. -/
theorem kept {α : Type} (alike : Alike channel first second) (part : Device → α)
    (unchanged : part (first.changedTo second) = part first) : part first = part second :=
  unchanged.symm.trans (congrArg part alike.rest)

theorem selection (alike : Alike channel first second) :
    first.selection payload = second.selection payload := by
  rw [Device.selection, alike.kept Device.activeProfile rfl, Device.selection]

/-- To latch a fault makes no difference. -/
theorem latched (device : Device) (fault : Option TransportFault) :
    Alike channel device (device.latchFault fault) := by
  rw [latchFault_eq]
  exact ⟨rfl, rfl, rfl, rfl, rfl⟩

theorem updated (updates : Updates channel change) (alike : Alike channel first second) :
    Alike channel (change first) (change second) := by
  have changed (onState : ChannelState → ChannelState) :
      Alike channel (first.onChannel channel onState) (second.onChannel channel onState) := by
    refine ⟨alike.rest ▸ rfl, ?_, ?_, alike.waiting, alike.lane⟩
    · rw [onChannel, onChannel, List.length_modify, List.length_modify, alike.places]
    · rw [channel?_onChannel, channel?_onChannel, alike.state]
  cases updates with
  | began => exact ⟨alike.rest ▸ rfl, alike.places, alike.state, alike.waiting, alike.lane⟩
  | unmasked unmasked => exact changed _
  | powered power => exact changed _
  | cancelled =>
      refine ⟨alike.rest ▸ rfl, alike.places, alike.state, ?_, alike.lane⟩
      rw [Device.waiting, Device.waiting, cancelDeferred, cancelDeferred,
        DeferredQueue.isPending_cancel, DeferredQueue.isPending_cancel, if_pos rfl, if_pos rfl]
  | scheduled =>
      refine ⟨alike.rest ▸ rfl, alike.places, alike.state, ?_, alike.lane⟩
      rw [Device.waiting, Device.waiting, scheduleDeferred, scheduleDeferred,
        DeferredQueue.isPending_schedule_self, DeferredQueue.isPending_schedule_self]

/-- An update of another channel makes no difference. -/
theorem beside (updates : Updates other change) (apart : channel ≠ other) (device : Device) :
    Alike channel device (change device) := by
  have confined : Confined (· = other) device (change device) none :=
    confined_updates (by rfl) updates device
  refine ⟨?_, confined.beside.length_channels.symm, (confined.states channel apart).symm, ?_, ?_⟩
  · cases updates <;> rfl
  · rw [Device.waiting, Device.waiting, DeferredQueue.isPending, DeferredQueue.isPending,
      confined.items channel apart]
  · cases updates <;> rfl

end Alike

end Device

namespace Work

open Device (Alike Updates)

variable {channel other : UInt8} {first second device : Device} {payload : Payload}
  {work : Work}

/--
Work on one channel: this channel decides what comes of it, it takes its own time, no other channel
is concerned, and no error is latched unless it meets a fault.
-/
structure Local (channel : UInt8) (work : Work) : Prop where
  fault : ∀ {first second : Device}, Alike channel first second → (work first).2 = (work second).2
  alike : ∀ {first second : Device}, Alike channel first second →
    Alike channel (work first).1 (work second).1
  timed : ∀ {first second : Device}, Alike channel first second →
    (work first).1.clock + second.clock = (work second).1.clock + first.clock
  apart : ∀ {other : UInt8}, other ≠ channel → ∀ device, Alike other device (work device).1
  quiet : ∀ {device : Device}, (work device).2 = none → (work device).1.errors = device.errors

namespace Local

theorem leaves (within : Local channel work) (alike : Alike channel first second) :
    Alike channel (work.leaves first) (work.leaves second) :=
  (((Alike.latched _ _).symm).trans (within.alike alike)).trans (.latched _ _)

theorem leaves_apart (within : Local channel work) (apart : other ≠ channel) (device : Device) :
    Alike other device (work.leaves device) := (within.apart apart device).trans (.latched _ _)

end Local

theorem clock_leaves (work : Work) (device : Device) :
    (work.leaves device).clock = (work device).1.clock := by
  rw [Device.clock, leaves, Device.bus_latchFault, Device.clock]

theorem local_idle (channel : UInt8) : Local channel idle :=
  ⟨fun _ => rfl, id, fun _ => Nat.add_comm _ _, fun _ _ => .refl _ _, fun _ => rfl⟩

theorem local_onBus {deed : Bus → Bus × Option TransportFault} (within : Bus.Local channel deed) :
    Local channel (Device.onBus deed) where
  fault alike := within.answer alike.lane
  alike alike :=
    ⟨alike.rest ▸ rfl, alike.places, alike.state, alike.waiting, within.lane alike.lane⟩
  timed alike := within.timed alike.lane
  apart apart device := ⟨rfl, rfl, rfl, rfl, (within.apart apart device.bus).symm⟩
  quiet _ := rfl

theorem local_updating {change : Device → Device} (updates : Updates channel change)
    (within : Local channel work) : Local channel fun device => work (change device) where
  fault alike := within.fault (alike.updated updates)
  alike alike := within.alike (alike.updated updates)
  timed alike := by
    have timed := within.timed (alike.updated updates)
    cases updates <;> exact timed
  apart apart device := (Alike.beside updates apart device).trans (within.apart apart _)
  quiet {device} clean := by
    have quiet := within.quiet clean
    cases updates <;> exact quiet

theorem local_reading {choose : Device → Work} (within : ∀ device, Local channel (choose device))
    (decided : ∀ {first second : Device}, Alike channel first second →
      choose first = choose second) : Local channel (reading choose) where
  fault {first second} alike := by
    rw [reading_apply, reading_apply, decided alike]
    exact (within second).fault alike
  alike {first second} alike := by
    rw [reading_apply, reading_apply, decided alike]
    exact (within second).alike alike
  timed {first second} alike := by
    rw [reading_apply, reading_apply, decided alike]
    exact (within second).timed alike
  apart apart device := (within device).apart apart device
  quiet {device} clean := (within device).quiet clean

theorem local_cons {begin : Work} {others : List Work} (early : Local channel begin)
    (late : Local channel (inOrder others)) : Local channel (inOrder (begin :: others)) where
  fault alike := by
    rw [snd_inOrder_cons, snd_inOrder_cons, early.fault alike, late.fault (early.leaves alike)]
  alike alike := by
    rw [fst_inOrder_cons, fst_inOrder_cons]
    exact late.alike (early.leaves alike)
  timed {first second} alike := by
    have begun := early.timed alike
    have ended := late.timed (early.leaves alike)
    rw [clock_leaves, clock_leaves] at ended
    rw [fst_inOrder_cons, fst_inOrder_cons]
    omega
  apart apart device := by
    rw [fst_inOrder_cons]
    exact (early.leaves_apart apart device).trans (late.apart apart _)
  quiet {device} clean := by
    rw [snd_inOrder_cons, Bus.join_eq_none] at clean
    have same : (begin.leaves device).errors = device.errors := by
      rw [leaves, clean.1]
      exact early.quiet clean.1
    rw [fst_inOrder_cons, late.quiet clean.2, same]

/-! ## Parts of transitions -/

/-- What is noted in the history makes no difference. -/
theorem local_noting (events : Device → List Event) (within : Local channel work) :
    Local channel fun device => work { device with history := events device } := by
  have noted (other : UInt8) (device : Device) :
      Alike other device { device with history := events device } := ⟨rfl, rfl, rfl, rfl, rfl⟩
  have both {first second : Device} (alike : Alike channel first second) :
      Alike channel { first with history := events first }
        { second with history := events second } :=
    ((noted channel first).symm.trans alike).trans (noted channel second)
  exact ⟨fun alike => within.fault (both alike), fun alike => within.alike (both alike),
    fun alike => within.timed (both alike),
    fun apart device => (noted _ device).trans (within.apart apart _), fun clean =>
      within.quiet clean⟩

theorem local_run (channel : UInt8) (role : Role) (script : Script) :
    Local channel (Device.run channel role script) := by
  have noted := local_noting (fun device => .ran channel role (device.power channel)
    (device.waiting channel) (device.locked channel) :: device.history)
    (local_onBus (Bus.local_execute channel script))
  exact noted

theorem local_replay (payload : Payload) (channel : UInt8) (timing : Timing) :
    Local channel (Device.replay payload channel timing) := by
  have looksUp : Device.replay payload channel timing = reading fun device held =>
      Device.onBus (Tuning.Control.carryOutAll
        (Tuning.Control.replayable payload.controls device.values channel timing) none)
        { held with
          history := Device.replayEvents payload held channel timing ++ held.history } := by
    funext device
    rw [Device.replay_eq, reading_apply]
  rw [looksUp]
  refine local_reading (fun device => ?_) fun alike => ?_
  · exact local_noting _ (local_onBus (Bus.local_replay _ _ _ _))
  · rw [alike.kept Device.values rfl]

theorem local_silent {change : Device → Device} (updates : Updates channel change) :
    Local channel (silent change) := by
  have noted : Local channel fun device => idle (change device) :=
    local_updating updates (local_idle channel)
  exact noted

theorem local_applyProfile (payload : Payload) (phase : Phase) (channel : UInt8) :
    Local channel (Device.applyProfile payload phase channel) := by
  rw [applyProfile_eq_reading]
  refine local_reading (fun device => ?_) fun alike => ?_
  · cases (device.selection payload).profile? channel with
    | none => exact local_idle channel
    | some profile => exact local_run channel _ _
  · rw [alike.selection]

theorem local_armSense (payload : Payload) (channel : UInt8) :
    Local channel (Device.armSense payload channel) := by
  rw [armSense_eq_reading]
  refine local_reading (fun device => ?_) fun {first second} alike => ?_
  · cases device.slotInUse? payload channel with
    | none => exact local_idle channel
    | some config => exact local_run channel _ _
  · have same : first.slotInUse? payload channel = second.slotInUse? payload channel := by
      rw [Device.slotInUse?, alike.kept Device.slot rfl, Device.slotInUse?]
    rw [same]

theorem local_maskInterrupts (payload : Payload) (channel : UInt8) :
    Local channel (Device.maskInterrupts payload channel) := by
  unfold Device.maskInterrupts
  cases payload.interrupts? channel with
  | none => exact local_silent (.unmasked false)
  | some table => exact local_updating (.unmasked false) (local_run channel _ _)

theorem local_clearInterrupts (payload : Payload) (channel : UInt8) :
    Local channel (Device.clearInterrupts payload channel) := by
  unfold Device.clearInterrupts
  cases payload.interrupts? channel with
  | none => exact local_idle channel
  | some table => exact local_run channel _ _

theorem local_rearmSense (payload : Payload) (channel : UInt8) :
    Local channel (Device.rearmSense payload channel) := by
  refine local_reading (fun device => ?_) fun alike => ?_
  · split
    · exact local_cons (local_clearInterrupts payload channel)
        (local_cons (local_armSense payload channel) (local_idle channel))
    · exact local_idle channel
  · rw [alike.selection]

theorem local_endPowerUp (channel : UInt8) : Local channel (Device.endPowerUp channel) := by
  have noted : Local channel fun device =>
      silent (Device.scheduleDeferred channel) (device.setPower channel .active) :=
    local_updating (.powered .active) (local_silent .scheduled)
  exact noted

/-! ## Transitions -/

theorem local_powerUp (payload : Payload) (channel : UInt8) :
    Local channel (Device.powerUp payload channel) := by
  unfold Device.powerUp
  cases payload.channel? channel with
  | none => exact local_idle channel
  | some tables =>
      exact local_cons (local_silent .began) <|
        local_cons (local_maskInterrupts payload channel) <|
        local_cons (local_rearmSense payload channel) <|
        local_cons (local_applyProfile payload _ channel) <|
        local_cons (local_replay payload channel _) <|
        local_cons (local_run channel _ _) <|
        local_cons (local_applyProfile payload _ channel) <|
        local_cons (local_endPowerUp channel) (local_idle channel)

theorem local_powerDown (payload : Payload) (channel : UInt8) :
    Local channel (Device.powerDown payload channel) := by
  unfold Device.powerDown
  cases payload.channel? channel with
  | none => exact local_idle channel
  | some tables =>
      exact local_cons (local_maskInterrupts payload channel) <|
        local_cons (local_silent .cancelled) <|
        local_cons (local_applyProfile payload _ channel) <|
        local_cons (local_run channel _ _) <|
        local_cons (local_applyProfile payload _ channel) <|
        local_cons (local_silent (.powered .shutdown)) (local_idle channel)

theorem local_mute (payload : Payload) (channel : UInt8) :
    Local channel (Device.mute payload channel) := by
  unfold Device.mute
  cases payload.channel? channel with
  | none => exact local_idle channel
  | some tables =>
      exact local_cons (local_maskInterrupts payload channel) <|
        local_cons (local_silent .cancelled) <|
        local_cons (local_run channel _ _) <|
        local_cons (local_silent (.powered .mute)) (local_idle channel)

/-- A power transition is work on its own channel. -/
theorem local_transition (payload : Payload) (target : Power) (channel : UInt8) :
    Local channel (Device.transition payload target channel) := by
  refine local_reading (fun device => ?_) fun alike => ?_
  · split
    all_goals first
      | exact local_idle channel
      | exact local_powerUp payload channel
      | exact local_powerDown payload channel
      | exact local_mute payload channel
  · rw [alike.power]

end Work

end AmpControl
