import AmpControl.Proofs.Device.Deferred
import AmpControl.Proofs.Device.Progress
import Mathlib.Logic.Function.Basic

/-!
# How channels stand

What a recovery has to respect about a channel is its power state, whether its interrupts can fire,
and whether deferred work waits for it. Work on one channel changes how this channel stands and
leaves all others as they are.
-/

namespace AmpControl

open Tuning (InterruptTable Payload Phase Script Timing)

/-- How a channel stands. -/
structure Standing where
  power : Power
  unmasked : Bool
  waiting : Bool
  deriving DecidableEq, Repr

namespace Standing

/-- Shut down. -/
def off : Standing := ⟨.shutdown, false, false⟩

/-- Powered up, with deferred work to come. -/
def rising : Standing := ⟨.active, false, true⟩

/-- Muted. -/
def muted : Standing := ⟨.mute, false, false⟩

/-- How a restart leaves a channel that was in a power state. -/
def anew : Power → Standing
  | .shutdown => off
  | .active => rising
  | .mute => muted

/--
A channel may stand like this between two pieces of work: interrupts can fire and deferred work
waits only while it plays, not both of it, and a locked channel is shut down.
-/
structure Allowed (standing : Standing) (locked : Bool) : Prop where
  unmasked : standing.unmasked = true → standing.power = .active ∧ standing.waiting = false
  waiting : standing.waiting = true → standing.power = .active
  locked : locked = true → standing.power = .shutdown

theorem allowed_off (locked : Bool) : off.Allowed locked :=
  ⟨fun fires => (Bool.false_ne_true fires).elim, fun waits => (Bool.false_ne_true waits).elim,
    fun _ => rfl⟩

theorem allowed_rising : rising.Allowed false :=
  ⟨fun fires => (Bool.false_ne_true fires).elim, fun _ => rfl,
    fun locked => (Bool.false_ne_true locked).elim⟩

theorem allowed_muted : muted.Allowed false :=
  ⟨fun fires => (Bool.false_ne_true fires).elim, fun waits => (Bool.false_ne_true waits).elim,
    fun locked => (Bool.false_ne_true locked).elim⟩

theorem allowed_anew (power : Power) : (anew power).Allowed false := by
  cases power with
  | shutdown => exact allowed_off false
  | active => exact allowed_rising
  | mute => exact allowed_muted

theorem power_anew (power : Power) : (anew power).power = power := by
  cases power <;> rfl

/-- A shut-down channel that may stand as it does has nothing else going on. -/
theorem Allowed.eq_off {standing : Standing} {locked : Bool} (allowed : standing.Allowed locked)
    (down : standing.power = .shutdown) : standing = off := by
  obtain ⟨power, unmasked, waiting⟩ := standing
  cases down
  have masked : unmasked = false := by
    by_contra fires
    exact absurd (allowed.unmasked (Bool.eq_true_of_not_eq_false fires)).1 (by simp)
  have still : waiting = false := by
    by_contra waits
    exact absurd (allowed.waiting (Bool.eq_true_of_not_eq_false waits)) (by simp)
  rw [masked, still, off]

end Standing

namespace Device

variable {payload : Payload} {device : Device} {channel : UInt8}

/-- How a channel stands. -/
def standing (device : Device) (channel : UInt8) : Standing :=
  ⟨device.power channel, device.unmasked channel, device.waiting channel⟩

/-- A payload of the promised shape is in place, with a state for each of its channels. -/
structure Fits (payload : Payload) (device : Device) : Prop where
  shaped : payload.Shaped
  inPlace : device.payload = some payload
  length_channels : device.channels.length = payload.channels.length

theorem Fits.frame {after : Device} (fits : device.Fits payload) (frame : Frame device after) :
    after.Fits payload :=
  ⟨fits.shaped, frame.payload.trans fits.inPlace,
    frame.length_channels.trans fits.length_channels⟩

/-- Every declared channel has a state. -/
theorem Fits.state (fits : device.Fits payload) (declared : channel < payload.channelCount) :
    ∃ state, device.channel? channel = some state := by
  have there : channel.toNat < device.channels.length := by
    rw [fits.length_channels]
    exact fits.shaped.lt_channelCount_iff.mp declared
  exact ⟨device.channels[channel.toNat], List.getElem?_eq_getElem there⟩

/-- A channel that is not declared is not there. -/
theorem Fits.power_of_undeclared (fits : device.Fits payload)
    (undeclared : ¬channel < payload.channelCount) : device.power channel = .shutdown := by
  have absent : device.channel? channel = none := by
    apply List.getElem?_eq_none
    rw [fits.length_channels]
    exact Nat.le_of_not_lt fun there => undeclared (fits.shaped.lt_channelCount_iff.mpr there)
  rw [power, absent]
  rfl

theorem Fits.toNat_lt (fits : device.Fits payload) (declared : channel < payload.channelCount) :
    channel.toNat < Tuning.maxChannels :=
  UInt8.lt_iff_toNat_lt.mp (UInt8.lt_of_lt_of_le declared fits.shaped.channelCount_le)

/-! ## Changes of one channel -/

theorem channel?_onChannel (device : Device) (channel : UInt8)
    (change : ChannelState → ChannelState) (other : UInt8) :
    (device.onChannel channel change).channel? other =
      if other = channel then (device.channel? other).map change else device.channel? other := by
  unfold channel? onChannel
  simp only [List.getElem?_modify]
  by_cases same : other = channel
  · subst same
    simp
  · have apart : channel.toNat ≠ other.toNat := fun equal => same (UInt8.toNat_inj.mp equal.symm)
    simp only [if_neg same, if_neg apart]
    exact id_map' _

theorem standing_of_channel? {state : ChannelState} (held : device.channel? channel = some state) :
    device.standing channel = ⟨state.power, state.unmasked, device.waiting channel⟩ := by
  simp [standing, power, Device.unmasked, held]

theorem standing_onChannel {state : ChannelState} (held : device.channel? channel = some state)
    (change : ChannelState → ChannelState) :
    (device.onChannel channel change).standing =
      Function.update device.standing channel
        ⟨(change state).power, (change state).unmasked, device.waiting channel⟩ := by
  funext other
  by_cases same : other = channel
  · subst same
    have changed : (device.onChannel other change).channel? other = some (change state) := by
      rw [channel?_onChannel, if_pos rfl, held]
      rfl
    rw [Function.update_self, standing_of_channel? changed]
    rfl
  · have kept : (device.onChannel channel change).channel? other = device.channel? other := by
      rw [channel?_onChannel, if_neg same]
    rw [Function.update_of_ne same, standing, power, Device.unmasked, kept]
    rfl

/-- A change that leaves the power state and the mask alone leaves all channels as they stand. -/
theorem standing_onChannel_of_same (device : Device) (channel : UInt8)
    {change : ChannelState → ChannelState} (power : ∀ state, (change state).power = state.power)
    (unmasked : ∀ state, (change state).unmasked = state.unmasked) :
    (device.onChannel channel change).standing = device.standing := by
  cases held : device.channel? channel with
  | some state =>
      rw [standing_onChannel held, power, unmasked, ← standing_of_channel? held,
        Function.update_eq_self]
  | none =>
      funext other
      have kept : (device.onChannel channel change).channel? other = device.channel? other := by
        rw [channel?_onChannel]
        split
        · rename_i same
          rw [same, held]
          rfl
        · rfl
      rw [standing, Device.power, Device.unmasked, kept]
      rfl

theorem standing_setPower {state : ChannelState} (held : device.channel? channel = some state)
    (power : Power) :
    (device.setPower channel power).standing =
      Function.update device.standing channel { device.standing channel with power := power } := by
  rw [setPower, standing_onChannel held, standing_of_channel? held]

theorem standing_setUnmasked {state : ChannelState} (held : device.channel? channel = some state)
    (unmasked : Bool) :
    (device.setUnmasked channel unmasked).standing =
      Function.update device.standing channel
        { device.standing channel with unmasked := unmasked } := by
  rw [setUnmasked, standing_onChannel held, standing_of_channel? held]

theorem standing_cancelDeferred (device : Device) (channel : UInt8) :
    (device.cancelDeferred channel).standing =
      Function.update device.standing channel
        { device.standing channel with waiting := false } := by
  funext other
  by_cases same : other = channel
  · subst same
    rw [Function.update_self]
    simp [standing, Device.power, Device.unmasked, waiting, channel?, cancelDeferred,
      DeferredQueue.isPending_cancel]
  · rw [Function.update_of_ne same]
    simp [standing, Device.power, Device.unmasked, waiting, channel?, cancelDeferred,
      DeferredQueue.isPending_cancel, same]

theorem standing_scheduleDeferred (device : Device)
    (small : channel.toNat < Tuning.maxChannels) :
    (device.scheduleDeferred channel).standing =
      Function.update device.standing channel
        { device.standing channel with waiting := true } := by
  funext other
  by_cases same : other = channel
  · subst same
    rw [Function.update_self]
    simp [standing, Device.power, Device.unmasked, waiting, channel?, scheduleDeferred,
      DeferredQueue.isPending_schedule _ small]
  · rw [Function.update_of_ne same]
    simp [standing, Device.power, Device.unmasked, waiting, channel?, scheduleDeferred,
      DeferredQueue.isPending_schedule _ small, same]

theorem standing_latchFault (device : Device) (fault : Option TransportFault) :
    (device.latchFault fault).standing = device.standing := by
  rw [latchFault_eq]
  rfl

/-- How channels stand depends on the channels and on the deferred work only. -/
theorem standing_eq_of_parts {before after : Device} (channels : after.channels = before.channels)
    (deferred : after.deferred = before.deferred) : after.standing = before.standing := by
  funext channel
  simp only [standing, power, unmasked, waiting, channel?, channels, deferred]

theorem power_of_standing_eq {before after : Device} (same : after.standing = before.standing) :
    after.power = before.power :=
  funext fun channel => congrArg Standing.power (congrFun same channel)

theorem power_leaves (work : Work) (device : Device) :
    (work.leaves device).power = (work device).1.power :=
  power_of_standing_eq (standing_latchFault _ _)

/-! ## Work on one channel -/

/--
Work on a channel keeps the payload in place and makes of the standing of this channel what is told;
the others stand as before.
-/
def Sets (payload : Payload) (channel : UInt8) (change : Standing → Standing) (work : Work) :
    Prop :=
  ∀ device : Device, device.Fits payload →
    (work device).1.Fits payload ∧
      (work device).1.standing =
        Function.update device.standing channel (change (device.standing channel))

theorem sets_idle : Sets payload channel id Work.idle := fun _ fits =>
  ⟨fits, (Function.update_eq_self channel _).symm⟩

/-- Work that neither moves nor changes how channels stand. -/
theorem sets_of_same {work : Work} (frame : ∀ device, Frame device (work device).1)
    (same : ∀ device, (work device).1.standing = device.standing) :
    Sets payload channel id work := fun device fits =>
  ⟨fits.frame (frame device), (same device).trans (Function.update_eq_self channel _).symm⟩

theorem sets_nil : Sets payload channel id (Work.inOrder []) := sets_idle

theorem sets_cons {first : Work} {others : List Work} {one more : Standing → Standing}
    (early : Sets payload channel one first)
    (late : Sets payload channel more (Work.inOrder others)) :
    Sets payload channel (more ∘ one) (Work.inOrder (first :: others)) := by
  intro device fits
  obtain ⟨fitsFirst, standingFirst⟩ := early device fits
  have fitsLeft : (first.leaves device).Fits payload := fitsFirst.frame (frame_latchFault _ _)
  have standingLeft : (first.leaves device).standing =
      Function.update device.standing channel (one (device.standing channel)) :=
    (standing_latchFault _ _).trans standingFirst
  obtain ⟨fitsLast, standingLast⟩ := late _ fitsLeft
  rw [Work.fst_inOrder_cons]
  refine ⟨fitsLast, ?_⟩
  rw [standingLast, standingLeft, Function.update_self, Function.update_idem]
  rfl

theorem sets_run (other : UInt8) (role : Role) (script : Script) :
    Sets payload channel id (run other role script) :=
  sets_of_same (fun _ => ⟨rfl, rfl, rfl, rfl, rfl, rfl⟩) fun _ => rfl

theorem sets_replay (other : UInt8) (timing : Timing) :
    Sets payload channel id (replay payload other timing) := by
  refine sets_of_same (fun device => ?_) fun device => ?_
  · rw [replay_eq]
    exact ⟨rfl, rfl, rfl, rfl, rfl, rfl⟩
  · rw [replay_eq]
    rfl

theorem sets_applyProfile (phase : Phase) :
    Sets payload channel id (applyProfile payload phase channel) := by
  intro device fits
  unfold applyProfile
  cases (device.selection payload).profile? channel with
  | none => exact sets_idle device fits
  | some profile => exact sets_run _ _ _ device fits

theorem sets_setUnmasked (declared : channel < payload.channelCount) (unmasked : Bool) :
    Sets payload channel (fun standing => { standing with unmasked := unmasked })
      (Work.silent (setUnmasked channel unmasked)) := by
  intro device fits
  obtain ⟨state, held⟩ := fits.state declared
  exact ⟨fits.frame (frame_onChannel device channel _), standing_setUnmasked held unmasked⟩

theorem sets_maskInterrupts (declared : channel < payload.channelCount) :
    Sets payload channel (fun standing => { standing with unmasked := false })
      (maskInterrupts payload channel) := by
  intro device fits
  obtain ⟨masked, moved⟩ := sets_setUnmasked declared false device fits
  unfold maskInterrupts
  cases payload.interrupts? channel with
  | none => exact ⟨masked, moved⟩
  | some table => exact ⟨masked.frame ⟨rfl, rfl, rfl, rfl, rfl, rfl⟩, moved⟩

theorem sets_unmaskInterrupts (declared : channel < payload.channelCount) :
    Sets payload channel (fun standing =>
      { standing with unmasked := standing.unmasked || (payload.interrupts? channel).isSome })
      (unmaskInterrupts payload channel) := by
  intro device fits
  unfold unmaskInterrupts
  cases payload.interrupts? channel with
  | none =>
      obtain ⟨kept, same⟩ : _ ∧ _ := (sets_idle : Sets payload channel id Work.idle) device fits
      simpa using And.intro kept same
  | some table =>
      simpa using (sets_cons (sets_run _ _ _)
        (sets_cons (sets_setUnmasked declared true) sets_nil)) device fits

theorem sets_clearInterrupts : Sets payload channel id (clearInterrupts payload channel) := by
  unfold clearInterrupts
  cases payload.interrupts? channel with
  | none => exact sets_idle
  | some table => exact sets_run _ _ _

theorem sets_armSense : Sets payload channel id (armSense payload channel) := by
  intro device fits
  unfold armSense
  cases device.slotInUse? payload channel with
  | none => exact sets_idle device fits
  | some config => exact sets_run _ _ _ device fits

theorem sets_softReset : Sets payload channel id (softReset payload channel) := by
  unfold softReset
  cases payload.channel? channel with
  | none => exact sets_idle
  | some tables => exact sets_run _ _ _

theorem sets_applyFallbacks (audioInterface : Option Tuning.AudioInterface) :
    Sets payload channel id (applyFallbacks channel audioInterface) := by
  unfold applyFallbacks
  cases audioInterface with
  | none => exact sets_idle
  | some tables =>
      change Sets payload channel id (Work.inOrder (tables.fallbacks.map _))
      induction tables.fallbacks with
      | nil => exact sets_nil
      | cons fallback others ih => exact sets_cons (sets_run _ _ _) ih

theorem sets_initialise : Sets payload channel id (initialise payload channel) := by
  unfold initialise
  cases payload.channel? channel with
  | none => exact sets_idle
  | some tables =>
      exact sets_cons (sets_run _ _ _) <| sets_cons (sets_applyFallbacks _) <|
        sets_cons sets_armSense <| sets_cons (sets_replay _ _) sets_nil

theorem sets_rearmSense : Sets payload channel id (rearmSense payload channel) := by
  intro device fits
  rw [rearmSense, Work.reading_apply]
  by_cases asked : (device.selection payload).capabilities &&& Tuning.Profile.rearmBit ≠ 0
  · rw [if_pos asked]
    exact sets_cons sets_clearInterrupts (sets_cons sets_armSense sets_nil) device fits
  · rw [if_neg asked]
    exact sets_idle device fits

theorem sets_setPower (declared : channel < payload.channelCount) (power : Power) :
    Sets payload channel (fun standing => { standing with power := power })
      (Work.silent (setPower channel power)) := by
  intro device fits
  obtain ⟨state, held⟩ := fits.state declared
  exact ⟨fits.frame (frame_onChannel device channel _), standing_setPower held power⟩

theorem sets_cancelDeferred :
    Sets payload channel (fun standing => { standing with waiting := false })
      (Work.silent (cancelDeferred channel)) := fun device fits =>
  ⟨fits.frame ⟨rfl, rfl, rfl, rfl, rfl, rfl⟩, standing_cancelDeferred device channel⟩

theorem sets_endPowerUp (declared : channel < payload.channelCount) :
    Sets payload channel (fun standing => { standing with power := .active, waiting := true })
      (endPowerUp channel) := by
  intro device fits
  obtain ⟨powered, standing⟩ := sets_setPower declared .active device fits
  refine ⟨powered.frame ⟨rfl, rfl, rfl, rfl, rfl, rfl⟩, ?_⟩
  refine (standing_scheduleDeferred _ (fits.toNat_lt declared)).trans ?_
  rw [show (device.setPower channel .active).standing = _ from standing, Function.update_self,
    Function.update_idem]

theorem sets_beginPowerUp : Sets payload channel id (beginPowerUp channel) :=
  sets_of_same (fun _ => ⟨rfl, rfl, rfl, rfl, rfl, rfl⟩) fun _ => rfl

/-- A power-up leaves a channel playing, masked, and with deferred work to come. -/
theorem sets_powerUp (declared : channel < payload.channelCount) :
    Sets payload channel (fun _ => .rising) (powerUp payload channel) := by
  intro device fits
  obtain ⟨tables, found⟩ := fits.shaped.tables declared
  simp only [powerUp, found]
  exact (sets_cons sets_beginPowerUp <| sets_cons (sets_maskInterrupts declared) <|
    sets_cons sets_rearmSense <|
    sets_cons (sets_applyProfile _) <| sets_cons (sets_replay _ _) <|
    sets_cons (sets_run _ _ _) <| sets_cons (sets_applyProfile _) <|
    sets_cons (sets_endPowerUp declared) sets_nil) device fits

/-- A power-down leaves nothing going on. -/
theorem sets_powerDown (declared : channel < payload.channelCount) :
    Sets payload channel (fun _ => .off) (powerDown payload channel) := by
  intro device fits
  obtain ⟨tables, found⟩ := fits.shaped.tables declared
  simp only [powerDown, found]
  exact (sets_cons (sets_maskInterrupts declared) <| sets_cons sets_cancelDeferred <|
    sets_cons (sets_applyProfile _) <| sets_cons (sets_run _ _ _) <|
    sets_cons (sets_applyProfile _) <| sets_cons (sets_setPower declared .shutdown) sets_nil)
    device fits

theorem sets_mute (declared : channel < payload.channelCount) :
    Sets payload channel (fun _ => .muted) (mute payload channel) := by
  intro device fits
  obtain ⟨tables, found⟩ := fits.shaped.tables declared
  simp only [mute, found]
  exact (sets_cons (sets_maskInterrupts declared) <| sets_cons sets_cancelDeferred <|
    sets_cons (sets_run _ _ _) <| sets_cons (sets_setPower declared .mute) sets_nil) device fits

/-- A channel that is shut down is brought back to how a restart leaves it. -/
theorem sets_restore (declared : channel < payload.channelCount) {former : Power}
    (powered : former ≠ .shutdown) :
    Sets payload channel (fun _ => .anew former) (restore payload former channel) := by
  cases former with
  | shutdown => exact absurd rfl powered
  | active => exact sets_powerUp declared
  | mute => exact sets_cons (sets_powerUp declared) (sets_cons (sets_mute declared) sets_nil)

/-- A channel without an interrupt table is left as it is. -/
theorem sets_maskForSurvey (declared : channel < payload.channelCount) :
    Sets payload channel (fun standing =>
      { standing with unmasked := standing.unmasked && (payload.interrupts? channel).isNone })
      (maskForSurvey payload channel) := by
  intro device fits
  unfold maskForSurvey
  cases payload.interrupts? channel with
  | none =>
      obtain ⟨kept, same⟩ : _ ∧ _ := (sets_idle : Sets payload channel id Work.idle) device fits
      simpa using And.intro kept same
  | some table =>
      simpa using (sets_cons (sets_run _ _ _)
        (sets_cons (sets_setUnmasked declared false) sets_nil)) device fits

theorem standing_poll (device : Device) (table : InterruptTable) (channel : UInt8)
    (powered : Bool) : (device.poll table channel powered).1.standing = device.standing :=
  standing_onChannel_of_same { device with bus := _ } channel (fun _ => rfl) fun _ => rfl

theorem sets_pollAfterPowerUp : Sets payload channel id (pollAfterPowerUp payload channel) := by
  have steps (device : Device) : Steps payload (fun _ _ => False) device
      (pollAfterPowerUp payload channel device).1 := steps_pollAfterPowerUp
  refine sets_of_same (fun device => (steps device).frame) fun device => ?_
  cases found : payload.interrupts? channel with
  | none =>
      rw [pollAfterPowerUp, found]
  | some table =>
      rw [fst_pollAfterPowerUp found]
      exact standing_poll device table channel true

end Device

end AmpControl
