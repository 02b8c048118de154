import AmpControl.Device.Worker
import AmpControl.Proofs.Device.Step
import AmpControl.Proofs.Tuning.Shape

/-!
# Work as steps

All work on channels is made of steps. Powering and muting take steps only on channels that are not
shut down for good, and unmasking only on channels that play and have no deferred work waiting.
-/

namespace AmpControl.Device

open Tuning (AudioInterface ChannelTables InterruptTable Payload Phase Script Timing)

variable {payload : Payload} {stale : UInt8 → Timing → Prop} {device : Device} {channel : UInt8}

theorem steps_leaves {work : Work} (steps : Steps payload stale device (work device).1) :
    Steps payload stale device (work.leaves device) :=
  steps.tail (.latched _)

/-- Parts that are rows of steps make up a row of steps. -/
theorem steps_inOrder {parts : List Work}
    (each : ∀ part ∈ parts, ∀ held, Frame device held → Steps payload stale held (part held).1) :
    Steps payload stale device (Work.inOrder parts device).1 := by
  refine Work.keeps_inOrder (Steps payload stale device) ?_ (.refl)
  intro part member held sofar
  exact sofar.trans (steps_leaves (each part member held sofar.frame))

theorem steps_cons {first : Work} {others : List Work}
    (one : Steps payload stale device (first device).1)
    (more : ∀ held, Frame device held → Steps payload stale held (Work.inOrder others held).1) :
    Steps payload stale device (Work.inOrder (first :: others) device).1 := by
  rw [Work.fst_inOrder_cons]
  exact (steps_leaves one).trans (more _ (steps_leaves one).frame)

theorem steps_foldl {α : Type} {step : Device → α → Device}
    (each : ∀ held item, Steps payload stale held (step held item)) (items : List α) :
    Steps payload stale device (items.foldl step device) := by
  induction items generalizing device with
  | nil => exact .refl
  | cons first others ih => exact (each device first).trans ih

theorem steps_run {role : Role} (permitted : device.Permits channel role)
    (kept : role ≠ .softReset) (script : Script) :
    Steps payload stale device (run channel role script device).1 :=
  .single (.ran script permitted fun reset => absurd reset kept)

theorem steps_replay (timing : Timing) :
    Steps payload stale device (replay payload channel timing device).1 :=
  .single (.replayed channel timing)

theorem steps_applyProfile (phase : Phase) :
    Steps payload stale device (applyProfile payload phase channel device).1 := by
  unfold applyProfile
  cases (device.selection payload).profile? channel with
  | none => exact .refl
  | some profile => exact steps_run (by trivial) (by simp) _

theorem steps_maskInterrupts :
    Steps payload stale device (maskInterrupts payload channel device).1 := by
  have noted : Steps payload stale device (device.setUnmasked channel false) :=
    .single (.changed _ _)
  unfold maskInterrupts
  cases payload.interrupts? channel with
  | none => exact noted
  | some table => exact noted.trans (steps_run (by trivial) (by simp) _)

theorem steps_clearInterrupts :
    Steps payload stale device (clearInterrupts payload channel device).1 := by
  unfold clearInterrupts
  cases payload.interrupts? channel with
  | none => exact .refl
  | some table => exact steps_run (by trivial) (by simp) _

theorem steps_unmaskInterrupts (permitted : device.Permits channel .unmask) :
    Steps payload stale device (unmaskInterrupts payload channel device).1 := by
  unfold unmaskInterrupts
  cases payload.interrupts? channel with
  | none => exact .refl
  | some table =>
      refine steps_cons (steps_run permitted (by simp) _) fun held _ => ?_
      exact steps_cons (.single (.changed _ _)) fun _ _ => .refl

theorem steps_armSense : Steps payload stale device (armSense payload channel device).1 := by
  unfold armSense
  cases device.slotInUse? payload channel with
  | none => exact .refl
  | some config => exact steps_run (by trivial) (by simp) _

theorem steps_softReset (lost : stale channel .anytime) :
    Steps payload stale device (softReset payload channel device).1 := by
  unfold softReset
  cases payload.channel? channel with
  | none => exact .refl
  | some tables => exact .single (.ran _ (by trivial) fun _ => lost)

theorem steps_applyFallbacks (audioInterface : Option AudioInterface) :
    Steps payload stale device (applyFallbacks channel audioInterface device).1 := by
  unfold applyFallbacks
  cases audioInterface with
  | none => exact .refl
  | some tables =>
      refine steps_inOrder fun part member held _ => ?_
      obtain ⟨⟨setting, script⟩, _, rfl⟩ := List.mem_map.mp member
      exact steps_run (by trivial) (by simp) _

theorem steps_initialise : Steps payload stale device (initialise payload channel device).1 := by
  unfold initialise
  cases payload.channel? channel with
  | none => exact .refl
  | some tables =>
      refine steps_cons (steps_run (by trivial) (by simp) _) fun _ _ => ?_
      refine steps_cons (steps_applyFallbacks _) fun _ _ => ?_
      refine steps_cons steps_armSense fun _ _ => ?_
      exact steps_cons (steps_replay _) fun _ _ => .refl

theorem steps_rearmSense : Steps payload stale device (rearmSense payload channel device).1 := by
  rw [rearmSense, Work.reading_apply]
  by_cases asked : (device.selection payload).capabilities &&& Tuning.Profile.rearmBit ≠ 0
  · rw [if_pos asked]
    refine steps_cons steps_clearInterrupts fun _ _ => ?_
    exact steps_cons steps_armSense fun _ _ => .refl
  · rw [if_neg asked]
    exact .refl

theorem steps_beginPowerUp (lost : ∀ timing, timing ≠ .anytime → stale channel timing) :
    Steps payload stale device (beginPowerUp channel device).1 :=
  .single (.began lost)

theorem steps_endPowerUp : Steps payload stale device (endPowerUp channel device).1 :=
  .tail (.single (.changed _ _)) (.scheduled channel)

/-- What a power-up does before the controls that come before it are sent. -/
theorem steps_beforeReplay :
    Steps payload stale device (Work.inOrder [maskInterrupts payload channel,
      rearmSense payload channel, applyProfile payload .beforePowerUp channel] device).1 := by
  refine steps_cons steps_maskInterrupts fun _ _ => ?_
  refine steps_cons steps_rearmSense fun _ _ => ?_
  exact steps_cons (steps_applyProfile _) fun _ _ => .refl

/-- What a power-up does once the controls that come before it are sent. -/
theorem steps_afterReplay (unlocked : device.locked channel = false) (script : Script) :
    Steps payload stale device (Work.inOrder [run channel .powerUp script,
      applyProfile payload .afterPowerUp channel, endPowerUp channel] device).1 := by
  refine steps_cons (steps_run (by exact unlocked) (by simp) _) fun _ _ => ?_
  refine steps_cons (steps_applyProfile _) fun _ _ => ?_
  exact steps_cons steps_endPowerUp fun _ _ => .refl

/-- The device to which a power-up sends the controls that come before it. -/
def risen (payload : Payload) (channel : UInt8) (device : Device) : Device :=
  (Work.inOrder [maskInterrupts payload channel, rearmSense payload channel,
    applyProfile payload .beforePowerUp channel] ((beginPowerUp channel).leaves device)).1

/-- A power-up in three stages, of which the middle one sends controls. -/
theorem fst_powerUp {tables : ChannelTables} (found : payload.channel? channel = some tables)
    (device : Device) :
    (powerUp payload channel device).1 =
      (Work.inOrder [run channel .powerUp tables.power.powerUp,
        applyProfile payload .afterPowerUp channel, endPowerUp channel]
        ((replay payload channel .beforePowerUp).leaves (risen payload channel device))).1 := by
  simp only [powerUp, found, risen, Work.fst_inOrder_cons, Work.fst_inOrder_nil]

theorem steps_risen (lost : ∀ timing, timing ≠ .anytime → stale channel timing) :
    Steps payload stale device (risen payload channel device) :=
  (steps_leaves (steps_beginPowerUp lost)).trans steps_beforeReplay

theorem steps_powerUp (unlocked : device.locked channel = false)
    (lost : ∀ timing, timing ≠ .anytime → stale channel timing) :
    Steps payload stale device (powerUp payload channel device).1 := by
  cases found : payload.channel? channel with
  | none =>
      rw [powerUp, found]
      exact .refl
  | some tables =>
      rw [fst_powerUp found]
      have sent : Steps payload stale device
          ((replay payload channel .beforePowerUp).leaves (risen payload channel device)) :=
        (steps_risen lost).trans (steps_leaves (steps_replay _))
      exact sent.trans (steps_afterReplay (by rw [sent.frame.locked, unlocked]) _)

theorem steps_powerDown : Steps payload stale device (powerDown payload channel device).1 := by
  unfold powerDown
  cases payload.channel? channel with
  | none => exact .refl
  | some tables =>
      refine steps_cons steps_maskInterrupts fun _ _ => ?_
      refine steps_cons (.single (.cancelled channel)) fun _ _ => ?_
      refine steps_cons (steps_applyProfile _) fun _ _ => ?_
      refine steps_cons (steps_run (by trivial) (by simp) _) fun _ _ => ?_
      refine steps_cons (steps_applyProfile _) fun _ _ => ?_
      exact steps_cons (.single (.changed _ _)) fun _ _ => .refl

theorem steps_mute (unlocked : device.locked channel = false) :
    Steps payload stale device (mute payload channel device).1 := by
  unfold mute
  cases payload.channel? channel with
  | none => exact .refl
  | some tables =>
      refine steps_cons steps_maskInterrupts fun _ first => ?_
      refine steps_cons (.single (.cancelled channel)) fun held second => ?_
      have stillUnlocked : held.locked channel = false := by
        rw [(first.trans second).locked, unlocked]
      refine steps_cons (steps_run (by exact stillUnlocked) (by simp) _) fun _ _ => ?_
      exact steps_cons (.single (.changed _ _)) fun _ _ => .refl

theorem steps_restore {former : Power}
    (unlocked : former ≠ .shutdown → device.locked channel = false)
    (lost : ∀ timing, timing ≠ .anytime → stale channel timing) :
    Steps payload stale device (restore payload former channel device).1 := by
  cases former with
  | shutdown => exact .refl
  | active => exact steps_powerUp (unlocked (by simp)) lost
  | mute =>
      refine steps_cons (steps_powerUp (unlocked (by simp)) lost) fun held frame => ?_
      refine steps_cons (steps_mute ?_) fun _ _ => .refl
      rw [frame.locked, unlocked (by simp)]

/-- A transition is one of the three pieces of work or none at all. -/
theorem transition_cases (payload : Payload) (target : Power) (channel : UInt8) (device : Device) :
    (transition payload target channel device = (device, none) ∧
      (device.power channel = target ∨ device.power channel = .shutdown)) ∨
    (target = .active ∧ device.power channel ≠ .active ∧
      transition payload target channel device = powerUp payload channel device) ∨
    (target = .shutdown ∧
      transition payload target channel device = powerDown payload channel device) ∨
    (target = .mute ∧ device.power channel = .active ∧
      transition payload target channel device = mute payload channel device) := by
  rw [transition, Work.reading_apply]
  cases device.power channel <;> cases target <;> simp [Work.idle]

/-- Only what is moved to another state than shut down has to be a channel that is not locked. -/
theorem steps_transition {target : Power}
    (unlocked : target ≠ .shutdown → device.locked channel = false)
    (lost : ∀ timing, timing ≠ .anytime → stale channel timing) :
    Steps payload stale device (transition payload target channel device).1 := by
  obtain ⟨same, _⟩ | ⟨rfl, _, up⟩ | ⟨rfl, down⟩ | ⟨rfl, _, muted⟩ :=
    transition_cases payload target channel device
  · rw [same]
    exact .refl
  · rw [up]
    exact steps_powerUp (unlocked (by simp)) lost
  · rw [down]
    exact steps_powerDown
  · rw [muted]
    exact steps_mute (unlocked (by simp))

/-- What a poll after power-up leaves behind does not depend on what the poll found. -/
theorem fst_pollAfterPowerUp {table : InterruptTable}
    (found : payload.interrupts? channel = some table)
    (device : Device) :
    (pollAfterPowerUp payload channel device).1 = (device.poll table channel true).1 := by
  simp only [pollAfterPowerUp, found]
  cases outcome : device.poll table channel true with
  | mk polled result => cases result <;> rfl

theorem steps_poll (table : InterruptTable) (channel : UInt8) (powered : Bool) :
    Steps payload stale device (device.poll table channel powered).1 :=
  .tail (.single (.drove _)) (.changed _ _)

theorem steps_pollAfterPowerUp :
    Steps payload stale device (pollAfterPowerUp payload channel device).1 := by
  cases found : payload.interrupts? channel with
  | none =>
      rw [pollAfterPowerUp, found]
      exact .refl
  | some table =>
      rw [fst_pollAfterPowerUp found]
      exact steps_poll table channel true

theorem steps_maskForSurvey :
    Steps payload stale device (maskForSurvey payload channel device).1 := by
  unfold maskForSurvey
  cases payload.interrupts? channel with
  | none => exact .refl
  | some table =>
      refine steps_cons (steps_run (by trivial) (by simp) _) fun _ _ => ?_
      exact steps_cons (.single (.changed _ _)) fun _ _ => .refl

end AmpControl.Device
