import AmpControl.Proofs.Device.Delivery

/-!
# Safe work

Between two pieces of work every channel stands in an allowed way and the locked channels are those
of the error code. Safe work ends in such a state again, never frees a locked channel, adds only
lawful events to the history, and leaves in force what was in force. Every power transition is safe.
-/

namespace AmpControl.Device

open Tuning (ChannelTables Payload Script Timing)

/-- Every channel stands in an allowed way, and the error code tells which of them are locked. -/
structure Steady (device : Device) : Prop where
  allowed : ∀ channel, (device.standing channel).Allowed (device.locked channel)
  recorded : device.errors.channels .lockedOut = device.lockedOut

/-- A steady device with a payload in place. -/
structure Sound (payload : Payload) (device : Device) : Prop extends
    Fits payload device, Steady device

/-- Locked channels stay locked, and the history grows by lawful events. -/
structure Advances (before after : Device) : Prop where
  locked : ∀ channel, before.locked channel = true → after.locked channel = true
  history : Adds (fun event => event.Lawful ∧ event.Sees before.lockedOut) before after

/-- Work that locks channels out if it must, and is safe otherwise. -/
structure Leads (payload : Payload) (before after : Device) : Prop where
  loadState : after.loadState = before.loadState
  advances : Advances before after
  sound : after.Sound payload
  inForce : ∀ channel, before.InForce payload channel → after.InForce payload channel

/-- Safe work on the channels of a payload. -/
structure Safe (payload : Payload) (before after : Device) : Prop where
  frame : Frame before after
  advances : Advances before after
  sound : after.Sound payload
  inForce : ∀ channel, before.InForce payload channel → after.InForce payload channel

variable {payload : Payload} {stale : UInt8 → Timing → Prop} {before middle after device : Device}
  {channel : UInt8}

namespace Advances

theorem refl (device : Device) : Advances device device := ⟨fun _ held => held, Adds.same rfl⟩

theorem trans (first : Advances before middle) (second : Advances middle after) :
    Advances before after := by
  refine ⟨fun channel held => second.locked channel (first.locked channel held), ?_⟩
  refine first.history.trans (second.history.mono fun event lawful => ⟨lawful.1, ?_⟩)
  cases event with
  | ran channel role power waiting locked =>
      exact fun held => lawful.2 (first.locked channel held)
  | _ => trivial

theorem marked (advances : Advances before after) {timing : Timing}
    (marked : before.Marked channel timing) : after.Marked channel timing := by
  obtain ⟨mark, member, outdating⟩ := marked
  exact ⟨mark, advances.history.mem member, outdating⟩

end Advances

theorem Steps.advances (steps : Steps payload stale before after) : Advances before after where
  locked := fun channel held => (steps.frame.locked channel).trans held
  history := steps.history.mono fun _ proper => ⟨proper.lawful, proper.sees⟩

namespace Safe

theorem refl (sound : device.Sound payload) : Safe payload device device :=
  ⟨Frame.refl device, Advances.refl device, sound, fun _ held => held⟩

theorem trans (first : Safe payload before middle) (second : Safe payload middle after) :
    Safe payload before after :=
  ⟨first.frame.trans second.frame, first.advances.trans second.advances, second.sound,
    fun channel held => second.inForce channel (first.inForce channel held)⟩

theorem leads (safe : Safe payload before after) : Leads payload before after :=
  ⟨safe.frame.loadState, safe.advances, safe.sound, safe.inForce⟩

end Safe

theorem Leads.trans (first : Leads payload before middle) (second : Leads payload middle after) :
    Leads payload before after :=
  ⟨second.loadState.trans first.loadState, first.advances.trans second.advances, second.sound,
    fun channel held => second.inForce channel (first.inForce channel held)⟩

theorem InForce.of_steps (steps : Steps payload stale before after)
    (safe : ∀ timing, ¬stale channel timing)
    (due : ∀ timing, (after.standing channel).Due timing → (before.standing channel).Due timing)
    (inForce : before.InForce payload channel) : after.InForce payload channel := by
  intro declared timing needed
  exact steps.delivered (safe timing) (inForce declared timing (due timing needed))

theorem sound_of_frame (sound : device.Sound payload) (frame : Frame device after)
    (allowed : ∀ channel, (after.standing channel).Allowed (device.locked channel)) :
    after.Sound payload := by
  refine ⟨sound.toFits.frame frame, fun channel => ?_, ?_⟩
  · rw [frame.locked]
    exact allowed channel
  · rw [frame.locked_errors, frame.lockedOut]
    exact sound.recorded

theorem Steady.allowed_of_moved {standing : Standing} (steady : device.Steady)
    (moved : after.standing = Function.update device.standing channel standing)
    (allowed : standing.Allowed (device.locked channel)) (other : UInt8) :
    (after.standing other).Allowed (device.locked other) := by
  rw [moved]
  by_cases same : other = channel
  · rw [same, Function.update_self]
    exact allowed
  · rw [Function.update_of_ne same]
    exact steady.allowed other

/-- Work on one channel is safe if it brings this channel into an allowed standing. -/
theorem safe_of_steps {standing : Standing} (sound : device.Sound payload)
    (steps : Steps payload stale device after)
    (confined : ∀ other timing, stale other timing → other = channel)
    (moved : after.standing = Function.update device.standing channel standing)
    (allowed : standing.Allowed (device.locked channel))
    (inForce : device.InForce payload channel → after.InForce payload channel) :
    Safe payload device after where
  frame := steps.frame
  advances := steps.advances
  sound := sound_of_frame sound steps.frame (sound.allowed_of_moved moved allowed)
  inForce := by
    intro other held
    by_cases same : other = channel
    · exact same ▸ inForce (same ▸ held)
    · refine held.of_steps steps (fun timing lost => same (confined other timing lost)) ?_
      intro timing needed
      rwa [moved, Function.update_of_ne same] at needed

/-- Work that loses nothing and leaves the channels as they stand is safe. -/
theorem safe_of_quiet (sound : device.Sound payload)
    (steps : Steps payload (fun _ _ => False) device after)
    (same : after.standing = device.standing) : Safe payload device after where
  frame := steps.frame
  advances := steps.advances
  sound := sound_of_frame sound steps.frame fun channel => same ▸ sound.allowed channel
  inForce := fun _ held =>
    held.of_steps steps (fun _ lost => lost) fun _ needed => same ▸ needed

/-- A change of nothing that the channels or their history depend on. -/
structure Aside (before after : Device) : Prop where
  frame : Frame before after
  standing : after.standing = before.standing
  history : after.history = before.history

theorem safe_of_aside (sound : device.Sound payload) (aside : Aside device after) :
    Safe payload device after where
  frame := aside.frame
  advances := ⟨fun channel held => (aside.frame.locked channel).trans held, .same aside.history⟩
  sound := sound_of_frame sound aside.frame fun channel =>
    aside.standing ▸ sound.allowed channel
  inForce := by
    intro channel held declared timing due
    rw [aside.standing] at due
    obtain ⟨marked, sent⟩ := held declared timing due
    constructor
    · rw [Marked, aside.history]
      exact marked
    · rw [aside.frame.values, aside.history]
      exact sent

theorem safe_leaves {work : Work} (safe : Safe payload before (work device).1) :
    Safe payload before (work.leaves device) :=
  safe.trans (safe_of_quiet safe.sound (.single (.latched _)) (standing_latchFault _ _))

/-- A locked channel is shut down. -/
theorem Sound.unlocked (sound : device.Sound payload) (power : device.power channel ≠ .shutdown) :
    device.locked channel = false := by
  by_contra held
  exact power ((sound.allowed channel).locked (Bool.eq_true_of_not_eq_false held))

/-! ## Power transitions -/

/-- A power-up puts in force all but what is left to deferred work. -/
theorem inForce_powerUp (fits : device.Fits payload) (declared : channel < payload.channelCount)
    (unlocked : device.locked channel = false)
    (anytime : device.Delivered payload channel .anytime) :
    (powerUp payload channel device).1.InForce payload channel := by
  obtain ⟨tables, found⟩ := fits.shaped.tables declared
  have moved := (sets_powerUp declared device fits).2
  have steps : Steps payload (fun _ timing => timing ≠ .anytime) device
      (powerUp payload channel device).1 := steps_powerUp unlocked fun _ late => late
  intro _ timing needed
  rw [moved, Function.update_self] at needed
  cases timing with
  | anytime => exact steps.delivered (fun lost => lost rfl) anytime
  | beforePowerUp => exact delivered_powerUp found unlocked
  | afterPowerUp => exact absurd needed.2 (by simp [Standing.rising])

theorem safe_powerUp (sound : device.Sound payload) (declared : channel < payload.channelCount)
    (unlocked : device.locked channel = false) :
    Safe payload device (powerUp payload channel device).1 := by
  have steps : Steps payload (fun other _ => other = channel) device
      (powerUp payload channel device).1 := steps_powerUp unlocked fun _ _ => rfl
  have moved := (sets_powerUp declared device sound.toFits).2
  refine safe_of_steps sound steps (fun _ _ same => same) moved
    (unlocked ▸ Standing.allowed_rising) fun held => ?_
  exact inForce_powerUp sound.toFits declared unlocked (held declared .anytime trivial)

/-- What is due of a channel that does not play is due at any time. -/
theorem Standing.due_anytime {standing : Standing} (still : standing.power ≠ .active)
    {timing : Timing}
    (due : standing.Due timing) : timing = .anytime := by
  cases timing with
  | anytime => rfl
  | beforePowerUp => exact absurd due still
  | afterPowerUp => exact absurd due.1 still

/-- Work that loses nothing and leaves a channel not playing keeps in force what still is due. -/
theorem inForce_of_still (steps : Steps payload stale device after)
    (safe : ¬stale channel .anytime) (still : (after.standing channel).power ≠ .active)
    (anytime : device.Delivered payload channel .anytime) : after.InForce payload channel := by
  intro _ timing needed
  rw [Standing.due_anytime still needed]
  exact steps.delivered safe anytime

theorem safe_powerDown (sound : device.Sound payload) (declared : channel < payload.channelCount) :
    Safe payload device (powerDown payload channel device).1 := by
  have steps : Steps payload (fun _ _ => False) device (powerDown payload channel device).1 :=
    steps_powerDown
  have moved := (sets_powerDown declared device sound.toFits).2
  refine safe_of_steps sound steps (fun _ _ lost => lost.elim) moved (Standing.allowed_off _)
    fun held => inForce_of_still steps not_false ?_ (held declared .anytime trivial)
  rw [moved, Function.update_self]
  simp [Standing.off]

theorem safe_mute (sound : device.Sound payload) (declared : channel < payload.channelCount)
    (unlocked : device.locked channel = false) :
    Safe payload device (mute payload channel device).1 := by
  have steps : Steps payload (fun _ _ => False) device (mute payload channel device).1 :=
    steps_mute unlocked
  have moved := (sets_mute declared device sound.toFits).2
  refine safe_of_steps sound steps (fun _ _ lost => lost.elim) moved
    (unlocked ▸ Standing.allowed_muted)
    fun held => inForce_of_still steps not_false ?_ (held declared .anytime trivial)
  rw [moved, Function.update_self]
  simp [Standing.muted]

theorem safe_restore (sound : device.Sound payload) (declared : channel < payload.channelCount)
    (unlocked : device.locked channel = false) (former : Power) :
    Safe payload device (restore payload former channel device).1 := by
  cases former with
  | shutdown => exact Safe.refl sound
  | active => exact safe_powerUp sound declared unlocked
  | mute =>
      have up := safe_leaves (safe_powerUp sound declared unlocked)
      have unlockedUp := (up.frame.locked channel).trans unlocked
      exact up.trans (safe_leaves (safe_mute up.sound declared unlockedUp))

/-- A transition is safe if no locked channel is moved to another state than shut down. -/
theorem safe_transition (sound : device.Sound payload) (declared : channel < payload.channelCount)
    {target : Power} (unlocked : target ≠ .shutdown → device.locked channel = false) :
    Safe payload device (transition payload target channel device).1 := by
  obtain ⟨same, _⟩ | ⟨rfl, _, up⟩ | ⟨rfl, down⟩ | ⟨rfl, _, muted⟩ :=
    transition_cases payload target channel device
  · rw [same]
    exact Safe.refl sound
  · rw [up]
    exact safe_powerUp sound declared (unlocked (by simp))
  · rw [down]
    exact safe_powerDown sound declared
  · rw [muted]
    exact safe_mute sound declared (unlocked (by simp))

/-! ## Interrupts -/

theorem power_of_moved {standing : Standing}
    (moved : after.standing = Function.update device.standing channel standing)
    (same : standing.power = device.power channel) : after.power = device.power := by
  funext other
  have here : (after.standing other).power = after.power other := rfl
  rw [← here, moved]
  by_cases touched : other = channel
  · rw [touched, Function.update_self, same]
  · rw [Function.update_of_ne touched]
    rfl

/-- A channel that plays and has no deferred work waiting may be unmasked. -/
theorem safe_unmaskInterrupts (sound : device.Sound payload)
    (declared : channel < payload.channelCount) (playing : device.power channel = .active)
    (ready : device.waiting channel = false) :
    Safe payload device (unmaskInterrupts payload channel device).1 ∧
      (unmaskInterrupts payload channel device).1.power = device.power := by
  have unlocked : device.locked channel = false := sound.unlocked (by simp [playing])
  have moved := (sets_unmaskInterrupts declared device sound.toFits).2
  have steps : Steps payload (fun _ _ => False) device
      (unmaskInterrupts payload channel device).1 :=
    steps_unmaskInterrupts ⟨playing, ready, unlocked⟩
  refine ⟨?_, power_of_moved moved rfl⟩
  refine safe_of_steps sound steps (fun _ _ lost => lost.elim) moved ?_ fun held => ?_
  · exact ⟨fun _ => ⟨playing, ready⟩, fun _ => playing,
      fun locked => absurd locked (by simp [unlocked])⟩
  · refine held.of_steps steps (fun _ lost => lost) fun timing needed => ?_
    rw [moved, Function.update_self] at needed
    cases timing <;> exact needed

theorem safe_resumeInterrupts (sound : device.Sound payload)
    (declared : channel < payload.channelCount) :
    Safe payload device (resumeInterrupts payload channel device).1 ∧
      (resumeInterrupts payload channel device).1.power = device.power := by
  rw [resumeInterrupts, Work.reading_apply]
  by_cases able : device.power channel = .active ∧ ¬device.waiting channel = true
  · rw [if_pos able]
    exact safe_unmaskInterrupts sound declared able.1 (Bool.eq_false_of_not_eq_true able.2)
  · rw [if_neg able]
    exact ⟨Safe.refl sound, rfl⟩

/-- Masking a channel is safe however it stands. -/
theorem safe_maskForSurvey (sound : device.Sound payload)
    (declared : channel < payload.channelCount) :
    Safe payload device (maskForSurvey payload channel device).1 ∧
      (maskForSurvey payload channel device).1.power = device.power := by
  have moved := (sets_maskForSurvey declared device sound.toFits).2
  have steps : Steps payload (fun _ _ => False) device (maskForSurvey payload channel device).1 :=
    steps_maskForSurvey
  have allowed := sound.allowed channel
  refine ⟨?_, power_of_moved moved rfl⟩
  refine safe_of_steps sound steps (fun _ _ lost => lost.elim) moved ?_ fun held => ?_
  · refine ⟨fun fires => allowed.unmasked ?_, allowed.waiting, allowed.locked⟩
    exact (Bool.and_eq_true_iff.mp fires).1
  · refine held.of_steps steps (fun _ lost => lost) fun timing needed => ?_
    rw [moved, Function.update_self] at needed
    cases timing <;> exact needed

end AmpControl.Device
