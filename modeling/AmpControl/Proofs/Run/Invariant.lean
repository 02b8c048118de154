import AmpControl.Proofs.Run.Request

/-!
# What holds in every reachable state

Between two operations a device is steady, all that it ever did was lawful, and while a payload is
ready for use everything that is to be on the hardware is there. Every move keeps this.
-/

namespace AmpControl.Device

open Tuning (Payload)

/-- What holds of a device in every reachable state. -/
structure Kept (device : Device) : Prop where
  steady : device.Steady
  lawful : ∀ event ∈ device.history, event.Lawful
  ready : device.loadState = .ready →
    ∃ payload, device.Sound payload ∧ ∀ channel, device.InForce payload channel

variable {device before after : Device} {payload : Payload} {channel : UInt8}

theorem kept_initial (config : Config) (firmware : FirmwareSource) :
    (initial config firmware).Kept := by
  refine ⟨⟨fun channel => ?_, ?_⟩, fun event member => absurd member List.not_mem_nil, ?_⟩
  · have off : (initial config firmware).standing channel = .off := by
      have free : (initial config firmware).waiting channel = false :=
        DeferredQueue.isPending_empty channel
      have absent : (initial config firmware).channel? channel = none := rfl
      simp [standing, power, unmasked, absent, free, Standing.off]
    rw [off]
    exact Standing.allowed_off _
  · exact show ErrorCode.empty.channels .lockedOut = 0 by decide
  · intro ready
    cases ready

/-- A device with a payload to work with is sound, and everything is in force. -/
theorem Kept.of_ready (kept : device.Kept) (ready : device.ready? = some payload) :
    device.Sound payload ∧ ∀ channel, device.InForce payload channel := by
  obtain ⟨isReady, inPlace⟩ := ready?_eq_some ready
  obtain ⟨held, sound, inForce⟩ := kept.ready isReady
  obtain rfl : held = payload := Option.some.inj (sound.inPlace.symm.trans inPlace)
  exact ⟨sound, inForce⟩

theorem Kept.ready?_eq_none (kept : device.Kept) (idle : device.ready? = none) :
    device.loadState ≠ .ready := by
  intro isReady
  obtain ⟨held, sound, _⟩ := kept.ready isReady
  exact Device.ready?_eq_none sound.toFits idle isReady

theorem Advances.lawful (advances : Advances before after)
    (lawful : ∀ event ∈ before.history, event.Lawful) : ∀ event ∈ after.history, event.Lawful :=
  (advances.history.mono fun _ both => both.1).forall_mem lawful

theorem Leads.keeps (kept : before.Kept) (leads : Leads payload before after)
    (inForce : ∀ channel, before.InForce payload channel) : after.Kept where
  steady := leads.sound.toSteady
  lawful := leads.advances.lawful kept.lawful
  ready := fun _ => ⟨payload, leads.sound, fun channel => leads.inForce channel (inForce channel)⟩

theorem Aside.steady (aside : Aside before after) (steady : before.Steady) : after.Steady := by
  refine ⟨fun channel => ?_, ?_⟩
  · rw [aside.standing, aside.frame.locked]
    exact steady.allowed channel
  · rw [aside.frame.locked_errors, aside.frame.lockedOut]
    exact steady.recorded

/-- Dropping all deferred work lets every channel stand in an allowed way. -/
theorem Steady.dropDeferred (steady : device.Steady) (channel : UInt8) :
    ((device.cancelDeferred channel).dropDeferred).Steady := by
  refine ⟨fun other => ?_, steady.recorded⟩
  have allowed := steady.allowed other
  have free := waiting_dropDeferred (device.cancelDeferred channel) other
  exact ⟨fun fires => ⟨(allowed.unmasked fires).1, free⟩,
    fun waits => absurd (free.symm.trans waits) Bool.false_ne_true, allowed.locked⟩

theorem Kept.deferredTurn (kept : device.Kept) :
    device.deferredTurn.1.Kept ∧ Advances device device.deferredTurn.1 := by
  cases ready : device.ready? with
  | some payload =>
      obtain ⟨sound, inForce⟩ := kept.of_ready ready
      have leads := (safe_deferredTurn sound ready).leads
      exact ⟨leads.keeps kept inForce, leads.advances⟩
  | none =>
      have unready := kept.ready?_eq_none ready
      rcases deferredTurn_of_not_ready ready with same | ⟨channel, dropped⟩
      · rw [same]
        exact ⟨kept, Advances.refl device⟩
      · rw [dropped]
        exact ⟨⟨kept.steady.dropDeferred channel, kept.lawful,
          fun isReady => absurd isReady unready⟩, ⟨fun _ held => held, .same rfl⟩⟩

theorem Aside.keeps (aside : Aside before after) (kept : before.Kept) :
    after.Kept ∧ Advances before after := by
  have advances : Advances before after :=
    ⟨fun channel held => (aside.frame.locked channel).trans held, .same aside.history⟩
  refine ⟨⟨aside.steady kept.steady, advances.lawful kept.lawful, fun isReady => ?_⟩, advances⟩
  obtain ⟨payload, sound, inForce⟩ := kept.ready (aside.frame.loadState.symm.trans isReady)
  have safe := safe_of_aside sound aside
  exact ⟨payload, safe.sound, fun channel => safe.inForce channel (inForce channel)⟩

theorem Turn.keeps (turn : Turn before after) (kept : before.Kept) :
    after.Kept ∧ Advances before after := by
  cases turn with
  | worked => exact kept.deferredTurn
  | waited microseconds =>
      have aside : Aside before (before.wait microseconds) :=
        ⟨⟨rfl, rfl, rfl, rfl, rfl, rfl⟩, rfl, rfl⟩
      exact aside.keeps kept

/-- Every move keeps what holds in every reachable state. -/
theorem Move.keeps (move : Move before after) (kept : before.Kept) :
    after.Kept ∧ Advances before after := by
  cases move with
  | aside aside => exact aside.keeps kept
  | turned turn => exact turn.keeps kept
  | stalled unready =>
      exact ⟨⟨⟨kept.steady.allowed, kept.steady.recorded⟩, kept.lawful,
        fun isReady => absurd isReady unready⟩, ⟨fun _ held => held, .same rfl⟩⟩
  | @installed payload shaped =>
      obtain ⟨sound, _, advances, inForce⟩ := install_spec shaped kept.steady
      exact ⟨⟨sound.toSteady, advances.lawful kept.lawful, fun _ => ⟨payload, sound, inForce⟩⟩,
        advances⟩
  | transitioned ready declared unlocked =>
      obtain ⟨sound, inForce⟩ := kept.of_ready ready
      have leads := (safe_leaves (safe_transition sound declared unlocked)).leads
      exact ⟨leads.keeps kept inForce, leads.advances⟩
  | wrote ready accepted =>
      obtain ⟨sound, inForce⟩ := kept.of_ready ready
      have leads := leads_written sound accepted fun channel declared playing =>
        (within_maskOf sound.toFits).mpr ⟨declared, playing⟩
      exact ⟨leads.keeps kept inForce, leads.advances⟩
  | @programmed payload channel role ready plain other script =>
      obtain ⟨sound, inForce⟩ := kept.of_ready ready
      have steps : Steps payload (fun _ _ => False) before
          ((run channel role script).leaves before) :=
        steps_leaves (steps_run (plain _ _ _) other script)
      have leads := (safe_of_quiet sound steps (standing_latchFault _ _)).leads
      exact ⟨leads.keeps kept inForce, leads.advances⟩

theorem Moves.keeps (moves : Moves before after) (kept : before.Kept) :
    after.Kept ∧ Advances before after := by
  induction moves with
  | refl => exact ⟨kept, Advances.refl before⟩
  | tail _ last ih =>
      obtain ⟨keptMiddle, early⟩ := ih
      obtain ⟨keptAfter, late⟩ := last.keeps keptMiddle
      exact ⟨keptAfter, early.trans late⟩

theorem Course.keeps (course : Course before after) (kept : before.Kept) :
    after.Kept ∧ Advances before after := by
  cases course with
  | moved moves => exact moves.keeps kept
  | escalated moves ready =>
      obtain ⟨keptMiddle, early⟩ := moves.keeps kept
      obtain ⟨sound, inForce⟩ := keptMiddle.of_ready ready
      have leads := (escalate_spec sound).1
      exact ⟨leads.keeps keptMiddle inForce, early.trans leads.advances⟩
  | surveyed moves ready turns =>
      obtain ⟨keptMiddle, early⟩ := moves.keeps kept
      obtain ⟨sound, inForce⟩ := keptMiddle.of_ready ready
      obtain ⟨_, leads, _⟩ := survey_spec sound
      obtain ⟨keptAfter, late⟩ := turns.moves.keeps (leads.keeps keptMiddle inForce)
      exact ⟨keptAfter, (early.trans leads.advances).trans late⟩

theorem aside_disturb (change : Bus.Transport → Bus.Transport) (device : Device) :
    Aside device ((Operation.disturb change).perform device) :=
  ⟨⟨rfl, rfl, rfl, rfl, rfl, rfl⟩, rfl, rfl⟩

/-- Whatever happens, a device keeps what holds in every reachable state. -/
theorem kept_perform (operation : Operation) (kept : device.Kept) :
    (operation.perform device).Kept ∧ Advances device (operation.perform device) := by
  obtain ⟨change, rfl⟩ | course := operation.course_perform device
  · exact (aside_disturb change device).keeps kept
  · exact course.keeps kept

theorem kept_after (operations : List Operation) (kept : device.Kept) :
    (device.after operations).Kept ∧ Advances device (device.after operations) := by
  induction operations generalizing device with
  | nil => exact ⟨kept, Advances.refl device⟩
  | cons first others ih =>
      obtain ⟨keptFirst, early⟩ := kept_perform first kept
      obtain ⟨keptLast, late⟩ := ih keptFirst
      exact ⟨keptLast, early.trans late⟩

theorem kept_reached (config : Config) (firmware : FirmwareSource) (operations : List Operation) :
    (reached config firmware operations).Kept :=
  (kept_after operations (kept_initial config firmware)).1

/-! ## What an operation spends -/

theorem Course.spends (course : Course before after) (kept : before.Kept) :
    Spends before after := by
  cases course with
  | moved moves => exact moves.spends
  | escalated moves => exact moves.spends.trans (spends_escalate _ _)
  | surveyed moves ready turns =>
      obtain ⟨sound, _⟩ := (moves.keeps kept).1.of_ready ready
      exact (moves.spends.trans (spends_survey sound)).trans turns.moves.spends

theorem config_after (operations : List Operation) (kept : device.Kept) :
    (device.after operations).config = device.config := by
  induction operations generalizing device with
  | nil => rfl
  | cons first others ih =>
      refine (ih (kept_perform first kept).1).trans ?_
      obtain ⟨change, rfl⟩ | course := first.course_perform device
      · rfl
      · exact (course.spends kept).config

theorem config_reached (config : Config) (firmware : FirmwareSource)
    (operations : List Operation) : (reached config firmware operations).config = config :=
  config_after operations (kept_initial config firmware)

/-- The counters agree and are within bounds, in every reachable state. -/
structure Budgeted (device : Device) : Prop where
  counted : device.restarts = device.stats.restarts
  bounded : device.restarts ≤ device.config.maxRestarts

theorem Spends.budgeted (spends : Spends before after) (budgeted : before.Budgeted) :
    after.Budgeted := ⟨spends.counted budgeted.counted, spends.bounded budgeted.bounded⟩

theorem budgeted_perform (operation : Operation) (kept : device.Kept) (budgeted : device.Budgeted) :
    (operation.perform device).Budgeted ∧
      device.restarts ≤ (operation.perform device).restarts := by
  obtain ⟨change, rfl⟩ | course := operation.course_perform device
  · exact ⟨⟨budgeted.counted, budgeted.bounded⟩, UInt32.le_refl _⟩
  · have spends := course.spends kept
    exact ⟨spends.budgeted budgeted, spends.grows⟩

theorem budgeted_after (operations : List Operation) (kept : device.Kept)
    (budgeted : device.Budgeted) :
    (device.after operations).Budgeted ∧ device.restarts ≤ (device.after operations).restarts := by
  induction operations generalizing device with
  | nil => exact ⟨budgeted, UInt32.le_refl _⟩
  | cons first others ih =>
      obtain ⟨within, early⟩ := budgeted_perform first kept budgeted
      obtain ⟨still, late⟩ := ih (kept_perform first kept).1 within
      exact ⟨still, UInt32.le_trans early late⟩

theorem budgeted_initial (config : Config) (firmware : FirmwareSource) :
    (initial config firmware).Budgeted := ⟨rfl, UInt32.zero_le⟩

theorem budgeted_reached (config : Config) (firmware : FirmwareSource)
    (operations : List Operation) : (reached config firmware operations).Budgeted :=
  (budgeted_after operations (kept_initial config firmware) (budgeted_initial config firmware)).1

end AmpControl.Device
