import AmpControl.Proofs.Run.Invariant

/-!
# Restarts in a run

A device is restarted because all its channels fail as often as its configuration allows and no
more, and it shuts channels down for good only after that. The reset line is pulsed once for every
restart and for every recovery that resets the hardware.
-/

namespace AmpControl

open Tuning (Payload)

/-- What happens around the device does not touch the record of attempted calls. -/
def Operation.KeepsCalls : Operation → Prop
  | .disturb change => ∀ transport, (change transport).attempts = transport.attempts
  | _ => True

namespace Device

variable {device before after : Device} {payload : Payload} {operations : List Operation}

/-! ## Counting -/

/-- Every pulse of the reset line is a restart or the recovery of a channel. -/
def Accounted (device : Device) : Prop :=
  device.resetCalls = device.restarts.toNat + device.hardRecoveries

theorem accounted_perform {operation : Operation} (keeps : operation.KeepsCalls)
    (kept : device.Kept) (accounted : device.Accounted) : (operation.perform device).Accounted := by
  obtain ⟨change, rfl⟩ | course := operation.course_perform device
  · have same : ((Operation.disturb change).perform device).resetCalls = device.resetCalls :=
      congrArg (List.countP fun attempt : Bus.Attempt => attempt.call = .reset)
        (keeps device.bus.transport)
    exact same.trans accounted
  · have resets := (course.spends kept).resets
    rw [Accounted] at accounted ⊢
    omega

theorem accounted_after (keeps : ∀ operation ∈ operations, operation.KeepsCalls)
    (kept : device.Kept) (accounted : device.Accounted) : (device.after operations).Accounted := by
  induction operations generalizing device with
  | nil => exact accounted
  | cons first others ih =>
      refine ih (fun operation member => keeps operation (List.mem_cons_of_mem _ member))
        (kept_perform first kept).1 ?_
      exact accounted_perform (keeps first List.mem_cons_self) kept accounted

/-! ## Locking out -/

/-- Time and deferred work leave an exhausted device so. -/
theorem Exhausted.works {excused : Bus.Attempt → Prop} {touched : UInt8 → Prop}
    (exhausted : Exhausted payload before) (works : Works [] excused touched before after) :
    Exhausted payload after where
  spent := by rw [works.restarts, works.config, exhausted.spent]
  failing := fun channel declared => works.failing channel (exhausted.failing channel declared)

theorem Leads.ready? (leads : Leads payload before after) (ready : before.ready? = some payload) :
    after.ready? = some payload := by
  obtain ⟨isReady, _⟩ := ready?_eq_some ready
  rw [Device.ready?, if_pos (leads.loadState.trans isReady), leads.sound.inPlace]

/-- Turns are safe while there is a payload to work with. -/
theorem Turns.safe (turns : Turns before after) (sound : before.Sound payload)
    (ready : before.ready? = some payload) : Safe payload before after := by
  induction turns with
  | refl => exact .refl sound
  | @tail middle last _ turn ih =>
      refine ih.trans ?_
      cases turn with
      | waited => exact safe_of_aside ih.sound ⟨⟨rfl, rfl, rfl, rfl, rfl, rfl⟩, rfl, rfl⟩
      | worked => exact safe_deferredTurn ih.sound (ih.frame.ready?.trans ready)

/-- An operation that locks channels out leaves the device exhausted. -/
theorem Course.exhausted (course : Course before after) (kept : before.Kept)
    (budgeted : before.Budgeted) (changed : after.lockedOut ≠ before.lockedOut) :
    ∃ payload, after.payload = some payload ∧ Exhausted payload after := by
  cases course with
  | moved moves => exact absurd moves.idles.lockedOut changed
  | escalated moves ready =>
      obtain ⟨sound, _⟩ := (moves.keeps kept).1.of_ready ready
      refine ⟨_, (escalate_spec sound).1.sound.inPlace, ?_⟩
      refine exhausted_escalate sound.shaped (moves.spends.budgeted budgeted).bounded ?_
      exact fun same => changed (same.trans moves.idles.lockedOut)
  | surveyed moves ready turns =>
      obtain ⟨sound, _⟩ := (moves.keeps kept).1.of_ready ready
      obtain ⟨_, leads, _⟩ := survey_spec sound
      have works := works_turns turns
      refine ⟨_, (turns.safe leads.sound (leads.ready? ready)).sound.inPlace, ?_⟩
      refine (exhausted_survey sound (moves.spends.budgeted budgeted).bounded ?_).works works
      exact fun same => changed (works.lockedOut.trans (same.trans moves.idles.lockedOut))

theorem exhausted_perform {operation : Operation} (kept : device.Kept)
    (budgeted : device.Budgeted)
    (changed : (operation.perform device).lockedOut ≠ device.lockedOut) :
    ∃ payload, (operation.perform device).payload = some payload ∧
      Exhausted payload (operation.perform device) := by
  obtain ⟨change, rfl⟩ | course := operation.course_perform device
  · exact absurd rfl changed
  · exact course.exhausted kept budgeted changed

/--
Whatever is asked of a device and whatever happens around it, the restarts are counted alike in both
places, are never taken back, and are never more than the configuration allows. An operation locks a
channel out only where no restart is left and every channel of the payload in place has a latched
transport error. The reset line was pulsed once for each restart and for each recovery of a channel
that resets the hardware, as far as nobody meddles with the record of the calls.
-/
theorem restarts_within_budget (config : Config) (firmware : FirmwareSource)
    (early late : List Operation) :
    (reached config firmware (early ++ late)).restarts =
      (reached config firmware (early ++ late)).stats.restarts ∧
    (reached config firmware early).restarts ≤
      (reached config firmware (early ++ late)).restarts ∧
    (reached config firmware (early ++ late)).restarts ≤ config.maxRestarts ∧
    (∀ operation channel, (reached config firmware early).locked channel = false →
      (reached config firmware (early ++ [operation])).locked channel = true →
      (reached config firmware (early ++ [operation])).restarts = config.maxRestarts ∧
      ∃ payload, (reached config firmware (early ++ [operation])).payload = some payload ∧
        ∀ channel < payload.channelCount, Channel.within
          ((reached config firmware (early ++ [operation])).errors.channels .transport) channel =
            true) ∧
    ((∀ operation ∈ early ++ late, operation.KeepsCalls) →
      (reached config firmware (early ++ late)).resetCalls =
        (reached config firmware (early ++ late)).stats.restarts.toNat +
          (reached config firmware (early ++ late)).hardRecoveries) := by
  have kept := kept_reached config firmware early
  have within := budgeted_reached config firmware early
  obtain ⟨still, grows⟩ := budgeted_after late kept within
  have split (later : List Operation) : reached config firmware (early ++ later) =
      (reached config firmware early).after later := after_append early later _
  have bounded := still.bounded
  rw [← split, config_reached] at bounded
  refine ⟨split late ▸ still.counted, split late ▸ grows, bounded, ?_, fun keeps => ?_⟩
  · intro operation channel free locked
    have changed : (reached config firmware (early ++ [operation])).lockedOut ≠
        (reached config firmware early).lockedOut := by
      intro same
      rw [Device.locked, same] at locked
      exact Bool.false_ne_true (free.symm.trans locked)
    have performed : reached config firmware (early ++ [operation]) =
        operation.perform (reached config firmware early) := split [operation]
    rw [performed] at changed
    obtain ⟨payload, inPlace, exhausted⟩ := exhausted_perform kept within changed
    rw [← performed] at inPlace exhausted
    have spent := exhausted.spent
    rw [config_reached] at spent
    exact ⟨spent, payload, inPlace, exhausted.failing⟩
  · have accounted := accounted_after keeps (kept_initial config firmware) rfl
    rw [← split] at still
    rw [← still.counted]
    exact accounted

/-- A channel is recovered by resetting the hardware, and fails on the bus from then on. -/
def failingForGood : List Operation :=
  [.load 1, .power 1 .active, .disturb (Bus.Transport.preset 0 (Register.ofParts 0 0 0x10) 2),
    .handleInterrupt, .disturb (Bus.Transport.failChannel 0), .power 1 .mute]

/-- One restart is allowed. -/
def oneRestart : Config := { Config.standard with maxRestarts := 1 }

/-- The request after the only restart locks the channel out; the reset line was pulsed twice. -/
theorem locked_after_restart :
    (reached oneRestart (.watching 1 2) failingForGood).locked 0 = false ∧
      (reached oneRestart (.watching 1 2) (failingForGood ++ [.power 1 .active])).locked 0 = true ∧
      (reached oneRestart (.watching 1 2) (failingForGood ++ [.power 1 .active])).restarts = 1 ∧
      (reached oneRestart (.watching 1 2) (failingForGood ++ [.power 1 .active])).resetCalls =
        1 + 1 := by
  have free : (reached oneRestart (.watching 1 2) failingForGood).locked 0 = false := by
    decide +kernel
  have locked : (reached oneRestart (.watching 1 2)
      (failingForGood ++ [.power 1 .active])).locked 0 = true := by decide +kernel
  have keeps : ∀ operation ∈ failingForGood ++ [.power 1 .active], operation.KeepsCalls := by
    simp [failingForGood, Operation.KeepsCalls, Bus.Transport.preset, Bus.Transport.failChannel]
  have recoveries : (reached oneRestart (.watching 1 2)
      (failingForGood ++ [.power 1 .active])).hardRecoveries = 1 := by decide +kernel
  obtain ⟨counted, _, _, spent, resets⟩ := restarts_within_budget oneRestart (.watching 1 2)
    failingForGood [.power 1 .active]
  have restarts := (spent (.power 1 .active) 0 free locked).1
  refine ⟨free, locked, restarts, ?_⟩
  rw [resets keeps, ← counted, restarts, recoveries]
  rfl

end Device

end AmpControl
