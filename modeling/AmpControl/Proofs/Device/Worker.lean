import AmpControl.Proofs.Device.Safety

/-!
# Deferred work

The deferred work of a channel unmasks it and sends the controls that come after power-up, which is
all that was still missing. A channel for which work waits plays, so work is never taken out without
being done as long as there is a payload.
-/

namespace AmpControl.Device

open Tuning (Payload Timing)

variable {payload : Payload} {device : Device} {channel : UInt8}

theorem ready?_eq_some (found : device.ready? = some payload) :
    device.loadState = .ready ∧ device.payload = some payload := by
  unfold ready? at found
  split at found
  · exact ⟨‹_›, found⟩
  · cases found

theorem ready?_eq_none (fits : device.Fits payload) (found : device.ready? = none) :
    device.loadState ≠ .ready := by
  intro ready
  rw [ready?, if_pos ready, fits.inPlace] at found
  cases found

theorem Frame.ready? {before after : Device} (frame : Frame before after) :
    after.ready? = before.ready? := by
  rw [Device.ready?, Device.ready?, frame.loadState, frame.payload]

/-- Whatever outdates the values that come before power-up outdates those that come after it. -/
theorem Marked.afterPowerUp (marked : device.Marked channel .beforePowerUp) :
    device.Marked channel .afterPowerUp := by
  obtain ⟨mark, member, outdating⟩ := marked
  refine ⟨mark, member, ?_⟩
  cases mark with
  | poweringUp powered => exact ⟨by simp, outdating.2⟩
  | installed => cases outdating
  | hardReset => cases outdating
  | ran reset role power waiting locked =>
      cases role with
      | softReset => cases outdating.1
      | _ => exact outdating.elim
  | _ => exact outdating.elim

/-- What fired on a channel is looked at and cleared. -/
def looked (payload : Payload) (channel : UInt8) (device : Device) : Device :=
  (Work.inOrder [pollAfterPowerUp payload channel, clearInterrupts payload channel] device).1

theorem looked_spec (fits : device.Fits payload) :
    Steps payload (fun _ _ => False) device (device.looked payload channel) ∧
      (device.looked payload channel).standing = device.standing := by
  have sets : Sets payload channel id (Work.inOrder [pollAfterPowerUp payload channel,
      clearInterrupts payload channel]) :=
    sets_cons sets_pollAfterPowerUp (sets_cons sets_clearInterrupts sets_nil)
  refine ⟨?_, (sets device fits).2.trans (Function.update_eq_self channel _)⟩
  refine steps_cons steps_pollAfterPowerUp fun _ _ => ?_
  exact steps_cons steps_clearInterrupts fun _ _ => .refl

/-- The deferred work of a channel, without the count and the error that may be latched for it. -/
def finished (payload : Payload) (channel : UInt8) (device : Device) : Device :=
  (replay payload channel .afterPowerUp).leaves
    ((unmaskInterrupts payload channel).leaves (device.looked payload channel))

theorem fst_finished (payload : Payload) (channel : UInt8) (device : Device) :
    (Work.inOrder [pollAfterPowerUp payload channel, clearInterrupts payload channel,
      unmaskInterrupts payload channel, replay payload channel .afterPowerUp] device).1 =
      device.finished payload channel := by
  simp only [finished, looked, Work.fst_inOrder_cons, Work.fst_inOrder_nil]

/-- What follows on the deferred work is counting it and latching an error. -/
theorem finishPowerUp_of_finished (payload : Payload) (channel : UInt8) (device : Device) :
    Steps payload (fun _ _ => False) (device.finished payload channel)
        (device.finishPowerUp payload channel) ∧
      (device.finishPowerUp payload channel).standing =
        (device.finished payload channel).standing := by
  have done := fst_finished payload channel device
  unfold finishPowerUp
  cases worked : Work.inOrder [pollAfterPowerUp payload channel,
      clearInterrupts payload channel, unmaskInterrupts payload channel,
      replay payload channel .afterPowerUp] device with
  | mk after fault =>
      rw [worked] at done
      rw [← done]
      have counted : Steps payload (fun _ _ => False) after (after.count fun stats =>
          { stats with deferredRuns := Stats.increment stats.deferredRuns }) := .single (.counted _)
      cases fault with
      | none => exact ⟨counted, rfl⟩
      | some fault => exact ⟨counted.tail (.reported (by simp) channel), rfl⟩

/-- Deferred work unmasks a channel if it has an interrupt table, and moves nothing else. -/
theorem standing_finished (fits : device.Fits payload) (declared : channel < payload.channelCount) :
    (device.finished payload channel).standing = Function.update device.standing channel
      { device.standing channel with
        unmasked := (device.standing channel).unmasked ||
          (payload.interrupts? channel).isSome } := by
  have sets : Sets payload channel _ (Work.inOrder [pollAfterPowerUp payload channel,
      clearInterrupts payload channel, unmaskInterrupts payload channel,
      replay payload channel .afterPowerUp]) :=
    sets_cons sets_pollAfterPowerUp <| sets_cons sets_clearInterrupts <|
      sets_cons (sets_unmaskInterrupts declared) <| sets_cons (sets_replay _ _) sets_nil
  have moved := (sets device fits).2
  rw [fst_finished] at moved
  exact moved

/--
The deferred work of a channel that plays and for which nothing waits any more: nothing is lost, and
what comes after power-up is delivered.
-/
theorem finished_spec (fits : device.Fits payload) (playing : device.power channel = .active)
    (free : device.waiting channel = false) (unlocked : device.locked channel = false) :
    Steps payload (fun _ _ => False) device (device.finished payload channel) ∧
      (device.Marked channel .afterPowerUp →
        (device.finished payload channel).Delivered payload channel .afterPowerUp) := by
  obtain ⟨early, same⟩ : Steps payload (fun _ _ => False) device (device.looked payload channel) ∧
      (device.looked payload channel).standing = device.standing := looked_spec fits
  have standing := congrFun same channel
  have permitted : (device.looked payload channel).Permits channel .unmask :=
    ⟨(congrArg Standing.power standing).trans playing,
      (congrArg Standing.waiting standing).trans free, (early.frame.locked channel).trans unlocked⟩
  have unmasked : Steps payload (fun _ _ => False) (device.looked payload channel)
      ((unmaskInterrupts payload channel).leaves (device.looked payload channel)) :=
    steps_leaves (steps_unmaskInterrupts permitted)
  have sent : Steps payload (fun _ _ => False)
      ((unmaskInterrupts payload channel).leaves (device.looked payload channel))
      (device.finished payload channel) := steps_leaves (steps_replay _)
  refine ⟨(early.trans unmasked).trans sent, fun marked => ?_⟩
  exact delivered_leaves (delivered_replay (unmasked.marked (early.marked marked)))

/-- A channel whose deferred work is taken out and done is unmasked if it has an interrupt table. -/
theorem standing_finishPowerUp (fits : device.Fits payload)
    (declared : channel < payload.channelCount) :
    ((device.cancelDeferred channel).finishPowerUp payload channel).standing =
      Function.update device.standing channel
        ⟨(device.standing channel).power, (device.standing channel).unmasked ||
          (payload.interrupts? channel).isSome, false⟩ := by
  have taken : (device.cancelDeferred channel).Fits payload :=
    fits.frame ⟨rfl, rfl, rfl, rfl, rfl, rfl⟩
  rw [(finishPowerUp_of_finished payload channel _).2, standing_finished taken declared,
    standing_cancelDeferred, Function.update_idem, Function.update_self]

/-- The deferred work of a channel that plays puts the rest in force. -/
theorem safe_finishPowerUp (sound : device.Sound payload)
    (declared : channel < payload.channelCount)
    (playing : device.power channel = .active) :
    Safe payload device ((device.cancelDeferred channel).finishPowerUp payload channel) := by
  have unlocked : device.locked channel = false := sound.unlocked (by simp [playing])
  have free : (device.cancelDeferred channel).waiting channel = false := by
    simp [waiting, cancelDeferred, DeferredQueue.isPending_cancel]
  have cancelled : Steps payload (fun _ _ => False) device (device.cancelDeferred channel) :=
    .single (.cancelled channel)
  have fits := sound.toFits.frame cancelled.frame
  obtain ⟨work, delivered⟩ := finished_spec fits playing free unlocked
  obtain ⟨ended, _⟩ := finishPowerUp_of_finished payload channel (device.cancelDeferred channel)
  have steps : Steps payload (fun _ _ => False) device
      ((device.cancelDeferred channel).finishPowerUp payload channel) :=
    (cancelled.trans work).trans ended
  have moved : ((device.cancelDeferred channel).finishPowerUp payload channel).standing =
      Function.update device.standing channel ⟨.active, (device.standing channel).unmasked ||
        (payload.interrupts? channel).isSome, false⟩ := by
    rw [standing_finishPowerUp sound.toFits declared]
    exact congrArg (fun power => Function.update device.standing channel ⟨power, _, false⟩) playing
  refine safe_of_steps sound steps (fun _ _ lost => lost.elim) moved ?_ fun held _ timing due => ?_
  · exact ⟨fun _ => ⟨rfl, rfl⟩, fun _ => rfl, fun locked => absurd locked (by simp [unlocked])⟩
  · cases timing with
    | anytime => exact steps.delivered not_false (held declared .anytime trivial)
    | beforePowerUp => exact steps.delivered not_false (held declared .beforePowerUp playing)
    | afterPowerUp =>
        refine ended.delivered not_false (delivered ?_)
        exact cancelled.marked (held declared .beforePowerUp playing).marked.afterPowerUp

/-- Drops all deferred work. -/
def dropDeferred (device : Device) : Device :=
  { device with deferred := device.deferred.cancelAll }

theorem waiting_dropDeferred (device : Device) (channel : UInt8) :
    device.dropDeferred.waiting channel = false := DeferredQueue.isPending_cancelAll _ _

/-- What happens to the work that is due first. -/
theorem deferredTurn_of_due {generation : UInt32} {left : DeferredQueue}
    (due : device.deferred.takeDue device.clock = some ((channel, generation), left)) :
    device.deferredTurn =
      match (device.cancelDeferred channel).ready? with
      | none => ((device.cancelDeferred channel).dropDeferred, .dropped)
      | some payload =>
          if (device.cancelDeferred channel).power channel = .active then
            ((device.cancelDeferred channel).finishPowerUp payload channel, .ran)
          else (device.cancelDeferred channel, .skipped) := by
  rw [deferredTurn, due]
  obtain ⟨rfl, _⟩ := DeferredQueue.takeDue_eq_some due
  rfl

/-- A channel for which work is due plays. -/
theorem playing_of_due (sound : device.Sound payload) {generation : UInt32} {left : DeferredQueue}
    (due : device.deferred.takeDue device.clock = some ((channel, generation), left)) :
    device.power channel = .active ∧ channel < payload.channelCount := by
  obtain ⟨_, instant, _, item⟩ := DeferredQueue.takeDue_eq_some due
  have waits : device.waiting channel = true := by
    rw [waiting, DeferredQueue.isPending, item]
    rfl
  have playing : device.power channel = .active := (sound.allowed channel).waiting waits
  refine ⟨playing, ?_⟩
  by_contra undeclared
  exact absurd (playing.symm.trans (sound.power_of_undeclared undeclared)) (by simp)

/-- A turn of the deferred work is safe while there is a payload to work with. -/
theorem safe_deferredTurn (sound : device.Sound payload) (ready : device.ready? = some payload) :
    Safe payload device device.deferredTurn.1 := by
  cases due : device.deferred.takeDue device.clock with
  | none =>
      rw [deferredTurn, due]
      exact Safe.refl sound
  | some entry =>
      obtain ⟨⟨channel, generation⟩, left⟩ := entry
      obtain ⟨playing, declared⟩ := playing_of_due sound due
      have readyTaken : (device.cancelDeferred channel).ready? = some payload := ready
      have playingTaken : (device.cancelDeferred channel).power channel = .active := playing
      rw [deferredTurn_of_due due, readyTaken]
      simp only [playingTaken, if_true]
      exact safe_finishPowerUp sound declared playing

/-- Without a payload to work with all deferred work is dropped, once some of it is due. -/
theorem deferredTurn_of_not_ready (idle : device.ready? = none) :
    device.deferredTurn.1 = device ∨
      ∃ channel, device.deferredTurn.1 = (device.cancelDeferred channel).dropDeferred := by
  cases due : device.deferred.takeDue device.clock with
  | none =>
      rw [deferredTurn, due]
      exact .inl rfl
  | some entry =>
      obtain ⟨⟨channel, generation⟩, left⟩ := entry
      have idleTaken : (device.cancelDeferred channel).ready? = none := idle
      rw [deferredTurn_of_due due, idleTaken]
      exact .inr ⟨channel, rfl⟩

end AmpControl.Device
