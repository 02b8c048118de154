import AmpControl.Proofs.Device.Attention
import AmpControl.Proofs.Run.Invariant

/-!
# Attention in a run

A channel whose interrupts could fire, or for which deferred work waited, plays on after a recovery
pass only if that is so again, unless the pass says that it left the channel alone as stuck, or
could not read the registers that tell whether the channel is powered.
-/

namespace AmpControl.Device

open Tuning (Payload)

/--
In every state in which the payload is ready for use a recovery pass returns a report. Of a channel
with an interrupt table whose interrupts could fire before the pass, or for which deferred work
waited, one of these holds afterwards: it does not play any more; it is reported as stuck; its
interrupts can fire; deferred work waits for it; or no deferred work waited for it before, and the
check of its power that the pass had to make failed on the bus.
-/
theorem attended_after_recovery (config : Config) (firmware : FirmwareSource)
    (operations : List Operation) (payload : Payload) (channel : UInt8)
    (ready : (reached config firmware operations).ready? = some payload)
    (tabled : (payload.interrupts? channel).isSome = true)
    (watched : (reached config firmware operations).unmasked channel = true ∨
      (reached config firmware operations).waiting channel = true) :
    ∃ after report, (reached config firmware operations).handleInterrupt = (after, .ok report) ∧
      (after.power channel = .active → Channel.within report.stuck channel = false →
        after.unmasked channel = true ∨ after.waiting channel = true ∨
          (reached config firmware operations).waiting channel = false ∧
            ((reached config firmware operations).passBefore payload channel).LosesCheck payload
              ((reached config firmware operations).maskedPass payload).device.clock channel) := by
  have kept := kept_reached config firmware operations
  generalize reached config firmware operations = before at kept ready watched ⊢
  obtain ⟨sound, _⟩ := kept.of_ready ready
  obtain ⟨table, found⟩ := Option.isSome_iff_exists.mp tabled
  have declared : channel < payload.channelCount := by
    by_contra undeclared
    have off := (sound.allowed channel).eq_off (sound.power_of_undeclared undeclared)
    rcases watched with fires | waits
    · exact Bool.false_ne_true ((congrArg Standing.unmasked off).symm.trans fires)
    · exact Bool.false_ne_true ((congrArg Standing.waiting off).symm.trans waits)
  rw [handleInterrupt_of_ready ready]
  split
  · refine ⟨_, _, rfl, fun playing unstuck => ?_⟩
    rcases attends_survey sound declared found watched with attended | stuck | loses
    · exact (attended playing).imp_right .inl
    · exact absurd (unstuck.symm.trans stuck) Bool.false_ne_true
    · exact .inr (.inr loses)
  · exact ⟨before, .nothing, rfl, fun _ _ => watched.imp_right .inl⟩

/-- Two channels begin to play, and their deferred work waits. -/
def twoPlaying : List Operation := [.load 1, .power 3 .active]

/--
The first channel asks for its power to be checked, but the registers that tell whether it is
powered cannot be read any more.
-/
def powerUnknown : List Operation :=
  [.disturb (Bus.Transport.preset 0 (Register.ofParts 0 0 0x10) 2),
    .disturb (Bus.Transport.failRegister 0 (Register.ofParts 0 0 0x02))]

/-- A channel whose power cannot be checked keeps the deferred work that waits for it. -/
theorem unchecked_channel_awaits :
    ∃ after report,
      (reached .standard (.watching 2 4) (twoPlaying ++ powerUnknown)).handleInterrupt =
        (after, .ok report) ∧
      Channel.within report.detected 0 = true ∧ after.power 0 = .active ∧
      (after.unmasked 0 = true ∨ after.waiting 0 = true) := by
  have tabled : (reached .standard (.watching 2 4) (twoPlaying ++ powerUnknown)).ready?.map
      (fun payload => (payload.interrupts? 0).isSome) = some true := by decide +kernel
  have waits : (reached .standard (.watching 2 4)
      (twoPlaying ++ powerUnknown)).waiting 0 = true := by decide +kernel
  have plays : (reached .standard (.watching 2 4)
      (twoPlaying ++ powerUnknown)).handleInterrupt.1.power 0 = .active := by decide +kernel
  have seen : (reached .standard (.watching 2 4)
      (twoPlaying ++ powerUnknown)).handleInterrupt.2.toOption.map (fun report =>
        (Channel.within report.detected 0, Channel.within report.stuck 0)) =
      some (true, false) := by decide +kernel
  obtain ⟨payload, ready, tabled⟩ := Option.map_eq_some_iff.mp tabled
  obtain ⟨after, report, passes, attended⟩ := attended_after_recovery .standard (.watching 2 4)
    (twoPlaying ++ powerUnknown) payload 0 ready tabled (.inr waits)
  rw [passes] at plays seen
  obtain ⟨detected, unstuck⟩ := Prod.mk.inj (Option.some.inj seen)
  refine ⟨after, report, passes, detected, plays, (attended plays unstuck).imp_right ?_⟩
  exact fun others => others.resolve_right fun ⟨free, _⟩ =>
    Bool.false_ne_true (free.symm.trans waits)

/-- The deferred work that waits for the channels is done. -/
def workDone : List Operation := twoPlaying ++ [.wait 10000, .runDeferred]

/-- A channel whose power cannot be checked plays on, masked for good, if no work waits for it. -/
theorem unchecked_channel_masked :
    (reached .standard (.watching 2 4) (workDone ++ powerUnknown)).ready?.map
        (fun payload => (payload.interrupts? 0).isSome) = some true ∧
      (reached .standard (.watching 2 4) (workDone ++ powerUnknown)).standing 0 =
        ⟨.active, true, false⟩ ∧
      (reached .standard (.watching 2 4) (workDone ++ powerUnknown)).handleInterrupt.1.standing 0 =
        ⟨.active, false, false⟩ ∧
      (reached .standard (.watching 2 4)
        (workDone ++ powerUnknown)).handleInterrupt.2.toOption.map (fun report =>
          (Channel.within report.detected 0, Channel.within report.stuck 0)) =
        some (true, false) := by
  decide +kernel

end AmpControl.Device
