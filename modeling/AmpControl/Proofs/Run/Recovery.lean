import AmpControl.Proofs.Run.Invariant

/-!
# Recovery passes in a run

Whatever a recovery pass finds and does, it reports at most one outcome of every channel, and leaves
every channel that it does not report as shut down in the power state that it had, unless it has to
lock channels out.
-/

namespace AmpControl.Device

open Tuning (Payload)

variable {device : Device} {payload : Payload} {channel : UInt8}

/-- A channel past the last one of any mask is not there. -/
theorem Fits.power_of_large (fits : device.Fits payload) (large : ¬channel < 8) :
    device.power channel = .shutdown :=
  fits.power_of_undeclared fun declared => large (fits.shaped.lt_eight declared)

/-- The outcomes of a recovery pass of a sound device, and the power states that it leaves. -/
theorem survey_outcome (sound : device.Sound payload) :
    (device.survey payload).2.outcomes.Pairwise (fun first second => first &&& second = 0) ∧
    (∀ mask ∈ (device.survey payload).2.outcomes,
      mask &&& ~~~(device.survey payload).2.detected = 0) ∧
    (∀ channel, Channel.within (device.survey payload).2.shutDown channel = true →
      (device.survey payload).1.power channel = .shutdown) ∧
    if (device.survey payload).1.lockedOut = device.lockedOut then
      ∀ channel, Channel.within (device.survey payload).2.shutDown channel = false →
        (device.survey payload).1.power channel = device.power channel
    else ∀ channel, (device.survey payload).1.power channel = .shutdown := by
  obtain ⟨found, leads, tells, power⟩ := survey_spec sound
  refine ⟨tells.disjoint, tells.detected_of_outcome, fun channel reported => ?_, ?_⟩
  · have small := Channel.small_of_within reported
    have down : found channel = some (some .shutDown) :=
      of_decide_eq_true ((tells.outcome .shutDown channel small).symm.trans reported)
    split at power
    · rw [power, if_pos down]
    · exact power channel
  · split at power
    · rename_i same
      rw [if_pos same]
      intro channel unreported
      by_cases small : channel < 8
      · have other : found channel ≠ some (some .shutDown) :=
          of_decide_eq_false ((tells.outcome .shutDown channel small).symm.trans unreported)
        rw [power, if_neg other]
      · rw [leads.sound.toFits.power_of_large small, sound.toFits.power_of_large small]
    · rename_i changed
      rw [if_neg changed]
      exact power

/--
In every state in which the payload is ready for use a recovery pass returns a report. Its outcomes
have no channel in common and every channel with an outcome was detected. Channels that are reported
as shut down are. Every other channel is in the power state that it had before the pass, unless
channels were locked out; then all channels are shut down.
-/
theorem recovery_outcome (config : Config) (firmware : FirmwareSource)
    (operations : List Operation)
    (ready : (reached config firmware operations).loadState = .ready) :
    ∃ after report, (reached config firmware operations).handleInterrupt = (after, .ok report) ∧
      [report.stuck, report.clockOnly, report.reset, report.repowered, report.shutDown].Pairwise
        (fun first second => first &&& second = 0) ∧
      (∀ mask ∈ [report.stuck, report.clockOnly, report.reset, report.repowered, report.shutDown],
        mask &&& ~~~report.detected = 0) ∧
      (∀ channel, Channel.within report.shutDown channel = true →
        after.power channel = .shutdown) ∧
      if after.lockedOut = (reached config firmware operations).lockedOut then
        ∀ channel, Channel.within report.shutDown channel = false →
          after.power channel = (reached config firmware operations).power channel
      else ∀ channel, after.power channel = .shutdown := by
  have kept := kept_reached config firmware operations
  generalize reached config firmware operations = before at kept ready ⊢
  unfold handleInterrupt
  cases usable : before.ready? with
  | none => exact absurd ready (kept.ready?_eq_none usable)
  | some payload =>
      by_cases supported : payload.header.interruptsSupported = true
      · refine ⟨(before.survey payload).1, (before.survey payload).2, ?_, ?_⟩
        · exact if_pos supported
        · exact survey_outcome (kept.of_ready usable).1
      · have silent : RecoveryReport.nothing.Tells fun _ => none := RecoveryReport.tells_nothing
        refine ⟨before, .nothing, ?_, silent.disjoint, silent.detected_of_outcome,
          fun channel reported => ?_, ?_⟩
        · exact if_neg supported
        · exact absurd reported (by simp [RecoveryReport.nothing])
        · rw [if_pos rfl]
          intro channel _
          rfl

/-- The channel of the small image is shut down when its fault fires. -/
theorem fault_shuts_channel_down :
    (reached .standard .small [.load 1, .power 1 .active, .wait 10000, .runDeferred,
      .disturb (Bus.Transport.preset 0 (Register.ofParts 0 0 0x10) 2)]).handleInterrupt.1.power 0 =
        .shutdown := by
  obtain ⟨after, report, pass, _, _, down, _⟩ := recovery_outcome .standard .small
    [.load 1, .power 1 .active, .wait 10000, .runDeferred,
      .disturb (Bus.Transport.preset 0 (Register.ofParts 0 0 0x10) 2)] (by decide +kernel)
  have reported : (reached .standard .small [.load 1, .power 1 .active, .wait 10000, .runDeferred,
      .disturb (Bus.Transport.preset 0 (Register.ofParts 0 0 0x10)
        2)]).handleInterrupt.2.toOption.map (fun report => Channel.within report.shutDown 0) =
          some true := by
    decide +kernel
  rw [pass] at reported ⊢
  exact down 0 (Option.some.inj reported)

end AmpControl.Device
