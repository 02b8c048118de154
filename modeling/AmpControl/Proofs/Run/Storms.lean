import AmpControl.Proofs.Run.Invariant

/-!
# Interrupt storms in a run

As long as the hardware is not reset, a channel on which interrupts fire too often in a storm window
is left alone for the rest of it: of the detections since the payload was put in place and within
one window from the first of them, as many are acted on as the limit says, and all others are
skipped. A reset of the hardware forgets the storm windows of all channels.
-/

namespace AmpControl.Device

open PassRecord (Limited detections storm)

variable {device before after : Device}

theorem Course.chronicled (course : Course before after) (kept : before.Kept)
    (chronicled : before.Chronicled) : after.Chronicled := by
  cases course with
  | moved moves => exact moves.chronicled chronicled
  | escalated moves => exact (moves.chronicled chronicled).calm fun _ => calm_escalate _ _ _
  | surveyed moves ready turns =>
      obtain ⟨sound, _⟩ := (moves.keeps kept).1.of_ready ready
      exact turns.moves.chronicled (chronicled_survey sound (moves.chronicled chronicled))

theorem chronicled_perform (operation : Operation) (kept : device.Kept)
    (chronicled : device.Chronicled) : (operation.perform device).Chronicled := by
  obtain ⟨change, rfl⟩ | course := operation.course_perform device
  · exact chronicled.calm fun _ => ⟨rfl, le_rfl, rfl, id, fun _ => rfl, .rfl⟩
  · exact course.chronicled kept chronicled

theorem chronicled_after (operations : List Operation) (kept : device.Kept)
    (chronicled : device.Chronicled) : (device.after operations).Chronicled := by
  induction operations generalizing device with
  | nil => exact chronicled
  | cons first others ih =>
      exact ih (kept_perform first kept).1 (chronicled_perform first kept chronicled)

theorem chronicled_reached (config : Config) (firmware : FirmwareSource)
    (operations : List Operation) : (reached config firmware operations).Chronicled := by
  have initially : (initial config firmware).Chronicled := chronicled_of_empty rfl fun _ => rfl
  exact chronicled_after operations (kept_initial config firmware) initially

/--
As long as the hardware was not reset since the payload was put in place: of the passes that found
something on a channel, and that began before a storm window was over that the first of them opened,
the first were acted on, as many as the limit says, and every further one reported the channel as
stuck and left it alone. Where the limit is the largest number there is, further ones are not
counted.
-/
theorem storms_limited (config : Config) (firmware : FirmwareSource)
    (operations : List Operation) (channel : UInt8)
    (unreset : (reached config firmware operations).passLog.wasReset = false) :
    Limited channel config.stormLimit (storm (Bus.milliseconds config.stormWindow.toNat)
      (detections channel (reached config firmware operations).passLog.passes)) := by
  have chronicled := chronicled_reached config firmware operations
  have judged := chronicled.judged unreset channel
  rw [config_reached] at judged
  exact (judged.weathered chronicled.ordered).limited

/-- A channel is powered up, and something fires on it twice in one storm window. -/
def twoDetections : List Operation :=
  let fires := Operation.disturb (Bus.Transport.preset 0 (Register.ofParts 0 0 0x10) 2)
  [.load 1, .power 1 .active, .wait 10000, .runDeferred, fires, .handleInterrupt, fires,
    .handleInterrupt]

/-- One detection in a storm window is allowed. -/
def oneAllowed : Config := { Config.standard with stormLimit := 1 }

/-- Of two detections in one window the second is skipped, if one is allowed. -/
theorem second_detection_skipped :
    (storm 30000000 (detections 0
        (reached oneAllowed (.watching 1 1) twoDetections).passLog.passes)).length = 2 ∧
      ∀ pass ∈ (storm 30000000 (detections 0
          (reached oneAllowed (.watching 1 1) twoDetections).passLog.passes)).drop 1,
        0 ∉ pass.recovered ∧ pass.sticks 0 = true := by
  have limited : Limited 0 1 (storm 30000000 (detections 0
      (reached oneAllowed (.watching 1 1) twoDetections).passLog.passes)) :=
    storms_limited oneAllowed (.watching 1 1) twoDetections 0 (by decide +kernel)
  exact ⟨by decide +kernel, limited.skipped (by decide)⟩

/-- Where the hardware is reset for the first of two detections, the second is acted on as well. -/
theorem reset_forgets_storm :
    ¬Limited 0 1 (storm 30000000 (detections 0
      (reached oneAllowed (.watching 1 2) twoDetections).passLog.passes)) := by
  intro limited
  have second : (⟨12000, ⟨1, 0, 0, 1, 0, 0⟩, [0]⟩ : PassRecord) ∈ (storm 30000000 (detections 0
      (reached oneAllowed (.watching 1 2) twoDetections).passLog.passes)).drop 1 := by
    decide +kernel
  exact (limited.skipped (by decide) _ second).1 List.mem_cons_self

end AmpControl.Device
