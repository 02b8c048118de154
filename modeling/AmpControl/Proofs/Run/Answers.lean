import AmpControl.Proofs.Run.Invariant

/-!
# Answers to failures in a run

A request for power and a recovery pass do not end with every channel failing: if one of their calls
was refused, some channel still works, the device was restarted, or all channels are shut down for
good. The other operations only latch the failure.
-/

namespace AmpControl

open Tuning (Payload)

namespace Request

variable {device : Device} {payload : Payload}

/-- A request for power answers every refused call. -/
theorem answers_powered (mask : UInt8) (target : Power) (kept : device.Kept)
    (ready : device.ready? = some payload)
    (bounded : device.restarts ≤ device.config.maxRestarts) :
    Device.Answers payload (fun _ => False) device (powered payload mask target device) := by
  obtain ⟨moves, frame⟩ : Device.Moves device (Work.each (wanted payload mask target device)
      (Device.transition payload target) device).1 ∧ _ :=
    moves_transitions ready (fun channel member => (unlocked_of_wanted member).1)
      fun channel member => (unlocked_of_wanted member).2
  have sound := ((moves.keeps kept).1.of_ready (frame.ready?.trans ready)).1
  have plain : Work.Plain (Work.each (wanted payload mask target device)
      (Device.transition payload target)) :=
    Work.plain_each fun _ => Device.plain_transition target
  have works := plain device
  refine (works.mono fun _ => .inl).answers sound bounded (fun clean => ?_) fun met => ?_
  · rw [powered, if_neg (by simpa using clean)]
  · rw [powered, if_pos (by simpa [Option.isSome_iff_ne_none] using met)]

end Request

namespace Device

theorem answers_self (payload : Payload) (excused : Bus.Attempt → Prop) (device : Device) :
    Answers payload excused device device :=
  ⟨[], rfl, fun ⟨_, member, _⟩ => absurd member List.not_mem_nil⟩

/--
In every state in which the payload is ready for use, a request for power and a recovery pass answer
the calls that were refused on the way: the device was restarted by one more hardware reset, or no
restart was left and all channels are shut down for good, unless some channel of the payload has no
latched transport error. Excused are only the looks that a pass takes at the registers of a channel
that it reports as stuck, whose failures are not noted.
-/
theorem failures_answered (config : Config) (firmware : FirmwareSource)
    (operations : List Operation) (payload : Payload)
    (ready : (reached config firmware operations).ready? = some payload) :
    (∀ mask target, Answers payload (fun _ => False) (reached config firmware operations)
      (reached config firmware (operations ++ [.power mask target]))) ∧
    ∀ after report, (reached config firmware operations).handleInterrupt = (after, .ok report) →
      Answers payload (fun attempt => ∃ channel, attempt.call.channel? = some channel ∧
        Channel.within report.stuck channel = true) (reached config firmware operations) after := by
  have kept := kept_reached config firmware operations
  have bounded := (budgeted_reached config firmware operations).bounded
  have last (operation : Operation) : reached config firmware (operations ++ [operation]) =
      operation.perform (reached config firmware operations) :=
    after_append operations [operation] _
  constructor
  · intro mask target
    rw [last]
    have loaded := Request.loadedPayload_of_ready ready
    obtain same | same := Request.leaves_power loaded mask target
    · rw [Operation.perform, same]
      exact answers_self payload _ _
    · rw [Operation.perform, same]
      exact Request.answers_powered mask target kept ready bounded
  · intro after report passes
    rw [handleInterrupt_of_ready ready] at passes
    split at passes
    · cases passes
      exact answers_survey (kept.of_ready ready).1 bounded
    · cases passes
      exact answers_self payload _ _

/-- The only channel of a payload that is in place begins to fail. -/
def onlyChannelFails : List Operation := [.load 1, .disturb (Bus.Transport.failChannel 0)]

theorem ready_onlyChannelFails :
    ∃ payload, (reached .standard .small onlyChannelFails).ready? = some payload ∧
      payload.channelCount = 1 := by
  have declared : (reached .standard .small onlyChannelFails).ready?.map (·.channelCount) =
      some 1 := by decide +kernel
  exact Option.map_eq_some_iff.mp declared

/-- A request for power is answered by a restart. -/
theorem failing_power_answered :
    ∃ payload, (reached .standard .small onlyChannelFails).ready? = some payload ∧
      Answers payload (fun _ => False) (reached .standard .small onlyChannelFails)
        (reached .standard .small (onlyChannelFails ++ [.power 1 .active])) ∧
      (reached .standard .small (onlyChannelFails ++ [.power 1 .active])).restarts = 1 := by
  obtain ⟨payload, ready, _⟩ := ready_onlyChannelFails
  exact ⟨payload, ready, (failures_answered .standard .small onlyChannelFails payload ready).1 1
    .active, by decide +kernel⟩

/-- The write of a control that is refused lets every channel fail, and is not answered. -/
theorem failing_write_unanswered :
    ∃ payload, (reached .standard .small onlyChannelFails).ready? = some payload ∧
      ¬Answers payload (fun _ => False) (reached .standard .small onlyChannelFails)
        (reached .standard .small (onlyChannelFails ++ [.putControl 0 3])) := by
  obtain ⟨payload, ready, single⟩ := ready_onlyChannelFails
  refine ⟨payload, ready, fun ⟨calls, grown, answered⟩ => ?_⟩
  have before : (reached .standard .small onlyChannelFails).bus.transport.attempts.countP
      (fun attempt => !attempt.accepted) = 0 := by decide +kernel
  have after : (reached .standard .small
      (onlyChannelFails ++ [.putControl 0 3])).bus.transport.attempts.countP
        (fun attempt => !attempt.accepted) ≠ 0 := by decide +kernel
  rw [grown, List.countP_append, before, Nat.add_zero, ← Nat.pos_iff_ne_zero,
    List.countP_pos_iff] at after
  obtain ⟨attempt, member, refused⟩ := after
  obtain (⟨counted, _⟩ | ⟨spent, _⟩) | ⟨channel, declared, working⟩ :=
    answered ⟨attempt, member, by simpa using refused, not_false⟩
  · exact absurd counted (by decide +kernel)
  · exact absurd spent (by decide +kernel)
  · obtain rfl : channel = 0 := by
      rw [single, UInt8.lt_iff_toNat_lt] at declared
      exact UInt8.toNat_inj.mp (Nat.lt_one_iff.mp declared)
    exact absurd working (by decide +kernel)

end Device

end AmpControl
