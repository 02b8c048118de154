import AmpControl.Proofs.Device.Reordering
import AmpControl.Proofs.Run.Transitions

/-!
# Requests for power on different channels

As long as no call is refused, two requests for power whose masks have no channel in common come to
the same in either order, and to the same as one request for both masks.
-/

namespace AmpControl

open Tuning (Payload)

namespace Request

open Device (Beside SameOutcome transition)

variable {payload : Payload} {first second channel : UInt8} {target : Power} {before after : Device}

theorem chosen_or : Chosen payload (first ||| second) target before channel ↔
    Chosen payload first target before channel ∨ Chosen payload second target before channel := by
  constructor
  · rintro ⟨asked, allowed, unlocked⟩
    rw [Channel.within_or, Bool.or_eq_true] at asked
    exact asked.imp (⟨·, allowed, unlocked⟩) (⟨·, allowed, unlocked⟩)
  · rintro (⟨asked, allowed, unlocked⟩ | ⟨asked, allowed, unlocked⟩)
    · exact ⟨by rw [Channel.within_or, asked, Bool.true_or], allowed, unlocked⟩
    · exact ⟨by rw [Channel.within_or, asked, Bool.or_true], allowed, unlocked⟩

/-- A request for two masks without a common channel is about the channels of both, each once. -/
theorem wanted_perm (apart : first &&& second = 0) :
    (wanted payload (first ||| second) target before).Perm
      (wanted payload first target before ++ wanted payload second target before) := by
  have disjoint : (wanted payload first target before).Disjoint
      (wanted payload second target before) := by
    intro channel inFirst inSecond
    have within := (Channel.and_eq_zero_iff first second).mp apart channel
      (mem_wanted.mp inFirst).asked
    rw [(mem_wanted.mp inSecond).asked] at within
    cases within
  refine (List.perm_ext_iff_of_nodup nodup_wanted
    (nodup_wanted.append nodup_wanted disjoint)).mpr fun channel => ?_
  rw [List.mem_append, mem_wanted, mem_wanted, mem_wanted, chosen_or]

/-- Work on channels does not change what a request is about. -/
theorem wanted_of_beside (beside : Beside before after) (mask : UInt8) :
    wanted payload mask target after = wanted payload mask target before := by
  simp only [wanted, selected, Device.selection, beside.activeProfile, beside.lockedOut]

/-- Two requests none of which meets a fault move the channels of one after those of the other. -/
theorem leaves_twice (ready : before.ready? = some payload)
    (clean : (Work.each (wanted payload first target before ++ wanted payload second target before)
      (transition payload target) before).2 = none) :
    (power second target).leaves ((power first target).leaves before) =
      (Work.each (wanted payload first target before ++ wanted payload second target before)
        (transition payload target) before).1 := by
  rw [Work.snd_each_append, Bus.join_eq_none] at clean
  obtain ⟨cleanFirst, cleanSecond⟩ := clean
  have beside : Beside before (Work.each (wanted payload first target before)
      (transition payload target) before).1 := ((on_transitions _).confined before).beside
  -- The first request leaves what decides which channels the second is about.
  rw [leaves_power_of_ready ready, powered_of_none cleanFirst,
    leaves_power_of_ready (beside.toFrame.ready?.trans ready)]
  rw [← wanted_of_beside beside second] at cleanSecond
  rw [powered_of_none cleanSecond, wanted_of_beside beside, Work.fst_each_append]

/-- A request for two masks without a common channel comes to the same as one request for each. -/
theorem sameOutcome_leaves_twice (kept : before.Kept) (ready : before.ready? = some payload)
    (apart : first &&& second = 0)
    (clean : (powered payload (first ||| second) target before).bus.refusals =
      before.bus.refusals) :
    SameOutcome (powered payload (first ||| second) target before)
      ((power second target).leaves ((power first target).leaves before)) := by
  have none_met := fault_of_clean clean
  have fits : (Work.each (wanted payload (first ||| second) target before)
      (transition payload target) before).1.Fits payload :=
    (kept.of_ready ready).1.toFits.frame ((on_transitions _).confined before).beside.toFrame
  have few : (Work.each (wanted payload (first ||| second) target before)
      (transition payload target) before).1.channels.length ≤ UInt8.size := by
    rw [fits.length_channels, ← fits.shaped.toNat_channelCount]
    exact payload.channelCount.toNat_lt.le
  obtain ⟨cleanInTurn, same⟩ := Device.sameOutcome_each
    (fun channel => Work.local_transition payload target channel) nodup_wanted (wanted_perm apart)
    few none_met
  rw [powered_of_none none_met, leaves_twice ready cleanInTurn]
  exact same

end Request

namespace Device

/--
In every state in which a payload is ready for use, a request for power on the channels of two masks
without a common channel comes to the same as one request for each mask, in either order, if none of
its calls is refused: the same device with the same registers, and on every channel the same calls.
Only when the deferred work is due may differ.
-/
theorem power_requests_commute (config : Config) (firmware : FirmwareSource)
    (operations : List Operation) (payload : Payload)
    (ready : (reached config firmware operations).ready? = some payload) (target : Power)
    (first second : UInt8) (apart : first &&& second = 0)
    (clean : (reached config firmware
      (operations ++ [.power (first ||| second) target])).bus.refusals =
        (reached config firmware operations).bus.refusals) :
    let together := reached config firmware (operations ++ [.power (first ||| second) target])
    SameOutcome together (reached config firmware
      (operations ++ [.power first target, .power second target])) ∧
    SameOutcome together (reached config firmware
      (operations ++ [.power second target, .power first target])) := by
  intro together
  have kept := kept_reached config firmware operations
  have performed : together =
      Request.powered payload (first ||| second) target (reached config firmware operations) :=
    (after_append operations [.power (first ||| second) target] _).trans
      (Request.leaves_power_of_ready ready _ target)
  have inTurn (early late : UInt8) :
      reached config firmware (operations ++ [.power early target, .power late target]) =
        (Request.power late target).leaves
          ((Request.power early target).leaves (reached config firmware operations)) :=
    after_append operations [.power early target, .power late target] _
  have quiet := (congrArg (·.bus.refusals) performed).symm.trans clean
  rw [performed, inTurn, inTurn]
  refine ⟨Request.sameOutcome_leaves_twice kept ready apart quiet, ?_⟩
  -- The other order is the same statement with the masks exchanged.
  rw [UInt8.or_comm] at quiet ⊢
  exact Request.sameOutcome_leaves_twice kept ready ((UInt8.and_comm second first).trans apart)
    quiet

/-- Two channels are powered up together or one after the other, in either order. -/
theorem both_channels_powered :
    let together := reached .standard (.watching 2 0) [.load 1, .power (1 ||| 2) .active]
    together.power 0 = .active ∧ together.power 1 = .active ∧
      SameOutcome together
        (reached .standard (.watching 2 0) [.load 1, .power 1 .active, .power 2 .active]) ∧
      SameOutcome together
        (reached .standard (.watching 2 0) [.load 1, .power 2 .active, .power 1 .active]) := by
  have loaded : (reached .standard (.watching 2 0) [.load 1]).ready?.isSome = true := by
    decide +kernel
  obtain ⟨payload, ready⟩ := Option.isSome_iff_exists.mp loaded
  exact ⟨by decide +kernel, by decide +kernel, power_requests_commute .standard (.watching 2 0)
    [.load 1] payload ready .active 1 2 (by decide) (by decide +kernel)⟩

end Device

end AmpControl
