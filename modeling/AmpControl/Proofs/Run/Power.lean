import AmpControl.Proofs.Run.Answers
import AmpControl.Proofs.Run.Restarts
import AmpControl.Proofs.Device.Confinement

/-!
# Requests for power

A request for power brings the channels that it is about to a power state and leaves the power of
all others as it is, also where it has to restart the device. As long as no call is refused it
concerns its own channels only, and to repeat it does nothing.
-/

namespace AmpControl

open Tuning (Payload)

/-- Where a channel comes to when it is asked to a power state: one that is off is not muted. -/
def Power.settled : Power → Power → Power
  | .mute, .shutdown => .shutdown
  | target, _ => target

theorem Power.settled_settled (target current : Power) :
    target.settled (target.settled current) = target.settled current := by
  cases target <;> cases current <;> rfl

namespace Device

variable {payload : Payload} {target : Power} {device : Device} {channel : UInt8}

/-! ## Transitions -/

/-- A channel that is where it is asked to is left alone. -/
theorem transition_of_settled
    (there : target.settled (device.power channel) = device.power channel) :
    transition payload target channel device = (device, none) := by
  rw [transition, Work.reading_apply]
  cases current : device.power channel <;> rw [current] at there <;> cases target
  all_goals first
    | rfl
    | cases there

/-- Work that brings a channel into one standing sets its power. -/
theorem Sets.power {standing : Standing} {work : Work}
    (sets : Sets payload channel (fun _ => standing) work) (fits : device.Fits payload) :
    (work device).1.Fits payload ∧
      (work device).1.power = Function.update device.power channel standing.power := by
  obtain ⟨kept, moved⟩ := sets device fits
  refine ⟨kept, funext fun other => ?_⟩
  have here : ((work device).1.standing other).power = (work device).1.power other := rfl
  rw [← here, moved]
  by_cases same : other = channel
  · rw [same, Function.update_self, Function.update_self]
  · rw [Function.update_of_ne same, Function.update_of_ne same]
    rfl

theorem power_transition (target : Power) (declared : channel < payload.channelCount)
    (fits : device.Fits payload) :
    (transition payload target channel device).1.Fits payload ∧
      (transition payload target channel device).1.power =
        Function.update device.power channel (target.settled (device.power channel)) := by
  by_cases there : target.settled (device.power channel) = device.power channel
  · rw [transition_of_settled there, there, Function.update_eq_self]
    exact ⟨fits, rfl⟩
  rw [transition, Work.reading_apply]
  cases current : device.power channel <;> rw [current] at there <;> cases target
  all_goals first
    | exact absurd rfl there
    | exact (sets_powerUp declared).power fits
    | exact (sets_powerDown declared).power fits
    | exact (sets_mute declared).power fits

/-- Channels are brought to where they are asked to, one after the other. -/
theorem power_transitions (target : Power) {channels : List UInt8}
    (declared : ∀ channel ∈ channels, channel < payload.channelCount)
    (fits : device.Fits payload) :
    (Work.each channels (transition payload target) device).1.power = fun channel =>
      if channel ∈ channels then target.settled (device.power channel)
      else device.power channel := by
  rw [Work.each, Work.fst_inOrder_map]
  induction channels generalizing device with
  | nil => simp
  | cons first others ih =>
      obtain ⟨kept, moved⟩ := power_transition target (declared first List.mem_cons_self) fits
      have left : ((transition payload target first).leaves device).power =
          Function.update device.power first (target.settled (device.power first)) :=
        (power_leaves _ _).trans moved
      have fitsLeft : ((transition payload target first).leaves device).Fits payload :=
        kept.frame (frame_latchFault _ _)
      have rest :=
        ih (fun channel later => declared channel (List.mem_cons_of_mem _ later)) fitsLeft
      rw [List.foldl_cons, rest, left]
      funext channel
      -- A channel that is listed again is where it is asked to by then.
      by_cases now : channel = first
      · rw [now, Function.update_self, Power.settled_settled, ite_self, if_pos List.mem_cons_self]
      · rw [Function.update_of_ne now]
        simp only [List.mem_cons, now, false_or]

/-- Channels that are all where they are asked to are left alone. -/
theorem transitions_of_settled {channels : List UInt8}
    (there : ∀ channel ∈ channels, target.settled (device.power channel) = device.power channel) :
    Work.each channels (transition payload target) device = (device, none) := by
  have part (channel : UInt8) (member : channel ∈ channels) :
      (transition payload target channel).part (device, none) = (device, none) := by
    simp only [Work.part, transition_of_settled (there channel member)]
    rfl
  rw [Work.each, Work.inOrder, List.foldl_map]
  clear there
  induction channels with
  | nil => rfl
  | cons first others ih =>
      rw [List.foldl_cons, part first List.mem_cons_self]
      exact ih fun channel later => part channel (List.mem_cons_of_mem _ later)

/-- An escalation that changes the lock-outs locks all channels out. -/
theorem locked_escalate (sound : device.Sound payload)
    (changed : (device.escalate payload).lockedOut ≠ device.lockedOut)
    (declared : channel < payload.channelCount) :
    (device.escalate payload).locked channel = true := by
  have outcome := escalation payload device
  generalize device.escalate payload = after at outcome changed ⊢
  cases outcome with
  | spared => exact absurd rfl changed
  | restarted => exact absurd (works_restarted payload device).lockedOut changed
  | lockedOut => exact (locked_lockOut sound declared).1

end Device

namespace Request

open Device (Confined Frame Moves)

variable {payload : Payload} {mask channel : UInt8} {target : Power} {device after : Device}

/-! ## The channels of a request -/

/-- A request is about a channel of its mask that the active profile has and that is not locked. -/
structure Chosen (payload : Payload) (mask : UInt8) (target : Power) (device : Device)
    (channel : UInt8) : Prop where
  asked : Channel.within mask channel = true
  allowed : Channel.within (device.selection payload).channelMask channel = true
  unlocked : target ≠ .shutdown → device.locked channel = false

theorem declared_of_channelMask
    (allowed : Channel.within (device.selection payload).channelMask channel = true) :
    channel < payload.channelCount := by
  have small := Channel.small_of_within allowed
  have all : Channel.within (Channel.all payload.channelCount) channel = true := by
    unfold Selection.channelMask at allowed
    split at allowed
    · unfold Tuning.Profile.channelMask at allowed
      simp only at allowed
      split at allowed
      · exact allowed
      · rw [Channel.within_and, Bool.and_eq_true] at allowed
        exact allowed.2
    · exact allowed
  rw [Channel.within_all _ small] at all
  exact of_decide_eq_true all

theorem mem_wanted :
    channel ∈ wanted payload mask target device ↔ Chosen payload mask target device channel := by
  have within_selected : Channel.within (selected payload mask device) channel = true ↔
      Channel.within mask channel = true ∧
        Channel.within (device.selection payload).channelMask channel = true := by
    rw [selected, Channel.within_and, Bool.and_eq_true]
  rw [wanted, Channel.mem_among]
  constructor
  · rintro ⟨declared, chosen⟩
    have unlocked : target ≠ .shutdown → device.locked channel = false :=
      (unlocked_of_wanted (Channel.mem_among.mpr ⟨declared, chosen⟩)).2
    have held : Channel.within (selected payload mask device) channel = true := by
      split at chosen
      · exact chosen
      · rw [Channel.within_and, Bool.and_eq_true] at chosen
        exact chosen.1
    obtain ⟨asked, allowed⟩ := within_selected.mp held
    exact ⟨asked, allowed, unlocked⟩
  · rintro ⟨asked, allowed, unlocked⟩
    have held := within_selected.mpr ⟨asked, allowed⟩
    refine ⟨declared_of_channelMask allowed, ?_⟩
    split
    · exact held
    · rename_i powered
      have free : Channel.within device.lockedOut channel = false := unlocked powered
      rw [Channel.within_and, held, Channel.within_not _ (Channel.small_of_within allowed), free]
      rfl

/-- A request that is refused is about no channel. -/
theorem not_chosen_of_refused (powered : target ≠ .shutdown)
    (covered : selected payload mask device = selected payload mask device &&& device.lockedOut) :
    ¬Chosen payload mask target device channel := by
  rintro ⟨asked, allowed, unlocked⟩
  have held := congrArg (Channel.within · channel) covered
  simp only [selected, Channel.within_and, asked, allowed, Bool.and_self, Bool.true_and] at held
  exact Bool.false_ne_true ((unlocked powered).symm.trans held.symm)

/-! ## What a request leaves behind -/

/-- A request does nothing if all its channels are where they are asked to. -/
theorem powered_of_settled (there : ∀ channel, Chosen payload mask target device channel →
      target.settled (device.power channel) = device.power channel) :
    powered payload mask target device = device := by
  have idle : Work.each (wanted payload mask target device) (Device.transition payload target)
      device = (device, none) :=
    Device.transitions_of_settled fun channel member => there channel (mem_wanted.mp member)
  simp only [powered, idle]
  rfl

/-- Whether it is refused or not, a request comes to what it does to its channels. -/
theorem leaves_power_of_ready (ready : device.ready? = some payload) (mask : UInt8)
    (target : Power) :
    (power mask target).leaves device = powered payload mask target device := by
  rw [leaves_power_eq (loadedPayload_of_ready ready)]
  split
  · rename_i refused
    obtain ⟨_, powered, covered⟩ := refused
    rw [powered_of_settled]
    exact fun channel chosen => absurd chosen (not_chosen_of_refused powered covered)
  · rfl

/-- What the transitions of a request come to, before a restart or a lock-out. -/
structure Transited (payload : Payload) (mask : UInt8) (target : Power) (before after : Device)
    (fault : Option TransportFault) : Prop where
  sound : after.Sound payload
  frame : Frame before after
  confined : Confined (Chosen payload mask target before) before after fault
  chosen : ∀ channel, Chosen payload mask target before channel →
    after.power channel = target.settled (before.power channel)
  others : ∀ channel, ¬Chosen payload mask target before channel →
    after.power channel = before.power channel

/-- The transitions are followed by an escalation if they met a fault. -/
theorem powered_spec (kept : device.Kept) (ready : device.ready? = some payload) (mask : UInt8)
    (target : Power) :
    ∃ moved fault, Transited payload mask target device moved fault ∧
      powered payload mask target device =
        if fault.isSome then moved.escalate payload else moved := by
  have declared : ∀ channel ∈ wanted payload mask target device, channel < payload.channelCount :=
    fun channel member => (unlocked_of_wanted member).1
  obtain ⟨moves, frame⟩ : Moves device (Work.each (wanted payload mask target device)
      (Device.transition payload target) device).1 ∧ _ :=
    moves_transitions ready declared fun channel member => (unlocked_of_wanted member).2
  have power := congrFun (Device.power_transitions target declared (kept.of_ready ready).1.toFits)
  have on : Work.On (Chosen payload mask target device)
      (Work.each (wanted payload mask target device) (Device.transition payload target)) := by
    apply Work.on_each
    intro channel member
    exact Work.on_transition (mem_wanted.mp member) target
  refine ⟨_, _, ?_, rfl⟩
  constructor
  · exact ((moves.keeps kept).1.of_ready (frame.ready?.trans ready)).1
  · exact frame
  · exact on.confined device
  · intro channel chosen
    exact (power channel).trans (if_pos (mem_wanted.mpr chosen))
  · intro channel other
    exact (power channel).trans (if_neg (mt mem_wanted.mp other))

namespace Transited

variable {moved : Device} {fault : Option TransportFault}

/-- Unless channels are locked out, a restart brings all of them back to where they were. -/
theorem power (transited : Transited payload mask target device moved fault)
    (free : after.lockedOut = device.lockedOut)
    (ends : after = if fault.isSome then moved.escalate payload else moved) :
    after.power = moved.power := by
  rw [ends] at free ⊢
  split at free
  · rename_i met
    rw [if_pos met]
    have restored := (Device.escalate_spec transited.sound).2
    rwa [if_pos (free.trans transited.frame.lockedOut.symm)] at restored
  · rename_i clean
    rw [if_neg clean]

theorem activeProfile (transited : Transited payload mask target device moved fault)
    (ends : after = if fault.isSome then moved.escalate payload else moved) :
    after.activeProfile = device.activeProfile := by
  rw [ends]
  split
  · rw [Device.activeProfile_escalate]
    exact transited.confined.beside.activeProfile
  · exact transited.confined.beside.activeProfile

/-- The calls of a request, none of which is refused unless the transitions met a fault. -/
theorem calls (transited : Transited payload mask target device moved fault)
    (ends : after = if fault.isSome then moved.escalate payload else moved) :
    ∃ calls, after.bus.transport.attempts = calls ++ device.bus.transport.attempts ∧
      ((∀ attempt ∈ calls, attempt.accepted = true) →
        Confined (Chosen payload mask target device) device after none ∧
          ∀ attempt ∈ calls, attempt.Addresses (Chosen payload mask target device)) := by
  obtain ⟨early, grown, addressed⟩ := transited.confined.calls.calls
  by_cases clean : fault = none
  · have same : after = moved := by
      rw [ends, clean]
      rfl
    rw [same]
    exact ⟨early, grown, fun _ => ⟨clean ▸ transited.confined, addressed⟩⟩
  · obtain ⟨late, grownAgain⟩ := Device.calls_escalate payload moved
    have whole : after.bus.transport.attempts =
        (late ++ early) ++ device.bus.transport.attempts := by
      rw [ends, if_pos (Option.isSome_iff_ne_none.mpr clean), grownAgain, grown, List.append_assoc]
    refine ⟨late ++ early, whole, fun accepted => ?_⟩
    have none_refused : moved.bus.refusals = device.bus.refusals :=
      Bus.refusals_of_accepted grown fun attempt member =>
        accepted attempt (List.mem_append_right _ member)
    exact absurd none_refused (transited.confined.blamed clean).ne'

/-- After a request every channel that it would still be about is where it is asked to. -/
theorem settled (transited : Transited payload mask target device moved fault)
    (ends : after = if fault.isSome then moved.escalate payload else moved)
    (chosen : Chosen payload mask target after channel) :
    target.settled (after.power channel) = after.power channel := by
  by_cases free : after.lockedOut = device.lockedOut
  · have former : Chosen payload mask target device channel := by
      refine ⟨chosen.asked, ?_, fun powered => ?_⟩
      · rw [Device.selection, ← transited.activeProfile ends]
        exact chosen.allowed
      · rw [Device.locked, ← free]
        exact chosen.unlocked powered
    rw [transited.power free ends, transited.chosen channel former, Power.settled_settled]
  · have escalated : after = moved.escalate payload := by
      rw [ends]
      apply if_pos
      by_contra clean
      rw [ends, if_neg clean] at free
      exact free transited.frame.lockedOut
    have changed : (moved.escalate payload).lockedOut ≠ moved.lockedOut := by
      intro same
      exact free (escalated ▸ same.trans transited.frame.lockedOut)
    have locked : after.locked channel = true :=
      escalated ▸ Device.locked_escalate transited.sound changed
        (declared_of_channelMask chosen.allowed)
    have down : target = .shutdown := by
      by_contra powered
      exact Bool.false_ne_true ((chosen.unlocked powered).symm.trans locked)
    rw [down]
    have off := (Device.escalate_spec transited.sound).2
    rw [if_neg changed] at off
    rw [escalated, off channel]
    rfl

end Transited

end Request

namespace Device

open Request (Chosen)

/--
In every state in which a payload is ready for use, a request for power concerns the channels of its
mask that the active profile has and, unless they are to be shut down, that are not locked. If it
locks no channel out, each of them comes to the power state that it is asked to, but that a channel
which is off is not muted, and every other channel keeps its power state. If none of its calls is
refused, all of them are for these channels, and the other channels and their deferred work are left
as they are. To make the same request again makes no call and changes nothing.
-/
theorem power_requests_settle (config : Config) (firmware : FirmwareSource)
    (operations : List Operation) (payload : Payload)
    (ready : (reached config firmware operations).ready? = some payload) (mask : UInt8)
    (target : Power) :
    ((reached config firmware (operations ++ [.power mask target])).lockedOut =
        (reached config firmware operations).lockedOut →
      ∀ channel,
        (Chosen payload mask target (reached config firmware operations) channel →
          (reached config firmware (operations ++ [.power mask target])).power channel =
            target.settled ((reached config firmware operations).power channel)) ∧
        (¬Chosen payload mask target (reached config firmware operations) channel →
          (reached config firmware (operations ++ [.power mask target])).power channel =
            (reached config firmware operations).power channel)) ∧
    (∃ calls,
      (reached config firmware (operations ++ [.power mask target])).bus.transport.attempts =
        calls ++ (reached config firmware operations).bus.transport.attempts ∧
      ((∀ attempt ∈ calls, attempt.accepted = true) →
        (∀ attempt ∈ calls, attempt.Addresses
          (Chosen payload mask target (reached config firmware operations))) ∧
        ∀ channel, ¬Chosen payload mask target (reached config firmware operations) channel →
          (reached config firmware (operations ++ [.power mask target])).channel? channel =
            (reached config firmware operations).channel? channel ∧
          (reached config firmware (operations ++ [.power mask target])).deferred.item? channel =
            (reached config firmware operations).deferred.item? channel)) ∧
    reached config firmware (operations ++ [.power mask target, .power mask target]) =
      reached config firmware (operations ++ [.power mask target]) := by
  have kept := kept_reached config firmware operations
  have once : reached config firmware (operations ++ [.power mask target]) =
      Request.powered payload mask target (reached config firmware operations) :=
    (after_append operations [.power mask target] _).trans
      (Request.leaves_power_of_ready ready mask target)
  have twice : reached config firmware (operations ++ [.power mask target, .power mask target]) =
      (Request.power mask target).leaves
        (reached config firmware (operations ++ [.power mask target])) := by
    rw [reached, after_append, reached, after_append]
    rfl
  obtain ⟨moved, fault, transited, ends⟩ := Request.powered_spec kept ready mask target
  rw [← once] at ends
  have stillReady :
      (reached config firmware (operations ++ [.power mask target])).ready? = some payload := by
    have movedReady := transited.frame.ready?.trans ready
    rw [ends]
    split
    · exact (escalate_spec transited.sound).1.ready? movedReady
    · exact movedReady
  refine ⟨fun free channel => ?_, ?_, ?_⟩
  · rw [transited.power free ends]
    exact ⟨transited.chosen channel, transited.others channel⟩
  · obtain ⟨calls, grown, confines⟩ := transited.calls ends
    refine ⟨calls, grown, fun accepted => ?_⟩
    obtain ⟨confined, addressed⟩ := confines accepted
    exact ⟨addressed, fun channel other => ⟨confined.states channel other,
      confined.items channel other⟩⟩
  · rw [twice, Request.leaves_power_of_ready stillReady, Request.powered_of_settled]
    exact fun channel chosen => transited.settled ends chosen

/--
A channel on which every call is refused is powered up. The device is restarted on the way, which
brings the channel back to where the request had brought it.
-/
theorem failing_channel_powered :
    ∃ payload, (reached .standard .small onlyChannelFails).ready? = some payload ∧
      (reached .standard .small (onlyChannelFails ++ [.power 1 .active])).restarts = 1 ∧
      (reached .standard .small (onlyChannelFails ++ [.power 1 .active])).power 0 = .active ∧
      reached .standard .small (onlyChannelFails ++ [.power 1 .active, .power 1 .active]) =
        reached .standard .small (onlyChannelFails ++ [.power 1 .active]) := by
  have offered : (reached .standard .small onlyChannelFails).ready?.map (fun payload =>
      Channel.within
        ((reached .standard .small onlyChannelFails).selection payload).channelMask 0) =
      some true := by decide +kernel
  obtain ⟨payload, ready, allowed⟩ := Option.map_eq_some_iff.mp offered
  have chosen : Chosen payload 1 .active (reached .standard .small onlyChannelFails) 0 :=
    ⟨by decide, allowed, fun _ => by decide +kernel⟩
  obtain ⟨settles, _, repeats⟩ :=
    power_requests_settle .standard .small onlyChannelFails payload ready 1 .active
  refine ⟨payload, ready, by decide +kernel, ?_, repeats⟩
  exact (settles (by decide +kernel) 0).1 chosen

end Device

end AmpControl
