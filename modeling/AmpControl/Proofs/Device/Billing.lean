import AmpControl.Proofs.Bus.Charges
import AmpControl.Proofs.Device.Refusal
import AmpControl.Proofs.Device.Visits

/-!
# Work and its refused calls

However work is divided into parts, the fault that comes of it is the one of its refused calls, and
the transport errors that are latched on the way are those of the channels of these calls. Locking
out channels that are all failing latches no further transport error.
-/

namespace AmpControl

open Bus (Attempt Charges Makes refusedCalls)
open Tuning (Payload)

namespace Device

/--
The calls between two devices, the latest first. The fault is the one of the refused ones, and their
channels are failing from now on besides those that were failing before.
-/
structure Billed (calls : List Attempt) (before after : Device) (fault : Option TransportFault) :
    Prop where
  made : after.bus.transport.attempts = calls ++ before.bus.transport.attempts
  fault : fault = Bus.faultOfCalls (refusedCalls calls)
  small : ∀ call ∈ refusedCalls calls, ∃ channel, channel < 8 ∧ call.channel? = some channel
  failing : ∀ channel, after.failing channel = true ↔ before.failing channel = true ∨
    ∃ call ∈ refusedCalls calls, call.channel? = some channel

variable {calls early late : List Attempt} {before middle after device : Device}
  {met first second : Option TransportFault} {channel : UInt8} {payload : Payload}

theorem failing_latchFault_iff {fault : TransportFault} (small : fault.channel < 8)
    (device : Device) :
    (device.latchFault (some fault)).failing channel = true ↔
      device.failing channel = true ∨ channel = fault.channel := by
  rw [latchFault_of_small small, failing, latch, ErrorCode.channels_set_self _ _ small,
    Channel.within_or, Channel.within_bit small, Bool.or_eq_true, decide_eq_true_iff]
  rfl

namespace Billed

theorem refl (device : Device) : Billed [] device device none where
  made := rfl
  fault := rfl
  small _ member := absurd member List.not_mem_nil
  failing channel := by
    constructor
    · exact .inl
    · rintro (held | ⟨_, member, _⟩)
      · exact held
      · exact absurd member List.not_mem_nil

theorem trans (begun : Billed early before middle first)
    (ended : Billed late middle after second) :
    Billed (late ++ early) before after (TransportFault.join first second) where
  made := by rw [ended.made, begun.made, List.append_assoc]
  fault := by rw [begun.fault, ended.fault, Bus.refusedCalls_append, Bus.faultOfCalls_append]
  small call member := by
    rw [Bus.refusedCalls_append, List.mem_append] at member
    rcases member with isEarly | isLate
    · exact begun.small call isEarly
    · exact ended.small call isLate
  failing channel := by
    rw [ended.failing, begun.failing, Bus.refusedCalls_append, or_assoc]
    simp only [List.mem_append, or_and_right, exists_or]

/-- Nothing is added by latching the fault again, since its channel is failing already. -/
theorem latched (billed : Billed calls before after met) :
    Billed calls before (after.latchFault met) met := by
  obtain ⟨made, fault, small, failing⟩ := billed
  cases refused : refusedCalls calls with
  | nil =>
      rw [refused] at fault
      subst fault
      exact ⟨made, by rw [refused, Bus.faultOfCalls], small, failing⟩
  | cons call others =>
      have member : call ∈ refusedCalls calls := by
        rw [refused]
        exact List.mem_cons_self
      obtain ⟨channel, below, addressed⟩ := small call member
      have whole := fault
      rw [refused, Bus.faultOfCalls, addressed] at whole
      refine ⟨by rw [bus_latchFault, made], fault, small, fun other => ?_⟩
      rw [whole, failing_latchFault_iff below]
      constructor
      · rintro (held | rfl)
        · exact (failing other).mp held
        · exact .inr ⟨call, member, addressed⟩
      · exact fun held => .inl ((failing other).mpr held)

/-- The channels of the refused calls tell the fault and the transport errors that are added. -/
theorem channels (billed : Billed calls before after met) :
    ∃ channels, (refusedCalls calls).map Bus.Call.channel? = channels.map some ∧
      (met = channels.head?.map fun first =>
        ⟨first, UInt32.ofNat (min channels.length (UInt32.size - 1))⟩) ∧
      after.errors.channels .transport =
        before.errors.channels .transport ||| Channel.mask channels := by
  let channels := (refusedCalls calls).map fun call =>
    call.channel?.getD TransportFault.sharedLine
  have addressed : (refusedCalls calls).map Bus.Call.channel? = channels.map some := by
    rw [List.map_map]
    refine List.map_congr_left fun call member => ?_
    obtain ⟨channel, _, here⟩ := billed.small call member
    simp [here]
  have listed (channel : UInt8) :
      channel ∈ channels ↔ ∃ call ∈ refusedCalls calls, call.channel? = some channel := by
    rw [← List.mem_map, addressed]
    exact (List.mem_map_of_injective (Option.some_injective _)).symm
  have small (channel : UInt8) (member : channel ∈ channels) : channel < 8 := by
    obtain ⟨call, refused, here⟩ := (listed channel).mp member
    obtain ⟨other, below, also⟩ := billed.small call refused
    exact Option.some.inj (also.symm.trans here) ▸ below
  refine ⟨channels, addressed, ?_, Channel.mask_ext fun channel _ => ?_⟩
  · rw [billed.fault]
    exact Bus.faultOfCalls_of_channels addressed
  · rw [Channel.within_or, Channel.within_mask small, Bool.eq_iff_iff, Bool.or_eq_true,
      decide_eq_true_iff, listed]
    exact billed.failing channel

end Billed

/-- What calls one channel only is billed for once its fault is latched. -/
theorem billed_of_serves {well : Prop} (small : channel < 8)
    (errors : after.errors = before.errors) (charges : Charges before.bus after.bus met)
    (makes : Makes (Attempt.Serves channel well) before.bus after.bus) :
    ∃ calls, Billed calls before (after.latchFault met) met := by
  obtain ⟨calls, made, rfl⟩ := charges
  obtain ⟨served, alsoMade, serves⟩ := makes.calls
  obtain rfl : served = calls := List.append_cancel_right (alsoMade.symm.trans made)
  have addressed (call : Bus.Call) (member : call ∈ refusedCalls served) :
      call.channel? = some channel := by
    obtain ⟨attempt, listed, _, rfl⟩ := Bus.mem_refusedCalls.mp member
    exact (serves attempt listed).1
  have kept (other : UInt8) : after.failing other = before.failing other := by
    rw [failing, errors, failing]
  refine ⟨served, by rw [bus_latchFault, made], rfl,
    fun call member => ⟨channel, small, addressed call member⟩, fun other => ?_⟩
  cases refused : refusedCalls served with
  | nil =>
      have same : after.latchFault (Bus.faultOfCalls []) = after := rfl
      rw [same, kept]
      simp
  | cons call others =>
      rw [refused] at addressed
      let whole : TransportFault := ⟨channel, UInt32.ofNatClamp (others.length + 1)⟩
      have below : whole.channel < 8 := small
      have named : Bus.faultOfCalls (call :: others) = some whole := by
        rw [Bus.faultOfCalls, addressed call List.mem_cons_self]
        rfl
      rw [named, failing_latchFault_iff below, kept]
      refine or_congr_right ⟨?_, ?_⟩
      · rintro rfl
        exact ⟨call, List.mem_cons_self, addressed call List.mem_cons_self⟩
      · rintro ⟨another, member, here⟩
        exact Option.some.inj (here.symm.trans (addressed another member))

end Device

namespace Work

open Device (Billed)

variable {touched : UInt8 → Prop} {work : Work} {parts : List Work}

/-- Larger work is billed for if each of its parts is. -/
theorem billed_inOrder
    (billed : ∀ part ∈ parts, ∀ device, ∃ calls,
      Billed calls device (part.leaves device) (part device).2) (device : Device) :
    ∃ calls, Billed calls device (inOrder parts device).1 (inOrder parts device).2 := by
  apply keeps_parts fun held met => ∃ calls, Billed calls device held met
  · rintro part member held met ⟨early, begun⟩
    obtain ⟨late, ended⟩ := billed part member held
    exact ⟨late ++ early, begun.trans ended⟩
  · exact ⟨[], .refl device⟩

/-- Work is billed for once its own fault is latched as well. -/
theorem On.billed (on : On touched work) (small : ∀ channel, touched channel → channel < 8)
    (device : Device) :
    ∃ calls, Billed calls device (work.leaves device) (work device).2 := by
  induction on generalizing device with
  | idle => exact ⟨[], .refl device⟩
  | @run channel here role script =>
      exact Device.billed_of_serves (small channel here) rfl
        (Bus.charges_execute channel script device.bus)
        (Bus.makes_execute channel script device.bus)
  | @replay channel here payload timing =>
      have errand := Bus.errand_replay payload.controls device.values channel timing device.bus
      rw [leaves, Device.replay_eq]
      exact Device.billed_of_serves (small channel here) rfl
        (Bus.charges_writes (.refl device.bus)) errand.makes
  | @updating channel change work here updates on ih =>
      obtain ⟨calls, made, fault, addressed, failing⟩ := ih (change device)
      have same : (change device).bus = device.bus ∧
          (change device).errors = device.errors := by
        cases updates <;> exact ⟨rfl, rfl⟩
      refine ⟨calls, by rw [← same.1]; exact made, fault, addressed, fun channel => ?_⟩
      rw [← show (change device).failing channel = device.failing channel by
        rw [Device.failing, same.2, Device.failing]]
      exact failing channel
  | reading on ih => exact ih device device
  | inOrder on ih =>
      obtain ⟨calls, billed⟩ := billed_inOrder ih device
      exact ⟨calls, billed.latched⟩

end Work

namespace Device

variable {payload : Payload} {device : Device} {channel : UInt8}

/-! ## Locking out -/

theorem failing_of_latchFault {other : UInt8} {fault : Option TransportFault}
    (held : device.failing other = true) : (device.latchFault fault).failing other = true := by
  unfold latchFault
  split
  · split
    · exact held
    · exact failing_latch held
  · exact held

/-- Shutting down a channel that is failing for good latches no further transport error. -/
theorem failing_lockDown (small : channel < 8) (failing : device.failing channel = true)
    (other : UInt8) :
    (device.lockDown payload channel).failing other = device.failing other := by
  have on : Work.On (· = channel) (powerDown payload channel) := Work.on_powerDown rfl
  obtain ⟨calls, billed⟩ := on.billed (fun _ here => here ▸ small) device
  have latched : (device.lockDown payload channel).failing other =
      (powerDown payload channel device).1.failing other := by
    rw [Device.failing, Device.failing]
    exact congrArg (Channel.within · other)
      (ErrorCode.channels_set_of_ne _ (by decide) channel)
  rw [latched, Bool.eq_iff_iff]
  constructor
  · intro held
    rcases (billed.failing other).mp (failing_of_latchFault held) with before | refused
    · exact before
    · obtain ⟨call, member, addressed⟩ := refused
      obtain ⟨attempt, made, _, rfl⟩ := Bus.mem_refusedCalls.mp member
      obtain ⟨confinedCalls, alsoMade, addresses⟩ := (on.confined device).calls.calls
      have grown := billed.made
      rw [Work.leaves, bus_latchFault] at grown
      obtain rfl : confinedCalls = calls := List.append_cancel_right (alsoMade.symm.trans grown)
      obtain ⟨_, rfl, here⟩ := addresses attempt made
      obtain rfl := Option.some.inj (here.symm.trans addressed)
      exact failing
  · exact (plain_powerDown device).failing other

theorem failing_lockOut {channels : List UInt8} (small : ∀ channel ∈ channels, channel < 8)
    (failing : ∀ channel ∈ channels, device.failing channel = true) (other : UInt8) :
    (device.lockOut payload channels).failing other = device.failing other := by
  rw [lockOut_eq_foldl]
  induction channels generalizing device with
  | nil => rfl
  | cons first others ih =>
      have here (other : UInt8) :
          (device.lockDown payload first).failing other = device.failing other :=
        failing_lockDown (small first List.mem_cons_self) (failing first List.mem_cons_self) other
      rw [List.foldl_cons, ih (fun channel later => small channel (List.mem_cons_of_mem _ later)),
        here]
      intro channel later
      rw [here]
      exact failing channel (List.mem_cons_of_mem _ later)

end Device

end AmpControl
