import AmpControl.Proofs.Device.Locality
import Mathlib.Algebra.BigOperators.Group.List.Basic
import Mathlib.Algebra.Ring.Int.Defs
import Mathlib.Data.List.Perm.Basic

/-!
# Rows of work in different orders

A row of work on different channels, each of them concerned by its own part only, does to each of
them what this part does alone, and takes the times of the parts together. In whatever order they
are done, all comes to the same, but for when deferred work is due and how the history is ordered.
-/

namespace AmpControl

namespace Work

open Device (Alike)

variable {channel : UInt8} {device : Device} {row : UInt8 → Work} {channels order : List UInt8}

theorem fst_each_cons (row : UInt8 → Work) (begin : UInt8) (others : List UInt8)
    (device : Device) :
    (each (begin :: others) row device).1 = (each others row ((row begin).leaves device)).1 :=
  fst_inOrder_cons _ _ _

theorem snd_each_cons (row : UInt8 → Work) (begin : UInt8) (others : List UInt8)
    (device : Device) :
    (each (begin :: others) row device).2 = TransportFault.join (row begin device).2
      (each others row ((row begin).leaves device)).2 := snd_inOrder_cons _ _ _

theorem fst_each_append (early late : List UInt8) (row : UInt8 → Work) (device : Device) :
    (each (early ++ late) row device).1 = (each late row (each early row device).1).1 := by
  rw [each, List.map_append]
  exact fst_inOrder_append _ _ device

theorem snd_each_append (early late : List UInt8) (row : UInt8 → Work) (device : Device) :
    (each (early ++ late) row device).2 = TransportFault.join (each early row device).2
      (each late row (each early row device).1).2 := by
  rw [each, List.map_append, inOrder, List.foldl_append]
  exact snd_foldl_part _ _ _

/-- After a row of work on different channels, each of them is as if it had been alone. -/
theorem alike_each (within : ∀ channel, Local channel (row channel)) (distinct : channels.Nodup)
    (channel : UInt8) (device : Device) :
    Alike channel (if channel ∈ channels then (row channel device).1 else device)
      (each channels row device).1 := by
  induction channels generalizing device with
  | nil => exact .refl channel device
  | cons begin others ih =>
      obtain ⟨absent, apart⟩ := List.nodup_cons.mp distinct
      have rest := ih apart ((row begin).leaves device)
      rw [fst_each_cons]
      -- To every channel but the first, the rest starts from a device that is like the one before.
      by_cases here : channel = begin
      · subst here
        rw [if_neg absent] at rest
        rw [if_pos List.mem_cons_self]
        exact (Alike.latched _ _).trans rest
      · have begun := (within begin).leaves_apart here device
        simp only [List.mem_cons, here, false_or]
        split
        · rename_i later
          rw [if_pos later] at rest
          exact ((within channel).alike begun).trans rest
        · rename_i absentLater
          rw [if_neg absentLater] at rest
          exact begun.trans rest

/-- A row of work on different channels meets no fault if none of its parts does alone. -/
theorem fault_each (within : ∀ channel, Local channel (row channel)) (distinct : channels.Nodup)
    (device : Device) :
    (each channels row device).2 = none ↔ ∀ channel ∈ channels, (row channel device).2 = none := by
  induction channels generalizing device with
  | nil => exact ⟨fun _ _ member => absurd member List.not_mem_nil, fun _ => rfl⟩
  | cons begin others ih =>
      obtain ⟨absent, apart⟩ := List.nodup_cons.mp distinct
      have same (channel : UInt8) (later : channel ∈ others) :
          (row channel ((row begin).leaves device)).2 = (row channel device).2 :=
        ((within channel).fault ((within begin).leaves_apart
          (fun here => absent (here ▸ later)) device)).symm
      rw [snd_each_cons, Bus.join_eq_none, ih apart, List.forall_mem_cons]
      exact and_congr_right fun _ => forall₂_congr fun channel later => by rw [same channel later]

/-- A row of work that meets no fault latches no error. -/
theorem errors_each (within : ∀ channel, Local channel (row channel))
    (clean : (each channels row device).2 = none) :
    (each channels row device).1.errors = device.errors := by
  induction channels generalizing device with
  | nil => rfl
  | cons begin others ih =>
      rw [snd_each_cons, Bus.join_eq_none] at clean
      have quiet : ((row begin).leaves device).errors = device.errors := by
        rw [leaves, clean.1]
        exact (within begin).quiet clean.1
      rw [fst_each_cons, ih clean.2, quiet]

/-- A row of work on different channels takes the times together that its parts would take alone. -/
theorem clock_each (within : ∀ channel, Local channel (row channel)) (distinct : channels.Nodup)
    (device : Device) :
    ((each channels row device).1.clock : Int) = device.clock +
      (channels.map fun channel => ((row channel device).1.clock - device.clock : Int)).sum := by
  induction channels generalizing device with
  | nil => exact (Int.add_zero _).symm
  | cons begin others ih =>
      obtain ⟨absent, apart⟩ := List.nodup_cons.mp distinct
      have same : (others.map fun channel => ((row channel ((row begin).leaves device)).1.clock -
            ((row begin).leaves device).clock : Int)) =
          others.map fun channel => ((row channel device).1.clock - device.clock : Int) := by
        refine List.map_congr_left fun channel later => ?_
        have timed := (within channel).timed ((within begin).leaves_apart
          (fun here => absent (here ▸ later)) device)
        omega
      rw [fst_each_cons, ih apart, same, clock_leaves, List.map_cons, List.sum_cons]
      omega

end Work

namespace Device

/--
Two devices are the same, with the same calls, registers and remembered banks on every channel, but
for when the work that waits is due and in which order the history has events.
-/
structure SameOutcome (first second : Device) : Prop where
  rest : { first with
    bus := second.bus, deferred := second.deferred, history := second.history } = second
  waiting : ∀ channel, first.waiting channel = second.waiting channel
  lanes : ∀ channel, Bus.lane channel first.bus = Bus.lane channel second.bus
  clock : first.clock = second.clock

variable {first second device : Device} {row : UInt8 → Work} {channels order : List UInt8}

theorem channels_ext (few : first.channels.length ≤ UInt8.size)
    (places : first.channels.length = second.channels.length)
    (states : ∀ channel, first.channel? channel = second.channel? channel) :
    first.channels = second.channels := by
  apply List.ext_getElem?
  intro place
  by_cases inside : place < UInt8.size
  · have whole : (UInt8.ofNat place).toNat = place := UInt8.toNat_ofNat_of_lt' inside
    have same := states (UInt8.ofNat place)
    rwa [channel?, channel?, whole] at same
  · rw [List.getElem?_eq_none (by omega), List.getElem?_eq_none (by omega)]

/-- Two devices that are alike for every channel come to the same. -/
theorem sameOutcome_of_alike (few : first.channels.length ≤ UInt8.size)
    (alike : ∀ channel, Alike channel first second) (errors : first.errors = second.errors)
    (clock : first.clock = second.clock) : SameOutcome first second where
  rest := by
    have channels := channels_ext few (alike 0).places fun channel => (alike channel).state
    rw [← (alike 0).rest, changedTo, ← channels, ← errors]
  waiting channel := (alike channel).waiting
  lanes channel := (alike channel).lane
  clock := clock

/-- Work on different channels may be done in any order. -/
theorem sameOutcome_each (within : ∀ channel, Work.Local channel (row channel))
    (distinct : channels.Nodup) (reordered : channels.Perm order)
    (few : (Work.each channels row device).1.channels.length ≤ UInt8.size)
    (clean : (Work.each channels row device).2 = none) :
    (Work.each order row device).2 = none ∧
      SameOutcome (Work.each channels row device).1 (Work.each order row device).1 := by
  have apart : order.Nodup := reordered.nodup_iff.mp distinct
  have alone := (Work.fault_each within distinct device).mp clean
  have cleanOrder : (Work.each order row device).2 = none :=
    (Work.fault_each within apart device).mpr fun channel member =>
      alone channel (reordered.mem_iff.mpr member)
  have alike (channel : UInt8) : Alike channel (Work.each channels row device).1
      (Work.each order row device).1 := by
    have early := Work.alike_each within distinct channel device
    have late := Work.alike_each within apart channel device
    simp only [reordered.mem_iff] at early
    exact early.symm.trans late
  refine ⟨cleanOrder, sameOutcome_of_alike few alike ?_ ?_⟩
  · rw [Work.errors_each within clean, Work.errors_each within cleanOrder]
  · have early := Work.clock_each within distinct device
    have late := Work.clock_each within apart device
    have sums := (reordered.map fun channel =>
      ((row channel device).1.clock - device.clock : Int)).sum_eq
    omega

end Device

end AmpControl
