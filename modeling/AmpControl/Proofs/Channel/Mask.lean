import AmpControl.Channel
import Mathlib.Data.List.Nodup
import Mathlib.Data.List.TakeWhile
import Mathlib.Data.Nat.Bitwise

/-!
# Laws of channel masks

A mask is the set of the channels that it holds. Unions, intersections and complements of masks are
those of the sets, two masks with the same channels are equal, and listing the channels of a mask
and collecting a list into a mask are each other's inverse below the eighth channel.
-/

namespace AmpControl.Channel

theorem toNat_bit {channel : UInt8} (small : channel < 8) :
    (bit channel).toNat = 2 ^ channel.toNat := by
  have bound : channel.toNat < 8 := UInt8.lt_iff_toNat_lt.mp small
  have place : channel.toNat % UInt8.toNat 8 = channel.toNat := Nat.mod_eq_of_lt bound
  have power : 1 <<< channel.toNat = 2 ^ channel.toNat := Nat.one_shiftLeft _
  rw [bit, if_pos small, UInt8.toNat_shiftLeft]
  change 1 <<< (channel.toNat % UInt8.toNat 8) % 2 ^ 8 = _
  rw [place, power]
  exact Nat.mod_eq_of_lt (Nat.pow_lt_pow_right (by decide) bound)

/-- A mask holds a channel below the eighth if the bit of that place is set. -/
theorem within_eq_testBit (mask : UInt8) {channel : UInt8} (small : channel < 8) :
    within mask channel = mask.toNat.testBit channel.toNat := by
  have held : (mask &&& bit channel).toNat =
      (mask.toNat.testBit channel.toNat).toNat * 2 ^ channel.toNat := by
    rw [UInt8.toNat_and, toNat_bit small, Nat.and_two_pow]
  cases set : mask.toNat.testBit channel.toNat with
  | false =>
      rw [set, Bool.toNat_false, Nat.zero_mul] at held
      have cleared : mask &&& bit channel = 0 := UInt8.toNat_inj.mp held
      simp [within, cleared]
  | true =>
      rw [set, Bool.toNat_true, Nat.one_mul] at held
      have kept : mask &&& bit channel ≠ 0 := by
        intro zero
        rw [zero] at held
        exact (Nat.two_pow_pos _).ne held
      simp [within, kept]

/-- Channels past the eighth are in no mask. -/
theorem within_of_le (mask : UInt8) {channel : UInt8} (large : ¬channel < 8) :
    within mask channel = false := by
  simp [within, bit, large]

theorem small_of_within {mask channel : UInt8} (held : within mask channel = true) :
    channel < 8 := by
  by_contra large
  rw [within_of_le mask large] at held
  cases held

@[simp]
theorem within_zero (channel : UInt8) : within 0 channel = false := by
  simp [within]

@[simp]
theorem within_or (first second channel : UInt8) :
    within (first ||| second) channel = (within first channel || within second channel) := by
  by_cases small : channel < 8
  · simp only [within_eq_testBit _ small, UInt8.toNat_or, Nat.testBit_or]
  · simp only [within_of_le _ small, Bool.or_self]

@[simp]
theorem within_and (first second channel : UInt8) :
    within (first &&& second) channel = (within first channel && within second channel) := by
  by_cases small : channel < 8
  · simp only [within_eq_testBit _ small, UInt8.toNat_and, Nat.testBit_and]
  · simp only [within_of_le _ small, Bool.and_self]

theorem within_not (mask : UInt8) {channel : UInt8} (small : channel < 8) :
    within (~~~mask) channel = !within mask channel := by
  have bound : channel.toNat < 8 := UInt8.lt_iff_toNat_lt.mp small
  rw [within_eq_testBit _ small, within_eq_testBit _ small, UInt8.toNat_not]
  have flipped : UInt8.size - 1 - mask.toNat = 2 ^ 8 - (mask.toNat + 1) := by
    rw [show UInt8.size = 2 ^ 8 from rfl]
    omega
  rw [flipped, Nat.testBit_two_pow_sub_succ mask.toNat_lt]
  simp [bound]

theorem within_bit {first : UInt8} (small : first < 8) (channel : UInt8) :
    within (bit first) channel = decide (channel = first) := by
  by_cases below : channel < 8
  · rw [within_eq_testBit _ below, toNat_bit small, Nat.testBit_two_pow]
    simp [UInt8.toNat_inj, eq_comm]
  · rw [within_of_le _ below]
    have apart : channel ≠ first := fun same => below (same ▸ small)
    simp [apart]

/-- Masks that hold the same channels are equal. -/
theorem mask_ext {first second : UInt8}
    (same : ∀ channel, channel < 8 → within first channel = within second channel) :
    first = second := by
  apply UInt8.toNat_inj.mp
  apply Nat.eq_of_testBit_eq
  intro place
  by_cases bound : place < 8
  · have whole : (UInt8.ofNat place).toNat = place :=
      UInt8.toNat_ofNat_of_lt' (by rw [show UInt8.size = 256 from rfl]; omega)
    have small : UInt8.ofNat place < 8 := UInt8.lt_iff_toNat_lt.mpr (by rw [whole]; exact bound)
    have agree := same (UInt8.ofNat place) small
    rwa [within_eq_testBit _ small, within_eq_testBit _ small, whole] at agree
  · have past (mask : UInt8) : mask.toNat < 2 ^ place :=
      Nat.lt_of_lt_of_le mask.toNat_lt (Nat.pow_le_pow_right (by decide) (by omega))
    rw [Nat.testBit_lt_two_pow (past first), Nat.testBit_lt_two_pow (past second)]

/-- Masks hold no common channel exactly if their intersection is empty. -/
theorem and_eq_zero_iff (first second : UInt8) :
    first &&& second = 0 ↔
      ∀ channel, within first channel = true → within second channel = false := by
  constructor
  · intro empty channel held
    have both := congrArg (within · channel) empty
    simpa [held] using both
  · intro apart
    apply mask_ext
    intro channel _
    rw [within_and, within_zero]
    cases held : within first channel with
    | false => rfl
    | true => exact apart channel held

@[simp]
theorem mem_upTo {count channel : UInt8} : channel ∈ upTo count ↔ channel < count := by
  simp only [upTo, List.mem_map, List.mem_range]
  constructor
  · rintro ⟨place, bound, rfl⟩
    have whole : (UInt8.ofNat place).toNat = place :=
      UInt8.toNat_ofNat_of_lt' (Nat.lt_trans bound count.toNat_lt)
    exact UInt8.lt_iff_toNat_lt.mpr (by rw [whole]; exact bound)
  · intro bound
    exact ⟨channel.toNat, UInt8.lt_iff_toNat_lt.mp bound, UInt8.ofNat_toNat⟩

theorem map_toNat_upTo (count : UInt8) : (upTo count).map UInt8.toNat = List.range count.toNat := by
  rw [upTo, List.map_map]
  conv_rhs => rw [← List.map_id (List.range count.toNat)]
  refine List.map_congr_left fun index member => ?_
  have small := (List.mem_range.mp member).trans count.toNat_lt
  simp only [Function.comp_apply, UInt8.toNat_ofNat', id_eq]
  omega

theorem length_upTo (count : UInt8) : (upTo count).length = count.toNat := by
  simp [upTo]

theorem nodup_upTo (count : UInt8) : (upTo count).Nodup := by
  refine List.Nodup.map_on ?_ List.nodup_range
  intro first firstBound second secondBound same
  have wholes := congrArg UInt8.toNat same
  have whole {place : Nat} (bound : place ∈ List.range count.toNat) :
      (UInt8.ofNat place).toNat = place :=
    UInt8.toNat_ofNat_of_lt' (Nat.lt_trans (List.mem_range.mp bound) count.toNat_lt)
  rwa [whole firstBound, whole secondBound] at wholes

@[simp]
theorem mem_among {mask count channel : UInt8} :
    channel ∈ among mask count ↔ channel < count ∧ within mask channel = true := by
  simp [among]

theorem within_foldl_bit (channels : List UInt8) (held : UInt8)
    (small : ∀ channel ∈ channels, channel < 8) (channel : UInt8) :
    within (channels.foldl (fun held channel => held ||| bit channel) held) channel =
      (within held channel || decide (channel ∈ channels)) := by
  induction channels generalizing held with
  | nil => simp
  | cons first others ih =>
      rw [List.foldl_cons, ih _ fun other member => small other (List.mem_cons_of_mem _ member),
        within_or, within_bit (small first List.mem_cons_self), Bool.or_assoc]
      congr 1
      by_cases same : channel = first <;> simp [same]

theorem within_mask {channels : List UInt8} (small : ∀ channel ∈ channels, channel < 8)
    (channel : UInt8) : within (mask channels) channel = decide (channel ∈ channels) := by
  rw [mask, within_foldl_bit channels 0 small, within_zero, Bool.false_or]

theorem within_all (count : UInt8) {channel : UInt8} (small : channel < 8) :
    within (all count) channel = decide (channel < count) := by
  have whole : channel.toNat < 8 := UInt8.lt_iff_toNat_lt.mp small
  rw [within_eq_testBit _ small, all]
  by_cases few : count < 8
  · have power : ((1 : UInt8) <<< count).toNat = 2 ^ count.toNat := by
      rw [← toNat_bit few, bit, if_pos few]
    have one : (1 : UInt8) ≤ 1 <<< count :=
      UInt8.le_iff_toNat_le.mpr (by rw [power]; exact Nat.one_le_two_pow)
    rw [if_pos few, UInt8.toNat_sub_of_le _ _ one, power]
    change (2 ^ count.toNat - 1).testBit channel.toNat = _
    rw [Nat.testBit_two_pow_sub_one]
    exact decide_eq_decide.mpr UInt8.lt_iff_toNat_lt.symm
  · rw [if_neg few, decide_eq_true (UInt8.lt_of_lt_of_le small (UInt8.not_lt.mp few))]
    change (2 ^ 8 - 1).testBit channel.toNat = true
    rw [Nat.testBit_two_pow_sub_one]
    exact decide_eq_true whole

/-- Those of some channels that come before a channel. -/
def before (channel : UInt8) (channels : List UInt8) : List UInt8 :=
  channels.takeWhile (· ≠ channel)

theorem not_mem_before (channel : UInt8) (channels : List UInt8) :
    channel ∉ before channel channels := fun member => by
  simpa using List.mem_takeWhile_imp member

/-- Different channels fall into those before one of them, this one, and those after it. -/
theorem split_before {channel : UInt8} {channels : List UInt8} (distinct : channels.Nodup)
    (listed : channel ∈ channels) :
    ∃ later, channels = before channel channels ++ channel :: later ∧ channel ∉ later := by
  obtain ⟨early, later, rfl⟩ := List.append_of_mem listed
  obtain ⟨_, tail, apart⟩ := List.nodup_append.mp distinct
  have absent : channel ∉ early := fun member => apart channel member channel List.mem_cons_self rfl
  have same : before channel (early ++ channel :: later) = early := by
    rw [before, List.takeWhile_append_of_pos, List.takeWhile_cons_of_neg (by simp),
      List.append_nil]
    intro other member
    simpa using fun equal : other = channel => absent (equal ▸ member)
  exact ⟨later, by rw [same], (List.nodup_cons.mp tail).1⟩

theorem upTo_split {count channel : UInt8} (bound : channel < count) :
    ∃ later, upTo count = before channel (upTo count) ++ channel :: later ∧ channel ∉ later :=
  split_before (nodup_upTo count) (mem_upTo.mpr bound)

end AmpControl.Channel
