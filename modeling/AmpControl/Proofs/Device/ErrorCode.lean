import AmpControl.Device.ErrorCode
import AmpControl.Proofs.Channel.Mask

/-!
# Laws of error codes

The classes of an error code do not get into each other's way: latching an error adds one channel to
the mask of its class, forgetting a class empties its mask, and the masks of the other classes stay.
-/

namespace AmpControl.ErrorCode

open Channel (within within_eq_testBit mask_ext)

/-- The place of the bit of a class and a channel. -/
def place (errorClass : ErrorClass) (channel : UInt8) : Nat :=
  errorClass.shift.toNat + channel.toNat

theorem shift_le (errorClass : ErrorClass) : errorClass.shift.toNat ≤ 16 := by
  cases errorClass <;> decide

/-- Different classes or channels have different places. -/
theorem place_inj {first second : ErrorClass} {channel other : UInt8} (small : channel < 8)
    (below : other < 8) :
    place first channel = place second other ↔ first = second ∧ channel = other := by
  have bound : channel.toNat < 8 := UInt8.lt_iff_toNat_lt.mp small
  have otherBound : other.toNat < 8 := UInt8.lt_iff_toNat_lt.mp below
  constructor
  · intro same
    have apart : first = second := by
      cases first <;> cases second <;> simp [place, ErrorClass.shift] at same ⊢ <;> omega
    subst apart
    exact ⟨rfl, UInt8.toNat_inj.mp (Nat.add_left_cancel same)⟩
  · rintro ⟨rfl, rfl⟩
    rfl

theorem within_channels (code : ErrorCode) (errorClass : ErrorClass) {channel : UInt8}
    (small : channel < 8) :
    within (code.channels errorClass) channel =
      code.raw.toNat.testBit (place errorClass channel) := by
  have bound : channel.toNat < 8 := UInt8.lt_iff_toNat_lt.mp small
  have room := shift_le errorClass
  rw [within_eq_testBit _ small, channels, UInt32.toNat_toUInt8, UInt32.toNat_shiftRight,
    Nat.testBit_mod_two_pow, Nat.testBit_shiftRight, Nat.mod_eq_of_lt (by omega)]
  simp [bound, place]

theorem toNat_bit (errorClass : ErrorClass) (channel : UInt8) :
    (bit errorClass channel).toNat = 2 ^ place errorClass (min channel 7) := by
  have last : (min channel 7).toNat ≤ 7 := UInt8.le_iff_toNat_le.mp Std.min_le_right
  have room := shift_le errorClass
  have sum : (errorClass.shift + (min channel 7).toUInt32).toNat =
      place errorClass (min channel 7) := by
    rw [UInt32.toNat_add, UInt8.toNat_toUInt32]
    exact Nat.mod_eq_of_lt (by omega)
  have small : place errorClass (min channel 7) < 32 := by
    rw [place]
    omega
  rw [bit, UInt32.toNat_shiftLeft, sum, Nat.mod_eq_of_lt small]
  change 1 <<< place errorClass (min channel 7) % 2 ^ 32 = _
  rw [Nat.one_shiftLeft]
  exact Nat.mod_eq_of_lt (Nat.pow_lt_pow_right (by decide) small)

/-- Latching an error adds its channel to the mask of its class. -/
theorem within_channels_set (code : ErrorCode) (latched errorClass : ErrorClass)
    (failing : UInt8) {channel : UInt8} (small : channel < 8) :
    within ((code.set latched failing).channels errorClass) channel =
      (within (code.channels errorClass) channel ||
        decide (latched = errorClass ∧ min failing 7 = channel)) := by
  have last : min failing 7 < 8 := UInt8.lt_of_le_of_lt Std.min_le_right (by decide)
  rw [within_channels _ _ small, within_channels _ _ small, set, UInt32.toNat_or, Nat.testBit_or,
    toNat_bit, Nat.testBit_two_pow]
  congr 1
  exact decide_eq_decide.mpr (place_inj last small)

theorem channels_set_of_ne (code : ErrorCode) {latched errorClass : ErrorClass}
    (apart : latched ≠ errorClass) (failing : UInt8) :
    (code.set latched failing).channels errorClass = code.channels errorClass := by
  apply mask_ext
  intro channel small
  rw [within_channels_set _ _ _ _ small]
  simp [apart]

theorem channels_set_self (code : ErrorCode) (errorClass : ErrorClass) {failing : UInt8}
    (small : failing < 8) :
    (code.set errorClass failing).channels errorClass =
      code.channels errorClass ||| Channel.bit failing := by
  apply mask_ext
  intro channel below
  have itself : min failing 7 = failing := by
    apply UInt8.toNat_inj.mp
    rw [UInt8.toNat_min]
    exact Nat.min_eq_left (Nat.le_of_lt_succ (UInt8.lt_iff_toNat_lt.mp small))
  rw [within_channels_set _ _ _ _ below, Channel.within_or, Channel.within_bit small, itself]
  simp [eq_comm]

/-- Forgetting a class leaves the mask of every other class. -/
theorem channels_clear_of_ne (code : ErrorCode) {cleared errorClass : ErrorClass}
    (apart : cleared ≠ errorClass) :
    (code.clear cleared).channels errorClass = code.channels errorClass := by
  apply mask_ext
  intro channel small
  have kept : ∀ offset < 8, (~~~((0xFF : UInt32) <<< cleared.shift)).toNat.testBit
      (errorClass.shift.toNat + offset) = true := by
    cases cleared <;> cases errorClass <;> first | contradiction | decide
  rw [within_channels _ _ small, within_channels _ _ small, clear, UInt32.toNat_and,
    Nat.testBit_and, place, kept _ (UInt8.lt_iff_toNat_lt.mp small), Bool.and_true]

end AmpControl.ErrorCode
