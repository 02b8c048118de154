import AmpControl.Interrupt.Debounce
import Mathlib.Data.Nat.Basic

/-!
# Laws of the storm window

Within one window the count of detections grows by one with each of them, up to its largest value;
a detection is one too many exactly when the limit is below the count.
-/

namespace AmpControl

/-- A clamped number is the number itself, up to the largest word. -/
theorem toNat_ofNatClamp (amount : Nat) :
    (UInt32.ofNatClamp amount).toNat = min amount (UInt32.size - 1) := by
  unfold UInt32.ofNatClamp
  split
  · rename_i fits
    exact (Nat.min_eq_left (Nat.le_sub_one_of_lt fits)).symm
  · rename_i large
    exact (Nat.min_eq_right (Nat.le_of_lt (Nat.lt_of_lt_of_le (by decide)
      (Nat.le_of_not_lt large)))).symm

/-- A word is not clamped. -/
theorem ofNatClamp_toNat (amount : UInt32) : UInt32.ofNatClamp amount.toNat = amount := by
  apply UInt32.toNat_inj.mp
  rw [toNat_ofNatClamp]
  have bound := amount.toNat_lt_size
  omega

namespace Debounce

/-- The window after a number of detections since it opened. -/
def counting (amount opened : Nat) : Debounce := ⟨UInt32.ofNatClamp amount, some opened⟩

/-- The judgement of the detection that makes a number of them. -/
def verdict (limit : UInt32) (amount : Nat) : Verdict :=
  if limit < UInt32.ofNatClamp amount then .stuck else .act

/-- The first detection of all opens a window. -/
theorem detect_fresh (now : Nat) (limit : UInt32) (window : Nat) :
    fresh.detect now limit window = (counting 1 now, verdict limit 1) := rfl

/-- A detection before the window is over is one more in it. -/
theorem detect_counting {opened now window : Nat} (inside : now ≤ opened + window) (amount : Nat)
    (limit : UInt32) :
    (counting amount opened).detect now limit window =
      (counting (amount + 1) opened, verdict limit (amount + 1)) := by
  have lasting : (counting amount opened).isOver now window = false :=
    decide_eq_false (Nat.not_lt.mpr inside)
  have counted : UInt32.ofNatClamp ((UInt32.ofNatClamp amount).toNat + 1) =
      UInt32.ofNatClamp (amount + 1) := by
    apply UInt32.toNat_inj.mp
    rw [toNat_ofNatClamp, toNat_ofNatClamp, toNat_ofNatClamp]
    omega
  have noted : (counting amount opened).note now window = counting (amount + 1) opened := by
    rw [note, lasting, if_neg Bool.false_ne_true]
    exact congrArg (Debounce.mk · (some opened)) counted
  rw [detect, noted]
  rfl

/-- As many detections as the limit allows are acted on. -/
theorem verdict_of_le {limit : UInt32} {amount : Nat} (few : amount ≤ limit.toNat) :
    verdict limit amount = .act := by
  refine if_neg fun above => ?_
  rw [UInt32.lt_iff_toNat_lt, toNat_ofNatClamp] at above
  omega

/-- More of them are too many, unless there is no larger number to count them by. -/
theorem verdict_of_lt {limit : UInt32} {amount : Nat} (many : limit.toNat < amount)
    (countable : limit.toNat ≠ UInt32.size - 1) : verdict limit amount = .stuck := by
  refine if_pos ?_
  have bound := limit.toNat_lt_size
  rw [UInt32.lt_iff_toNat_lt, toNat_ofNatClamp]
  omega

end Debounce

end AmpControl
