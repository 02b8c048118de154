/-!
# Checked arithmetic

Numbers of 64 bits wrap around. An operation of this module gives what the machine computes if this
is the exact result, and nothing if it is not.
-/

namespace AmpControl.Checked

/-- What a machine computed, if it is the exact result. -/
def exactly (computed : Int64) (exact : Int) : Option Int64 :=
  if computed.toInt = exact then some computed else none

def difference? (minuend subtrahend : Int64) : Option Int64 :=
  exactly (minuend - subtrahend) (minuend.toInt - subtrahend.toInt)

/-- The quotient, cut toward zero. -/
def quotient? (dividend divisor : Int64) : Option Int64 :=
  if divisor = 0 then none
  else exactly (dividend / divisor) (dividend.toInt.tdiv divisor.toInt)

/-- What the quotient leaves, with the sign of the dividend. Without a quotient there is none. -/
def remainder? (dividend divisor : Int64) : Option Int64 :=
  (quotient? dividend divisor).map fun _ => dividend % divisor

/-- A number as the place of an item, which no negative number is. -/
def place? (number : Int64) : Option Nat :=
  if 0 ≤ number then some number.toNatClampNeg else none

/-- The sum of two sizes. -/
def sum? (augend addend : UInt64) : Option UInt64 :=
  if (augend + addend).toNat = augend.toNat + addend.toNat then some (augend + addend) else none

/-! ## Exact results -/

variable {number other result : Int64}

theorem exactly_eq_some_iff {computed : Int64} {exact : Int}
    (wraps : computed.toInt = exact.bmod Int64.size) :
    exactly computed exact = some result ↔ result.toInt = exact := by
  unfold exactly
  constructor
  · intro computes
    split at computes
    · rename_i same
      cases computes
      exact same
    · cases computes
  · intro same
    -- A number that fits into 64 bits is what it wraps to.
    have fits : computed = result := by
      apply Int64.toInt_inj.mp
      rw [wraps, ← same]
      exact result.toInt_bmod
    rw [fits, if_pos same]

theorem difference?_eq_some_iff :
    difference? number other = some result ↔ result.toInt = number.toInt - other.toInt :=
  exactly_eq_some_iff (Int64.toInt_sub number other)

theorem quotient?_eq_some_iff :
    quotient? number other = some result ↔
      other.toInt ≠ 0 ∧ result.toInt = number.toInt.tdiv other.toInt := by
  have zero : other = 0 ↔ other.toInt = 0 := by rw [← Int64.toInt_inj, Int64.toInt_zero]
  unfold quotient?
  split
  · simp_all
  · rename_i nonzero
    rw [exactly_eq_some_iff (Int64.toInt_div number other), and_iff_right (mt zero.mpr nonzero)]

theorem remainder?_of_quotient? {quotient : Int64}
    (divides : quotient? number other = some quotient) :
    remainder? number other = some (number % other) := by
  rw [remainder?, divides, Option.map_some]

theorem place?_of_nonneg (nonneg : 0 ≤ number.toInt) : place? number = some number.toInt.toNat :=
  if_pos (Int64.le_iff_toInt_le.mpr (Int64.toInt_zero.symm ▸ nonneg))

theorem sum?_eq_some_iff {augend addend sum : UInt64} :
    sum? augend addend = some sum ↔ sum.toNat = augend.toNat + addend.toNat := by
  unfold sum?
  constructor
  · intro sums
    split at sums
    · rename_i same
      cases sums
      exact same
    · cases sums
  · intro same
    have fits : augend + addend = sum := by
      apply UInt64.toNat_inj.mp
      rw [UInt64.toNat_add, ← same]
      exact Nat.mod_eq_of_lt sum.toNat_lt
    rw [fits, if_pos same]

end AmpControl.Checked
