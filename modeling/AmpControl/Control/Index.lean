import AmpControl.Checked
import AmpControl.Tuning.Control

/-!
# Indices in 64 bits

The candidate that a value stands for, computed with numbers of 64 bits. The value may be any of
them; lowest value, highest value and step are of 32 bits and are widened first.
-/

namespace AmpControl.Tuning.IntegerControl

/--
The candidate that a value of 64 bits stands for; none when the value is out of range, between two
steps or past the last candidate, and none when a result on the way does not fit into 64 bits.
-/
def checkedIndex? (control : IntegerControl) (value : Int64) : Option Nat :=
  let lowest := control.lowest.toInt64
  let step := control.step.toInt64
  if value < lowest ∨ control.highest.toInt64 < value ∨ step ≤ 0 then none
  else do
    let offset ← Checked.difference? value lowest
    let excess ← Checked.remainder? offset step
    if excess ≠ 0 then none
    else
      let index ← Checked.place? (← Checked.quotient? offset step)
      if index < control.candidates.length then some index else none

end AmpControl.Tuning.IntegerControl
