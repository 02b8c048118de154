import AmpControl.Checked
import AmpControl.Tuning.Reader

/-!
# Slices

A byte string is held as one piece, and a read takes the slice between two places of it. Places and
sizes are of 64 bits, so the end of the slice is a sum that may not fit; what it takes is then not
there.
-/

namespace AmpControl.Tuning

/-- The bytes between two places, if the places are in order and none is past the end. -/
def slice? (data : Bytes) (first last : UInt64) : Option Bytes :=
  if first ≤ last ∧ last.toNat ≤ data.length then
    some ((data.drop first.toNat).take (last - first).toNat)
  else none

/-- The next `size` bytes of a string, from the place at which a reader stands in it. -/
def Read.slice (data : Bytes) (size : UInt64) : Read Bytes := fun reader =>
  let first := UInt64.ofNat reader.position
  match (Checked.sum? first size).bind fun last => (slice? data first last).map (·, last) with
  | some (taken, last) =>
      .ok taken { reader with rest := data.drop last.toNat, position := last.toNat }
  | none => .error (reader.truncated size.toNat) reader

end AmpControl.Tuning
