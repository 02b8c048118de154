import AmpControl.Proofs.Tuning.WrittenBack

/-!
# Names that are cut

A name that is longer than its field is cut behind the last byte that the field holds. If this byte
ends a character, the longest front of the name that fits is read back; otherwise the field holds
no text.
-/

namespace AmpControl.Tuning

/-! ## Cutting a text -/

namespace Name

/-- The characters at the front whose UTF-8 form takes up at most `size` bytes. -/
def fitting : (size : Nat) → List Char → List Char
  | _, [] => []
  | size, first :: others =>
      if first.utf8Size ≤ size then first :: fitting (size - first.utf8Size) others else []

/-- A text without the characters that a field of `size` bytes does not hold whole. -/
def clip (size : Nat) (text : String) : String := String.ofList (fitting size text.toList)

/-- The longest front of a text whose UTF-8 form takes up at most `size` bytes. -/
structure LongestFront (size : Nat) (text front : String) : Prop where
  leads : front.toList <+: text.toList
  short : front.utf8ByteSize ≤ size
  longest : ∀ other : String, other.toList <+: text.toList → other.utf8ByteSize ≤ size →
    other.toList <+: front.toList

/-- The cut behind `size` bytes of a text falls between two characters, or behind all of them. -/
def CutsBetween (size : Nat) (text : String) : Prop :=
  (clip size text).utf8ByteSize = min size text.utf8ByteSize

instance (size : Nat) (text : String) : Decidable (CutsBetween size text) :=
  inferInstanceAs (Decidable (_ = _))

variable {size : Nat} {text : String}

/-- The number of bytes of characters in UTF-8. -/
theorem utf8ByteSize_eq (text : String) :
    text.utf8ByteSize = (text.toList.flatMap String.utf8EncodeChar).length := by
  rw [← length_utf8, utf8_eq_flatMap]

theorem fitting_prefix (size : Nat) (chars : List Char) : fitting size chars <+: chars := by
  induction chars generalizing size with
  | nil => exact List.prefix_rfl
  | cons first others ih =>
      rw [fitting]
      split
      · exact List.cons_prefix_cons.mpr ⟨rfl, ih _⟩
      · exact List.nil_prefix

theorem length_fitting (size : Nat) (chars : List Char) :
    ((fitting size chars).flatMap String.utf8EncodeChar).length ≤ size := by
  induction chars generalizing size with
  | nil => exact Nat.zero_le size
  | cons first others ih =>
      rw [fitting]
      split
      · have rest := ih (size - first.utf8Size)
        rw [List.flatMap_cons, List.length_append, String.length_utf8EncodeChar]
        omega
      · exact Nat.zero_le size

/-- Every front that fits is a part of the characters that fit. -/
theorem prefix_fitting {front chars : List Char} (leads : front <+: chars)
    (short : (front.flatMap String.utf8EncodeChar).length ≤ size) :
    front <+: fitting size chars := by
  induction front generalizing size chars with
  | nil => exact List.nil_prefix
  | cons first others ih =>
      obtain ⟨rest, rfl⟩ := leads
      rw [List.flatMap_cons, List.length_append, String.length_utf8EncodeChar] at short
      rw [List.cons_append, fitting, if_pos (Nat.le_trans (Nat.le_add_right _ _) short)]
      exact List.cons_prefix_cons.mpr ⟨rfl, ih (List.prefix_append ..) (by omega)⟩

theorem longestFront_clip (size : Nat) (text : String) : LongestFront size text (clip size text)
    where
  leads := by
    rw [clip, String.toList_ofList]
    exact fitting_prefix size text.toList
  short := by
    rw [utf8ByteSize_eq, clip, String.toList_ofList]
    exact length_fitting size text.toList
  longest other leads short := by
    rw [clip, String.toList_ofList]
    exact prefix_fitting leads (utf8ByteSize_eq other ▸ short)

theorem fits_clip (size : Nat) (plain : Char.ofNat 0 ∉ text.toList) : Fits size (clip size text)
    where
  plain zero := plain ((longestFront_clip size text).leads.subset zero)
  short := (longestFront_clip size text).short

/-- A text that fits is not cut. -/
theorem clip_of_short (short : text.utf8ByteSize ≤ size) : clip size text = text := by
  have longest := longestFront_clip size text
  have whole := longest.longest text List.prefix_rfl short
  exact String.toList_inj.mp (longest.leads.eq_of_length_le whole.length_le)

theorem cutsBetween_of_short (short : text.utf8ByteSize ≤ size) : CutsBetween size text := by
  rw [CutsBetween, clip_of_short short, Nat.min_eq_right short]

/-! ## What is read back -/

/-- The UTF-8 form of a front is the front of the UTF-8 form. -/
theorem utf8_append_of_prefix {front : String} (leads : front.toList <+: text.toList) :
    ∃ rest, utf8 text = utf8 front ++ rest := by
  obtain ⟨others, split⟩ := leads
  refine ⟨others.flatMap String.utf8EncodeChar, ?_⟩
  rw [utf8_eq_flatMap, utf8_eq_flatMap, ← split, List.flatMap_append]

/-- A text whose UTF-8 form leads that of another text leads this text. -/
theorem prefix_of_utf8_append {front : String} {rest : Bytes}
    (split : utf8 text = utf8 front ++ rest) : front.toList <+: text.toList := by
  refine List.isPrefix_of_utf8Encode_append_eq_utf8Encode rest.toByteArray ?_
  rw [String.utf8Encode_toList, String.utf8Encode_toList]
  refine ByteArray.ext (Array.toList_inj.mp ?_)
  rw [ByteArray.data_append, Array.toList_append, List.toList_data_toByteArray]
  exact split.symm

/-- The bytes in a field are those of the cut text, if the cut falls between two characters. -/
theorem take_utf8 (between : CutsBetween size text) :
    (utf8 text).take size = utf8 (clip size text) := by
  obtain ⟨rest, split⟩ := utf8_append_of_prefix (longestFront_clip size text).leads
  have lengths := congrArg List.length split
  rw [List.length_append, length_utf8, length_utf8, between] at lengths
  rw [split, List.take_append, length_utf8, between]
  have none_left : rest.take (size - min size text.utf8ByteSize) = [] := by
    rcases Nat.le_total size text.utf8ByteSize with long | short
    · rw [Nat.min_eq_left long, Nat.sub_self, List.take_zero]
    · rw [Nat.min_eq_right short] at lengths
      rw [List.length_eq_zero_iff.mp (by omega : rest.length = 0), List.take_nil]
  have all : (utf8 (clip size text)).length ≤ size := by
    rw [length_utf8]
    exact (longestFront_clip size text).short
  rw [none_left, List.append_nil, List.take_of_length_le all]

theorem field_clip (between : CutsBetween size text) : field size (clip size text) = field size text
    := by
  have short := (longestFront_clip size text).short
  rw [← length_utf8] at short
  simp only [field, take_utf8 between, List.take_of_length_le short]

/-- A front is no longer than the text. -/
theorem utf8ByteSize_le_of_prefix {front : String} (leads : front.toList <+: text.toList) :
    front.utf8ByteSize ≤ text.utf8ByteSize := by
  obtain ⟨rest, split⟩ := utf8_append_of_prefix leads
  rw [← length_utf8, ← length_utf8, split, List.length_append]
  exact Nat.le_add_right _ _

/-- Text is read from a field only if the bytes in it are those of a front. -/
theorem cutsBetween_of_decode? {read : String} (plain : Char.ofNat 0 ∉ text.toList)
    (decoded : decode? (field size text) = some read) : CutsBetween size text := by
  have longest := longestFront_clip size text
  have bytes := utf8_of_decode? decoded
  rw [takeWhile_field size plain] at bytes
  have split : utf8 text = utf8 read ++ (utf8 text).drop size := by
    rw [bytes, List.take_append_drop]
  have length := congrArg List.length bytes
  rw [List.length_take, length_utf8, length_utf8] at length
  have leads := longest.longest read (prefix_of_utf8_append split) (by omega)
  have least := utf8ByteSize_le_of_prefix leads
  have most := utf8ByteSize_le_of_prefix longest.leads
  have short := longest.short
  rw [CutsBetween]
  omega

/-- What is read from the field of a name of any length. -/
theorem decode?_field_eq (size : Nat) (plain : Char.ofNat 0 ∉ text.toList) :
    decode? (field size text) =
      if CutsBetween size text then some (clip size text) else none := by
  by_cases between : CutsBetween size text
  · rw [if_pos between, ← field_clip between, (fits_clip size plain).decode?_field]
  · rw [if_neg between]
    cases decoded : decode? (field size text) with
    | none => rfl
    | some read => exact absurd (cutsBetween_of_decode? plain decoded) between

end Name

end AmpControl.Tuning
