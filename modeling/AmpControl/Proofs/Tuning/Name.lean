import AmpControl.Proofs.Tuning.Taking
import AmpControl.Tuning.Name

/-!
# Names in their fields

A text without zero characters has no zero byte in its UTF-8 form, so in a field that is long enough
for it the first zero byte stands behind it, and the text is read back.
-/

namespace AmpControl.Tuning.Name

/-- A text without zero characters that is no longer than a field. -/
structure Fits (size : Nat) (text : String) : Prop where
  plain : Char.ofNat 0 ∉ text.toList
  short : text.utf8ByteSize ≤ size

instance (size : Nat) (text : String) : Decidable (Fits size text) :=
  decidable_of_iff (Char.ofNat 0 ∉ text.toList ∧ text.utf8ByteSize ≤ size)
    ⟨fun ⟨plain, short⟩ => ⟨plain, short⟩, fun ⟨plain, short⟩ => ⟨plain, short⟩⟩

variable {size : Nat} {text : String}

/-- Only the zero character has a zero byte. -/
theorem ne_zero_of_mem_utf8EncodeChar {character : Char} (other : character ≠ Char.ofNat 0)
    {byte : UInt8} (member : byte ∈ String.utf8EncodeChar character) : byte ≠ 0 := by
  have some_value : character.val.toNat ≠ 0 := by
    intro none
    exact other (Char.ext (UInt32.toNat_inj.mp none))
  have nonzero {value : Nat} (low : value < 256) (some_value : value ≠ 0) :
      UInt8.ofNat value ≠ 0 := by
    intro none
    have same := congrArg UInt8.toNat none
    rw [UInt8.toNat_ofNat_of_lt' low] at same
    exact some_value same
  simp only [String.utf8EncodeChar] at member
  -- Every byte but that of a short character has its highest bit set.
  split at member
  · rw [List.mem_singleton.mp member]
    exact nonzero (by omega) some_value
  · split at member
    · simp only [List.mem_cons, List.not_mem_nil, or_false] at member
      rcases member with rfl | rfl <;> exact nonzero (by omega) (by omega)
    · split at member
      · simp only [List.mem_cons, List.not_mem_nil, or_false] at member
        rcases member with rfl | rfl | rfl <;> exact nonzero (by omega) (by omega)
      · simp only [List.mem_cons, List.not_mem_nil, or_false] at member
        rcases member with rfl | rfl | rfl | rfl <;> exact nonzero (by omega) (by omega)

theorem utf8_eq_flatMap (text : String) :
    utf8 text = text.toList.flatMap String.utf8EncodeChar := by
  rw [utf8, String.toUTF8, ← String.utf8Encode_toList, List.utf8Encode,
    List.toList_data_toByteArray]

theorem length_utf8 (text : String) : (utf8 text).length = text.utf8ByteSize := by
  rw [utf8, Array.length_toList, String.toUTF8, ← String.size_toByteArray]
  rfl

/-- The UTF-8 form of a text is the form of this text only. -/
theorem fromUTF8?_utf8 (text : String) : String.fromUTF8? ⟨(utf8 text).toArray⟩ = some text := by
  have whole : (⟨(utf8 text).toArray⟩ : ByteArray) = text.toByteArray := rfl
  rw [whole, String.fromUTF8?, dif_pos text.isValidUTF8]
  rfl

theorem nonzero_of_plain (plain : Char.ofNat 0 ∉ text.toList) :
    ∀ byte ∈ utf8 text, (byte != 0) = true := by
  intro byte member
  rw [utf8_eq_flatMap, List.mem_flatMap] at member
  obtain ⟨character, listed, member⟩ := member
  refine bne_iff_ne.mpr (ne_zero_of_mem_utf8EncodeChar (fun zero => ?_) member)
  exact plain (zero ▸ listed)

/-- The bytes in a field that are read as text are those that fit. -/
theorem takeWhile_field (size : Nat) (plain : Char.ofNat 0 ∉ text.toList) :
    (field size text).takeWhile (· != 0) = (utf8 text).take size := by
  have behind (more : Nat) : (LittleEndian.zeros more).takeWhile (· != 0) = [] := by
    cases more <;> rfl
  rw [field, List.takeWhile_append_of_pos fun byte member =>
    nonzero_of_plain plain byte (List.mem_of_mem_take member), behind, List.append_nil]

theorem Fits.decode?_field (fits : Fits size text) : decode? (field size text) = some text := by
  have short := fits.short
  rw [← length_utf8] at short
  rw [decode?, takeWhile_field size fits.plain, List.take_of_length_le short, fromUTF8?_utf8]

theorem takes_of_decode? {raw : Bytes} (length : raw.length = size)
    (decoded : decode? raw = some text) : Read.Takes (readField size) raw text := by
  have taken := Read.takes_length raw length
  intro rest position base
  simp only [readField, bind, EStateM.bind, taken rest position base, decoded]
  rfl

theorem takes_readField (fits : Fits size text) :
    Read.Takes (readField size) (field size text) text :=
  takes_of_decode? (length_field size text) fits.decode?_field

theorem takes_read (fits : Fits width text) : Read.Takes read (encode text) text :=
  takes_readField fits

end AmpControl.Tuning.Name
