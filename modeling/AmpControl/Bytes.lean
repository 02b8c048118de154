/-!
# Byte strings

Tuning images are byte strings, and every integer in them is stored with its low byte first. This
module fixes how integers are laid out and read back, and that the two agree.
-/

namespace AmpControl

/-- A byte string, first byte first. -/
abbrev Bytes := List UInt8

namespace LittleEndian

/-- A run of zero bytes. -/
def zeros (amount : Nat) : Bytes := List.replicate amount 0

/-- The two bytes of a halfword, low byte first. -/
def halfword (value : UInt16) : Bytes :=
  [UInt8.ofNat value.toNat, UInt8.ofNat (value.toNat / 256)]

/-- The four bytes of a word, low byte first. -/
def word (value : UInt32) : Bytes :=
  [UInt8.ofNat value.toNat, UInt8.ofNat (value.toNat / 256),
    UInt8.ofNat (value.toNat / 65536), UInt8.ofNat (value.toNat / 16777216)]

/-- The four bytes of a word, high byte first, as registers expect a wide value in a burst. -/
def wordHighFirst (value : UInt32) : Bytes := (word value).reverse

/-- A length or count field: a word that holds its largest value when the length does not fit. -/
def count (amount : Nat) : Bytes := word (UInt32.ofNatClamp amount)

/-- The halfword with the given low and high byte. -/
def toHalfword (low high : UInt8) : UInt16 :=
  UInt16.ofNat (low.toNat + 256 * high.toNat)

/-- The word with the given bytes, lowest first. -/
def toWord (first second third fourth : UInt8) : UInt32 :=
  UInt32.ofNat (first.toNat + 256 * second.toNat + 65536 * third.toNat + 16777216 * fourth.toNat)

theorem toHalfword_halfword (value : UInt16) :
    toHalfword (UInt8.ofNat value.toNat) (UInt8.ofNat (value.toNat / 256)) = value := by
  have bound := value.toNat_lt
  apply UInt16.toNat_inj.mp
  simp only [toHalfword, UInt16.toNat_ofNat', UInt8.toNat_ofNat']
  omega

theorem toWord_word (value : UInt32) :
    toWord (UInt8.ofNat value.toNat) (UInt8.ofNat (value.toNat / 256))
      (UInt8.ofNat (value.toNat / 65536)) (UInt8.ofNat (value.toNat / 16777216)) = value := by
  have bound := value.toNat_lt
  apply UInt32.toNat_inj.mp
  simp only [toWord, UInt32.toNat_ofNat', UInt8.toNat_ofNat']
  omega

theorem halfword_toHalfword (low high : UInt8) : halfword (toHalfword low high) = [low, high] := by
  have lowBound := low.toNat_lt
  have highBound := high.toNat_lt
  simp only [halfword, toHalfword, UInt16.toNat_ofNat', List.cons.injEq, and_true]
  constructor <;>
    · apply UInt8.toNat_inj.mp
      simp only [UInt8.toNat_ofNat']
      omega

theorem word_toWord (first second third fourth : UInt8) :
    word (toWord first second third fourth) = [first, second, third, fourth] := by
  have low := first.toNat_lt
  have lowMiddle := second.toNat_lt
  have highMiddle := third.toNat_lt
  have high := fourth.toNat_lt
  simp only [word, toWord, UInt32.toNat_ofNat', List.cons.injEq, and_true]
  refine ⟨?_, ?_, ?_, ?_⟩ <;>
    · apply UInt8.toNat_inj.mp
      simp only [UInt8.toNat_ofNat']
      omega

@[simp] theorem length_word (value : UInt32) : (word value).length = 4 := rfl

@[simp] theorem length_halfword (value : UInt16) : (halfword value).length = 2 := rfl

end LittleEndian

end AmpControl
