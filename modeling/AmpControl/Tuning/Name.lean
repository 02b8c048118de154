import AmpControl.Tuning.Reader

/-!
# Name fields

A name is stored in a field of fixed width: its UTF-8 form, cut to the field and filled up with zero
bytes. The name that is read back ends before the first zero byte.
-/

namespace AmpControl.Tuning.Name

def width : Nat := 64

def utf8 (text : String) : Bytes := text.toUTF8.data.toList

/-- A field of `size` bytes that starts with the text. -/
def field (size : Nat) (text : String) : Bytes :=
  let used := (utf8 text).take size
  used ++ LittleEndian.zeros (size - used.length)

def encode (name : String) : Bytes := field width name

/-- The text before the first zero byte, if it is one. -/
def decode? (raw : Bytes) : Option String :=
  String.fromUTF8? ⟨(raw.takeWhile (· != 0)).toArray⟩

/-- A field of `size` bytes that holds a name. The field is taken also when it holds no text. -/
def readField (size : Nat) : Read String := do
  let raw ← Read.bytes size
  match decode? raw with
  | some name => return name
  | none => throw .badName

def read : Read String := readField width

@[simp] theorem length_field (size : Nat) (text : String) : (field size text).length = size := by
  simp only [field, LittleEndian.zeros, List.length_append, List.length_replicate,
    List.length_take]
  omega

end AmpControl.Tuning.Name
