import AmpControl.Tuning.FormatError

/-!
# Reading bytes

A reader stands at a position of a byte string. A read either returns its value and moves on, or
reports that the bytes ran out and stays where it was; the one read that fails after moving is a
name that is no text. Reported offsets are shifted by the reader's base, so a reader over the inside
of a section still reports offsets of the whole payload.
-/

namespace AmpControl.Tuning

/-- A position in a byte string: what is left, how much was read, and where the string began. -/
structure Reader where
  rest : Bytes
  position : Nat
  base : Nat
  deriving DecidableEq, Repr

/-- A read: it returns a value or an error, and leaves a reader in either case. -/
abbrev Read := EStateM FormatError Reader

/-- Offsets are held in 64 bits and stay at the largest one. -/
def clampOffset (offset : Nat) : Nat := min offset (UInt64.size - 1)

namespace Reader

/-- The reader at the start of a byte string that begins at offset `base`. -/
def start (data : Bytes) (base : Nat) : Reader := ⟨data, 0, base⟩

def offset (reader : Reader) : Nat := clampOffset (reader.base + reader.position)

def remaining (reader : Reader) : Nat := reader.rest.length

/-- The next byte, which is not taken. -/
def peek? (reader : Reader) : Option UInt8 := reader.rest.head?

/-- The report that `needed` bytes were asked for here and were not there. -/
def truncated (reader : Reader) (needed : Nat) : FormatError :=
  .truncated reader.offset needed reader.remaining

/-- The reader `count` bytes further on. -/
def advance (reader : Reader) (count : Nat) : Reader :=
  { reader with rest := reader.rest.drop count, position := reader.position + count }

end Reader

namespace Read

def offset : Read Nat := fun reader => .ok reader.offset reader

/-- The next `count` bytes. -/
def bytes (count : Nat) : Read Bytes := fun reader =>
  let taken := reader.rest.take count
  if taken.length = count then .ok taken (reader.advance count)
  else .error (reader.truncated count) reader

/-- Passes over `count` bytes. -/
def skip (count : Nat) : Read Unit := do
  let _ ← bytes count

def remainder : Read Bytes := fun reader => .ok reader.rest (reader.advance reader.rest.length)

def byte : Read UInt8 := fun reader =>
  match reader.rest with
  | first :: _ => .ok first (reader.advance 1)
  | [] => .error (reader.truncated 1) reader

def halfword : Read UInt16 := fun reader =>
  match reader.rest with
  | low :: high :: _ => .ok (LittleEndian.toHalfword low high) (reader.advance 2)
  | _ => .error (reader.truncated 2) reader

def word : Read UInt32 := fun reader =>
  match reader.rest with
  | first :: second :: third :: fourth :: _ =>
      .ok (LittleEndian.toWord first second third fourth) (reader.advance 4)
  | _ => .error (reader.truncated 4) reader

def signedWord : Read Int32 := do
  return (← word).toInt32

/--
The number of records that follow. Every record takes at least one byte, so a number above the
bytes left is reported as missing bytes, and the number itself is not taken.
-/
def count : Read Nat := fun reader =>
  match word reader with
  | .ok amount after =>
      if amount.toNat ≤ after.remaining then .ok amount.toNat after
      else .error (reader.truncated amount.toNat) reader
  | .error error _ => .error error reader

/-- A length and as many bytes. When they are not all there, the length is not taken either. -/
def lengthPrefixed : Read Bytes := fun reader =>
  match word reader with
  | .ok length after =>
      match bytes length.toNat after with
      | .ok body ended => .ok body ended
      | .error error _ => .error error reader
  | .error error _ => .error error reader

def tag : Read Bytes := bytes 5

/-- As many records as `amount` says, in order. -/
def records {α : Type} (record : Read α) : (amount : Nat) → Read (List α)
  | 0 => pure []
  | amount + 1 => do
      let first ← record
      let others ← records record amount
      return first :: others

def counted {α : Type} (record : Read α) : Read (List α) := do
  records record (← count)

/-- At most `bound` records, as long as bytes are left. -/
def upTo {α : Type} (record : Read α) : (bound : Nat) → Read (List α)
  | 0 => pure []
  | bound + 1 => fun reader =>
      if reader.rest.isEmpty then .ok [] reader
      else
        (do
          let first ← record
          let others ← upTo record bound
          return first :: others) reader

/--
Records until no byte is left. Every record takes at least one byte, so there are no more of them
than bytes.
-/
def toEnd {α : Type} (record : Read α) : Read (List α) := fun reader =>
  upTo record reader.rest.length reader

end Read

end AmpControl.Tuning
