import AmpControl.Text.Layout

/-!
# Register addresses

Every register lives in a bank, named by a book and a page, and is addressed inside its page by a
seven-bit offset. A flat address holds all three parts:

    raw = book * 32768 + page * 128 + offset

A flat address read from a tuning image may name a book past the last one; such a book reads as 255.
-/

namespace AmpControl

/-- The part of the register map that is selected before a register of it can be accessed. -/
structure Bank where
  book : UInt8
  page : UInt8
  deriving DecidableEq, Repr

/-- A flat register address. -/
structure Register where
  raw : UInt32
  deriving DecidableEq, Repr

namespace Register

/-- The address with the given parts; the offset is cut to seven bits. -/
def ofParts (book page offset : UInt8) : Register :=
  ⟨book.toUInt32 * 32768 + page.toUInt32 * 128 + (offset.toUInt32 &&& 0x7F)⟩

/-- The book, 255 when the address lies past the last book. -/
def book (register : Register) : UInt8 :=
  UInt8.ofNat (min (register.raw.toNat / 32768) 255)

def page (register : Register) : UInt8 :=
  UInt8.ofNat (register.raw.toNat % 32768 / 128)

def offset (register : Register) : UInt8 :=
  UInt8.ofNat (register.raw.toNat % 128)

/-- The bank that has to be selected to reach the register. -/
def bank (register : Register) : Bank := ⟨register.book, register.page⟩

/-- The register `distance` addresses further on; the last address is never passed. -/
def advance (register : Register) (distance : Nat) : Register :=
  ⟨UInt32.ofNatClamp (register.raw.toNat + distance)⟩

/-- The three parts in hexadecimal, as in `B0x00:P0x01:R0x7f`. -/
def display (register : Register) : String :=
  "B" ++ Text.hex 2 register.book.toNat ++ ":P" ++ Text.hex 2 register.page.toNat ++
    ":R" ++ Text.hex 2 register.offset.toNat

end Register

end AmpControl
