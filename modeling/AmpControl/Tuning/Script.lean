import AmpControl.Register
import AmpControl.Tuning.Reader

/-!
# Register scripts

A script is a row of register commands that is carried out in order. Stored, it is the length of the
commands in bytes and then the commands, each behind a byte that says what it is:

    1  write    book, page, offset, value
    2  burst    book, page, offset, halfword length, bytes
    3  update   book, page, offset, mask, value
    4  pause    halfword of milliseconds

A script is checked as a whole when it is read. A command that runs past the stored length makes the
script malformed, so no script is ever carried out in part for that reason.
-/

namespace AmpControl.Tuning

/-- One step of a script. -/
inductive Command where
  /-- Writes one register. -/
  | write (register : Register) (value : UInt8)
  /-- Writes consecutive registers from the given one on. -/
  | burst (register : Register) (data : Bytes)
  /-- Changes the bits of a register that the mask selects. -/
  | update (register : Register) (mask value : UInt8)
  /-- Waits without touching a register. -/
  | pause (milliseconds : UInt16)
  deriving DecidableEq, Repr

/-- Commands in the order in which they are carried out. -/
abbrev Script := List Command

namespace Command

def register? : Command → Option Register
  | write register _ | burst register _ | update register _ _ => some register
  | pause _ => none

def address (register : Register) : Bytes := [register.book, register.page, register.offset]

/-- The stored form of a command. A burst holds at most 65535 bytes; more are cut off. -/
def encode : Command → Bytes
  | write register value => 1 :: address register ++ [value]
  | burst register data =>
      let kept := data.take 65535
      2 :: address register ++ LittleEndian.halfword (UInt16.ofNat kept.length) ++ kept
  | update register mask value => 3 :: address register ++ [mask, value]
  | pause milliseconds => 4 :: LittleEndian.halfword milliseconds

/-- Three address bytes; the offset inside a page has seven bits. -/
def readAddress : Read Register := do
  let book ← Read.byte
  let page ← Read.byte
  let offset ← Read.byte
  if 0x80 ≤ offset then throw (.invalidRecord .registerOffset offset.toUInt32)
  return Register.ofParts book page offset

def read : Read Command := do
  let offset ← Read.offset
  match ← Read.byte with
  | 1 =>
      let register ← readAddress
      return .write register (← Read.byte)
  | 2 =>
      let register ← readAddress
      let length ← Read.halfword
      return .burst register (← Read.bytes length.toNat)
  | 3 =>
      let register ← readAddress
      let mask ← Read.byte
      return .update register mask (← Read.byte)
  | 4 => return .pause (← Read.halfword)
  | opcode => throw (.unknownOpcode opcode offset)

end Command

namespace Script

def encode (script : Script) : Bytes :=
  let body := script.flatMap Command.encode
  LittleEndian.count body.length ++ body

/-- The commands that fill `body`, which begins at offset `base`. -/
def decode (body : Bytes) (base : Nat) : Except FormatError Script :=
  match Read.toEnd Command.read (Reader.start body base) with
  | .ok script _ => .ok script
  | .error (.truncated ..) _ => .error (.scriptOverrun body.length)
  | .error error _ => .error error

def read : Read Script := do
  let offset ← Read.offset
  let body ← Read.lengthPrefixed
  match decode body (clampOffset (offset + 4)) with
  | .ok script => return script
  | .error error => throw error

end Script

end AmpControl.Tuning
