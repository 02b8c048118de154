/-!
# Error codes

A device latches what went wrong on which channel in one word: bits 0 to 7 for failed transport
calls, bits 8 to 15 for stuck interrupts, and bits 16 to 23 for channels that are locked out.
Channels past the eighth share its bit.
-/

namespace AmpControl

/-- What went wrong on a channel. -/
inductive ErrorClass where
  | transport
  | stuckInterrupt
  | lockedOut
  deriving DecidableEq, Repr

/-- The place of the first bit of a class. -/
def ErrorClass.shift : ErrorClass → UInt32
  | transport => 0
  | stuckInterrupt => 8
  | lockedOut => 16

/-- The latched errors. -/
structure ErrorCode where
  raw : UInt32
  deriving DecidableEq, Repr

namespace ErrorCode

def empty : ErrorCode := ⟨0⟩

def bit (errorClass : ErrorClass) (channel : UInt8) : UInt32 :=
  1 <<< (errorClass.shift + (min channel 7).toUInt32)

def set (code : ErrorCode) (errorClass : ErrorClass) (channel : UInt8) : ErrorCode :=
  ⟨code.raw ||| bit errorClass channel⟩

def contains (code : ErrorCode) (errorClass : ErrorClass) (channel : UInt8) : Bool :=
  code.raw &&& bit errorClass channel != 0

def channels (code : ErrorCode) (errorClass : ErrorClass) : UInt8 :=
  (code.raw >>> errorClass.shift).toUInt8

def clear (code : ErrorCode) (errorClass : ErrorClass) : ErrorCode :=
  ⟨code.raw &&& ~~~(0xFF <<< errorClass.shift)⟩

def isEmpty (code : ErrorCode) : Bool := code.raw == 0

end ErrorCode

end AmpControl
