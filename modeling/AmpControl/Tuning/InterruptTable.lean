import AmpControl.Tuning.Name
import AmpControl.Tuning.Script

/-!
# Interrupt tables

An interrupt source is a set of bits of a status register. The table of a channel lists its sources,
the scripts that unmask, mask and clear its interrupts, how long to wait after clearing, and the
registers to look at when interrupts will not stop.
-/

namespace AmpControl.Tuning

/-- One interrupt source. -/
structure Source where
  name : String
  status : Register
  /-- The status bits that signal this source. -/
  mask : UInt32
  /-- The recovery that this source asks for, one bit per action. -/
  actions : UInt32
  /-- The source fires in normal clocking and is no fault by itself. -/
  clockBased : Bool
  deriving DecidableEq, Repr

namespace Source

def softResetAction : UInt32 := 1

def hardResetAction : UInt32 := 2

def powerOnAction : UInt32 := 4

def encode (source : Source) : Bytes :=
  Name.encode source.name ++ LittleEndian.word source.status.raw ++
    LittleEndian.word source.mask ++ LittleEndian.word source.actions ++
    [if source.clockBased then 1 else 0]

def read : Read Source := do
  let name ← Name.read
  let status ← Read.word
  let mask ← Read.word
  let actions ← Read.word
  let clockBased ← Read.byte
  return ⟨name, ⟨status⟩, mask, actions, clockBased != 0⟩

end Source

/-- The interrupt sources of a channel and the scripts around them. -/
structure InterruptTable where
  sources : List Source
  unmask : Script
  mask : Script
  clear : Script
  /-- The milliseconds to wait between clearing and acting. -/
  settleTime : UInt32
  /-- The registers to read when interrupts will not stop. -/
  dump : List Register
  deriving DecidableEq, Repr

namespace InterruptTable

def encode (table : InterruptTable) : Bytes :=
  LittleEndian.count table.sources.length ++ table.sources.flatMap Source.encode ++
    table.unmask.encode ++ table.mask.encode ++ table.clear.encode ++
    LittleEndian.word table.settleTime ++ LittleEndian.count table.dump.length ++
    table.dump.flatMap fun register => LittleEndian.word register.raw

def read : Read InterruptTable := do
  let sources ← Read.counted Source.read
  let unmask ← Script.read
  let mask ← Script.read
  let clear ← Script.read
  let settleTime ← Read.word
  let dump ← Read.counted Read.word
  return ⟨sources, unmask, mask, clear, settleTime, dump.map Register.mk⟩

end InterruptTable

end AmpControl.Tuning
