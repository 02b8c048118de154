import AmpControl.Bus.Access
import AmpControl.Interrupt.Counter
import AmpControl.Tuning.InterruptTable

/-!
# Classifying interrupts

Polling a channel reads each status register once, however many sources share it, and tells which
sources fired and what recovery they ask for. Clock-based sources are left out while the channel is
not powered. Detections are counted even when some other register could not be read.
-/

namespace AmpControl

open Tuning (Source InterruptTable)

/-- What a poll found. -/
structure Reading where
  /-- The recovery that the sources that fired ask for, together. -/
  actions : UInt32
  clockFired : Bool
  otherFired : Bool
  /-- The places of the sources that fired, ascending. -/
  detected : List Nat
  deriving DecidableEq, Repr

namespace Reading

def quiet : Reading := ⟨0, false, false, []⟩

def add (reading : Reading) (index : Nat) (source : Source) : Reading where
  actions := reading.actions ||| source.actions
  clockFired := reading.clockFired || source.clockBased
  otherFired := reading.otherFired || !source.clockBased
  detected := reading.detected ++ [index]

def any (reading : Reading) : Bool := !reading.detected.isEmpty

def clockOnly (reading : Reading) : Bool := reading.clockFired && !reading.otherFired

def needsReset (reading : Reading) : Bool :=
  reading.actions &&& (Source.softResetAction ||| Source.hardResetAction) != 0

def needsHardReset (reading : Reading) : Bool := reading.actions &&& Source.hardResetAction != 0

def needsPowerOn (reading : Reading) : Bool := reading.actions &&& Source.powerOnAction != 0

end Reading

/-- A poll on its way. -/
structure Poll where
  bus : Bus
  /-- The registers that were read, and what they held where the read succeeded. -/
  seen : List (Register × Option UInt32)
  failures : Nat
  counters : List Counter
  reading : Reading

namespace Poll

def start (counters : List Counter) (bus : Bus) : Poll := ⟨bus, [], 0, counters, Reading.quiet⟩

/-- What a status register holds, which is read unless it was read before. -/
def status (channel : UInt8) (register : Register) (poll : Poll) : Poll × Option UInt32 :=
  match poll.seen.find? fun entry => entry.1 == register with
  | some entry => (poll, entry.2)
  | none =>
      let outcome := poll.bus.read channel register
      ({ poll with
          bus := outcome.1
          seen := poll.seen ++ [(register, outcome.2)]
          failures := if outcome.2.isSome then poll.failures else poll.failures + 1 }, outcome.2)

def visit (channel : UInt8) (index : Nat) (source : Source) (poll : Poll) : Poll :=
  match poll.status channel source.status with
  | (after, none) => after
  | (after, some value) =>
      if value &&& source.mask = 0 then after
      else
        { after with
          counters := after.counters.modify index Counter.record
          reading := after.reading.add index source }

/-- Polls sources, each at its place in the table. -/
def visitAll (channel : UInt8) : List (Source × Nat) → Poll → Poll
  | [], poll => poll
  | (source, index) :: others, poll => visitAll channel others (poll.visit channel index source)

/-- The sources of a table that are polled, each with its place. -/
def polled (table : InterruptTable) (powered : Bool) : List (Source × Nat) :=
  table.sources.zipIdx.filter fun entry => powered || !entry.1.clockBased

/-- What a poll found, unless a register could not be read. -/
def result (channel : UInt8) (poll : Poll) : Except TransportFault Reading :=
  match TransportFault.ofCount channel poll.failures with
  | none => .ok poll.reading
  | some fault => .error fault

end Poll

def Tuning.InterruptTable.classify (table : InterruptTable) (channel : UInt8) (powered : Bool)
    (counters : List Counter) (bus : Bus) : Poll :=
  Poll.visitAll channel (Poll.polled table powered) (Poll.start counters bus)

/-- Reads registers and returns those that could be read, with what they held. -/
def Bus.readAll (channel : UInt8) : List Register → Bus → Bus × List (Register × UInt32)
  | [], bus => (bus, [])
  | register :: others, bus =>
      let (after, held) := bus.read channel register
      let (ended, found) := readAll channel others after
      (ended, match held with
        | some value => (register, value) :: found
        | none => found)

end AmpControl
