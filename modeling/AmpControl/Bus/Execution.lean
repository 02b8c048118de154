import AmpControl.Bus.Access
import AmpControl.Tuning.Script

/-!
# Carrying out scripts

The commands of a script are carried out one by one, each of them whether or not those before it
succeeded; the failures are counted. A script can also be compared with the registers instead of
being written to them.
-/

namespace AmpControl.Bus

open Tuning (Command Script)

/-- The microseconds of a number of milliseconds. -/
def milliseconds (amount : Nat) : Nat := amount * 1000

/-- Carries out one command and says whether it succeeded. -/
def carryOut (channel : UInt8) (command : Command) (bus : Bus) : Bus × Bool :=
  match command with
  | .write register value => bus.write channel register value.toUInt32
  | .burst register data => bus.burst channel register data
  | .update register mask value => bus.update channel register mask.toUInt32 value.toUInt32
  | .pause time => (bus.wait (milliseconds time.toNat), true)

/-- Carries out commands after `failures` have failed, and counts on. -/
def carryOutAll (channel : UInt8) : Script → (failures : Nat) → Bus → Bus × Nat
  | [], failures, bus => (bus, failures)
  | command :: others, failures, bus =>
      let outcome := bus.carryOut channel command
      carryOutAll channel others (if outcome.2 then failures else failures + 1) outcome.1

def execute (channel : UInt8) (script : Script) (bus : Bus) : Bus × Option TransportFault :=
  let outcome := carryOutAll channel script 0 bus
  (outcome.1, TransportFault.ofCount channel outcome.2)

/-- The register, the bits and the value that a command asks for; bursts and pauses ask nothing. -/
def expectation? : Command → Option (Register × UInt8 × UInt8)
  | .write register value => some (register, 0xFF, value)
  | .update register mask value => some (register, mask, value)
  | .burst _ _ | .pause _ => none

/-- Compares registers with commands, counting refused reads and telling mismatches. -/
def compareAll (channel : UInt8) :
    Script → (failures : Nat) → (agrees : Bool) → Bus → Bus × Nat × Bool
  | [], failures, agrees, bus => (bus, failures, agrees)
  | command :: others, failures, agrees, bus =>
      match expectation? command with
      | none => compareAll channel others failures agrees bus
      | some (register, mask, value) =>
          match bus.read channel register with
          | (after, none) => compareAll channel others (failures + 1) agrees after
          | (after, some held) =>
              let same := held &&& mask.toUInt32 == (value &&& mask).toUInt32
              compareAll channel others failures (agrees && same) after

/-- Tells whether the registers hold what a script would write to them. -/
def verify (channel : UInt8) (script : Script) (bus : Bus) : Bus × Except TransportFault Bool :=
  let (after, failures, agrees) := compareAll channel script 0 true bus
  (after,
    match TransportFault.ofCount channel failures with
    | none => .ok agrees
    | some fault => .error fault)

end AmpControl.Bus
