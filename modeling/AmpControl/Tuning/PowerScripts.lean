import AmpControl.Tuning.Script

/-!
# Core scripts

The five scripts that every channel has: reset, power-up, power-down, mute, and the register values
that show that the channel is powered.
-/

namespace AmpControl.Tuning

/-- The core scripts of a channel. -/
structure PowerScripts where
  softReset : Script
  powerUp : Script
  powerDown : Script
  mute : Script
  /-- The registers of a powered channel, to be compared and not written. -/
  check : Script
  deriving DecidableEq, Repr

namespace PowerScripts

def encode (scripts : PowerScripts) : Bytes :=
  scripts.softReset.encode ++ scripts.powerUp.encode ++ scripts.powerDown.encode ++
    scripts.mute.encode ++ scripts.check.encode

def read : Read PowerScripts := do
  let softReset ← Script.read
  let powerUp ← Script.read
  let powerDown ← Script.read
  let mute ← Script.read
  let check ← Script.read
  return ⟨softReset, powerUp, powerDown, mute, check⟩

end PowerScripts

end AmpControl.Tuning
