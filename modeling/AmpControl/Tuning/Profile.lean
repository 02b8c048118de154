import AmpControl.Channel
import AmpControl.Tuning.Name
import AmpControl.Tuning.Script

/-!
# Profiles

A profile is a named set of four scripts, one for each point of a power transition, with a word of
capability bits:

    0 to 3   the channels that take part in power requests, none for all
    4        the algorithm controls are bypassed
    5        sense data is cleared and armed again on power-up

Every channel stores its own copy of the profiles; the copy of channel 0 decides on capabilities.
-/

namespace AmpControl.Tuning

/-- A point of a power transition. -/
inductive Phase where
  | beforePowerUp
  | afterPowerUp
  | beforePowerDown
  | afterPowerDown
  deriving DecidableEq, Repr

/-- A named set of transition scripts. -/
structure Profile where
  name : String
  capabilities : UInt32
  beforePowerUp : Script
  afterPowerUp : Script
  beforePowerDown : Script
  afterPowerDown : Script
  deriving DecidableEq, Repr

namespace Profile

def channelBits : UInt32 := 0x0F

/-- The capability bit that arms sense data again on power-up. -/
def rearmBit : UInt32 := 0x20

def empty (name : String) (capabilities : UInt32) : Profile :=
  ⟨name, capabilities, [], [], [], []⟩

/-- The script for a point of a power transition. -/
def script (profile : Profile) : Phase → Script
  | .beforePowerUp => profile.beforePowerUp
  | .afterPowerUp => profile.afterPowerUp
  | .beforePowerDown => profile.beforePowerDown
  | .afterPowerDown => profile.afterPowerDown

/-- The channels, of the first `count`, that a profile lets power requests touch. -/
def channelMask (profile : Profile) (count : UInt8) : UInt8 :=
  let selected := (profile.capabilities &&& channelBits).toUInt8
  if selected = 0 then Channel.all count else selected &&& Channel.all count

def encode (profile : Profile) : Bytes :=
  Name.encode profile.name ++ LittleEndian.word profile.capabilities ++
    profile.beforePowerUp.encode ++ profile.afterPowerUp.encode ++
    profile.beforePowerDown.encode ++ profile.afterPowerDown.encode

def read : Read Profile := do
  let name ← Name.read
  let capabilities ← Read.word
  let beforePowerUp ← Script.read
  let afterPowerUp ← Script.read
  let beforePowerDown ← Script.read
  let afterPowerDown ← Script.read
  return ⟨name, capabilities, beforePowerUp, afterPowerUp, beforePowerDown, afterPowerDown⟩

/-- The stored form of the profiles of a channel. -/
def encodeTable (profiles : List Profile) : Bytes :=
  LittleEndian.count profiles.length ++ profiles.flatMap encode

def readTable : Read (List Profile) := Read.counted read

end Profile

end AmpControl.Tuning
