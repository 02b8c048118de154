import AmpControl.Tuning.Name

/-!
# Headers

The header names the payload and declares its channels. Its version is looked at before anything
else, so a payload of a later version is refused for that reason and no other.
-/

namespace AmpControl.Tuning

/-- The identity of one amplifier channel. -/
structure ChannelIdentity where
  deviceId : UInt32
  busAddress : UInt32
  deriving DecidableEq, Repr

namespace ChannelIdentity

def encode (identity : ChannelIdentity) : Bytes :=
  LittleEndian.word identity.deviceId ++ LittleEndian.word identity.busAddress

def read : Read ChannelIdentity := do
  let deviceId ← Read.word
  return ⟨deviceId, ← Read.word⟩

end ChannelIdentity

/-- What a payload says about itself. -/
structure Header where
  version : UInt32
  name : String
  timestamp : UInt32
  channels : List ChannelIdentity
  /-- The bit width of current sense. -/
  senseWidth : UInt8
  voltageSense : Bool
  features : UInt32
  deriving DecidableEq, Repr

namespace Header

/-- The feature bit that puts the interrupt tables in use. -/
def interruptBit : UInt32 := 1

def channelCount (header : Header) : UInt8 := UInt8.ofNatClamp header.channels.length

def interruptsSupported (header : Header) : Bool := header.features &&& interruptBit != 0

/-- The stored form of a header, followed by `reserved` bytes that no reader looks at. -/
def encode (header : Header) (reserved : Nat) : Bytes :=
  LittleEndian.word header.version ++ Name.encode header.name ++
    LittleEndian.word header.timestamp ++ LittleEndian.count header.channels.length ++
    header.channels.flatMap ChannelIdentity.encode ++
    [header.senseWidth, if header.voltageSense then 1 else 0] ++
    LittleEndian.word header.features ++ LittleEndian.zeros reserved

/-- A header with all of the section that holds it. -/
def read : Read Header := do
  let version ← Read.word
  if supportedVersion < version then throw (.unsupportedVersion version)
  let name ← Name.read
  let timestamp ← Read.word
  let count ← Read.word
  if count = 0 ∨ maxChannels < count.toNat then throw (.badChannelCount count)
  let channels ← Read.records ChannelIdentity.read count.toNat
  let senseWidth ← Read.byte
  let voltageSense ← Read.byte
  let features ← Read.word
  let _ ← Read.remainder
  return ⟨version, name, timestamp, channels, senseWidth, voltageSense != 0, features⟩

/-- The channel count that a stored header declares, whatever the rest of it holds. -/
def peekChannelCount? (payload : Bytes) : Option UInt32 :=
  match (do Read.skip (4 + Name.width + 4); Read.word : Read UInt32) (Reader.start payload 0) with
  | .ok count _ => some count
  | .error _ _ => none

end Header

end AmpControl.Tuning
