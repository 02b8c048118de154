import AmpControl.Bytes

/-!
# Channel masks

A set of channels is a byte with one bit per channel, the lowest bit for channel 0. Channels past
the eighth have no bit.
-/

namespace AmpControl.Channel

/-- The bit of a channel, zero past the eighth. -/
def bit (channel : UInt8) : UInt8 := if channel < 8 then 1 <<< channel else 0

/-- The mask of the first `count` channels. -/
def all (count : UInt8) : UInt8 := if count < 8 then (1 <<< count) - 1 else 255

def within (mask channel : UInt8) : Bool := mask &&& bit channel != 0

/-- The first `count` channels, ascending. -/
def upTo (count : UInt8) : List UInt8 := (List.range count.toNat).map UInt8.ofNat

/-- The channels of a mask among the first `count`, ascending. -/
def among (mask count : UInt8) : List UInt8 := (upTo count).filter (within mask)

def mask (channels : List UInt8) : UInt8 :=
  channels.foldl (fun held channel => held ||| bit channel) 0

end AmpControl.Channel
