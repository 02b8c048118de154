import AmpControl.Tuning.Header

/-!
# Sections

A section is framed by its five-byte tag and the length of what follows:

    tag  length  payload

A payload is a header, then the sections of each channel, and then the sections that belong to no
channel. The initialisation section comes first in each channel's group and so marks where a group
begins: the channel of a section is the number of initialisation sections up to it, less one.
-/

namespace AmpControl.Tuning

/-- One framed section. -/
structure Section where
  kind : Kind
  /-- The channel whose group the section lies in, none before the first group. -/
  channel : Option UInt8
  /-- Where the tag begins. -/
  offset : Nat
  payload : Bytes
  deriving DecidableEq, Repr

/-- What a walk over framed sections finds: the sections, and the error at which it stopped. -/
structure Walk where
  sections : List Section
  stopped : Option FormatError
  deriving DecidableEq, Repr

namespace Section

/-- A tag, a length and a payload. -/
def frame (tag payload : Bytes) : Bytes := tag ++ LittleEndian.count payload.length ++ payload

def payloadOffset (part : Section) : Nat := part.offset + 9

/-- A reader over the bytes inside the frame, which reports offsets of the whole payload. -/
def reader (part : Section) : Reader := Reader.start part.payload part.payloadOffset

/-- The channel that a number of initialisation sections stands for; counting stops at 255. -/
def channelOf (groups : Nat) : Option UInt8 :=
  if groups = 0 then none else some (UInt8.ofNatClamp (min groups 255 - 1))

/-- One section, after `groups` initialisation sections. -/
def read (groups : Nat) : Read Section := do
  let offset ← Read.offset
  let tag ← Read.tag
  match Kind.ofTag? tag with
  | none => throw (.unknownTag tag offset)
  | some kind =>
      let payload ← Read.lengthPrefixed
      let reached := if kind = .initialisation then groups + 1 else groups
      return ⟨kind, channelOf reached, offset, payload⟩

end Section

namespace Walk

/-- Walks over at most `bound` sections. -/
def go : (bound : Nat) → (groups : Nat) → Reader → Walk
  | 0, _, _ => ⟨[], none⟩
  | bound + 1, groups, reader =>
      if reader.rest.isEmpty then ⟨[], none⟩
      else
        match Section.read groups reader with
        | .error error _ => ⟨[], some error⟩
        | .ok part after =>
            let reached := if part.kind = .initialisation then groups + 1 else groups
            let others := go bound reached after
            ⟨part :: others.sections, others.stopped⟩

/--
Every section of a payload up to the first error of framing. A section takes at least nine bytes, so
there are no more of them than bytes.
-/
def ofBytes (data : Bytes) : Walk := go data.length 0 (Reader.start data 0)

end Walk

namespace Section

/-- The number of channels that the header of a payload declares, 0 when it cannot be read. -/
def declaredChannels (data : Bytes) : UInt32 :=
  match (Walk.ofBytes data).sections with
  | first :: _ =>
      if first.kind = .header then (Header.peekChannelCount? first.payload).getD 0 else 0
  | [] => 0

/--
The first section of a kind, inside the group of a channel if one is given. Nothing is found past
the declared channels or past an error of framing.
-/
def find? (data : Bytes) (kind : Kind) (channel : Option UInt8) : Option Section :=
  let declared := declaredChannels data
  if declared = 0 ∨ channel.any (fun wanted => declared ≤ wanted.toUInt32) then none
  else
    (Walk.ofBytes data).sections.find? fun part =>
      part.kind = kind && channel.all fun wanted => part.channel = some wanted

end Section

end AmpControl.Tuning
