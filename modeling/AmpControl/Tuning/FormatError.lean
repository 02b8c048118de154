import AmpControl.Text.Layout
import AmpControl.Tuning.Kind

/-!
# Format errors

Everything that can be wrong with a tuning payload, each with the one line that reports it. Offsets
count from the start of the payload.
-/

namespace AmpControl.Tuning

def supportedVersion : UInt32 := 3

/-- The largest number of channels that a payload may declare. -/
def maxChannels : Nat := 4

/-- The record field, or the rule on the order of sections, that a payload breaks. -/
inductive Rule where
  | registerOffset
  | applyTiming
  | controlKind
  | writeMode
  | controlStep
  | controlRange
  | elementKind
  | channelBeyondCount
  | misplacedSection
  | duplicateSection
  | trailingBytes
  | controlChannel
  deriving DecidableEq, Repr

/-- The words that stand for a rule in a report. -/
def Rule.label : Rule → String
  | registerOffset => "register offset"
  | applyTiming => "apply timing"
  | controlKind => "control kind"
  | writeMode => "write mode"
  | controlStep => "control step"
  | controlRange => "control range"
  | elementKind => "element kind"
  | channelBeyondCount => "channel beyond declared count"
  | misplacedSection => "misplaced section"
  | duplicateSection => "duplicate section"
  | trailingBytes => "trailing section bytes"
  | controlChannel => "control channel"

/-- Why a payload was refused. -/
inductive FormatError where
  | truncated (offset needed available : Nat)
  | missingHeader
  | unknownTag (tag : Bytes) (offset : Nat)
  | missingSection (kind : Kind) (channel : Nat)
  | unsupportedVersion (found : UInt32)
  | badChannelCount (count : UInt32)
  | unknownOpcode (opcode : UInt8) (offset : Nat)
  | scriptOverrun (declared : Nat)
  | invalidRecord (rule : Rule) (value : UInt32)
  | badName
  deriving DecidableEq, Repr

def FormatError.message : FormatError → String
  | truncated offset needed available =>
      s!"truncated at offset {offset}: needed {needed} bytes, {available} available"
  | missingHeader => "payload does not start with HEADR"
  | unknownTag tag offset =>
      let numbers := ", ".intercalate (tag.map fun byte => toString byte.toNat)
      s!"unknown section tag [{numbers}] at offset {offset}"
  | missingSection kind channel =>
      s!"mandatory section {kind.label} missing for channel {channel}"
  | unsupportedVersion found =>
      s!"blob version {found} exceeds supported version {supportedVersion}"
  | badChannelCount count => s!"unsupported channel count {count}"
  | unknownOpcode opcode offset =>
      let digits := Text.hex 2 opcode.toNat
      s!"unknown opcode {digits} at offset {offset}"
  | scriptOverrun declared =>
      s!"command block overruns its declared length of {declared} bytes"
  | invalidRecord rule value => s!"invalid {rule.label}: {value}"
  | badName => "name field is not valid UTF-8"

end AmpControl.Tuning
