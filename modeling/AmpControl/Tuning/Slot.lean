import AmpControl.Text.Layout
import AmpControl.Tuning.Name
import AmpControl.Tuning.Script

/-!
# Sense slot configurations

Current and voltage sense travel in slots of the audio interface. For each arrangement of slots a
payload may author one script, under a key that spells the arrangement out: slot width, framing,
channel count, current-sense width and voltage sense, as in `16_TDM_02_16_1`. Where the wanted
arrangement is not authored, narrower ones are tried before voltage sense is given up.
-/

namespace AmpControl.Tuning

/-- How audio frames are laid out on the interface. -/
inductive Framing where
  | i2s
  | tdm
  deriving DecidableEq, Repr

/-- The part of a slot key that names the framing. -/
def Framing.label : Framing → String
  | i2s => "I2S"
  | tdm => "TDM"

/-- The width of the field that holds a slot key. -/
def slotKeyWidth : Nat := 16

/-- A slot key: a text that fits its field. -/
structure SlotKey where
  text : String
  fits : text.utf8ByteSize ≤ slotKeyWidth
  deriving DecidableEq, Repr

namespace SlotKey

/-- The key with the given text, if it fits. -/
def ofText? (text : String) : Option SlotKey :=
  if fits : text.utf8ByteSize ≤ slotKeyWidth then some ⟨text, fits⟩ else none

/-- The key of an arrangement of slots; a slot is never wider than the sense data in it. -/
def compose? (slotWidth : UInt8) (framing : Framing) (channels senseWidth : UInt8)
    (voltage : Bool) : Option SlotKey :=
  ofText? ("_".intercalate
    [Text.decimal 2 (min slotWidth.toNat senseWidth.toNat), framing.label,
      Text.decimal 2 channels.toNat, Text.decimal 2 senseWidth.toNat, if voltage then "1" else "0"])

def encode (key : SlotKey) : Bytes := Name.field slotKeyWidth key.text

def read : Read SlotKey := do
  match ofText? (← Name.readField slotKeyWidth) with
  | some key => return key
  | none => throw .badName

end SlotKey

/-- An authored slot configuration. -/
structure SlotConfig where
  key : SlotKey
  script : Script
  deriving DecidableEq, Repr

namespace SlotConfig

def encode (config : SlotConfig) : Bytes := config.key.encode ++ config.script.encode

def read : Read SlotConfig := do
  let key ← SlotKey.read
  return ⟨key, ← Script.read⟩

end SlotConfig

/-- A wanted arrangement of slots. -/
structure SlotRequest where
  slotWidth : UInt8
  framing : Framing
  channels : UInt8
  senseWidth : UInt8
  voltage : Bool
  deriving DecidableEq, Repr

namespace SlotRequest

/-- The current-sense widths that are tried after the wanted one. -/
def narrowerWidths : List UInt8 := [16, 12, 8]

/-- The wanted width and then each narrower one, widest first. -/
def widths (wanted : UInt8) : List UInt8 := wanted :: narrowerWidths.filter (· < wanted)

/--
The pairs of current-sense width and voltage sense in the order in which they are tried: every width
with voltage sense as wanted, and then, if it was wanted, every width without it.
-/
def ladder (senseWidth : UInt8) (voltage : Bool) : List (UInt8 × Bool) :=
  (widths senseWidth).map (fun width => (width, voltage)) ++
    if voltage then (widths senseWidth).map (fun width => (width, false)) else []

/-- The first authored configuration for the earliest pair of the ladder that has one. -/
def resolve (request : SlotRequest) (authored : List SlotConfig) : Option SlotConfig :=
  (ladder request.senseWidth request.voltage).findSome? fun (width, voltage) =>
    (SlotKey.compose? request.slotWidth request.framing request.channels width voltage).bind
      fun key => authored.find? fun config => config.key = key

end SlotRequest

end AmpControl.Tuning
