import AmpControl.Tuning.Slot

/-!
# Audio interface tables

The audio interface has eight settings. For each one a channel may author a script per variant, and
name one of the variants as the fallback. A variant that is not authored is refused; the fallback
never stands in for it.
-/

namespace AmpControl.Tuning

/-- A setting of the audio interface. -/
inductive Setting where
  | sampleRate
  | formatInversion
  | formatMask
  | receiveSlots
  | transmitSlots
  | receiveBitWidth
  | receiveSlotLength
  | transmitSlotLength
  deriving DecidableEq, Repr

namespace Setting

/-- Every setting, in stored order. -/
def all : List Setting :=
  [sampleRate, formatInversion, formatMask, receiveSlots, transmitSlots, receiveBitWidth,
    receiveSlotLength, transmitSlotLength]

def label : Setting → String
  | sampleRate => "sample-rate"
  | formatInversion => "fmt-inversion"
  | formatMask => "fmt-mask"
  | receiveSlots => "rx-slots"
  | transmitSlots => "tx-slots"
  | receiveBitWidth => "rx-bitwidth"
  | receiveSlotLength => "rx-slot-length"
  | transmitSlotLength => "tx-slot-length"

def ofLabel? (name : String) : Option Setting := all.find? fun setting => setting.label == name

end Setting

/-- A wanted variant of a setting. -/
inductive Variant where
  | value (value : UInt32)
  | fallback
  deriving DecidableEq, Repr

/-- A variant for which no script is authored. -/
structure UnsupportedVariant where
  setting : Setting
  value : UInt32
  deriving DecidableEq, Repr

/-- The authored variants of one setting. -/
structure VariantTable where
  /-- The place of the fallback among the variants. -/
  fallback : UInt32
  /-- The variants and their scripts, in authored order. -/
  variants : List (UInt32 × Script)
  deriving DecidableEq, Repr

namespace VariantTable

def empty : VariantTable := ⟨0, []⟩

/-- The script of a variant; of two scripts for one value the first counts. -/
def select? (table : VariantTable) : Variant → Option Script
  | .value value => (table.variants.find? fun entry => entry.1 == value).map (·.2)
  | .fallback => table.variants[table.fallback.toNat]?.map (·.2)

def encodeVariant (entry : UInt32 × Script) : Bytes :=
  LittleEndian.word entry.1 ++ Script.encode entry.2

def encode (table : VariantTable) : Bytes :=
  LittleEndian.word table.fallback ++ LittleEndian.count table.variants.length ++
    table.variants.flatMap encodeVariant

def readVariant : Read (UInt32 × Script) := do
  let value ← Read.word
  return (value, ← Script.read)

def read : Read VariantTable := do
  let fallback ← Read.word
  return ⟨fallback, ← Read.counted readVariant⟩

end VariantTable

/-- The audio interface tables of one channel. -/
structure AudioInterface where
  sampleRate : VariantTable
  formatInversion : VariantTable
  formatMask : VariantTable
  receiveSlots : VariantTable
  transmitSlots : VariantTable
  receiveBitWidth : VariantTable
  receiveSlotLength : VariantTable
  transmitSlotLength : VariantTable
  /-- The authored sense slot configurations, in authored order. -/
  slots : List SlotConfig
  deriving DecidableEq, Repr

namespace AudioInterface

def table (tables : AudioInterface) : Setting → VariantTable
  | .sampleRate => tables.sampleRate
  | .formatInversion => tables.formatInversion
  | .formatMask => tables.formatMask
  | .receiveSlots => tables.receiveSlots
  | .transmitSlots => tables.transmitSlots
  | .receiveBitWidth => tables.receiveBitWidth
  | .receiveSlotLength => tables.receiveSlotLength
  | .transmitSlotLength => tables.transmitSlotLength

/-- The script of a variant. A missing fallback is reported by its place in the table. -/
def select (tables : AudioInterface) (setting : Setting) (variant : Variant) :
    Except UnsupportedVariant Script :=
  match (tables.table setting).select? variant with
  | some script => .ok script
  | none =>
      .error ⟨setting, match variant with
        | .value value => value
        | .fallback => (tables.table setting).fallback⟩

/-- The fallback script of every setting that has one, in stored order. -/
def fallbacks (tables : AudioInterface) : List (Setting × Script) :=
  Setting.all.filterMap fun setting =>
    ((tables.table setting).select? .fallback).map fun script => (setting, script)

def encode (tables : AudioInterface) : Bytes :=
  (Setting.all.flatMap fun setting => (tables.table setting).encode) ++
    LittleEndian.count tables.slots.length ++ tables.slots.flatMap SlotConfig.encode

def read : Read AudioInterface := do
  let sampleRate ← VariantTable.read
  let formatInversion ← VariantTable.read
  let formatMask ← VariantTable.read
  let receiveSlots ← VariantTable.read
  let transmitSlots ← VariantTable.read
  let receiveBitWidth ← VariantTable.read
  let receiveSlotLength ← VariantTable.read
  let transmitSlotLength ← VariantTable.read
  let slots ← Read.counted SlotConfig.read
  return ⟨sampleRate, formatInversion, formatMask, receiveSlots, transmitSlots, receiveBitWidth,
    receiveSlotLength, transmitSlotLength, slots⟩

end AudioInterface

end AmpControl.Tuning
