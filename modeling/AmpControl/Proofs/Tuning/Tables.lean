import AmpControl.Proofs.Tuning.Name
import AmpControl.Proofs.Tuning.Script
import AmpControl.Tuning.AudioInterface
import AmpControl.Tuning.InterruptTable
import AmpControl.Tuning.Profile

/-!
# The tables of a channel as they are stored

A table is read back if its texts fit their fields, its scripts are stored whole and the table is
short enough for its length to be counted.
-/

namespace AmpControl.Tuning

open Read (Takes)

namespace Profile

variable {profile : Profile} {profiles : List Profile}

/-- A profile that is stored whole. -/
structure Storable (profile : Profile) : Prop where
  name : Name.Fits Name.width profile.name
  beforePowerUp : profile.beforePowerUp.Storable
  afterPowerUp : profile.afterPowerUp.Storable
  beforePowerDown : profile.beforePowerDown.Storable
  afterPowerDown : profile.afterPowerDown.Storable

instance (profile : Profile) : Decidable profile.Storable :=
  decidable_of_iff (Name.Fits Name.width profile.name ∧ profile.beforePowerUp.Storable ∧
      profile.afterPowerUp.Storable ∧ profile.beforePowerDown.Storable ∧
      profile.afterPowerDown.Storable)
    ⟨fun ⟨name, up, afterUp, down, afterDown⟩ => ⟨name, up, afterUp, down, afterDown⟩,
      fun ⟨name, up, afterUp, down, afterDown⟩ => ⟨name, up, afterUp, down, afterDown⟩⟩

theorem storable_empty {name : String} (fits : Name.Fits Name.width name)
    (capabilities : UInt32) : (empty name capabilities).Storable where
  name := fits
  beforePowerUp := Script.storable_nil
  afterPowerUp := Script.storable_nil
  beforePowerDown := Script.storable_nil
  afterPowerDown := Script.storable_nil

theorem encode_ne_nil (profile : Profile) : profile.encode ≠ [] := by
  refine List.length_pos_iff.mp ?_
  simp only [encode, Name.encode, List.length_append, Name.length_field, Name.width]
  omega

theorem takes_read (storable : profile.Storable) (small : profile.encode.length < UInt32.size) :
    Takes read profile.encode profile := by
  simp only [encode, List.append_assoc, List.length_append] at small ⊢
  refine .bind (Name.takes_read storable.name) (.bind (Read.takes_word profile.capabilities) ?_)
  refine .bind (Script.takes_read storable.beforePowerUp (by omega)) ?_
  refine .bind (Script.takes_read storable.afterPowerUp (by omega)) ?_
  refine .bind (Script.takes_read storable.beforePowerDown (by omega)) ?_
  exact (Script.takes_read storable.afterPowerDown (by omega)).map
    (Profile.mk profile.name profile.capabilities profile.beforePowerUp profile.afterPowerUp
      profile.beforePowerDown)

theorem takes_readTable (storable : ∀ profile ∈ profiles, profile.Storable)
    (small : (encodeTable profiles).length < UInt32.size) :
    Takes readTable (encodeTable profiles) profiles := by
  rw [encodeTable, List.length_append] at small
  exact Read.takes_counted_of_small encode
    (fun profile member => takes_read (storable profile member))
    (fun profile _ => profile.encode_ne_nil) (by omega)

end Profile

namespace Source

variable {source : Source}

theorem encode_ne_nil (source : Source) : source.encode ≠ [] :=
  List.append_ne_nil_of_right_ne_nil _ (List.cons_ne_nil _ _)

theorem takes_read (fits : Name.Fits Name.width source.name) :
    Takes read source.encode source := by
  simp only [encode, List.append_assoc]
  refine .bind (Name.takes_read fits) (.bind (Read.takes_word source.status.raw) ?_)
  refine .bind (Read.takes_word source.mask) (.bind (Read.takes_word source.actions) ?_)
  exact Read.takes_flag source.clockBased
    (Source.mk source.name source.status source.mask source.actions)

end Source

namespace InterruptTable

variable {table : InterruptTable}

/-- An interrupt table that is stored whole. -/
structure Storable (table : InterruptTable) : Prop where
  sources : ∀ source ∈ table.sources, Name.Fits Name.width source.name
  unmask : table.unmask.Storable
  mask : table.mask.Storable
  clear : table.clear.Storable

instance (table : InterruptTable) : Decidable table.Storable :=
  decidable_of_iff ((∀ source ∈ table.sources, Name.Fits Name.width source.name) ∧
      table.unmask.Storable ∧ table.mask.Storable ∧ table.clear.Storable)
    ⟨fun ⟨sources, unmask, mask, clear⟩ => ⟨sources, unmask, mask, clear⟩,
      fun ⟨sources, unmask, mask, clear⟩ => ⟨sources, unmask, mask, clear⟩⟩

theorem takes_read (storable : table.Storable) (small : table.encode.length < UInt32.size) :
    Takes read table.encode table := by
  simp only [encode, List.append_assoc, List.length_append] at small ⊢
  have dumped : table.dump.flatMap (fun register => LittleEndian.word register.raw) =
      (table.dump.map (·.raw)).flatMap LittleEndian.word := (List.flatMap_map _ _ _).symm
  have named : (table.dump.map (·.raw)).map Register.mk = table.dump := by
    rw [List.map_map]
    exact List.map_id _
  have sources := Read.takes_counted_of_small Source.encode
    (fun source member _ => Source.takes_read (storable.sources source member))
    (fun source _ => source.encode_ne_nil) (by omega)
  have dump : Takes (Read.counted Read.word) _ (table.dump.map (·.raw)) :=
    Read.takes_counted_of_small LittleEndian.word (fun register _ _ => Read.takes_word register)
      (fun _ _ => List.cons_ne_nil _ _) (dumped ▸ by omega)
  have last := dump.map fun registers => InterruptTable.mk table.sources table.unmask table.mask
    table.clear table.settleTime (registers.map Register.mk)
  rw [named, List.length_map, ← dumped] at last
  rw [← List.append_assoc]
  refine .bind sources ?_
  refine .bind (Script.takes_read storable.unmask (by omega)) ?_
  refine .bind (Script.takes_read storable.mask (by omega)) ?_
  refine .bind (Script.takes_read storable.clear (by omega)) ?_
  exact .bind (Read.takes_word table.settleTime) last

end InterruptTable

namespace VariantTable

variable {table : VariantTable}

/-- A table of variants whose scripts are stored whole. -/
def Storable (table : VariantTable) : Prop := ∀ entry ∈ table.variants, entry.2.Storable

instance (table : VariantTable) : Decidable table.Storable :=
  inferInstanceAs (Decidable (∀ entry ∈ table.variants, entry.2.Storable))

theorem takes_readVariant {entry : UInt32 × Script} (storable : entry.2.Storable)
    (small : (encodeVariant entry).length < UInt32.size) :
    Takes readVariant (encodeVariant entry) entry := by
  simp only [encodeVariant, List.length_append] at small ⊢
  exact .bind (Read.takes_word entry.1)
    ((Script.takes_read storable (by omega)).map (Prod.mk entry.1))

theorem takes_read (storable : table.Storable) (small : table.encode.length < UInt32.size) :
    Takes read table.encode table := by
  simp only [encode, List.append_assoc, List.length_append] at small ⊢
  have variants := Read.takes_counted_of_small encodeVariant
    (fun entry member => takes_readVariant (storable entry member))
    (fun _ _ => List.cons_ne_nil _ _) (by omega)
  exact .bind (Read.takes_word table.fallback) (variants.map (VariantTable.mk table.fallback))

end VariantTable

namespace SlotKey

theorem takes_read {key : SlotKey} (plain : Char.ofNat 0 ∉ key.text.toList) :
    Takes read key.encode key := by
  have taken := Name.takes_readField ⟨plain, key.fits⟩
  intro rest position base
  simp only [read, bind, EStateM.bind, encode, taken rest position base, ofText?, dif_pos key.fits]
  rfl

end SlotKey

namespace SlotConfig

variable {config : SlotConfig}

/-- A slot configuration that is stored whole. -/
structure Storable (config : SlotConfig) : Prop where
  key : Char.ofNat 0 ∉ config.key.text.toList
  script : config.script.Storable

instance (config : SlotConfig) : Decidable config.Storable :=
  decidable_of_iff (Char.ofNat 0 ∉ config.key.text.toList ∧ config.script.Storable)
    ⟨fun ⟨key, script⟩ => ⟨key, script⟩, fun ⟨key, script⟩ => ⟨key, script⟩⟩

theorem encode_ne_nil (config : SlotConfig) : config.encode ≠ [] :=
  List.append_ne_nil_of_right_ne_nil _ config.script.encode_ne_nil

theorem takes_read (storable : config.Storable) (small : config.encode.length < UInt32.size) :
    Takes read config.encode config := by
  simp only [encode, List.length_append] at small ⊢
  exact .bind (SlotKey.takes_read storable.key)
    ((Script.takes_read storable.script (by omega)).map (SlotConfig.mk config.key))

end SlotConfig

namespace AudioInterface

variable {tables : AudioInterface}

/-- Audio interface tables that are stored whole. -/
structure Storable (tables : AudioInterface) : Prop where
  settings : ∀ setting ∈ Setting.all, (tables.table setting).Storable
  slots : ∀ config ∈ tables.slots, config.Storable

instance (tables : AudioInterface) : Decidable tables.Storable :=
  decidable_of_iff ((∀ setting ∈ Setting.all, (tables.table setting).Storable) ∧
      ∀ config ∈ tables.slots, config.Storable)
    ⟨fun ⟨settings, slots⟩ => ⟨settings, slots⟩, fun ⟨settings, slots⟩ => ⟨settings, slots⟩⟩

theorem takes_read (storable : tables.Storable) (small : tables.encode.length < UInt32.size) :
    Takes read tables.encode tables := by
  have setting (setting) := storable.settings setting (by cases setting <;> decide)
  simp only [encode, Setting.all, List.flatMap_cons, List.flatMap_nil, table, List.append_assoc,
    List.append_nil, List.length_append] at small ⊢
  have slots := Read.takes_counted_of_small SlotConfig.encode
    (fun config member => SlotConfig.takes_read (storable.slots config member))
    (fun config _ => config.encode_ne_nil) (by omega)
  refine .bind (VariantTable.takes_read (setting .sampleRate) (by omega)) ?_
  refine .bind (VariantTable.takes_read (setting .formatInversion) (by omega)) ?_
  refine .bind (VariantTable.takes_read (setting .formatMask) (by omega)) ?_
  refine .bind (VariantTable.takes_read (setting .receiveSlots) (by omega)) ?_
  refine .bind (VariantTable.takes_read (setting .transmitSlots) (by omega)) ?_
  refine .bind (VariantTable.takes_read (setting .receiveBitWidth) (by omega)) ?_
  refine .bind (VariantTable.takes_read (setting .receiveSlotLength) (by omega)) ?_
  refine .bind (VariantTable.takes_read (setting .transmitSlotLength) (by omega)) ?_
  exact slots.map (AudioInterface.mk tables.sampleRate tables.formatInversion tables.formatMask
    tables.receiveSlots tables.transmitSlots tables.receiveBitWidth tables.receiveSlotLength
    tables.transmitSlotLength)

end AudioInterface

end AmpControl.Tuning
