import AmpControl.Proofs.Tuning.Layout
import AmpControl.Proofs.Tuning.WrittenBack
import Mathlib.Logic.Function.Basic

/-!
# The tables in a row of sections

Each kind of section holds a table of its own type. What a row of sections holds is at most one
table of each kind, and the sections between two stages of reading are those that fill the slots
which were free before and are taken after.
-/

namespace AmpControl.Tuning

open Read (Restores SameLength Takes likeness_sameLength)

/-! ## Tables that fill their section -/

namespace Read

variable {α : Type} {read : Read α} {stored : Bytes} {value : α}

/-- A byte string is read to its end and gives a value. -/
def Decodes (read : Read α) (stored : Bytes) (value : α) : Prop :=
  ∃ after, read (Reader.start stored 0) = .ok value after ∧ after.rest = []

theorem Takes.decodes (takes : Takes read stored value) : Decodes read stored value := by
  have all := takes [] 0 0
  rw [List.append_nil] at all
  exact ⟨_, all, rfl⟩

/-- A read that succeeds and leaves nothing takes all that was left. -/
theorem Restores.takes_rest {alike : Bytes → Bytes → Prop} {encode : α → Bytes}
    (restores : Restores alike read encode) {reader after : Reader}
    (succeeds : read reader = .ok value after) (none_left : after.rest = []) :
    Takes read reader.rest value := by
  obtain ⟨taken, took⟩ := restores.took succeeds
  have whole : reader.rest = taken := by rw [took.rest, none_left, List.append_nil]
  exact whole ▸ took.takes

end Read

namespace Kind

/-- What a section of the kind holds. -/
abbrev Table : Kind → Type
  | header => Header
  | initialisation => Script
  | audioInterface => AudioInterface
  | profiles => List Profile
  | interrupts => InterruptTable
  | power => PowerScripts
  | controls => List Control
  | algorithm => List AlgorithmParameter

def read : (kind : Kind) → Read kind.Table
  | header => Header.read
  | initialisation => Script.read
  | audioInterface => AudioInterface.read
  | profiles => Profile.readTable
  | interrupts => InterruptTable.read
  | power => PowerScripts.read
  | controls => Control.readTable
  | algorithm => Read.counted AlgorithmParameter.read

/-- All sections but the header are written back; the header ends in bytes that nothing reads. -/
theorem restores_read {kind : Kind} (table : kind ≠ header) :
    ∃ encode, Restores SameLength kind.read encode := by
  have like := likeness_sameLength
  cases kind with
  | header => exact absurd rfl table
  | initialisation => exact ⟨_, Script.restores_read like⟩
  | audioInterface => exact ⟨_, AudioInterface.restores_read⟩
  | profiles => exact ⟨_, Profile.restores_readTable⟩
  | interrupts => exact ⟨_, InterruptTable.restores_read⟩
  | power => exact ⟨_, PowerScripts.restores_read like⟩
  | controls => exact ⟨_, Control.restores_readTable⟩
  | algorithm =>
      exact ⟨_, Read.restores_counted like (AlgorithmParameter.restores_read like)
        fun _ => List.cons_ne_nil _ _⟩

theorem takes_rest {kind : Kind} (table : kind ≠ header) {reader after : Reader}
    {value : kind.Table} (succeeds : kind.read reader = .ok value after)
    (none_left : after.rest = []) :
    Takes kind.read reader.rest value := by
  obtain ⟨encode, restores⟩ := kind.restores_read table
  exact restores.takes_rest succeeds none_left

theorem takes_of_decodes {kind : Kind} (table : kind ≠ header) {stored : Bytes}
    {value : kind.Table} (decodes : Read.Decodes kind.read stored value) :
    Takes kind.read stored value := by
  obtain ⟨after, succeeds, none_left⟩ := decodes
  exact takes_rest table succeeds none_left

end Kind

/-! ## Slots -/

/-- At most one table of each kind. -/
abbrev Slots := (kind : Kind) → Option kind.Table

namespace Slots

def empty : Slots := fun _ => none

def put (slots : Slots) (kind : Kind) (table : kind.Table) : Slots :=
  Function.update slots kind (some table)

@[simp] theorem put_self (slots : Slots) (kind : Kind) (table : kind.Table) :
    slots.put kind table kind = some table :=
  Function.update_self ..

theorem put_of_ne (slots : Slots) {kind other : Kind} (different : other ≠ kind)
    (table : kind.Table) : slots.put kind table other = slots other :=
  Function.update_of_ne different ..

end Slots

namespace Group

/-- The tables of a group. -/
def slots (group : Group) : Slots
  | .initialisation => some group.initialisation
  | .audioInterface => group.audioInterface
  | .profiles => group.profiles
  | .interrupts => group.interrupts
  | .power => group.power
  | .header | .controls | .algorithm => none

theorem ext_slots {group other : Group} (same : ∀ kind, group.slots kind = other.slots kind) :
    group = other := by
  obtain ⟨_, _, _, _, _⟩ := group
  obtain ⟨_, _, _, _, _⟩ := other
  cases same .initialisation
  cases same .audioInterface
  cases same .profiles
  cases same .interrupts
  cases same .power
  rfl

/-- The group with one more table, if a group may have it behind its initialisation section. -/
def put (group : Group) : (kind : Kind) → kind.Table → Group
  | .audioInterface, tables => { group with audioInterface := some tables }
  | .profiles, profiles => { group with profiles := some profiles }
  | .interrupts, table => { group with interrupts := some table }
  | .power, scripts => { group with power := some scripts }
  | .header, _ | .initialisation, _ | .controls, _ | .algorithm, _ => group

/-- A free slot of a group is filled, if there are groups with a table there. -/
theorem slots_put {group full : Group} {kind : Kind} {table : kind.Table}
    (free : group.slots kind = none) (held : full.slots kind = some table) :
    (group.put kind table).slots = group.slots.put kind table := by
  funext other
  cases kind with
  | header | controls | algorithm => cases held
  | initialisation => cases free
  | audioInterface | profiles | interrupts | power => cases other <;> rfl

theorem slots_start (script : Script) :
    (start script).slots = Slots.empty.put .initialisation script := by
  funext kind
  cases kind <;> rfl

end Group

namespace ChannelTables

/-- The group that a channel was finished from. -/
def group (tables : ChannelTables) : Group :=
  ⟨tables.initialisation, tables.audioInterface, some tables.profiles, tables.interrupts,
    some tables.power⟩

/-- The tables of a channel, by the kind of section that holds them. -/
def slots (tables : ChannelTables) : Slots
  | .initialisation => some tables.initialisation
  | .audioInterface => tables.audioInterface
  | .profiles => some tables.profiles
  | .interrupts => tables.interrupts
  | .power => some tables.power
  | .header | .controls | .algorithm => none

@[simp] theorem slots_group (tables : ChannelTables) : tables.group.slots = tables.slots := by
  funext kind
  cases kind <;> rfl

end ChannelTables

/-- The tables that were read and belong to no channel. -/
def Assembly.slots (assembly : Assembly) : Slots
  | .controls => assembly.controls
  | .algorithm => assembly.algorithm
  | .header | .initialisation | .audioInterface | .profiles | .interrupts | .power => none

theorem Assembly.ext_slots {assembly other : Assembly} (groups : assembly.groups = other.groups)
    (same : ∀ kind, assembly.slots kind = other.slots kind) : assembly = other := by
  obtain ⟨_, _, _⟩ := assembly
  obtain ⟨_, _, _⟩ := other
  cases groups
  cases same .controls
  cases same .algorithm
  rfl

theorem Assembly.slots_ofGroups (groups : List Group) : (ofGroups groups).slots = Slots.empty := by
  funext kind
  cases kind <;> rfl

/-- The assembly with one more table, if it belongs to no channel. -/
def Assembly.put (assembly : Assembly) : (kind : Kind) → kind.Table → Assembly
  | .controls, controls => { assembly with controls := some controls }
  | .algorithm, parameters => { assembly with algorithm := some parameters }
  | .header, _ | .initialisation, _ | .audioInterface, _ | .profiles, _ | .interrupts, _
  | .power, _ => assembly

theorem Assembly.groups_put (assembly : Assembly) {kind : Kind} (table : kind.Table) :
    (assembly.put kind table).groups = assembly.groups := by
  cases kind <;> rfl

theorem Assembly.slots_put (assembly : Assembly) {full : Assembly} {kind : Kind}
    {table : kind.Table} (held : full.slots kind = some table) :
    (assembly.put kind table).slots = assembly.slots.put kind table := by
  funext other
  cases kind with
  | header | initialisation | audioInterface | profiles | interrupts | power => cases held
  | controls | algorithm => cases other <;> rfl

/-! ## What frames hold -/

/-- The payloads of one kind of frame, in order. -/
def payloads (kind : Kind) (frames : List Frame) : List Bytes :=
  (frames.filter (·.1 = kind)).map (·.2)

/--
The frames of one kind and the table that is read of them: there is exactly one such frame, and it
decodes to the table, or there is no such frame and no table.
-/
def Holds (frames : List Frame) (kind : Kind) (slot : Option kind.Table) : Prop :=
  List.Forall₂ (Read.Decodes kind.read) (payloads kind frames) slot.toList

section

variable {frames : List Frame} {frame : Frame} {kind : Kind} {slot : Option kind.Table}

theorem holds_nil_iff : Holds [] kind slot ↔ slot = none := by
  cases slot with
  | none => exact ⟨fun _ => rfl, fun _ => .nil⟩
  | some table => exact ⟨nofun, nofun⟩

theorem holds_none_iff : Holds frames kind none ↔ ∀ frame ∈ frames, frame.1 ≠ kind := by
  simp [Holds, payloads]

theorem holds_cons_self {slot : Option frame.1.Table} :
    Holds (frame :: frames) frame.1 slot ↔ ∃ table, slot = some table ∧
      Read.Decodes frame.1.read frame.2 table ∧ Holds frames frame.1 none := by
  have first : payloads frame.1 (frame :: frames) = frame.2 :: payloads frame.1 frames := by
    simp [payloads]
  cases slot <;> simp [Holds, first]

theorem holds_cons_of_ne (other : frame.1 ≠ kind) :
    Holds (frame :: frames) kind slot ↔ Holds frames kind slot := by
  rw [Holds, payloads, List.filter_cons_of_neg (by simpa using other), Holds, payloads]

theorem holds_concat_self {table : frame.1.Table} (free : Holds frames frame.1 none)
    (decodes : Read.Decodes frame.1.read frame.2 table) :
    Holds (frames ++ [frame]) frame.1 (some table) := by
  have first : payloads frame.1 (frames ++ [frame]) = [frame.2] := by
    simpa [payloads] using holds_none_iff.mp free
  simp [Holds, first, decodes]

theorem holds_concat_of_ne (other : frame.1 ≠ kind) :
    Holds (frames ++ [frame]) kind slot ↔ Holds frames kind slot := by
  rw [Holds, payloads, List.filter_append, List.filter_cons_of_neg (by simpa using other),
    List.filter_nil, List.append_nil, Holds, payloads]

/-- Where a table is held there is a frame of its kind. -/
theorem mem_of_holds {table : kind.Table}
    (holds : Holds frames kind (some table)) : kind ∈ frames.map (·.1) := by
  by_contra absent
  have none_such : ∀ frame ∈ frames, frame.1 ≠ kind := by
    rintro frame member rfl
    exact absent (List.mem_map_of_mem member)
  have none_held := holds_none_iff.mpr none_such
  simp only [Holds, Option.toList_none, List.forall₂_nil_right_iff] at none_held
  rw [Holds, none_held] at holds
  cases holds

/-- Where one frame of a kind is held, it is read to its end. -/
theorem decodes_of_holds {slot : Option frame.1.Table}
    (holds : Holds frames frame.1 slot) (member : frame ∈ frames) :
    ∃ table, Read.Decodes frame.1.read frame.2 table := by
  have listed : frame.2 ∈ payloads frame.1 frames :=
    List.mem_map.mpr ⟨frame, List.mem_filter.mpr ⟨member, decide_eq_true rfl⟩, rfl⟩
  cases slot with
  | none => exact absurd rfl (holds_none_iff.mp holds frame member)
  | some table =>
      simp only [Holds, Option.toList_some, List.forall₂_cons_right_iff,
        List.forall₂_nil_right_iff] at holds
      obtain ⟨stored, _, decodes, rfl, alone⟩ := holds
      rw [alone, List.mem_singleton] at listed
      exact ⟨table, listed ▸ decodes⟩

end

/-- Frames between two stages: each fills a slot that was free, and no other slot changes. -/
def Fills (before : Slots) (frames : List Frame) (after : Slots) : Prop :=
  ∀ kind, (after kind = before kind ∧ Holds frames kind none) ∨
    (before kind = none ∧ Holds frames kind (after kind))

namespace Fills

variable {before after : Slots} {frames : List Frame} {frame : Frame}

theorem refl (slots : Slots) : Fills slots [] slots :=
  fun _ => .inl ⟨rfl, holds_nil_iff.mpr rfl⟩

theorem of_nil (fills : Fills before [] after) (kind : Kind) : after kind = before kind := by
  obtain ⟨same, _⟩ | ⟨free, holds⟩ := fills kind
  · exact same
  · exact (holds_nil_iff.mp holds).trans free.symm

theorem of_empty (fills : Fills Slots.empty frames after) (kind : Kind) :
    Holds frames kind (after kind) := by
  obtain ⟨same, holds⟩ | ⟨_, holds⟩ := fills kind
  · rwa [same]
  · exact holds

theorem from_empty (holds : ∀ kind, Holds frames kind (after kind)) :
    Fills Slots.empty frames after :=
  fun kind => .inr ⟨rfl, holds kind⟩

/-- The first frame fills its slot, and the others go on from there. -/
theorem of_cons (fills : Fills before (frame :: frames) after) :
    before frame.1 = none ∧ ∃ table, Read.Decodes frame.1.read frame.2 table ∧
      after frame.1 = some table ∧ Fills (before.put frame.1 table) frames after := by
  obtain ⟨_, absent⟩ | ⟨free, holds⟩ := fills frame.1
  · exact absurd rfl (holds_none_iff.mp absent frame List.mem_cons_self)
  obtain ⟨table, filled, decodes, absent⟩ := holds_cons_self.mp holds
  -- The slot of the first frame is taken from now on; no other slot has to do with this frame.
  refine ⟨free, table, decodes, filled, fun kind => ?_⟩
  by_cases same : kind = frame.1
  · subst same
    exact .inl ⟨by rw [filled, Slots.put_self], absent⟩
  · have others := fills kind
    rwa [holds_cons_of_ne (Ne.symm same), holds_cons_of_ne (Ne.symm same),
      ← before.put_of_ne same table] at others

/-- One more frame fills a slot that is still free. -/
theorem concat (fills : Fills before frames after) (frame : Frame) {table : frame.1.Table}
    (free : after frame.1 = none) (decodes : Read.Decodes frame.1.read frame.2 table) :
    Fills before (frames ++ [frame]) (after.put frame.1 table) := by
  intro kind
  by_cases same : kind = frame.1
  · subst same
    rw [Slots.put_self]
    obtain ⟨unchanged, absent⟩ | ⟨was, holds⟩ := fills frame.1
    · exact .inr ⟨unchanged ▸ free, holds_concat_self absent decodes⟩
    · exact .inr ⟨was, holds_concat_self (free ▸ holds) decodes⟩
  · rw [holds_concat_of_ne (Ne.symm same), holds_concat_of_ne (Ne.symm same),
      after.put_of_ne same]
    exact fills kind

end Fills

/-- The frames of a group that holds the given tables: its initialisation section comes first. -/
structure Slots.Grouped (slots : Slots) (frames : List Frame) : Prop where
  begins : ∃ stored others, frames = (.initialisation, stored) :: others
  holds : ∀ kind, Holds frames kind (slots kind)

/-- Where no table is held there is no frame. -/
theorem eq_nil_of_holds {frames : List Frame} (absent : ∀ kind, Holds frames kind none) :
    frames = [] :=
  List.eq_nil_iff_forall_not_mem.mpr fun frame member =>
    holds_none_iff.mp (absent frame.1) frame member rfl

end AmpControl.Tuning
