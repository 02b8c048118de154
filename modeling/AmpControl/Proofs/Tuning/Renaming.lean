import AmpControl.Proofs.Tuning.Clipping
import AmpControl.Proofs.Tuning.Division
import AmpControl.Proofs.Tuning.RoundTrip

/-!
# Drafts under other names

Names are stored in fields of one width. So a draft under other names has the same sections, and
they are as long; and what keeps it from being stored whole, apart from names that do not fit, has
nothing to do with its names.
-/

namespace AmpControl.Tuning

/-! ## The names of a draft -/

def Profile.rename (change : String → String) (profile : Profile) : Profile :=
  { profile with name := change profile.name }

def Source.rename (change : String → String) (source : Source) : Source :=
  { source with name := change source.name }

namespace InterruptTable

def names (table : InterruptTable) : List String := table.sources.map (·.name)

def rename (change : String → String) (table : InterruptTable) : InterruptTable :=
  { table with sources := table.sources.map (Source.rename change) }

end InterruptTable

namespace Control

def names (control : Control) : List String := control.name :: control.labels

def rename (change : String → String) (control : Control) : Control :=
  { control with
    name := change control.name
    body := match control.body with
      | .integer body => .integer body
      | .choice body =>
          .choice { body with items := body.items.map fun item => (change item.1, item.2) } }

end Control

namespace ChannelDraft

def names (part : ChannelDraft) : List String :=
  part.interrupts.toList.flatMap InterruptTable.names

def rename (change : String → String) (part : ChannelDraft) : ChannelDraft :=
  { part with interrupts := part.interrupts.map (InterruptTable.rename change) }

end ChannelDraft

namespace Draft

/-- The names that are handed to a draft. -/
def names (draft : Draft) : List String :=
  draft.header.header.name :: (draft.channels.flatMap ChannelDraft.names ++
    (draft.profiles.map (·.name) ++ draft.controls.flatMap Control.names))

/-- The draft with each of its names changed. -/
def rename (change : String → String) (draft : Draft) : Draft :=
  { draft with
    header := { draft.header with
      header := { draft.header.header with name := change draft.header.header.name } }
    channels := draft.channels.map (ChannelDraft.rename change)
    profiles := draft.profiles.map (Profile.rename change)
    controls := draft.controls.map (Control.rename change) }

end Draft

/-! ## How tables are written under other names -/

section

open Read (Likeness)

variable {alike : Bytes → Bytes → Prop} {change : String → String}

theorem Read.Likeness.front (like : Likeness alike) {early early' : Bytes}
    (same : alike early early') (late : Bytes) : alike (early ++ late) (early' ++ late) :=
  like.append same (like.refl late)

theorem Read.Likeness.back (like : Likeness alike) (early : Bytes) {late late' : Bytes}
    (same : alike late late') : alike (early ++ late) (early ++ late') :=
  like.append (like.refl early) same

theorem Read.Likeness.flatMap (like : Likeness alike) {α : Type} {items : List α}
    {encode other : α → Bytes} (each : ∀ item ∈ items, alike (encode item) (other item)) :
    alike (items.flatMap encode) (items.flatMap other) := by
  induction items with
  | nil => exact like.refl []
  | cons first others ih =>
      obtain ⟨one, rest⟩ := List.forall_mem_cons.mp each
      exact like.append one (ih rest)

variable (like : Likeness alike)
include like

theorem Profile.alike_rename {profile : Profile}
    (same : alike (Name.encode (change profile.name)) (Name.encode profile.name)) :
    alike (profile.rename change).encode profile.encode :=
  like.front (like.front (like.front (like.front (like.front same _) _) _) _) _

theorem Profile.alike_renameTable {profiles : List Profile}
    (same : ∀ profile ∈ profiles,
      alike (Name.encode (change profile.name)) (Name.encode profile.name)) :
    alike (encodeTable (profiles.map (rename change))) (encodeTable profiles) := by
  rw [encodeTable, List.length_map, List.flatMap_map]
  exact like.back _ (like.flatMap fun profile member => alike_rename like (same profile member))

theorem Source.alike_rename {source : Source}
    (same : alike (Name.encode (change source.name)) (Name.encode source.name)) :
    alike (source.rename change).encode source.encode :=
  like.front (like.front (like.front (like.front same _) _) _) _

theorem InterruptTable.alike_rename {table : InterruptTable}
    (same : ∀ name ∈ table.names, alike (Name.encode (change name)) (Name.encode name)) :
    alike (table.rename change).encode table.encode := by
  simp only [encode, rename, List.length_map, List.flatMap_map]
  refine like.front (like.front (like.front (like.front (like.front (like.front ?_ _) _) _) _) _) _
  refine like.back _ (like.flatMap fun source member => Source.alike_rename like ?_)
  exact same _ (List.mem_map_of_mem member)

theorem Control.alike_rename {control : Control}
    (same : ∀ name ∈ control.names, alike (Name.encode (change name)) (Name.encode name)) :
    alike (control.rename change).encode control.encode := by
  obtain ⟨name, channel, timing, body⟩ := control
  obtain ⟨named, labelled⟩ := List.forall_mem_cons.mp same
  cases body with
  | integer body => exact like.back [0] (like.front (like.front named _) _)
  | choice body =>
      refine like.back [1] (like.append (like.front named _) ?_)
      simp only [ChoiceControl.encode, List.length_map, List.flatMap_map]
      refine like.back _ (like.flatMap fun item member => like.front ?_ _)
      exact labelled _ (List.mem_map_of_mem member)

theorem Control.alike_renameTable {controls : List Control}
    (same : ∀ control ∈ controls, ∀ name ∈ control.names,
      alike (Name.encode (change name)) (Name.encode name)) :
    alike (encodeTable (controls.map (rename change))) (encodeTable controls) := by
  rw [encodeTable, List.length_map, List.flatMap_map]
  exact like.back _ (like.flatMap fun control member => alike_rename like (same control member))

/-- Frames of the same kinds, whose payloads are alike. -/
def FramesAlike (alike : Bytes → Bytes → Prop) : List Frame → List Frame → Prop :=
  List.Forall₂ fun frame other => frame.1 = other.1 ∧ alike frame.2 other.2

omit like in
theorem FramesAlike.flatMap {α : Type} {items : List α} {frames others : α → List Frame}
    (each : ∀ item ∈ items, FramesAlike alike (frames item) (others item)) :
    FramesAlike alike (items.flatMap frames) (items.flatMap others) := by
  induction items with
  | nil => exact .nil
  | cons first rest ih =>
      obtain ⟨one, all⟩ := List.forall_mem_cons.mp each
      exact List.rel_append one (ih all)

theorem FramesAlike.refl (frames : List Frame) : FramesAlike alike frames frames :=
  List.forall₂_same.mpr fun frame _ => ⟨rfl, like.refl frame.2⟩

theorem ChannelDraft.alike_frames {part : ChannelDraft} {profiles written : List Profile}
    (tables : alike (Profile.encodeTable profiles) (Profile.encodeTable written))
    (same : ∀ name ∈ part.names, alike (Name.encode (change name)) (Name.encode name)) :
    FramesAlike alike ((part.rename change).frames profiles) (part.frames written) := by
  refine .cons ⟨rfl, like.refl _⟩ (List.rel_append (FramesAlike.refl like _) ?_)
  refine .cons ⟨rfl, tables⟩ (List.rel_append ?_ (FramesAlike.refl like _))
  obtain ⟨initialisation, audioInterface, interrupts, power⟩ := part
  cases interrupts with
  | none => exact .nil
  | some table =>
      refine .cons ⟨rfl, InterruptTable.alike_rename like fun name member => same name ?_⟩ .nil
      exact List.mem_flatMap.mpr ⟨table, List.mem_singleton_self table, member⟩

/-- Under other names a draft has the same sections, whose payloads are alike if the names are. -/
theorem Draft.alike_frames {draft : Draft}
    (same : ∀ name ∈ draft.names, alike (Name.encode (change name)) (Name.encode name)) :
    FramesAlike alike (draft.rename change).frames draft.frames := by
  obtain ⟨header, others⟩ := List.forall_mem_cons.mp same
  obtain ⟨channels, rest⟩ := List.forall_mem_append.mp others
  obtain ⟨profiles, controls⟩ := List.forall_mem_append.mp rest
  have written : alike (Profile.encodeTable (draft.rename change).writtenProfiles)
      (Profile.encodeTable draft.writtenProfiles) := by
    simp only [writtenProfiles, rename, List.isEmpty_map]
    split
    · exact like.refl _
    · exact Profile.alike_renameTable like fun profile member =>
        profiles _ (List.mem_map_of_mem member)
  refine .cons ⟨rfl, ?_⟩ (List.rel_append ?_ (List.rel_append ?_ (FramesAlike.refl like _)))
  · exact like.front (like.front (like.front (like.front (like.front (like.front
      (like.back _ header) _) _) _) _) _) _
  · rw [rename, List.flatMap_map]
    exact FramesAlike.flatMap fun part member => ChannelDraft.alike_frames like written
      fun name named => channels name (List.mem_flatMap.mpr ⟨part, member, named⟩)
  · simp only [rename, List.isEmpty_map]
    split
    · exact .nil
    · refine .cons ⟨rfl, Control.alike_renameTable like fun control member name named => ?_⟩ .nil
      exact controls name (List.mem_flatMap.mpr ⟨control, member, named⟩)

end

/-! ## Drafts under other names -/

theorem InterruptTable.Storable.rename {table : InterruptTable} {change other : String → String}
    (storable : (table.rename other).Storable)
    (fits : ∀ name ∈ table.names, Name.Fits Name.width (change name)) :
    (table.rename change).Storable where
  sources := List.forall_mem_map.mpr fun source member =>
    fits source.name (List.mem_map_of_mem member)
  unmask := storable.unmask
  mask := storable.mask
  clear := storable.clear

theorem ChannelDraft.Storable.rename {part : ChannelDraft} {change other : String → String}
    (storable : (part.rename other).Storable)
    (fits : ∀ name ∈ part.names, Name.Fits Name.width (change name)) :
    (part.rename change).Storable where
  initialisation := storable.initialisation
  audioInterface := storable.audioInterface
  interrupts := by
    obtain ⟨initialisation, audioInterface, interrupts, power⟩ := part
    cases interrupts with
    | none => exact nofun
    | some table =>
        rintro _ ⟨⟩
        refine (storable.interrupts _ rfl).rename fun name member => fits name ?_
        exact List.mem_flatMap.mpr ⟨table, List.mem_singleton_self table, member⟩
  power := storable.power

theorem Control.Storable.rename {control : Control} {change other : String → String}
    (storable : (control.rename other).Storable)
    (fits : ∀ name ∈ control.names, Name.Fits Name.width (change name)) :
    (control.rename change).Storable := by
  obtain ⟨name, channel, timing, body⟩ := control
  obtain ⟨named, labelled⟩ := List.forall_mem_cons.mp fits
  cases body with
  | integer body => exact ⟨named, storable.body⟩
  | choice body =>
      have whole : ∀ item ∈ body.items, Name.Fits Name.width (other item.1) ∧ item.2.Storable :=
        List.forall_mem_map.mp storable.body
      refine ⟨named, List.forall_mem_map.mpr fun item member => ⟨?_, (whole item member).2⟩⟩
      exact labelled _ (List.mem_map_of_mem member)

namespace Draft

variable {draft : Draft} {change other : String → String}

/-- Names that are written alike make no difference to the bytes. -/
theorem build_rename (no_extra : draft.extra = [])
    (same : ∀ name ∈ draft.names, Name.encode (change name) = Name.encode name) :
    (draft.rename change).build = draft.build := by
  have frames : (draft.rename change).frames = draft.frames := by
    rw [← List.forall₂_eq_eq_eq]
    exact (alike_frames Read.likeness_eq same).imp fun _ _ equal => Prod.ext equal.1 equal.2
  have renamed : (draft.rename change).extra = [] := no_extra
  rw [build_eq_frames no_extra, build_eq_frames renamed, frames]

/-- Fields have one width, so the lengths of the sections do not depend on the names. -/
theorem lengths_rename (draft : Draft) (change : String → String) :
    (draft.rename change).frames.map (·.2.length) = draft.frames.map (·.2.length) := by
  have widths : ∀ name ∈ draft.names,
      Read.SameLength (Name.encode (change name)) (Name.encode name) := fun name _ => by
    rw [Read.SameLength, Name.encode, Name.encode, Name.length_field, Name.length_field]
  rw [← List.forall₂_eq_eq_eq, List.forall₂_map_left_iff, List.forall₂_map_right_iff]
  exact (alike_frames Read.likeness_sameLength widths).imp fun _ _ same => same.2.symm

theorem framable_rename (draft : Draft) (change : String → String) :
    Framable (draft.rename change).frames ↔ Framable draft.frames := by
  have of_lengths (frames : List Frame) : Framable frames ↔
      ∀ length ∈ frames.map (·.2.length), length < UInt32.size := by
    rw [List.forall_mem_map, Framable]
  rw [of_lengths, of_lengths, lengths_rename]

/-- A draft that can be stored under some names can be stored under all names that fit. -/
theorem Storable.rename (storable : (draft.rename other).Storable)
    (fits : ∀ name ∈ draft.names, Name.Fits Name.width (change name)) :
    (draft.rename change).Storable := by
  obtain ⟨header, rest⟩ := List.forall_mem_cons.mp fits
  obtain ⟨channels, rest⟩ := List.forall_mem_append.mp rest
  obtain ⟨profiles, controls⟩ := List.forall_mem_append.mp rest
  refine ⟨{ storable.header with name := header }, ?_, ?_, ?_, ?_, ?_, storable.extra⟩
  · simpa only [Draft.rename, List.length_map] using storable.declared
  · refine List.forall_mem_map.mpr fun part member => ?_
    refine (List.forall_mem_map.mp storable.channels part member).rename fun name named => ?_
    exact channels name (List.mem_flatMap.mpr ⟨part, member, named⟩)
  · refine List.forall_mem_map.mpr fun profile member => ?_
    exact { List.forall_mem_map.mp storable.profiles profile member with
      name := profiles _ (List.mem_map_of_mem member) }
  · refine List.forall_mem_map.mpr fun control member => ?_
    obtain ⟨whole, declared⟩ := List.forall_mem_map.mp storable.controls control member
    refine ⟨whole.rename fun name named => ?_, ?_⟩
    · exact controls name (List.mem_flatMap.mpr ⟨control, member, named⟩)
    · rw [Draft.rename, List.length_map] at declared ⊢
      exact declared
  · exact (draft.framable_rename change).mpr ((draft.framable_rename other).mp storable.sections)

end Draft

end AmpControl.Tuning
