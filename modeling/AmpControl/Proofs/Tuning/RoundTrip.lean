import AmpControl.Proofs.Tuning.Globals
import AmpControl.Proofs.Tuning.Layout
import AmpControl.Proofs.Tuning.Tables
import AmpControl.Tuning.Draft

/-!
# Payloads are read as they were authored

A draft that can be stored whole is written out and read back without a change: the payload that is
read holds the header, the tables of each channel, the controls and the algorithm parameters of the
draft.
-/

namespace AmpControl.Tuning

open Read (Takes)

namespace ChannelDraft

variable {part : ChannelDraft} {profiles : List Profile} {groups : List Group} {declared : Nat}

/-- The sections of a channel, in the order in which they are written. -/
def frames (profiles : List Profile) (part : ChannelDraft) : List Frame :=
  (.initialisation, part.initialisation.encode) ::
    (part.audioInterface.toList.map (fun tables => (.audioInterface, tables.encode)) ++
      (.profiles, Profile.encodeTable profiles) ::
        (part.interrupts.toList.map (fun table => (.interrupts, table.encode)) ++
          [(.power, part.power.encode)]))

/-- A channel whose tables are stored whole. -/
structure Storable (part : ChannelDraft) : Prop where
  initialisation : part.initialisation.Storable
  audioInterface : ∀ tables ∈ part.audioInterface, tables.Storable
  interrupts : ∀ table ∈ part.interrupts, table.Storable
  power : part.power.Storable

instance (part : ChannelDraft) : Decidable part.Storable :=
  decidable_of_iff (part.initialisation.Storable ∧
      (∀ tables ∈ part.audioInterface, tables.Storable) ∧
      (∀ table ∈ part.interrupts, table.Storable) ∧ part.power.Storable)
    ⟨fun ⟨initialisation, audio, interrupts, power⟩ => ⟨initialisation, audio, interrupts, power⟩,
      fun ⟨initialisation, audio, interrupts, power⟩ => ⟨initialisation, audio, interrupts, power⟩⟩

/-- The tables of a channel that is written with the given profiles. -/
def tables (profiles : List Profile) (part : ChannelDraft) : ChannelTables :=
  ⟨part.initialisation, part.audioInterface, profiles, part.interrupts, part.power⟩

/-- The group that holds the sections of a channel. -/
def group (profiles : List Profile) (part : ChannelDraft) : Group :=
  ⟨part.initialisation, part.audioInterface, some profiles, part.interrupts, some part.power⟩

theorem encodeChannel_eq (profiles : List Profile) (part : ChannelDraft) :
    Draft.encodeChannel profiles part = (part.frames profiles).flatMap Section.stored := by
  obtain ⟨initialisation, audioInterface, interrupts, power⟩ := part
  cases audioInterface <;> cases interrupts <;>
    simp [Draft.encodeChannel, Draft.frameKind, frames, Section.stored]

theorem accepts_frames (storable : part.Storable)
    (profiles_storable : ∀ profile ∈ profiles, profile.Storable)
    (small : ∀ frame ∈ part.frames profiles, frame.2.length < UInt32.size)
    (room : groups.length < declared) :
    Assembly.AcceptsAll declared (.ofGroups groups) (part.frames profiles)
      (.ofGroups (groups ++ [part.group profiles])) := by
  have begun := Assembly.accepts_initialisation room
    (Script.takes_read storable.initialisation (small _ List.mem_cons_self))
  have audioInterface : Assembly.AcceptsAll declared
      (.ofGroups (groups ++ [Group.start part.initialisation]))
      (part.audioInterface.toList.map fun tables => (.audioInterface, tables.encode))
      (.ofGroups (groups ++ [⟨part.initialisation, part.audioInterface, none, none, none⟩])) := by
    refine .of_option (fun absent => by rw [absent, Group.start]) fun tables present => ?_
    have encodes := small (.audioInterface, tables.encode) (by simp [frames, present])
    rw [present]
    exact Assembly.accepts_audioInterface rfl
      (AudioInterface.takes_read (storable.audioInterface tables present) encodes)
  have profiled : Assembly.Accepts declared
      (.ofGroups (groups ++ [⟨part.initialisation, part.audioInterface, none, none, none⟩])) _ _ :=
    Assembly.accepts_profiles rfl (Profile.takes_readTable profiles_storable
      (small (.profiles, Profile.encodeTable profiles) (by simp [frames])))
  have interrupts : Assembly.AcceptsAll declared
      (.ofGroups
        (groups ++ [⟨part.initialisation, part.audioInterface, some profiles, none, none⟩]))
      (part.interrupts.toList.map fun table => (.interrupts, table.encode))
      (.ofGroups (groups ++
        [⟨part.initialisation, part.audioInterface, some profiles, part.interrupts, none⟩])) := by
    refine .of_option (fun absent => by rw [absent]) fun table present => ?_
    have encodes := small (.interrupts, table.encode) (by simp [frames, present])
    rw [present]
    exact Assembly.accepts_interrupts rfl
      (InterruptTable.takes_read (storable.interrupts table present) encodes)
  have powered : Assembly.Accepts declared (.ofGroups (groups ++
      [⟨part.initialisation, part.audioInterface, some profiles, part.interrupts, none⟩])) _ _ :=
    Assembly.accepts_power rfl (PowerScripts.takes_read storable.power
      (small (.power, part.power.encode) (by simp [frames])))
  exact begun.before (audioInterface.append (profiled.before (interrupts.append powered.all)))

end ChannelDraft

namespace Draft

variable {draft : Draft}

/-- The sections of a draft, in the order in which they are written. -/
def frames (draft : Draft) : List Frame :=
  (.header, draft.header.encode) ::
    (draft.channels.flatMap (ChannelDraft.frames draft.writtenProfiles) ++
      ((if draft.controls.isEmpty then []
        else [(.controls, Control.encodeTable draft.controls)]) ++
        draft.algorithm.toList.map fun parameters => (.algorithm, encodeParameters parameters)))

/-- A draft that can be stored whole, of a payload that keeps the rules. -/
structure Storable (draft : Draft) : Prop where
  header : draft.header.header.Storable
  declared : draft.header.header.channels.length = draft.channels.length
  channels : ∀ part ∈ draft.channels, part.Storable
  profiles : ∀ profile ∈ draft.profiles, profile.Storable
  controls : ∀ control ∈ draft.controls,
    control.Storable ∧ control.channel.toNat < draft.channels.length
  sections : ∀ frame ∈ draft.frames, frame.2.length < UInt32.size
  extra : draft.extra = []

instance (draft : Draft) : Decidable draft.Storable :=
  decidable_of_iff (draft.header.header.Storable ∧
      draft.header.header.channels.length = draft.channels.length ∧
      (∀ part ∈ draft.channels, part.Storable) ∧ (∀ profile ∈ draft.profiles, profile.Storable) ∧
      (∀ control ∈ draft.controls,
        control.Storable ∧ control.channel.toNat < draft.channels.length) ∧
      (∀ frame ∈ draft.frames, frame.2.length < UInt32.size) ∧ draft.extra = [])
    ⟨fun ⟨header, declared, channels, profiles, controls, sections, extra⟩ =>
        ⟨header, declared, channels, profiles, controls, sections, extra⟩,
      fun ⟨header, declared, channels, profiles, controls, sections, extra⟩ =>
        ⟨header, declared, channels, profiles, controls, sections, extra⟩⟩

/-- The payload that a draft stands for. -/
def payload (draft : Draft) : Payload where
  bytes := draft.build
  header := draft.header.header
  channels := draft.channels.map (ChannelDraft.tables draft.writtenProfiles)
  controls := draft.controls
  algorithm := draft.algorithm.getD []

theorem build_eq_frames (no_extra : draft.extra = []) :
    draft.build = draft.frames.flatMap Section.stored := by
  obtain ⟨header, channels, profiles, controls, algorithm, extra⟩ := draft
  subst no_extra
  have grouped (written : List Profile) :
      channels.flatMap (encodeChannel written) =
        (channels.flatMap (ChannelDraft.frames written)).flatMap Section.stored := by
    rw [List.flatMap_assoc]
    exact congrArg channels.flatMap (funext (ChannelDraft.encodeChannel_eq written))
  cases algorithm <;> cases controls <;>
    simp [build, frames, frameKind, Section.stored, grouped]

theorem writtenProfiles_storable (storable : draft.Storable) :
    ∀ profile ∈ draft.writtenProfiles, profile.Storable := by
  intro profile member
  rw [writtenProfiles] at member
  split at member
  · have fits : Name.Fits Name.width "default" := ⟨by decide +kernel, by decide +kernel⟩
    rw [List.mem_singleton.mp member]
    exact Profile.storable_empty fits 0
  · exact storable.profiles profile member

theorem accepts_channels {profiles : List Profile} {parts : List ChannelDraft}
    {groups : List Group} {declared : Nat} (storable : ∀ part ∈ parts, part.Storable)
    (profiles_storable : ∀ profile ∈ profiles, profile.Storable)
    (small : ∀ frame ∈ parts.flatMap (ChannelDraft.frames profiles), frame.2.length < UInt32.size)
    (room : groups.length + parts.length ≤ declared) :
    Assembly.AcceptsAll declared (.ofGroups groups) (parts.flatMap (ChannelDraft.frames profiles))
      (.ofGroups (groups ++ parts.map (ChannelDraft.group profiles))) := by
  induction parts generalizing groups with
  | nil =>
      rw [List.map_nil, List.append_nil]
      exact .nil declared _
  | cons first others ih =>
      rw [List.flatMap_cons] at small ⊢
      rw [List.length_cons] at room
      have more : (groups ++ [first.group profiles]).length + others.length ≤ declared := by
        rw [List.length_append, List.length_singleton]
        omega
      have begins := ChannelDraft.accepts_frames (storable first List.mem_cons_self)
        profiles_storable (fun frame member => small frame (List.mem_append_left _ member))
        (show groups.length < declared by omega)
      have follows := ih (fun part member => storable part (List.mem_cons_of_mem _ member))
        (fun frame member => small frame (List.mem_append_right _ member)) more
      rw [List.append_assoc] at follows
      exact begins.append follows

theorem finishAll_groups (profiles : List Profile) (parts : List ChannelDraft) (channel : Nat) :
    Group.finishAll channel (parts.map (ChannelDraft.group profiles)) =
      .ok (parts.map (ChannelDraft.tables profiles)) := by
  induction parts generalizing channel with
  | nil => rfl
  | cons first others ih =>
      rw [List.map_cons, Group.finishAll, ih]
      rfl

theorem takes_parameters {parameters : List AlgorithmParameter}
    (small : (encodeParameters parameters).length < UInt32.size) :
    Takes (Read.counted AlgorithmParameter.read) (encodeParameters parameters) parameters := by
  rw [encodeParameters, List.length_append] at small
  exact Read.takes_counted_of_small AlgorithmParameter.encode
    (fun parameter _ _ => parameter.takes_read) (fun _ _ => List.cons_ne_nil _ _) (by omega)

/-- The assembly that holds all sections of a draft. -/
def assembled (draft : Draft) : Assembly where
  groups := draft.channels.map (ChannelDraft.group draft.writtenProfiles)
  controls := if draft.controls.isEmpty then none else some draft.controls
  algorithm := draft.algorithm

theorem accepts_frames (storable : draft.Storable) :
    Assembly.AcceptsAll draft.header.header.channels.length Assembly.empty draft.frames.tail
      draft.assembled := by
  have small := storable.sections
  simp only [frames, List.mem_cons, List.mem_append] at small
  have channels : Assembly.AcceptsAll draft.header.header.channels.length (.ofGroups [])
      (draft.channels.flatMap (ChannelDraft.frames draft.writtenProfiles)) _ :=
    accepts_channels storable.channels (writtenProfiles_storable storable)
      (fun frame member => small frame (.inr (.inl member)))
      (by simp only [storable.declared, List.length_nil, Nat.zero_add, Nat.le_refl])
  have controls : Assembly.AcceptsAll draft.header.header.channels.length
      (.ofGroups (draft.channels.map (ChannelDraft.group draft.writtenProfiles)))
      (if draft.controls.isEmpty then []
        else [(.controls, Control.encodeTable draft.controls)])
      { draft.assembled with algorithm := none } := by
    rw [assembled]
    cases empty : draft.controls.isEmpty with
    | true => exact .nil _ _
    | false =>
        have encodes := small (.controls, Control.encodeTable draft.controls)
          (.inr (.inr (.inl (by simp [empty]))))
        exact (Assembly.accepts_controls rfl (Control.takes_readTable
          (fun control member => (storable.controls control member).1) encodes)).all
  have algorithm : Assembly.AcceptsAll draft.header.header.channels.length
      { draft.assembled with algorithm := none }
      (draft.algorithm.toList.map fun parameters => (.algorithm, encodeParameters parameters))
      draft.assembled := by
    refine .of_option (fun absent => by rw [assembled, absent]) fun parameters present => ?_
    have encodes := small (.algorithm, encodeParameters parameters)
      (.inr (.inr (.inr (by simp [present]))))
    have takes := takes_parameters encodes
    rw [assembled, present]
    exact Assembly.accepts_algorithm rfl takes
  exact channels.append (controls.append algorithm)

theorem finish_assembled (storable : draft.Storable) :
    draft.assembled.finish draft.build draft.header.header = .ok draft.payload := by
  have full : ¬draft.channels.length < draft.header.header.channels.length := by
    rw [storable.declared]
    exact Nat.lt_irrefl _
  have written : draft.assembled.controls.getD [] = draft.controls := by
    rw [assembled]
    cases draft.controls <;> rfl
  have known : draft.controls.find? (fun control =>
      draft.header.header.channels.length ≤ control.channel.toNat) = none := by
    refine List.find?_eq_none.mpr fun control member => ?_
    have below := (storable.controls control member).2
    rw [decide_eq_true_eq, storable.declared]
    exact Nat.not_le.mpr below
  rw [Assembly.finish]
  simp only [written, known]
  simp only [assembled, List.length_map, if_neg full, finishAll_groups]
  rfl

/-- A draft that can be stored whole is read back without a change. -/
theorem read_back (storable : draft.Storable) :
    (Parsed.ofPayload draft.build).outcome = .ok draft.payload := by
  have complete := finish_assembled storable
  rw [build_eq_frames storable.extra] at complete ⊢
  exact Parsed.outcome_of_frames storable.sections (Header.yields_read storable.header _)
    (accepts_frames storable) complete

/-- Two channels with something in every kind of section. -/
def furnished : Draft :=
  let register := Register.ofParts 1 2 0x30
  let variants : VariantTable := ⟨0, [(48000, Script.writing register 0x18)]⟩
  let slots : List SlotConfig := [⟨⟨"16_I2S_02_16_1", by decide +kernel⟩, [.burst register [1, 2]]⟩]
  let tables : AudioInterface :=
    ⟨variants, .empty, .empty, .empty, .empty, .empty, .empty, .empty, slots⟩
  let table : InterruptTable := {
    sources := [⟨"over-current", register, 0x04, Source.softResetAction, false⟩]
    unmask := [.update register 0xF0 0x10]
    mask := Script.writing register 0x00
    clear := [.pause 2]
    settleTime := 5
    dump := [register] }
  let gain : Control := ⟨"gain", 1, .anytime, .integer {
    register, mode := .masked, mask := 0xFF, lowest := -6, highest := 6, step := 3, initial := 0
    element := .byte, candidates := [0, 64, 128, 192, 255] }⟩
  let voicing : Control := ⟨"voicing", 0, .afterPowerUp, .choice {
    initial := 1, items := [("flat", []), ("warm", Script.writing register 0x01)] }⟩
  ((((((Draft.new 2).withAudioInterface 0 tables).withInterrupts 1 table).addProfile
    (Profile.marked "music" 0x21 0x10)).addControl gain).addControl voicing).addParameter ⟨7, 9⟩

theorem furnished_read_back :
    furnished.Storable ∧ (Parsed.ofPayload furnished.build).outcome = .ok furnished.payload := by
  have storable : furnished.Storable := by decide +kernel
  exact ⟨storable, read_back storable⟩

end Draft

end AmpControl.Tuning
