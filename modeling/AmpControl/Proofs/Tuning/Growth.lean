import AmpControl.Proofs.Tuning.Slots
import Mathlib.Data.List.Forall2

/-!
# How an assembly grows

A section is added to an assembly in one of three ways: it begins a group, it fills a free slot of
the last group, or it fills a free slot outside of the groups. The three ways say all that decides
whether a section is added, so nothing else about sections has to be looked at for whole payloads.
-/

namespace AmpControl.Tuning.Assembly

variable {declared : Nat} {assembly grown : Assembly} {part : Section}

/-- What one section makes of an assembly. -/
inductive Grows (declared : Nat) : Assembly → Frame → Assembly → Prop
  /-- A group begins, unless all of them did or sections outside of the groups have been read. -/
  | begins {groups : List Group} {stored : Bytes} {script : Script}
      (room : groups.length < declared) (decodes : Read.Decodes Script.read stored script) :
      Grows declared (ofGroups groups) (.initialisation, stored)
        (ofGroups (groups ++ [Group.start script]))
  /-- The last group takes a table up, unless sections outside of the groups have been read. -/
  | fillsGroup {groups : List Group} {group filled : Group} {kind : Kind} {stored : Bytes}
      {table : kind.Table} (free : group.slots kind = none)
      (decodes : Read.Decodes kind.read stored table)
      (puts : filled.slots = group.slots.put kind table) :
      Grows declared (ofGroups (groups ++ [group])) (kind, stored) (ofGroups (groups ++ [filled]))
  /-- A table outside of the groups is taken up. -/
  | fills {assembly grown : Assembly} {kind : Kind} {stored : Bytes} {table : kind.Table}
      (free : assembly.slots kind = none) (decodes : Read.Decodes kind.read stored table)
      (groups : grown.groups = assembly.groups)
      (puts : grown.slots = assembly.slots.put kind table) :
      Grows declared assembly (kind, stored) grown

/-! ## What was added grew in one of these ways -/

theorem eq_ofGroups (going : assembly.groupsOver = false) :
    assembly = ofGroups assembly.groups := by
  obtain ⟨groups, controls, algorithm⟩ := assembly
  obtain ⟨noControls, noAlgorithm⟩ := Bool.or_eq_false_iff.mp going
  cases controls
  · cases algorithm
    · rfl
    · cases noAlgorithm
  · cases noControls

theorem decodes_of_whole {kind : Kind} (table : kind ≠ .header) {value : kind.Table}
    (all : whole (kind.read part.reader) = .ok value) :
    Read.Decodes kind.read part.payload value := by
  cases succeeds : kind.read part.reader with
  | error error after => rw [succeeds] at all; cases all
  | ok read after =>
      rw [succeeds] at all
      by_cases none_left : after.rest.isEmpty
      · simp only [whole, none_left, if_true, Except.ok.injEq] at all
        subst all
        exact (Kind.takes_rest table succeeds (List.isEmpty_iff.mp none_left)).decodes
      · simp only [whole, none_left, Bool.false_eq_true, if_false] at all
        cases all

theorem of_fill {kind : Kind} (table : kind ≠ .header) {place : Option kind.Table}
    {value : kind.Table} (filled : fill part place kind.read = .ok value) :
    place = none ∧ Read.Decodes kind.read part.payload value := by
  unfold fill at filled
  split at filled
  · cases filled
  · cases place with
    | some taken => cases filled
    | none => exact ⟨rfl, decodes_of_whole table filled⟩

theorem of_fillGroup {into : Group → Except FormatError Group}
    (filled : assembly.fillGroup part into = .ok grown) :
    ∃ groups group after, assembly = ofGroups (groups ++ [group]) ∧ into group = .ok after ∧
      grown = ofGroups (groups ++ [after]) := by
  unfold fillGroup at filled
  split at filled
  · rename_i group last
    obtain ⟨groups, ends⟩ := List.getLast?_eq_some_iff.mp last
    cases closed : assembly.groupsOver with
    | true => rw [closed] at filled; cases filled
    | false =>
        rw [closed] at filled
        obtain ⟨after, fills, made⟩ := passed_bind filled
        cases made
        have alone := eq_ofGroups closed
        rw [ends] at alone
        refine ⟨groups, group, after, alone, fills, ?_⟩
        rw [alone]
        simp only [ofGroups, List.dropLast_concat]
  · cases filled

/-- A section that is read into the last group fills a slot of it. -/
theorem grows_of_fillGroup {kind : Kind} {payload : Bytes} {channel : Option UInt8} {offset : Nat}
    (table : kind ≠ .header)
    (holds : ∀ (group : Group) value, (group.put kind value).slots kind = some value)
    (filled : (assembly.fillGroup ⟨kind, channel, offset, payload⟩ fun group => do
      let value ← fill ⟨kind, channel, offset, payload⟩ (group.slots kind) kind.read
      return group.put kind value) = .ok grown) :
    Grows declared assembly (kind, payload) grown := by
  obtain ⟨groups, group, after, rfl, fills, rfl⟩ := of_fillGroup filled
  obtain ⟨value, one, made⟩ := passed_bind fills
  cases made
  obtain ⟨free, decodes⟩ := of_fill table one
  exact .fillsGroup free decodes (Group.slots_put free (holds group value))

/-- A section that is added is added in one of the three ways. -/
theorem grows_of_add (added : assembly.add declared part = .ok grown) :
    Grows declared assembly part.content grown := by
  obtain ⟨kind, channel, offset, payload⟩ := part
  cases kind with
  | header => cases added
  | initialisation =>
      simp only [add] at added
      split at added
      · cases added
      · rename_i going
        obtain ⟨room, closed⟩ := not_or.mp going
        obtain ⟨script, all, made⟩ := passed_bind added
        cases made
        rw [eq_ofGroups (Bool.eq_false_of_not_eq_true closed)]
        have table : Kind.initialisation ≠ .header := by decide
        exact .begins (Nat.lt_of_not_le room) (decodes_of_whole table all)
  | audioInterface | profiles | interrupts | power =>
      exact grows_of_fillGroup (by simp) (fun _ _ => rfl) added
  | controls =>
      obtain ⟨controls, one, made⟩ := passed_bind added
      cases made
      have table : Kind.controls ≠ .header := by decide
      obtain ⟨free, decodes⟩ := of_fill table one
      have held : (assembly.put .controls controls).slots .controls = some controls := rfl
      exact .fills free decodes rfl (assembly.slots_put held)
  | algorithm =>
      obtain ⟨parameters, one, made⟩ := passed_bind added
      cases made
      have table : Kind.algorithm ≠ .header := by decide
      obtain ⟨free, decodes⟩ := of_fill table one
      have held : (assembly.put .algorithm parameters).slots .algorithm = some parameters := rfl
      exact .fills free decodes rfl (assembly.slots_put held)

/-! ## What grows in one of these ways is added -/

theorem Grows.accepts {frame : Frame} (grows : Grows declared assembly frame grown) :
    Accepts declared assembly frame grown := by
  cases grows with
  | begins room decodes =>
      have table : Kind.initialisation ≠ .header := by decide
      exact accepts_initialisation room (Kind.takes_of_decodes table decodes)
  | @fillsGroup groups group filled kind stored table free decodes puts =>
      have held : filled.slots kind = some table := by rw [puts, Slots.put_self]
      have takes (inner : kind ≠ .header) := Kind.takes_of_decodes inner decodes
      obtain rfl : filled = group.put kind table :=
        Group.ext_slots fun other => by rw [puts, Group.slots_put free held]
      -- Only the slots of a group can have been filled, and the first of them is never free.
      cases kind with
      | header | controls | algorithm => cases held
      | initialisation => cases free
      | audioInterface => exact accepts_audioInterface free (takes nofun)
      | profiles => exact accepts_profiles free (takes nofun)
      | interrupts => exact accepts_interrupts free (takes nofun)
      | power => exact accepts_power free (takes nofun)
  | @fills _ _ kind stored table free decodes groups puts =>
      have held : grown.slots kind = some table := by rw [puts, Slots.put_self]
      have takes (shared : kind ≠ .header) := Kind.takes_of_decodes shared decodes
      obtain rfl : grown = assembly.put kind table :=
        ext_slots (groups.trans (assembly.groups_put table).symm) fun other => by
          rw [puts, assembly.slots_put held]
      cases kind with
      | header | initialisation | audioInterface | profiles | interrupts | power => cases held
      | controls => exact accepts_controls free (takes nofun)
      | algorithm => exact accepts_algorithm free (takes nofun)

/-! ## Rows of sections -/

variable {frames others : List Frame} {rows : List (List Frame)} {groups early : List Group}

theorem acceptsAll_of_group_fills {before after : Group}
    (fills : Fills before.slots frames after.slots) :
    AcceptsAll declared (ofGroups (groups ++ [before])) frames (ofGroups (groups ++ [after])) := by
  induction frames generalizing before with
  | nil =>
      rw [Group.ext_slots fills.of_nil]
      exact .nil declared _
  | cons frame others ih =>
      obtain ⟨free, table, decodes, held, rest⟩ := fills.of_cons
      have puts := Group.slots_put free held
      have step : Grows declared (ofGroups (groups ++ [before])) frame
          (ofGroups (groups ++ [before.put frame.1 table])) := .fillsGroup free decodes puts
      exact step.accepts.before (ih (puts ▸ rest))

theorem acceptsAll_of_fills {after : Assembly} (groups : after.groups = assembly.groups)
    (fills : Fills assembly.slots frames after.slots) :
    AcceptsAll declared assembly frames after := by
  induction frames generalizing assembly with
  | nil =>
      rw [ext_slots groups fills.of_nil]
      exact .nil declared _
  | cons frame others ih =>
      obtain ⟨free, table, decodes, held, rest⟩ := fills.of_cons
      have same := assembly.groups_put table
      have puts := assembly.slots_put held
      have step : Grows declared assembly frame (assembly.put frame.1 table) :=
        .fills free decodes same puts
      exact step.accepts.before (ih (groups.trans same.symm) (puts ▸ rest))

theorem acceptsAll_group {group : Group} (room : groups.length < declared)
    (grouped : group.slots.Grouped frames) :
    AcceptsAll declared (ofGroups groups) frames (ofGroups (groups ++ [group])) := by
  obtain ⟨⟨stored, others, rfl⟩, holds⟩ := grouped
  obtain ⟨_, script, decodes, _, rest⟩ := (Fills.from_empty holds).of_cons
  rw [← Group.slots_start script] at rest
  exact (Grows.begins room decodes).accepts.before (acceptsAll_of_group_fills rest)

theorem acceptsAll_groups
    (grouped : List.Forall₂ (fun group frames => group.slots.Grouped frames) groups rows)
    (room : early.length + groups.length ≤ declared) :
    AcceptsAll declared (ofGroups early) rows.flatten (ofGroups (early ++ groups)) := by
  induction grouped generalizing early with
  | nil =>
      rw [List.append_nil]
      exact .nil declared _
  | @cons group frames groups rows first _ ih =>
      rw [List.length_cons] at room
      have more : (early ++ [group]).length + groups.length ≤ declared := by
        rw [List.length_append, List.length_singleton]
        omega
      have free : early.length < declared := by omega
      have begun := acceptsAll_group free first
      have follows := ih more
      rw [List.append_assoc, List.singleton_append] at follows
      exact begun.append follows

/-- What an assembly was read from: the frames of each group, and then those outside of them. -/
structure ReadFrom (assembly : Assembly) (rows : List (List Frame)) (others : List Frame) :
    Prop where
  groups : List.Forall₂ (fun group frames => group.slots.Grouped frames) assembly.groups rows
  others : ∀ kind, Holds others kind (assembly.slots kind)

theorem ReadFrom.nothing : empty.ReadFrom [] [] :=
  ⟨.nil, fun kind => holds_nil_iff.mpr (congrFun (slots_ofGroups []) kind)⟩

theorem acceptsAll_of_readFrom (few : assembly.groups.length ≤ declared)
    (readFrom : assembly.ReadFrom rows others) :
    AcceptsAll declared empty (rows.flatten ++ others) assembly := by
  have groups : AcceptsAll declared (ofGroups []) rows.flatten (ofGroups assembly.groups) :=
    acceptsAll_groups readFrom.groups (by rwa [List.length_nil, Nat.zero_add])
  have outside := Fills.from_empty readFrom.others
  rw [← slots_ofGroups assembly.groups] at outside
  exact groups.append (acceptsAll_of_fills rfl outside)

theorem exists_of_forall₂ {α β : Type} {related : α → β → Prop} {items : List α} {row : List β}
    (both : List.Forall₂ related items row) {entry : β} (member : entry ∈ row) :
    ∃ item ∈ items, related item entry := by
  induction both with
  | nil => cases member
  | cons one _ ih =>
      rcases List.mem_cons.mp member with rfl | later
      · exact ⟨_, List.mem_cons_self, one⟩
      · obtain ⟨item, listed, holds⟩ := ih later
        exact ⟨item, List.mem_cons_of_mem _ listed, holds⟩

theorem forall₂_concat_left {α β : Type} {related : α → β → Prop} {items : List α} {last : α}
    {row : List β} (both : List.Forall₂ related (items ++ [last]) row) :
    ∃ front back, row = front ++ [back] ∧ List.Forall₂ related items front ∧ related last back := by
  have reversed := List.forall₂_reverse_iff.mpr both
  rw [List.reverse_append, List.reverse_singleton, List.singleton_append] at reversed
  obtain ⟨back, front, one, all, made⟩ := List.forall₂_cons_left_iff.mp reversed
  refine ⟨front.reverse, back, by simpa using congrArg List.reverse made, ?_, one⟩
  exact List.forall₂_reverse_iff.mp (by rwa [List.reverse_reverse])

/-- A section goes on with the last group, begins the next one, or stands outside of them. -/
theorem ReadFrom.grow {frame : Frame} (readFrom : assembly.ReadFrom rows others)
    (grows : Grows declared assembly frame grown) :
    ∃ grownRows grownOthers, grown.ReadFrom grownRows grownOthers ∧
      grownRows.flatten ++ grownOthers = rows.flatten ++ others ++ [frame] := by
  cases grows with
  | @begins groups stored script room decodes =>
      -- Nothing has been read outside of the groups, or no group could begin.
      have outside := readFrom.others
      rw [slots_ofGroups] at outside
      have none_yet := eq_nil_of_holds outside
      have fills := (Fills.refl Slots.empty).concat (.initialisation, stored) rfl decodes
      rw [← Group.slots_start] at fills
      refine ⟨rows ++ [[(.initialisation, stored)]], [], ⟨?_, none_yet ▸ readFrom.others⟩, ?_⟩
      · exact List.rel_append readFrom.groups (.cons ⟨⟨stored, [], rfl⟩, fills.of_empty⟩ .nil)
      · simp [none_yet]
  | @fillsGroup groups group filled kind stored table free decodes puts =>
      have outside := readFrom.others
      rw [slots_ofGroups] at outside
      have none_yet := eq_nil_of_holds outside
      obtain ⟨front, frames, rfl, earlier, last⟩ := forall₂_concat_left readFrom.groups
      have fills := (Fills.from_empty last.holds).concat (kind, stored) free decodes
      rw [← puts] at fills
      obtain ⟨begun, inner, rfl⟩ := last.begins
      refine ⟨front ++ [(.initialisation, begun) :: inner ++ [(kind, stored)]], [],
        ⟨?_, none_yet ▸ readFrom.others⟩, ?_⟩
      · exact List.rel_append earlier (.cons ⟨⟨begun, inner ++ [_], rfl⟩, fills.of_empty⟩ .nil)
      · simp [none_yet]
  | @fills _ _ kind stored table free decodes groups puts =>
      have fills := (Fills.from_empty readFrom.others).concat (kind, stored) free decodes
      rw [← puts] at fills
      refine ⟨rows, others ++ [(kind, stored)], ⟨groups ▸ readFrom.groups, fills.of_empty⟩, ?_⟩
      rw [List.append_assoc]

end AmpControl.Tuning.Assembly
