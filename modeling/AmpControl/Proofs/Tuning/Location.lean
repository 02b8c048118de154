import AmpControl.Proofs.Tuning.Grammar
import Mathlib.Data.List.Find

/-!
# Sections are found where they were read

A section is looked up without reading the payload: the channels are counted out of the header, and
the group of a section is counted while the sections are walked over. In a payload that was read,
what is found this way is what the payload was read from.
-/

namespace AmpControl.Tuning

/-! ## Rows of sections -/

/-- A section is read to its end and gives a table. -/
def Section.Decodes (kind : Kind) (part : Section) (table : kind.Table) : Prop :=
  ∃ after, kind.read part.reader = .ok table after ∧ after.rest = []

theorem Section.decodes_of_payload {kind : Kind} (table : kind ≠ .header) {part : Section}
    {value : kind.Table} (decodes : Read.Decodes kind.read part.payload value) :
    part.Decodes kind value := by
  have all := Kind.takes_of_decodes table decodes [] 0 part.payloadOffset
  rw [List.append_nil] at all
  exact ⟨_, all, rfl⟩

theorem Section.channelOf_succ_eq_some_iff {index : Nat} (few : index < 255) {channel : UInt8} :
    channelOf (index + 1) = some channel ↔ index = channel.toNat := by
  have kept : (UInt8.ofNatClamp index).toNat = index :=
    UInt8.toNat_ofNatClamp_of_lt (Nat.lt_succ_of_lt few)
  rw [channelOf, if_neg (Nat.succ_ne_zero index), Nat.min_eq_left few, Nat.succ_sub_one,
    Option.some.injEq, ← UInt8.toNat_inj, kept]

namespace Walk

theorem find?_placed {frames : List Frame} {kind : Kind} {slot : Option kind.Table}
    (holds : Holds frames kind slot) (table : kind ≠ .header) (begun offset : Nat) :
    Option.Rel (Section.Decodes kind)
      ((placed begun offset frames).find? fun part => part.kind = kind) slot := by
  induction frames generalizing slot begun offset with
  | nil =>
      rw [holds_nil_iff.mp holds]
      exact .none
  | cons frame frames ih =>
      rw [placed]
      by_cases same : frame.1 = kind
      · subst same
        obtain ⟨value, rfl, decodes, _⟩ := holds_cons_self.mp holds
        rw [List.find?_cons_of_pos (by simp [Section.placed])]
        exact .some (Section.decodes_of_payload table decodes)
      · rw [List.find?_cons_of_neg (by simp [Section.placed, same])]
        exact ih ((holds_cons_of_ne same).mp holds) _ _

/-- No group begins within frames that hold no initialisation section. -/
theorem channel_of_mem_placed {frames : List Frame} {begun offset : Nat} {part : Section}
    (plain : Holds frames .initialisation none) (member : part ∈ placed begun offset frames) :
    part.channel = Section.channelOf begun := by
  induction frames generalizing offset with
  | nil => cases member
  | cons frame frames ih =>
      have other : frame.1 ≠ .initialisation := holds_none_iff.mp plain frame List.mem_cons_self
      rw [placed, Section.reached, if_neg other] at member
      cases member with
      | head => rw [Section.placed, Section.reached, if_neg other]
      | tail _ member => exact ih ((holds_cons_of_ne other).mp plain) member

/-- The sections of a group lie in its channel. -/
theorem channel_of_mem_group {slots : Slots} {frames : List Frame} {begun offset : Nat}
    {part : Section} (grouped : slots.Grouped frames) (member : part ∈ placed begun offset frames) :
    part.channel = Section.channelOf (begun + 1) := by
  obtain ⟨⟨stored, others, rfl⟩, holds⟩ := grouped
  obtain ⟨_, _, _, plain⟩ := holds_cons_self.mp (holds .initialisation)
  cases member with
  | head => rfl
  | tail _ member => exact channel_of_mem_placed plain member

end Walk

theorem Slots.Grouped.countP {slots : Slots} {frames : List Frame}
    (grouped : slots.Grouped frames) : frames.countP (·.1 = .initialisation) = 1 := by
  obtain ⟨⟨stored, others, rfl⟩, holds⟩ := grouped
  obtain ⟨_, _, _, plain⟩ := holds_cons_self.mp (holds .initialisation)
  rw [List.countP_cons_of_pos (by simp), Nat.add_eq_right]
  exact List.countP_eq_zero.mpr fun frame member => by
    simpa using holds_none_iff.mp plain frame member

/-- Sections that hold the tables of a channel. -/
def ChannelTables.LieIn (tables : ChannelTables) (sections : List Section) : Prop :=
  ∀ kind, kind ≠ .header → Option.Rel (Section.Decodes kind)
    (sections.find? fun part => part.kind = kind) (tables.slots kind)

/-- The groups lie one behind the other, each in the channel that is counted to. -/
theorem Walk.groups_of_rows {channels : List ChannelTables} {rows : List (List Frame)}
    (grouped : List.Forall₂ (fun tables frames => tables.slots.Grouped frames) channels rows)
    (begun offset : Nat) : ∃ groups past,
      (∀ others, placed begun offset (rows.flatten ++ others) =
        groups.flatten ++ placed (begun + rows.length) past others) ∧
      List.Forall₂ ChannelTables.LieIn channels groups ∧
      ∀ index sections, groups[index]? = some sections → ∀ part ∈ sections,
        part.channel = Section.channelOf (begun + index + 1) := by
  -- By the groups; the number of groups that have begun is the channel of the next one.
  induction grouped generalizing begun offset with
  | nil => exact ⟨[], offset, fun _ => rfl, .nil, nofun⟩
  | @cons tables frames channels rows first _ ih =>
      obtain ⟨groups, past, lie, hold, channel⟩ :=
        ih (begun + 1) (offset + (frames.flatMap Section.stored).length)
      refine ⟨placed begun offset frames :: groups, past, fun others => ?_, ?_, ?_⟩
      · rw [List.flatten_cons, List.append_assoc, placed_append, first.countP, lie,
          List.flatten_cons, List.append_assoc, List.length_cons, Nat.add_assoc, Nat.add_comm 1]
      · exact .cons (fun kind table => find?_placed (first.holds kind) table begun offset) hold
      · intro index sections found part member
        cases index with
        | zero =>
            cases found
            exact channel_of_mem_group first member
        | succ index =>
            rw [channel index sections found part member, Nat.add_assoc begun 1, Nat.add_comm 1]

/-! ## The sections of a payload that was read -/

/-- The header, the group of each channel, and the sections that belong to no channel. -/
structure Payload.LaidOut (payload : Payload) (first : Section) (groups : List (List Section))
    (others : List Section) : Prop where
  sections : (Walk.ofBytes payload.bytes).sections = first :: (groups.flatten ++ others)
  leads : first.kind = .header
  counted : ∃ count, Header.peekChannelCount? first.payload = some count ∧
    count.toNat = payload.channels.length
  some_channel : 0 < payload.channels.length
  few_channels : payload.channels.length ≤ 4
  tables : List.Forall₂ ChannelTables.LieIn payload.channels groups
  channel : ∀ index sections, groups[index]? = some sections → ∀ part ∈ sections,
    part.channel = Section.channelOf (index + 1)
  shared : ∀ part ∈ others, part.kind = .controls ∨ part.kind = .algorithm
  controls : ∃ controls, Option.Rel (Section.Decodes .controls)
    (others.find? fun part => part.kind = .controls) controls ∧
      payload.controls = controls.getD []
  algorithm : ∃ algorithm, Option.Rel (Section.Decodes .algorithm)
    (others.find? fun part => part.kind = .algorithm) algorithm ∧
      payload.algorithm = algorithm.getD []

theorem Payload.laidOut_of_outcome {bytes : Bytes} {payload : Payload}
    (accepted : (Parsed.ofPayload bytes).outcome = .ok payload) :
    payload.bytes = bytes ∧ ∃ first groups others, payload.LaidOut first groups others := by
  obtain ⟨bytes_eq, stored, rows, others, framed⟩ := framed_of_outcome accepted
  obtain ⟨groups, past, lie, tables, channel⟩ :=
    Walk.groups_of_rows framed.channels 0 (0 + (Section.stored (.header, stored)).length)
  obtain ⟨controls, holdsControls, controls_eq⟩ := framed.controls
  obtain ⟨algorithm, holdsAlgorithm, algorithm_eq⟩ := framed.algorithm
  obtain ⟨after, reads, _⟩ := framed.header
  obtain ⟨count, peeked, counted⟩ := Header.peek_of_read reads
  refine ⟨bytes_eq, .placed 0 0 (.header, stored), groups,
    Walk.placed (0 + rows.length) past others, ?_⟩
  exact {
    sections := by
      rw [framed.bytes, Walk.ofBytes_stored framed.lengths, Walk.placed, ← lie]
      rfl
    leads := rfl
    counted := ⟨count, peeked, counted.trans framed.declared.symm⟩
    some_channel := framed.declared ▸ framed.some_channel
    few_channels := framed.declared ▸ framed.few_channels
    tables
    channel := by simpa using channel
    shared := fun part member => by
      have content := List.mem_map_of_mem (f := Section.content) member
      rw [Walk.map_content_placed] at content
      exact framed.shared _ content
    controls := ⟨controls, Walk.find?_placed holdsControls nofun _ _, controls_eq⟩
    algorithm := ⟨algorithm, Walk.find?_placed holdsAlgorithm nofun _ _, algorithm_eq⟩ }

/-! ## Looking sections up -/

/-- The first find among items of which at most one can be found in. -/
theorem findSome?_eq_of_only {α β : Type} {found sought : α → Option β} {items : List α}
    {place : Nat} (only : ∀ index item, items[index]? = some item →
      found item = if index = place then sought item else none) :
    items.findSome? found = items[place]?.bind sought := by
  induction items generalizing place with
  | nil => rfl
  | cons item items ih =>
      have first := only 0 item rfl
      cases place with
      | zero =>
          have none_else : items.findSome? found = none := by
            refine List.findSome?_eq_none_iff.mpr fun other member => ?_
            obtain ⟨index, lies⟩ := List.getElem?_of_mem member
            exact only (index + 1) other lies
          rw [if_pos rfl] at first
          rw [List.findSome?_cons, first, none_else, List.getElem?_cons_zero, Option.bind_some]
          cases sought item <;> rfl
      | succ place =>
          rw [if_neg (Nat.succ_ne_zero place).symm] at first
          rw [List.findSome?_cons, first, List.getElem?_cons_succ]
          exact ih fun index other lies => by simpa using only (index + 1) other lies

theorem findSome?_range {α β : Type} (sought : α → Option β) (items : List α) :
    (List.range items.length).findSome? (fun index => items[index]?.bind sought) =
      items.findSome? sought := by
  induction items with
  | nil => rfl
  | cons item items ih =>
      rw [List.length_cons, List.range_succ_eq_map, List.findSome?_cons, List.findSome?_map,
        List.findSome?_cons]
      simp only [Function.comp_def, List.getElem?_cons_succ, ih, List.getElem?_cons_zero,
        Option.bind_some]

theorem findSome?_upTo {α β : Type} (sought : α → Option β) {items : List α} {count : UInt8}
    (length : count.toNat = items.length) :
    (Channel.upTo count).findSome? (fun channel => items[channel.toNat]?.bind sought) =
      items.findSome? sought := by
  rw [← findSome?_range sought, ← length, ← Channel.map_toNat_upTo, List.findSome?_map]
  rfl

namespace Payload.LaidOut

variable {payload : Payload} {first : Section} {groups : List (List Section)}
  {others : List Section} {kind : Kind} (laid : payload.LaidOut first groups others)
include laid

theorem declaredChannels :
    (Section.declaredChannels payload.bytes).toNat = payload.channels.length := by
  obtain ⟨count, peeked, counted⟩ := laid.counted
  rw [Section.declaredChannels, laid.sections]
  simp only [laid.leads, if_true, peeked, Option.getD_some, counted]

theorem length_groups : groups.length = payload.channels.length := laid.tables.length_eq.symm

/-- Within the declared channels, all sections are searched. -/
theorem find?_inside {channel : Option UInt8}
    (inside : ∀ wanted ∈ channel, wanted.toNat < payload.channels.length) :
    Section.find? payload.bytes kind channel =
      (Walk.ofBytes payload.bytes).sections.find? fun part =>
        part.kind = kind && channel.all fun wanted => part.channel = some wanted := by
  have counted := laid.declaredChannels
  rw [Section.find?, if_neg]
  rintro (none | beyond)
  · rw [none] at counted
    exact absurd counted (Nat.ne_of_lt laid.some_channel)
  · obtain ⟨wanted, rfl, beyond⟩ := (Option.any_eq_true _ _).mp beyond
    have least := UInt32.le_iff_toNat_le.mp (of_decide_eq_true beyond)
    rw [counted, UInt8.toNat_toUInt32] at least
    exact absurd (inside wanted rfl) (Nat.not_lt.mpr least)

/-- The groups are searched first and then the sections outside of them. -/
theorem find?_eq (table : kind ≠ .header) {channel : Option UInt8}
    (inside : ∀ wanted ∈ channel, wanted.toNat < payload.channels.length) :
    Section.find? payload.bytes kind channel =
      (groups.findSome? (List.find? fun part =>
        part.kind = kind && channel.all fun wanted => part.channel = some wanted)).or
      (others.find? fun part =>
        part.kind = kind && channel.all fun wanted => part.channel = some wanted) := by
  rw [laid.find?_inside inside, laid.sections, List.find?_cons_of_neg, List.find?_append,
    List.find?_flatten]
  simp [laid.leads, Ne.symm table]

theorem tables_at (table : kind ≠ .header) (index : Nat) :
    Option.Rel (Section.Decodes kind)
      (groups[index]?.bind (List.find? fun part => part.kind = kind))
      (payload.channels[index]?.bind (·.slots kind)) := by
  by_cases inside : index < payload.channels.length
  · have lies : index < groups.length := laid.length_groups ▸ inside
    rw [List.getElem?_eq_getElem inside, List.getElem?_eq_getElem lies]
    exact laid.tables.get inside lies kind table
  · have beyond := Nat.le_of_not_lt inside
    rw [List.getElem?_eq_none beyond, List.getElem?_eq_none (laid.length_groups ▸ beyond)]
    exact .none

/-- No section outside of the groups is one that belongs to a channel. -/
theorem find?_others (inner : kind.isGlobal = false) (more : Section → Bool) :
    (others.find? fun part => part.kind = kind && more part) = none := by
  refine List.find?_eq_none.mpr fun part member found => ?_
  obtain rfl := of_decide_eq_true (Bool.and_eq_true_iff.mp found).1
  obtain shared | shared := laid.shared part member <;> rw [shared] at inner <;> cases inner

/-- The sections of a channel are looked for in its group. -/
theorem find?_channel (inner : kind.isGlobal = false) (channel : UInt8) :
    Section.find? payload.bytes kind (some channel) =
      groups[channel.toNat]?.bind (List.find? fun part => part.kind = kind) := by
  have table : kind ≠ .header := by rintro rfl; cases inner
  by_cases inside : channel.toNat < payload.channels.length
  · rw [laid.find?_eq table (by simpa using inside), laid.find?_others inner, Option.or_none]
    -- Only the group of the channel has sections that lie in it.
    refine findSome?_eq_of_only fun index sections lies => ?_
    have few := laid.few_channels
    have place := (List.getElem?_eq_some_iff.mp lies).1
    rw [laid.length_groups] at place
    have same_channel : Section.channelOf (index + 1) = some channel ↔ index = channel.toNat :=
      Section.channelOf_succ_eq_some_iff (by omega)
    split
    · rename_i same
      refine List.find?_congr fun part member => ?_
      simp [laid.channel index sections lies part member, same_channel.mpr same]
    · rename_i different
      refine List.find?_eq_none.mpr fun part member => ?_
      simp [laid.channel index sections lies part member, same_channel, different]
  · have beyond := Nat.le_of_not_lt inside
    rw [List.getElem?_eq_none (laid.length_groups ▸ beyond), Section.find?, if_pos]
    · rfl
    · refine .inr (decide_eq_true (UInt32.le_iff_toNat_le.mpr ?_))
      rwa [laid.declaredChannels, UInt8.toNat_toUInt32]

/-- Without a channel, the groups are searched one after the other. -/
theorem find?_any (inner : kind.isGlobal = false) :
    Section.find? payload.bytes kind none =
      groups.findSome? (List.find? fun part => part.kind = kind) := by
  have table : kind ≠ .header := by rintro rfl; cases inner
  rw [laid.find?_eq table (by simp), laid.find?_others inner, Option.or_none]
  simp only [Option.all_none, Bool.and_true]

/-- The groups hold none of the sections that belong to no channel. -/
theorem find?_shared (table : kind ≠ .header)
    (absent : ∀ tables : ChannelTables, tables.slots kind = none) :
    Section.find? payload.bytes kind none = others.find? fun part => part.kind = kind := by
  have nowhere : (groups.findSome? (List.find? fun part => part.kind = kind)) = none := by
    refine List.findSome?_eq_none_iff.mpr fun sections member => ?_
    obtain ⟨index, lies⟩ := List.getElem?_of_mem member
    have held := laid.tables_at table index
    simp only [absent, lies, Option.bind_some, Option.bind_fun_none] at held
    cases found : sections.find? fun part => part.kind = kind with
    | none => rfl
    | some part => rw [found] at held; cases held
  rw [laid.find?_eq table (by simp)]
  simp only [Option.all_none, Bool.and_true, nowhere, Option.none_or]

end Payload.LaidOut

/--
What is looked up is what was read. A section of a channel is found if and only if the channel has
the table, which is what the section then decodes to; without a channel, the first channel that has
the section decides. The controls and the algorithm parameters are what their section decodes to,
which is found if it is there.
-/
theorem Section.find?_agrees {bytes : Bytes} {payload : Payload}
    (accepted : (Parsed.ofPayload bytes).outcome = .ok payload) :
    (∀ kind : Kind, kind.isGlobal = false →
      (∀ channel, Option.Rel (Section.Decodes kind) (find? bytes kind (some channel))
        ((payload.channel? channel).bind (·.slots kind))) ∧
      find? bytes kind none =
        payload.allChannels.findSome? fun channel => find? bytes kind (some channel)) ∧
    (∃ controls, Option.Rel (Section.Decodes .controls) (find? bytes .controls none) controls ∧
      payload.controls = controls.getD []) ∧
    (∃ algorithm, Option.Rel (Section.Decodes .algorithm) (find? bytes .algorithm none) algorithm ∧
      payload.algorithm = algorithm.getD []) ∧
    ∀ kind : Kind, (find? bytes kind none).isSome ↔
      ∃ part ∈ (Walk.ofBytes bytes).sections, part.kind = kind := by
  have shaped := Parsed.shaped_ofPayload accepted
  obtain ⟨rfl, first, groups, others, laid⟩ := Payload.laidOut_of_outcome accepted
  obtain ⟨controls, holdsControls, controls_eq⟩ := laid.controls
  obtain ⟨algorithm, holdsAlgorithm, algorithm_eq⟩ := laid.algorithm
  refine ⟨fun kind inner => ⟨fun channel => ?_, ?_⟩, ⟨controls, ?_, controls_eq⟩,
    ⟨algorithm, ?_, algorithm_eq⟩, fun kind => ?_⟩
  · have table : kind ≠ .header := by rintro rfl; cases inner
    rw [laid.find?_channel inner]
    exact laid.tables_at table channel.toNat
  · simp only [laid.find?_channel inner]
    rw [laid.find?_any inner, Payload.allChannels, findSome?_upTo]
    rw [shaped.toNat_channelCount, laid.length_groups]
  · rwa [laid.find?_shared (show Kind.controls ≠ .header from nofun) fun _ => rfl]
  · rwa [laid.find?_shared (show Kind.algorithm ≠ .header from nofun) fun _ => rfl]
  · rw [laid.find?_inside (by simp), List.find?_isSome]
    simp only [Option.all_none, Bool.and_true, decide_eq_true_eq]

/-- The interrupt table of the second channel is found, and the first channel has none. -/
theorem Section.find?_furnished :
    (Parsed.ofPayload Draft.furnished.build).outcome = .ok Draft.furnished.payload ∧
      find? Draft.furnished.build .interrupts (some 0) = none ∧
      (find? Draft.furnished.build .interrupts (some 1)).isSome ∧
      Option.Rel (Section.Decodes .interrupts) (find? Draft.furnished.build .interrupts (some 1))
        ((Draft.furnished.payload.channel? 1).bind (·.slots .interrupts)) := by
  have accepted := Draft.furnished_accepted
  obtain ⟨located, _⟩ := (find?_agrees accepted).1 .interrupts rfl
  exact ⟨accepted, by decide +kernel, by decide +kernel, located 1⟩

end AmpControl.Tuning
