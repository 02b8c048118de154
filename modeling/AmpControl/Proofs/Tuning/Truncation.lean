import AmpControl.Proofs.Tuning.Grammar

/-!
# Payloads that are cut short

A payload that is cut short is refused, unless it is cut between two sections and what is missing
may be missing: tables that the last channel need not have, and the sections that belong to no
channel. So no cut makes a payload that means something else.
-/

namespace AmpControl.Tuning

/-! ## What may still be added to a complete assembly -/

/-- Slots of which some are free that hold a table elsewhere. -/
def Slots.Within (fewer more : Slots) : Prop :=
  ∀ kind, fewer kind = none ∨ fewer kind = more kind

namespace Slots.Within

theorem refl (slots : Slots) : slots.Within slots := fun _ => .inr rfl

theorem put {fewer more : Slots} (within : fewer.Within more) {kind : Kind}
    (free : more kind = none) (table : kind.Table) : fewer.Within (more.put kind table) := by
  intro other
  by_cases same : other = kind
  · subst same
    exact .inl ((within other).elim id fun equal => equal.trans free)
  · rw [more.put_of_ne same]
    exact within other

end Slots.Within

namespace Assembly

/-- An assembly with the same groups, which may lack tables of the last one and outside of them. -/
structure Within (fewer more : Assembly) : Prop where
  groups : ∃ front kept last, fewer.groups = front ++ [kept] ∧ more.groups = front ++ [last] ∧
    kept.slots.Within last.slots
  slots : fewer.slots.Within more.slots

variable {declared : Nat} {fewer assembly grown : Assembly}

theorem Within.refl (some_group : assembly.groups ≠ []) : assembly.Within assembly where
  groups := ⟨_, _, _, (List.dropLast_append_getLast some_group).symm,
    (List.dropLast_append_getLast some_group).symm, .refl _⟩
  slots := .refl _

/-- Once all groups have begun, a section fills a slot of the last one or one outside of them. -/
theorem Within.grow {frame : Frame} (within : fewer.Within assembly)
    (full : declared ≤ assembly.groups.length) (grows : Grows declared assembly frame grown) :
    fewer.Within grown ∧ declared ≤ grown.groups.length := by
  obtain ⟨⟨front, kept, last, fewerGroups, groups, slots⟩, shared⟩ := within
  cases grows with
  -- The groups that the header declares have all begun, so there is room for no other.
  | begins room _ => exact absurd room (Nat.not_lt.mpr full)
  | @fillsGroup early group filled kind stored table free _ puts =>
      obtain ⟨rfl, one⟩ := List.append_inj' groups rfl
      cases one
      rw [slots_ofGroups] at shared
      refine ⟨⟨⟨early, kept, filled, fewerGroups, rfl, ?_⟩, ?_⟩, ?_⟩
      · rw [puts]
        exact slots.put free table
      · rwa [slots_ofGroups]
      · simpa [ofGroups] using full
  | @fills _ _ kind stored table free _ same puts =>
      refine ⟨⟨⟨front, kept, last, fewerGroups, same.trans groups, slots⟩, ?_⟩, same ▸ full⟩
      rw [puts]
      exact shared.put free table

end Assembly

namespace Parsed

theorem addAll_append {declared count : Nat} {assembly middle : Assembly}
    {early : List Section} (added : (addAll declared count assembly early).2 = .ok middle)
    (late : List Section) : ∃ reached,
      addAll declared count assembly (early ++ late) = addAll declared reached middle late := by
  induction early generalizing count assembly with
  | nil =>
      cases added
      exact ⟨count, rfl⟩
  | cons part early ih =>
      unfold addAll at added
      cases step : assembly.add declared part with
      | error error => rw [step] at added; cases added
      | ok next =>
          rw [step] at added
          obtain ⟨reached, same⟩ := ih added
          exact ⟨reached, by rw [List.cons_append, addAll, step, ← same]⟩

/-- Whatever is added to a complete assembly, all that it holds stays as it was. -/
theorem within_of_addAll {declared count : Nat} {fewer assembly grown : Assembly}
    {sections : List Section} (within : fewer.Within assembly)
    (full : declared ≤ assembly.groups.length)
    (added : (addAll declared count assembly sections).2 = .ok grown) : fewer.Within grown := by
  induction sections generalizing count assembly with
  | nil => cases added; exact within
  | cons part sections ih =>
      unfold addAll at added
      cases step : assembly.add declared part with
      | error error => rw [step] at added; cases added
      | ok next =>
          rw [step] at added
          obtain ⟨again, enough⟩ := within.grow full (Assembly.grows_of_add step)
          exact ih again enough added

end Parsed

/-! ## Payloads -/

/-- Tables of a channel that may lack the tables which a channel need not have. -/
structure ChannelTables.Within (fewer more : ChannelTables) : Prop where
  initialisation : fewer.initialisation = more.initialisation
  profiles : fewer.profiles = more.profiles
  power : fewer.power = more.power
  audioInterface : fewer.audioInterface = none ∨ fewer.audioInterface = more.audioInterface
  interrupts : fewer.interrupts = none ∨ fewer.interrupts = more.interrupts

theorem ChannelTables.within_of_slots {fewer more : ChannelTables}
    (within : fewer.slots.Within more.slots) : fewer.Within more where
  initialisation := Option.some.inj ((within .initialisation).resolve_left nofun)
  profiles := Option.some.inj ((within .profiles).resolve_left nofun)
  power := Option.some.inj ((within .power).resolve_left nofun)
  audioInterface := within .audioInterface
  interrupts := within .interrupts

/-- A payload that lacks nothing but tables at its end which need not be there. -/
structure Payload.Within (fewer more : Payload) : Prop where
  header : fewer.header = more.header
  channels : ∃ front kept last, fewer.channels = front ++ [kept] ∧
    more.channels = front ++ [last] ∧ kept.Within last
  controls : fewer.controls = [] ∨ fewer.controls = more.controls
  algorithm : fewer.algorithm = [] ∨ fewer.algorithm = more.algorithm

theorem ChannelTables.group_injective : Function.Injective group := by
  rintro ⟨⟩ ⟨⟩ same
  cases same
  rfl

theorem Payload.within_of_assembly {fewer more : Assembly} {cut whole : Payload}
    (within : fewer.Within more) (header : cut.header = whole.header) (makesCut : fewer.Makes cut)
    (makes : more.Makes whole) : cut.Within whole := by
  obtain ⟨⟨front, kept, last, fewerGroups, groups, slots⟩, shared⟩ := within
  rw [makesCut.groups] at fewerGroups
  rw [makes.groups] at groups
  obtain ⟨cutFront, cutLast, cutChannels, fronts, lasts⟩ := List.map_eq_append_iff.mp fewerGroups
  obtain ⟨wholeFront, wholeLast, channels, wholeFronts, wholeLasts⟩ :=
    List.map_eq_append_iff.mp groups
  obtain ⟨keptTables, rfl, rfl⟩ := List.map_eq_singleton_iff.mp lasts
  obtain ⟨lastTables, rfl, rfl⟩ := List.map_eq_singleton_iff.mp wholeLasts
  obtain rfl := ChannelTables.group_injective.list_map (fronts.trans wholeFronts.symm)
  rw [ChannelTables.slots_group, ChannelTables.slots_group] at slots
  refine ⟨header, ⟨cutFront, keptTables, lastTables, cutChannels, channels,
    ChannelTables.within_of_slots slots⟩, ?_, ?_⟩
  · rw [makesCut.controls, makes.controls]
    exact (shared .controls).imp (congrArg (Option.getD · [])) (congrArg (Option.getD · []))
  · rw [makesCut.algorithm, makes.algorithm]
    exact (shared .algorithm).imp (congrArg (Option.getD · [])) (congrArg (Option.getD · []))

/-- The first bytes up to a place are the first sections, whole. -/
def Walk.Boundary (bytes : Bytes) (place : Nat) : Prop :=
  ∃ early late, (ofBytes bytes).sections = early ++ late ∧
    bytes.take place = (early.map Section.content).flatMap Section.stored

/--
A payload that is cut short is refused, or the cut lies between two sections and what is read then
lacks nothing but tables at the end which need not be there.
-/
theorem Parsed.outcome_take {bytes : Bytes} {whole : Payload}
    (accepted : (ofPayload bytes).outcome = .ok whole) (place : Nat) :
    (∃ error, (ofPayload (bytes.take place)).outcome = .error error) ∨
      Walk.Boundary bytes place ∧
        ∃ cut, (ofPayload (bytes.take place)).outcome = .ok cut ∧ cut.Within whole := by
  cases outcome : (ofPayload (bytes.take place)).outcome with
  | error error => exact .inl ⟨error, rfl⟩
  | ok cut =>
      obtain ⟨stored, frames, assembly, split, framable, ⟨after, reads, _⟩, added, _, makes⟩ :=
        frames_of_outcome accepted
      obtain ⟨cutStored, early, kept, cutSplit, cutFramable, ⟨cutAfter, cutReads, _⟩, cutAdded, _,
        cutMakes⟩ := frames_of_outcome outcome
      -- The frames of the cut bytes are the first frames of all bytes.
      obtain ⟨late, same⟩ := Section.flatMap_stored_prefix cutFramable framable
        (by rw [← cutSplit, ← split, List.take_append_drop])
      rw [List.cons_append] at same
      obtain ⟨first, rfl⟩ := List.cons.inj same
      cases first
      have header : cut.header = whole.header :=
        (EStateM.Result.ok.inj (cutReads.symm.trans reads)).1
      refine .inr ⟨?_, cut, rfl, ?_⟩
      · have sections : (Walk.ofBytes bytes).sections =
            Walk.placed 0 0 ((Kind.header, stored) :: early ++ late) := by
          rw [split, Walk.ofBytes_stored framable, List.cons_append]
        exact ⟨_, _, sections.trans (Walk.placed_append ..),
          by rw [Walk.map_content_placed, cutSplit]⟩
      · rw [header] at cutAdded
        have full := cutMakes.complete
        rw [header] at full
        have some_group : kept.groups ≠ [] :=
          List.length_pos_iff.mp (Nat.lt_of_lt_of_le (Header.channels_bounds reads).1 full)
        rw [Walk.placed_append] at added
        obtain ⟨reached, rest⟩ := addAll_append cutAdded _
        rw [rest] at added
        have within := within_of_addAll (.refl some_group) full added
        exact Payload.within_of_assembly within header cutMakes makes

/-- Without its last section, the furnished draft lacks the algorithm parameters only. -/
theorem Parsed.outcome_take_furnished :
    (ofPayload Draft.furnished.build).outcome = .ok Draft.furnished.payload ∧
      ∃ cut, (ofPayload (Draft.furnished.build.take (Draft.furnished.build.length - 21))).outcome =
        .ok cut ∧ cut.algorithm = [] ∧ cut.Within Draft.furnished.payload := by
  have accepted := Draft.furnished_accepted
  have found : (ofPayload (Draft.furnished.build.take
      (Draft.furnished.build.length - 21))).outcome.toOption.map (·.algorithm) = some [] := by
    decide +kernel
  obtain ⟨error, refused⟩ | ⟨_, cut, read, within⟩ :=
    outcome_take accepted (Draft.furnished.build.length - 21)
  · rw [refused] at found
    cases found
  · rw [read] at found
    exact ⟨accepted, cut, read, Option.some.inj found, within⟩

end AmpControl.Tuning
