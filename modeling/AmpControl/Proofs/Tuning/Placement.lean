import AmpControl.Proofs.Tuning.Refusals

/-!
# Where a section may stand

Whether a section may stand behind others depends on the kinds of these alone. An assembly follows
the kinds of the sections that were added: it has a place taken for each of them. So a section is
added exactly if it stands where it may and holds one table and nothing behind it.
-/

namespace AmpControl.Tuning

namespace Kind

variable {declared : Nat} {early : List Kind} {kind last : Kind}

/-- A section of a kind may stand behind others, in a payload that declares so many channels. -/
def Fits (declared : Nat) (early : List Kind) (kind : Kind) : Prop :=
  if kind = .initialisation then
    early.count .initialisation < declared ∧ .controls ∉ early ∧ .algorithm ∉ early
  else ¬kind.Stray early ∧ ¬kind.Seen early

/-- A kind of a group is among those from its last beginning on, or it is the last one. -/
theorem seen_concat (belongs : kind.isGlobal = false) :
    kind.Seen (early ++ [last]) ↔ last = kind ∨ last ≠ .initialisation ∧ kind.Seen early := by
  constructor
  · rintro ⟨before, between, split, group⟩
    have apart : .initialisation ∉ between := group.resolve_left (by simp [belongs])
    rcases between.eq_nil_or_concat with rfl | ⟨inner, ending, rfl⟩
    · exact .inl (List.concat_inj.mp (by simpa using split)).2
    · rw [List.concat_eq_append, ← List.cons_append, ← List.append_assoc] at split
      obtain ⟨rfl, same⟩ := List.append_inj' split rfl
      obtain rfl : last = ending := List.singleton_inj.mp same
      simp only [List.concat_eq_append, List.mem_append, List.mem_singleton, not_or] at apart
      exact .inr ⟨Ne.symm apart.2, before, inner, rfl, .inr apart.1⟩
  · rintro (rfl | ⟨goesOn, before, between, rfl, group⟩)
    · exact ⟨early, [], rfl, .inr List.not_mem_nil⟩
    · have apart : .initialisation ∉ between := group.resolve_left (by simp [belongs])
      refine ⟨before, between ++ [last], by simp, .inr ?_⟩
      simp [apart, Ne.symm goesOn]

end Kind

/-- Why reading fails at a section that stands behind others. -/
inductive Section.Fails (declared : Nat) (early : List Kind) (part : Section) : FormatError → Prop
  /-- All groups have begun, or there were sections outside of the groups. -/
  | beyond (begins : part.kind = .initialisation) (misfit : ¬part.kind.Fits declared early) :
      Fails declared early part (.invalidRecord .channelBeyondCount
        (UInt32.ofNatClamp (early.count .initialisation)))
  | misplaced (inner : part.kind ≠ .initialisation) (stray : part.kind.Stray early) :
      Fails declared early part (Assembly.breach .misplacedSection part)
  | repeated (inner : part.kind ≠ .initialisation) (seen : part.kind.Seen early) :
      Fails declared early part (Assembly.breach .duplicateSection part)
  | unread {error : FormatError} {after : Reader}
      (fails : part.kind.read part.reader = .error error after) : Fails declared early part error
  | leftOver {table : part.kind.Table} {after : Reader}
      (reads : part.kind.read part.reader = .ok table after) (some_left : after.rest ≠ []) :
      Fails declared early part
        (.invalidRecord .trailingBytes (UInt32.ofNatClamp after.remaining))

/-- A section stands where it may, and is read to its end. -/
def Section.Passes (declared : Nat) (early : List Kind) (part : Section) : Prop :=
  part.kind.Fits declared early ∧
    ∃ table after, part.kind.read part.reader = .ok table after ∧ after.rest = []

namespace Section

variable {declared : Nat} {early : List Kind} {part : Section} {error : FormatError}

theorem Fails.not_passes (fails : part.Fails declared early error) :
    ¬part.Passes declared early := by
  rintro ⟨fits, table, after, reads, none_left⟩
  cases fails with
  | beyond begins misfit => exact misfit fits
  | misplaced inner stray =>
      rw [Kind.Fits, if_neg inner] at fits
      exact fits.1 stray
  | repeated inner seen =>
      rw [Kind.Fits, if_neg inner] at fits
      exact fits.2 seen
  | unread fails =>
      rw [reads] at fails
      cases fails
  | leftOver again some_left =>
      rw [reads] at again
      cases again
      exact some_left none_left

/-- What is wrong with one section is nothing that is said of a whole payload. -/
theorem Fails.inner (fails : part.Fails declared early error) : ¬error.Final := by
  cases fails with
  | beyond | misplaced | repeated | leftOver => exact id
  | unread fails => exact Kind.inner_read _ fails

end Section

namespace Assembly

variable {declared : Nat} {assembly grown : Assembly} {early : List Kind} {part : Section}
  {error : FormatError}

/-- The kinds of the sections that were added, behind a header, are those with a place taken. -/
structure Follows (assembly : Assembly) (early : List Kind) : Prop where
  opened : .header ∈ early
  begun : assembly.groups.length = early.count .initialisation
  outside : ∀ kind, kind = .controls ∨ kind = .algorithm →
    ((assembly.slots kind).isSome ↔ kind ∈ early)
  inside : ∀ groups group kind, assembly.groups = groups ++ [group] → kind.isGlobal = false →
    kind ≠ .initialisation → ((group.slots kind).isSome ↔ kind.Seen early)

theorem follows_empty : empty.Follows [Kind.header] where
  opened := List.mem_singleton_self Kind.header
  begun := rfl
  outside := by
    rintro kind (rfl | rfl) <;> simp [slots, empty]
  inside := by
    intro groups group kind none_yet
    simp [empty] at none_yet

namespace Follows

theorem over_iff (follows : assembly.Follows early) :
    assembly.groupsOver = true ↔ .controls ∈ early ∨ .algorithm ∈ early := by
  rw [groupsOver, Bool.or_eq_true]
  exact or_congr (follows.outside .controls (.inl rfl)) (follows.outside .algorithm (.inr rfl))

theorem none_begun_iff (follows : assembly.Follows early) :
    assembly.groups = [] ↔ .initialisation ∉ early := by
  rw [← List.length_eq_zero_iff, follows.begun, List.count_eq_zero]

theorem closed_iff (follows : assembly.Follows early) {kind : Kind}
    (belongs : kind.isGlobal = false) :
    (assembly.groups = [] ∨ assembly.groupsOver = true) ↔ kind.Stray early := by
  rw [follows.none_begun_iff, follows.over_iff, Kind.Stray, and_iff_right belongs]

theorem going_iff (follows : assembly.Follows early) :
    (¬(declared ≤ assembly.groups.length ∨ assembly.groupsOver = true)) ↔
      Kind.initialisation.Fits declared early := by
  rw [follows.over_iff, follows.begun, Kind.Fits, if_pos rfl, not_or, Nat.not_le, not_or]

/-- A group begins without a table behind its initialisation section. -/
theorem begins {groups : List Group} (follows : (ofGroups groups).Follows early)
    (script : Script) :
    (ofGroups (groups ++ [Group.start script])).Follows (early ++ [.initialisation]) where
  opened := List.mem_append_left _ follows.opened
  begun := by
    have begun : groups.length = early.count .initialisation := follows.begun
    simp [ofGroups, begun]
  outside := by
    intro kind shared
    rw [slots_ofGroups, ← slots_ofGroups groups, follows.outside kind shared]
    rcases shared with rfl | rfl <;> simp
  inside := by
    intro front group kind split belongs inner
    obtain ⟨-, last⟩ := List.append_inj' split rfl
    obtain rfl := List.singleton_inj.mp last
    rw [Kind.seen_concat belongs, Group.slots_start, Slots.empty.put_of_ne inner]
    simp [Slots.empty, Ne.symm inner]

/-- A table of a group takes its place in the last one. -/
theorem fillsGroup {groups : List Group} {group filled : Group} {kind : Kind} {table : kind.Table}
    (follows : (ofGroups (groups ++ [group])).Follows early) (free : group.slots kind = none)
    (puts : filled.slots = group.slots.put kind table) :
    (ofGroups (groups ++ [filled])).Follows (early ++ [kind]) := by
  have held : filled.slots kind = some table := by rw [puts, Slots.put_self]
  have inner : kind ≠ .initialisation := by
    rintro rfl
    cases free
  have unshared : kind ≠ .controls ∧ kind ≠ .algorithm := by
    constructor <;> rintro rfl <;> cases held
  refine ⟨List.mem_append_left _ follows.opened, ?_, fun other shared => ?_, ?_⟩
  · have begun : (groups ++ [group]).length = early.count .initialisation := follows.begun
    simpa [ofGroups, inner] using begun
  · have same := follows.outside other shared
    rw [slots_ofGroups] at same ⊢
    rcases shared with rfl | rfl <;> simp [same, unshared.1.symm, unshared.2.symm]
  · intro front last other split belongs behind
    obtain ⟨-, ends⟩ := List.append_inj' split rfl
    obtain rfl := List.singleton_inj.mp ends
    have before := follows.inside groups group other rfl belongs behind
    rw [Kind.seen_concat belongs, puts]
    by_cases same : other = kind
    · subst same
      simp
    · rw [group.slots.put_of_ne same, before]
      simp [inner, Ne.symm same]

/-- A table outside of the groups takes its place. -/
theorem fills {kind : Kind} {table : kind.Table} (follows : assembly.Follows early)
    (groups : grown.groups = assembly.groups)
    (puts : grown.slots = assembly.slots.put kind table) : grown.Follows (early ++ [kind]) := by
  have held : grown.slots kind = some table := by rw [puts, Slots.put_self]
  have shared : kind.isGlobal = true ∧ kind ≠ .initialisation := by
    cases kind with
    | controls | algorithm => exact ⟨rfl, nofun⟩
    | header | initialisation | audioInterface | profiles | interrupts | power => cases held
  refine ⟨List.mem_append_left _ follows.opened, ?_, fun other among => ?_, ?_⟩
  · rw [groups, follows.begun]
    simp [shared.2]
  · rw [puts]
    by_cases same : other = kind
    · subst same
      simp
    · rw [assembly.slots.put_of_ne same, follows.outside other among]
      simp [same]
  · intro front last other split belongs inner
    rw [groups] at split
    have apart : kind ≠ other := by
      rintro rfl
      rw [shared.1] at belongs
      cases belongs
    rw [follows.inside front last other split belongs inner, Kind.seen_concat belongs]
    simp [apart, shared.2]

/-- What was added takes the place of its kind. -/
theorem grow {frame : Frame} (follows : assembly.Follows early)
    (grows : Grows declared assembly frame grown) : grown.Follows (early ++ [frame.1]) := by
  cases grows with
  | begins room decodes => exact follows.begins _
  | fillsGroup free decodes puts => exact follows.fillsGroup free puts
  | fills free decodes groups puts => exact follows.fills groups puts

/-- What was added stands where it may. -/
theorem fits {frame : Frame} (follows : assembly.Follows early)
    (grows : Grows declared assembly frame grown) : frame.1.Fits declared early := by
  cases grows with
  | @begins groups stored script room decodes =>
      refine follows.going_iff.mp (not_or.mpr ⟨Nat.not_le.mpr room, ?_⟩)
      simp [groupsOver, ofGroups]
  | @fillsGroup groups group filled kind stored table free decodes puts =>
      have held : filled.slots kind = some table := by rw [puts, Slots.put_self]
      have inner : kind ≠ .initialisation := by
        rintro rfl
        cases free
      have belongs : kind.isGlobal = false := by
        cases kind with
        | header | controls | algorithm => cases held
        | initialisation | audioInterface | profiles | interrupts | power => rfl
      rw [Kind.Fits, if_neg inner, ← follows.closed_iff belongs,
        ← follows.inside groups group kind rfl belongs inner, free]
      simp [groupsOver, ofGroups]
  | @fills _ _ kind stored table free decodes groups puts =>
      have held : grown.slots kind = some table := by rw [puts, Slots.put_self]
      have shared : kind = .controls ∨ kind = .algorithm := by
        cases kind with
        | controls => exact .inl rfl
        | algorithm => exact .inr rfl
        | header | initialisation | audioInterface | profiles | interrupts | power => cases held
      have absent := mt (follows.outside kind shared).mpr (by simp [free])
      have inner : kind ≠ .initialisation := by
        rcases shared with rfl | rfl <;> decide
      rw [Kind.Fits, if_neg inner]
      refine ⟨fun stray => ?_, fun seen => ?_⟩
      · rcases shared with rfl | rfl <;> cases stray.1
      · obtain ⟨before, between, rfl, -⟩ := seen
        exact absent (List.mem_append_right _ List.mem_cons_self)

end Follows

/-! ## Sections that are refused -/

/-- What is read of a section gives no table, or it leaves bytes over. -/
theorem fails_of_whole {kind : Kind} (same : part.kind = kind)
    (refused : whole (kind.read part.reader) = .error error) : part.Fails declared early error := by
  subst same
  unfold whole at refused
  split at refused
  · rename_i other after unread
    cases refused
    exact .unread unread
  · rename_i value after reads
    split at refused
    · cases refused
    · rename_i some_left
      cases refused
      exact .leftOver reads (by simpa using some_left)

theorem fails_of_fill {kind : Kind} {place : Option kind.Table} (same : part.kind = kind)
    (inner : kind ≠ .initialisation) (seen : place.isSome → kind.Seen early)
    (refused : fill part place kind.read = .error error) : part.Fails declared early error := by
  unfold fill at refused
  split at refused
  · rename_i other after unread
    cases refused
    exact fails_of_whole same (by rw [unread, whole])
  · split at refused
    · rename_i taken
      cases refused
      exact .repeated (same ▸ inner) (same ▸ seen taken)
    · exact fails_of_whole same refused

/-- A section that belongs to a group is refused where the group is closed or has such a table. -/
theorem Follows.fails_of_fillGroup (follows : assembly.Follows early) {kind : Kind}
    {channel : Option UInt8} {offset : Nat} {payload : Bytes} (belongs : kind.isGlobal = false)
    (inner : kind ≠ .initialisation)
    (refused : (assembly.fillGroup ⟨kind, channel, offset, payload⟩ fun group => do
      let value ← fill ⟨kind, channel, offset, payload⟩ (group.slots kind) kind.read
      return group.put kind value) = .error error) :
    (Section.mk kind channel offset payload).Fails declared early error := by
  rcases refused_fillGroup refused with ⟨closed, rfl⟩ | ⟨groups, group, rfl, fails⟩
  · exact .misplaced inner ((follows.closed_iff belongs).mp closed)
  rcases refused_bind fails with unfilled | ⟨value, -, done⟩
  · exact fails_of_fill rfl inner (follows.inside groups group kind rfl belongs inner).mp unfilled
  · cases done

/-- A section that is not added fails where it stands. -/
theorem Follows.fails_of_add (follows : assembly.Follows early)
    (refused : assembly.add declared part = .error error) : part.Fails declared early error := by
  obtain ⟨kind, channel, offset, payload⟩ := part
  cases kind with
  | header =>
      cases refused
      exact .repeated (by simp) (.of_mem rfl follows.opened)
  | initialisation =>
      simp only [add] at refused
      split at refused
      · rename_i ended
        cases refused
        rw [follows.begun]
        exact .beyond rfl (mt follows.going_iff.mpr (not_not_intro ended))
      · rcases refused_bind refused with unread | ⟨script, -, done⟩
        · exact fails_of_whole rfl unread
        · cases done
  | audioInterface | profiles | interrupts | power =>
      exact follows.fails_of_fillGroup rfl (by decide) refused
  | controls | algorithm =>
      rcases refused_bind refused with unfilled | ⟨table, -, done⟩
      · refine fails_of_fill rfl (by simp) (fun taken => ?_) unfilled
        exact .of_mem rfl ((follows.outside _ (by simp)).mp taken)
      · cases done

/-! ## Sections that are added -/

theorem Grows.decodes {frame : Frame} (grows : Grows declared assembly frame grown) :
    ∃ table, Read.Decodes frame.1.read frame.2 table := by
  cases grows with
  | begins room decodes => exact ⟨_, decodes⟩
  | fillsGroup free decodes puts => exact ⟨_, decodes⟩
  | fills free decodes groups puts => exact ⟨_, decodes⟩

/-- A section that is added passes, and the assembly follows its kind from then on. -/
theorem Follows.passes_of_add (follows : assembly.Follows early)
    (added : assembly.add declared part = .ok grown) :
    part.Passes declared early ∧ grown.Follows (early ++ [part.kind]) := by
  have grows := grows_of_add added
  have fits : part.kind.Fits declared early := follows.fits grows
  have inner : part.kind ≠ .header := by
    -- The first section was one, so another header stands nowhere.
    intro leads
    rw [leads, Kind.Fits, if_neg nofun] at fits
    exact fits.2 (.of_mem rfl follows.opened)
  obtain ⟨table, decodes⟩ := grows.decodes
  have reads := Kind.takes_of_decodes inner decodes [] 0 part.payloadOffset
  rw [List.append_nil] at reads
  exact ⟨⟨fits, table, _, reads, rfl⟩, follows.grow grows⟩

/-- The sections that pass are those that are added. -/
theorem Follows.passes_iff (follows : assembly.Follows early) :
    part.Passes declared early ↔ ∃ grown, assembly.add declared part = .ok grown := by
  constructor
  · intro passes
    cases step : assembly.add declared part with
    | ok grown => exact ⟨grown, rfl⟩
    | error error => exact absurd passes (follows.fails_of_add step).not_passes
  · rintro ⟨grown, added⟩
    exact (follows.passes_of_add added).1

end Assembly

end AmpControl.Tuning
