import AmpControl.Proofs.Interrupt.Debounce
import AmpControl.Proofs.Tuning.Grammar
import AmpControl.Proofs.Tuning.Raising
import AmpControl.Proofs.Tuning.Walking

/-!
# What a refused payload reports

A payload is refused for bytes that cannot be read or for a section that stands where it may not.
Either way the report can be checked against the bytes: what it says of an offset is so there.
-/

namespace AmpControl.Tuning

/-! ## Where a section lies -/

namespace Walk

/-- The number of bytes that sections take up. -/
def extent (sections : List Section) : Nat :=
  ((sections.map Section.content).flatMap Section.stored).length

section

variable {bytes : Bytes} {early late : List Section} {part : Section}

/-- A section that a walk finds lies right behind those that it found before. -/
theorem lies_of_found (found : (ofBytes bytes).sections = early ++ part :: late) :
    part.offset = clampOffset (extent early) ∧ ∃ front back,
      bytes = front ++ (Section.stored part.content ++ back) ∧ front.length = extent early := by
  obtain ⟨frames, left, divides⟩ := divides_ofBytes bytes
  have contents := congrArg (List.map Section.content) found
  rw [divides.sections, map_content_placed, List.map_append, List.map_cons] at contents
  have places := divides.sections
  rw [found, contents, placed_append, placed] at places
  obtain ⟨-, lies⟩ := List.append_inj places (by rw [length_placed, List.length_map])
  refine ⟨?_, _, (late.map Section.content).flatMap Section.stored ++ left, ?_, rfl⟩
  · rw [(List.cons.inj lies).1]
    simp only [Section.placed, Reader.start, Nat.zero_add, extent]
  · have split := divides.rest
    rw [contents, List.flatMap_append, List.flatMap_cons, List.append_assoc,
      List.append_assoc] at split
    exact split

theorem tag_of_found (found : (ofBytes bytes).sections = early ++ part :: late) :
    (bytes.drop (extent early)).take 5 = part.kind.tag := by
  obtain ⟨-, front, back, split, place⟩ := lies_of_found found
  rw [split, ← place, List.drop_left, Section.stored, Section.frame, List.append_assoc,
    List.append_assoc, ← part.kind.length_tag]
  exact List.take_left

theorem within_of_found (found : (ofBytes bytes).sections = early ++ part :: late) :
    part.reader.Within bytes (extent early + 9) (extent early + 9 + part.payload.length) where
  lies := by
    obtain ⟨-, front, back, rfl, place⟩ := lies_of_found found
    refine ⟨front ++ (part.kind.tag ++ LittleEndian.count part.payload.length), back, ?_, ?_⟩
    · simp only [Section.stored, Section.frame, Section.content, Section.reader, Reader.start,
        List.append_assoc]
    · simp [place, LittleEndian.count]
  offset := by
    obtain ⟨offset, -⟩ := lies_of_found found
    rw [Section.reader, Reader.offset, Reader.start, Section.payloadOffset, offset]
    exact clampOffset_clampOffset_add _ 9
  stop := rfl

/-- The error at which a walk stops is about the bytes behind the sections. -/
theorem founded_of_stopped {error : FormatError} (stopped : (ofBytes bytes).stopped = some error) :
    error.Founded bytes 0 bytes.length := by
  obtain ⟨frames, left, divides⟩ := divides_ofBytes bytes
  obtain ⟨-, groups, after, fails⟩ := divides.stops error stopped
  have split : bytes = frames.flatMap Section.stored ++ left := divides.rest
  refine .earlier ((Section.reports_read groups ⟨⟨_, [], ?_, rfl⟩, ?_, ?_⟩).fails _ _ fails)
    (Nat.zero_le (frames.flatMap Section.stored).length)
  · rw [List.append_nil]
    exact split
  · simp only [Reader.offset, Reader.start, Nat.zero_add]
  · rw [Reader.remaining, split, List.length_append]

end

/--
The part of a payload in which reading fails: all of it if a section cannot be framed, and otherwise
the inside of the section that is read.
-/
inductive FailsIn (bytes : Bytes) (error : FormatError) : (start stop : Nat) → Prop
  | framing (stopped : (ofBytes bytes).stopped = some error) : FailsIn bytes error 0 bytes.length
  | inside {early late : List Section} {part : Section} {after : Reader}
      (found : (ofBytes bytes).sections = early ++ part :: late)
      (fails : part.kind.read part.reader = .error error after) :
      FailsIn bytes error (extent early + 9) (extent early + 9 + part.payload.length)

/-- Where reading fails, what is reported is founded. -/
theorem FailsIn.founded {bytes : Bytes} {error : FormatError} {start stop : Nat}
    (failsIn : FailsIn bytes error start stop) : error.Founded bytes start stop := by
  cases failsIn with
  | framing stopped => exact founded_of_stopped stopped
  | inside found fails =>
      exact (Kind.reports_read _ (within_of_found found)).fails _ _ fails

end Walk

/-! ## Where a section stands -/

namespace Kind

/--
The kind is among those of earlier sections: among all of them if it occurs once per payload, and
otherwise among those from the last initialisation section on.
-/
def Seen (kind : Kind) (early : List Kind) : Prop :=
  ∃ before between, early = before ++ kind :: between ∧
    (kind.isGlobal = true ∨ .initialisation ∉ between)

/-- The kind belongs to a channel, but behind the earlier sections no group is open: none has begun,
or sections outside of the groups have been there. -/
def Stray (kind : Kind) (early : List Kind) : Prop :=
  kind.isGlobal = false ∧
    (.initialisation ∉ early ∨ .controls ∈ early ∨ .algorithm ∈ early)

theorem Seen.of_mem {kind : Kind} {early : List Kind} (once : kind.isGlobal = true)
    (among : kind ∈ early) : kind.Seen early := by
  obtain ⟨before, between, split⟩ := List.append_of_mem among
  exact ⟨before, between, split, .inl once⟩

theorem Seen.cons {kind : Kind} {early : List Kind} (seen : kind.Seen early) (first : Kind) :
    kind.Seen (first :: early) := by
  obtain ⟨before, between, rfl, group⟩ := seen
  exact ⟨first :: before, between, rfl, group⟩

theorem Stray.cons_header {kind : Kind} {early : List Kind} (stray : kind.Stray early) :
    kind.Stray (.header :: early) := by
  obtain ⟨belongs, closed⟩ := stray
  simpa [Stray, belongs] using closed

end Kind

namespace Assembly

variable {declared : Nat} {assembly : Assembly} {part : Section} {error : FormatError}

/-- Why a section is not added to an assembly. -/
inductive Refuses : Assembly → Section → FormatError → Prop
  /-- What the section holds cannot be read. -/
  | unread {assembly : Assembly} {part : Section} {error : FormatError} {after : Reader}
      (fails : part.kind.read part.reader = .error error after) : Refuses assembly part error
  | header {assembly : Assembly} {part : Section} (leads : part.kind = .header) :
      Refuses assembly part (breach .duplicateSection part)
  /-- The last group has such a table. -/
  | inGroup {groups : List Group} {group : Group} {part : Section}
      (inner : part.kind ≠ .initialisation) (taken : (group.slots part.kind).isSome) :
      Refuses (ofGroups (groups ++ [group])) part (breach .duplicateSection part)
  /-- There is such a table outside of the groups. -/
  | outside {assembly : Assembly} {part : Section}
      (taken : (assembly.slots part.kind).isSome) :
      Refuses assembly part (breach .duplicateSection part)
  /-- A table belongs to a group, but none is open. -/
  | stray {assembly : Assembly} {part : Section} (belongs : part.kind.isGlobal = false)
      (closed : assembly.groups = [] ∨ assembly.groupsOver = true) :
      Refuses assembly part (breach .misplacedSection part)
  | placeless {assembly : Assembly} {part : Section} {error : FormatError}
      (placeless : error.Placeless) : Refuses assembly part error

theorem refused_whole {α : Type} {outcome : EStateM.Result FormatError Reader α}
    (refused : whole outcome = .error error) :
    (∃ after, outcome = .error error after) ∨ error.Placeless := by
  unfold whole at refused
  split at refused
  · cases refused
    exact .inl ⟨_, rfl⟩
  · split at refused
    · cases refused
    · cases refused
      exact .inr trivial

theorem refused_fill {α : Type} {place : Option α} {table : Read α}
    (refused : fill part place table = .error error) :
    (∃ after, table part.reader = .error error after) ∨
      (place.isSome ∧ error = breach .duplicateSection part) ∨ error.Placeless := by
  unfold fill at refused
  split at refused
  · rename_i other after fails
    cases refused
    exact .inl ⟨after, fails⟩
  · split at refused
    · rename_i taken
      cases refused
      exact .inr (.inl ⟨taken, rfl⟩)
    · rcases refused_whole refused with unread | placeless
      · exact .inl unread
      · exact .inr (.inr placeless)

theorem refused_fillGroup {into : Group → Except FormatError Group}
    (refused : assembly.fillGroup part into = .error error) :
    ((assembly.groups = [] ∨ assembly.groupsOver = true) ∧
        error = breach .misplacedSection part) ∨
      ∃ groups group, assembly = ofGroups (groups ++ [group]) ∧ into group = .error error := by
  unfold fillGroup at refused
  split at refused
  · rename_i group last
    obtain ⟨groups, ends⟩ := List.getLast?_eq_some_iff.mp last
    cases closed : assembly.groupsOver with
    | true =>
        rw [closed] at refused
        cases refused
        exact .inl ⟨.inr rfl, rfl⟩
    | false =>
        rw [closed] at refused
        rcases refused_bind refused with fails | ⟨after, -, done⟩
        · refine .inr ⟨groups, group, ?_, fails⟩
          rw [eq_ofGroups closed, ends]
        · cases done
  · rename_i none_yet
    cases refused
    exact .inl ⟨.inl (List.getLast?_eq_none_iff.mp none_yet), rfl⟩

/-- A section that belongs to a group is refused where its group is closed, or has such a table. -/
theorem refuses_of_fillGroup {kind : Kind} {channel : Option UInt8} {offset : Nat}
    {payload : Bytes} (belongs : kind.isGlobal = false) (inner : kind ≠ .initialisation)
    (refused : (assembly.fillGroup ⟨kind, channel, offset, payload⟩ fun group => do
      let value ← fill ⟨kind, channel, offset, payload⟩ (group.slots kind) kind.read
      return group.put kind value) = .error error) :
    assembly.Refuses ⟨kind, channel, offset, payload⟩ error := by
  rcases refused_fillGroup refused with ⟨closed, rfl⟩ | ⟨groups, group, rfl, fails⟩
  · exact .stray belongs closed
  rcases refused_bind fails with unfilled | ⟨value, -, done⟩
  · rcases refused_fill unfilled with ⟨after, unread⟩ | ⟨taken, rfl⟩ | placeless
    · exact .unread unread
    · exact .inGroup inner taken
    · exact .placeless placeless
  · cases done

/-- A table outside of the groups is refused where there is one. -/
theorem refuses_of_fill {kind : Kind} {channel : Option UInt8} {offset : Nat} {payload : Bytes}
    {grown : kind.Table → Assembly}
    (refused : (do
      let value ← fill ⟨kind, channel, offset, payload⟩ (assembly.slots kind) kind.read
      return grown value) = .error error) :
    assembly.Refuses ⟨kind, channel, offset, payload⟩ error := by
  rcases refused_bind refused with unfilled | ⟨value, -, done⟩
  · rcases refused_fill unfilled with ⟨after, unread⟩ | ⟨taken, rfl⟩ | placeless
    · exact .unread unread
    · exact .outside taken
    · exact .placeless placeless
  · cases done

theorem refuses_of_add (refused : assembly.add declared part = .error error) :
    assembly.Refuses part error := by
  obtain ⟨kind, channel, offset, payload⟩ := part
  cases kind with
  | header =>
      cases refused
      exact .header rfl
  | initialisation =>
      simp only [add] at refused
      split at refused
      · cases refused
        exact .placeless trivial
      · rcases refused_bind refused with unread | ⟨script, -, done⟩
        · rcases refused_whole unread with ⟨after, unread⟩ | placeless
          · exact .unread unread
          · exact .placeless placeless
        · cases done
  | audioInterface | profiles | interrupts | power =>
      exact refuses_of_fillGroup rfl (by decide) refused
  | controls | algorithm => exact refuses_of_fill refused

/-! ## What was read before -/

variable {rows : List (List Frame)} {others : List Frame}

/-- A table of the last group was read behind the initialisation section of this group. -/
theorem ReadFrom.seen_inGroup {groups : List Group} {group : Group} {kind : Kind}
    (readFrom : (ofGroups (groups ++ [group])).ReadFrom rows others)
    (inner : kind ≠ .initialisation) (taken : (group.slots kind).isSome) :
    kind.Seen ((rows.flatten ++ others).map (·.1)) := by
  have outside := readFrom.others
  rw [slots_ofGroups] at outside
  have none_yet := eq_nil_of_holds outside
  obtain ⟨front, row, rfl, -, last⟩ := forall₂_concat_left readFrom.groups
  obtain ⟨stored, tables, rfl⟩ := last.begins
  obtain ⟨script, -, -, begins_once⟩ := holds_cons_self.mp (last.holds .initialisation)
  obtain ⟨table, held⟩ := Option.isSome_iff_exists.mp taken
  have among := mem_of_holds (held ▸ last.holds kind)
  rw [List.map_cons, List.mem_cons, or_iff_right inner] at among
  obtain ⟨before, between, split⟩ := List.append_of_mem among
  refine ⟨front.flatten.map (·.1) ++ .initialisation :: before, between, ?_, .inr ?_⟩
  · simp [none_yet, split]
  · intro begins
    have member : .initialisation ∈ tables.map (·.1) := by
      rw [split]
      exact List.mem_append_right before (List.mem_cons_of_mem kind begins)
    obtain ⟨frame, lies, same⟩ := List.mem_map.mp member
    exact holds_none_iff.mp begins_once frame lies same

theorem ReadFrom.mem_others (readFrom : assembly.ReadFrom rows others) {kind : Kind}
    (taken : (assembly.slots kind).isSome) : kind ∈ (rows.flatten ++ others).map (·.1) := by
  obtain ⟨table, held⟩ := Option.isSome_iff_exists.mp taken
  rw [List.map_append]
  exact List.mem_append_right _ (mem_of_holds (held ▸ readFrom.others kind))

theorem ReadFrom.seen_outside (readFrom : assembly.ReadFrom rows others) {kind : Kind}
    (taken : (assembly.slots kind).isSome) :
    kind.Seen ((rows.flatten ++ others).map (·.1)) := by
  refine .of_mem ?_ (readFrom.mem_others taken)
  cases kind with
  | controls | algorithm => rfl
  | header | initialisation | audioInterface | profiles | interrupts | power => cases taken

theorem ReadFrom.stray (readFrom : assembly.ReadFrom rows others) {kind : Kind}
    (belongs : kind.isGlobal = false)
    (closed : assembly.groups = [] ∨ assembly.groupsOver = true) :
    kind.Stray ((rows.flatten ++ others).map (·.1)) := by
  refine ⟨belongs, ?_⟩
  obtain none_yet | ended := closed
  · have groups := readFrom.groups
    rw [none_yet, List.forall₂_nil_left_iff] at groups
    subst groups
    refine .inl fun begins => ?_
    obtain ⟨frame, lies, same⟩ := List.mem_map.mp begins
    obtain shared | shared := readFrom.shared frame lies <;> cases same.symm.trans shared
  · obtain controls | algorithm := Bool.or_eq_true_iff.mp ended
    · have taken : (assembly.slots .controls).isSome := controls
      exact .inr (.inl (readFrom.mem_others taken))
    · have taken : (assembly.slots .algorithm).isSome := algorithm
      exact .inr (.inr (readFrom.mem_others taken))

end Assembly

/-! ## The whole payload -/

/-- Why a payload is refused, and with which report. -/
inductive Walk.Refuses (bytes : Bytes) : FormatError → Prop
  /-- Bytes cannot be read. -/
  | unread {start stop : Nat} {error : FormatError} (failsIn : FailsIn bytes error start stop) :
      Refuses bytes error
  /-- A section of the kind has been there. -/
  | repeated {early late : List Section} {part : Section}
      (found : (ofBytes bytes).sections = early ++ part :: late)
      (seen : part.kind.Seen (early.map (·.kind))) :
      Refuses bytes (Assembly.breach .duplicateSection part)
  /-- A section of a channel stands outside of the groups. -/
  | stray {early late : List Section} {part : Section}
      (found : (ofBytes bytes).sections = early ++ part :: late)
      (stray : part.kind.Stray (early.map (·.kind))) :
      Refuses bytes (Assembly.breach .misplacedSection part)
  /-- What has been read does not make up a payload. -/
  | placeless {error : FormatError} (placeless : error.Placeless) : Refuses bytes error

/-- A channel is incomplete for lack of a section. -/
theorem Group.final_of_finishAll {groups : List Group} {channel : Nat} {error : FormatError}
    (refused : finishAll channel groups = .error error) : error.Final := by
  induction groups generalizing channel with
  | nil => cases refused
  | cons group groups ih =>
      rcases refused_bind refused with incomplete | ⟨tables, -, rest⟩
      · unfold finish at incomplete
        split at incomplete <;> cases incomplete <;> trivial
      · rcases refused_bind rest with incomplete | ⟨others, -, done⟩
        · exact ih incomplete
        · cases done

/-- Only the completeness of a payload is in question once all sections have been added. -/
theorem Assembly.final_of_finish {assembly : Assembly} {bytes : Bytes} {header : Header}
    {error : FormatError} (refused : assembly.finish bytes header = .error error) :
    error.Final := by
  unfold finish at refused
  by_cases missing : assembly.groups.length < header.channels.length
  · simp only [if_pos missing] at refused
    cases refused
    trivial
  simp only [if_neg missing] at refused
  rcases refused_bind refused with incomplete | ⟨channels, -, rest⟩
  · exact Group.final_of_finishAll incomplete
  · split at rest
    · cases rest
      trivial
    · cases rest

namespace Parsed

variable {bytes : Bytes} {error : FormatError}

/-- Sections that are not all added are refused for the first one that is not. -/
theorem refusal_of_addAll {declared count : Nat} {assembly : Assembly} {sections : List Section}
    (refused : (addAll declared count assembly sections).2 = .error error) :
    ∃ early part late grown, sections = early ++ part :: late ∧
      (addAll declared count assembly early).2 = .ok grown ∧ grown.Refuses part error := by
  induction sections generalizing count assembly with
  | nil => cases refused
  | cons part sections ih =>
      unfold addAll at refused
      cases step : assembly.add declared part with
      | error other =>
          rw [step] at refused
          cases refused
          exact ⟨[], part, sections, assembly, rfl, rfl, Assembly.refuses_of_add step⟩
      | ok next =>
          rw [step] at refused
          obtain ⟨early, other, late, grown, rfl, added, refuses⟩ := ih refused
          refine ⟨part :: early, other, late, grown, rfl, ?_, refuses⟩
          unfold addAll
          rw [step]
          exact added

/-- The sections behind the header are refused for one of them, whatever was added before. -/
theorem refuses_of_addAll {declared count : Nat} {first : Section} {others : List Section}
    (found : (Walk.ofBytes bytes).sections = first :: others) (leads : first.kind = .header)
    (refused : (addAll declared count Assembly.empty others).2 = .error error) :
    Walk.Refuses bytes error := by
  obtain ⟨early, part, late, grown, rfl, added, refuses⟩ := refusal_of_addAll refused
  have splits : (Walk.ofBytes bytes).sections = (first :: early) ++ part :: late := found
  obtain ⟨rows, shared, readFrom, all⟩ := readFrom_of_addAll .nothing added
  have kinds : (rows.flatten ++ shared).map (·.1) = early.map (·.kind) := by
    rw [all, List.flatten_nil, List.append_nil, List.nil_append, List.map_map]
    rfl
  have everything : (first :: early).map (·.kind) = .header :: early.map (·.kind) := by
    rw [List.map_cons, leads]
  cases refuses with
  | unread fails => exact .unread (.inside splits fails)
  | header again =>
      refine .repeated splits (.of_mem (by rw [again]; rfl) ?_)
      rw [everything, again]
      exact List.mem_cons_self
  | inGroup inner taken =>
      exact .repeated splits (everything ▸ kinds ▸ (readFrom.seen_inGroup inner taken).cons _)
  | outside taken =>
      exact .repeated splits (everything ▸ kinds ▸ (readFrom.seen_outside taken).cons _)
  | stray belongs closed =>
      exact .stray splits (everything ▸ kinds ▸ (readFrom.stray belongs closed).cons_header)
  | placeless placeless => exact .placeless placeless

/-- A payload that is refused is refused for one of the reasons. -/
theorem refuses_of_outcome (refused : (ofPayload bytes).outcome = .error error) :
    Walk.Refuses bytes error := by
  unfold ofPayload at refused
  split at refused
  · rename_i other walks
    cases refused
    split
    · exact .unread (.framing (congrArg Walk.stopped walks))
    · exact .placeless trivial
  · cases refused
    exact .placeless trivial
  · rename_i first others stopped walks
    have found : (Walk.ofBytes bytes).sections = first :: others := by rw [walks]
    by_cases leads : first.kind = .header
    · rw [if_pos leads] at refused
      cases reads : Header.read first.reader with
      | error other after =>
          rw [reads] at refused
          cases refused
          obtain ⟨kind, channel, offset, payload⟩ := first
          obtain rfl : kind = .header := leads
          have splits : (Walk.ofBytes bytes).sections =
              [] ++ ⟨.header, channel, offset, payload⟩ :: others := found
          exact .unread (.inside splits reads)
      | ok header after =>
          rw [reads] at refused
          rcases refused_bind refused with stops | ⟨assembly, -, rest⟩
          · exact refuses_of_addAll found leads stops
          · cases stopped with
            | some other =>
                cases rest
                exact .unread (.framing (congrArg Walk.stopped walks))
            | none => exact .placeless (Assembly.final_of_finish rest).placeless
    · rw [if_neg leads] at refused
      cases refused
      exact .placeless trivial

end Parsed

/-! ## What the reports say -/

/-- A section lies at a place of a byte string and stands as required behind those before it. -/
def Walk.MeetsAt (bytes : Bytes) (place : Nat) (stands : Kind → List Kind → Prop) : Prop :=
  ∃ early part late, (ofBytes bytes).sections = early ++ part :: late ∧
    place = extent early ∧ (bytes.drop place).take 5 = part.kind.tag ∧
    stands part.kind (early.map (·.kind))

/-- A report on where a section stands gives its place, if the place is below the largest word. -/
theorem Walk.meetsAt_of_found {bytes : Bytes} {early late : List Section} {part : Section}
    {stands : Kind → List Kind → Prop}
    (found : (ofBytes bytes).sections = early ++ part :: late)
    (holds : stands part.kind (early.map (·.kind)))
    (below : (UInt32.ofNatClamp part.offset).toNat < 2 ^ 32 - 1) :
    MeetsAt bytes (UInt32.ofNatClamp part.offset).toNat stands := by
  have place : (UInt32.ofNatClamp part.offset).toNat = extent early := by
    obtain ⟨offset, -⟩ := lies_of_found found
    rw [toNat_ofNatClamp, offset, clampOffset] at below ⊢
    simp only [UInt32.size, UInt64.size] at below ⊢
    omega
  rw [place]
  exact ⟨early, part, late, found, rfl, tag_of_found found, holds⟩

/--
What an error says of a place of the payload is so. Offsets are those that 64 bits hold; the place
of a section is reported in 32 bits.
-/
def FormatError.PointsInto (bytes : Bytes) : FormatError → Prop
  | unknownOpcode opcode offset =>
      ∃ place, offset = clampOffset place ∧ bytes[place]? = some opcode ∧ opcode ∉ [1, 2, 3, 4]
  | unknownTag tag offset =>
      ∃ place, offset = clampOffset place ∧ (bytes.drop place).take 5 = tag ∧ tag.length = 5 ∧
        ∀ kind : Kind, kind.tag ≠ tag
  | invalidRecord .duplicateSection value =>
      value.toNat < 2 ^ 32 - 1 → Walk.MeetsAt bytes value.toNat Kind.Seen
  | invalidRecord .misplacedSection value =>
      value.toNat < 2 ^ 32 - 1 → Walk.MeetsAt bytes value.toNat Kind.Stray
  | _ => True

theorem FormatError.Placeless.pointsInto {error : FormatError} (placeless : error.Placeless)
    (bytes : Bytes) : error.PointsInto bytes := by
  cases error with
  | truncated | unknownTag | unknownOpcode => cases placeless
  | invalidRecord rule value => cases rule <;> trivial
  | missingHeader | missingSection | unsupportedVersion | badChannelCount | scriptOverrun
  | badName => trivial

theorem FormatError.Founded.pointsInto {bytes : Bytes} {start stop : Nat} {error : FormatError}
    (founded : error.Founded bytes start stop) : error.PointsInto bytes := by
  cases founded with
  | missing | miscounted => trivial
  | unknownTag lies whole unknown =>
      refine ⟨_, rfl, lies, whole, fun kind same => ?_⟩
      rw [← same, Kind.ofTag?_tag] at unknown
      cases unknown
  | unknownOpcode lies unknown => exact ⟨_, rfl, lies, unknown⟩
  | placeless placeless => exact placeless.pointsInto bytes

/-- Reports point at the bytes that they are about. -/
theorem Parsed.pointsInto_of_refused {bytes : Bytes} {error : FormatError}
    (refused : (ofPayload bytes).outcome = .error error) : error.PointsInto bytes := by
  cases refuses_of_outcome refused with
  | unread failsIn => exact failsIn.founded.pointsInto
  | repeated found seen => exact Walk.meetsAt_of_found found seen
  | stray found stray => exact Walk.meetsAt_of_found found stray
  | placeless placeless => exact placeless.pointsInto bytes

/-- The last group has its core scripts twice, and the second ones are pointed at. -/
theorem Parsed.pointsInto_repeated :
    let bytes := ((Draft.new 1).addSection Kind.power.tag PowerScripts.standard.encode).build
    (ofPayload bytes).outcome = .error (.invalidRecord .duplicateSection 268) ∧
      Walk.MeetsAt bytes 268 Kind.Seen := by
  intro bytes
  have refused : (ofPayload bytes).outcome = .error (.invalidRecord .duplicateSection 268) := by
    decide +kernel
  exact ⟨refused, pointsInto_of_refused refused (by decide)⟩

/--
A report of missing bytes gives the bytes that are left in the part that is read. They are fewer
than needed, unless the offset is that of a word which counts records: what is needed is then the
number of records, and it is the bytes behind the word that are fewer.
-/
theorem Parsed.missing_of_truncated {bytes : Bytes} {offset needed available : Nat}
    (refused : (ofPayload bytes).outcome = .error (.truncated offset needed available)) :
    ∃ start stop place, Walk.FailsIn bytes (.truncated offset needed available) start stop ∧
      start ≤ place ∧ offset = clampOffset place ∧ place + available = stop ∧
      (available < needed ∨ ∃ number : UInt32,
        (bytes.drop place).take 4 = LittleEndian.word number ∧ needed = number.toNat ∧
          4 ≤ available ∧ available < 4 + needed) := by
  cases refuses_of_outcome refused with
  | unread failsIn =>
      cases failsIn.founded with
      | missing behind left short => exact ⟨_, _, _, failsIn, behind, rfl, left, .inl short⟩
      | miscounted behind left counts some_left short =>
          exact ⟨_, _, _, failsIn, behind, rfl, left, .inr ⟨_, counts, rfl, some_left, short⟩⟩
      | placeless placeless => cases placeless
  | placeless placeless => cases placeless

/-- The number of parameters needs four bytes, and three are left of the section. -/
theorem Parsed.missing_fourth_byte :
    let bytes := ((Draft.new 1).addSection Kind.algorithm.tag [1, 0, 0]).build
    (ofPayload bytes).outcome = .error (.truncated 277 4 3) ∧
      ∃ start stop place, Walk.FailsIn bytes (.truncated 277 4 3) start stop ∧ start ≤ place ∧
        277 = clampOffset place ∧ place + 3 = stop := by
  intro bytes
  have refused : (ofPayload bytes).outcome = .error (.truncated 277 4 3) := by decide +kernel
  obtain ⟨start, stop, place, failsIn, behind, offset, left, -⟩ := missing_of_truncated refused
  exact ⟨refused, start, stop, place, failsIn, behind, offset, left⟩

/-- One parameter is counted and none follows: more bytes are said to be left than are needed. -/
theorem Parsed.counted_parameter_missing :
    let bytes := ((Draft.new 1).addSection Kind.algorithm.tag [1, 0, 0, 0]).build
    ∃ offset needed available, (ofPayload bytes).outcome =
      .error (.truncated offset needed available) ∧ ¬available < needed := by
  intro bytes
  have refused : (ofPayload bytes).outcome = .error (.truncated 277 1 4) := by decide +kernel
  exact ⟨277, 1, 4, refused, by decide⟩

end AmpControl.Tuning
