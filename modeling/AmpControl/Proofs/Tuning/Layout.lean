import AmpControl.Proofs.Tuning.Taking
import AmpControl.Tuning.Payload

/-!
# Sections one behind the other

A walk over framed sections finds each of them and does not stop early. The assembly of a payload
looks at the kinds and the payloads of the sections only, so what it makes of a row of sections is
said of the frames, wherever they lie.
-/

namespace AmpControl.Tuning

/-- A kind and the payload that is framed under its tag. -/
abbrev Frame := Kind × Bytes

namespace Section

/-- What a section holds, wherever it lies. -/
def content (part : Section) : Frame := (part.kind, part.payload)

/-- The stored form of a section. -/
def stored (frame : Frame) : Bytes := Section.frame frame.1.tag frame.2

theorem stored_ne_nil (frame : Frame) : stored frame ≠ [] := by
  refine List.length_pos_iff.mp ?_
  simp only [stored, Section.frame, List.length_append, Kind.length_tag]
  omega

/-- The number of groups that have begun once a section of the given kind is read. -/
def reached (groups : Nat) (kind : Kind) : Nat :=
  if kind = .initialisation then groups + 1 else groups

/-- The section that a frame makes up behind `groups` initialisation sections. -/
def placed (groups offset : Nat) (frame : Frame) : Section :=
  ⟨frame.1, channelOf (reached groups frame.1), clampOffset offset, frame.2⟩

theorem read_stored (frame : Frame) (small : frame.2.length < UInt32.size) (groups : Nat)
    (rest : Bytes) (position base : Nat) :
    read groups ⟨stored frame ++ rest, position, base⟩ =
      .ok (placed groups (base + position) frame)
        ⟨rest, position + (stored frame).length, base⟩ := by
  obtain ⟨kind, payload⟩ := frame
  have tagged := Read.takes_length kind.tag kind.length_tag
    (LittleEndian.count payload.length ++ payload ++ rest) position base
  have framed := Read.takes_lengthPrefixed payload small rest (position + kind.tag.length) base
  simp only [read, bind, EStateM.bind, stored, frame, List.append_assoc, Read.offset, Read.tag,
    List.length_append, Nat.add_assoc] at tagged framed ⊢
  simp only [tagged, Kind.ofTag?_tag, EStateM.bind, framed]
  rfl

end Section

namespace Walk

/-- The sections that a row of frames makes up from the given offset on. -/
def placed : (groups offset : Nat) → List Frame → List Section
  | _, _, [] => []
  | groups, offset, frame :: others =>
      Section.placed groups offset frame ::
        placed (Section.reached groups frame.1) (offset + (Section.stored frame).length) others

theorem map_content_placed (groups offset : Nat) (frames : List Frame) :
    (placed groups offset frames).map Section.content = frames := by
  induction frames generalizing groups offset with
  | nil => rfl
  | cons first others ih => rw [placed, List.map_cons, ih]; rfl

theorem go_stored {frames : List Frame} (small : ∀ frame ∈ frames, frame.2.length < UInt32.size)
    {bound : Nat} (enough : frames.length ≤ bound) (groups position base : Nat) :
    go bound groups ⟨frames.flatMap Section.stored, position, base⟩ =
      ⟨placed groups (base + position) frames, none⟩ := by
  induction frames generalizing bound groups position with
  | nil => cases bound <;> rfl
  | cons first others ih =>
      cases bound with
      | zero => exact absurd enough (Nat.not_succ_le_zero _)
      | succ bound =>
          have reads := Section.read_stored first (small first List.mem_cons_self) groups
            (others.flatMap Section.stored) position base
          have follows := ih (fun frame member => small frame (List.mem_cons_of_mem _ member))
            (Nat.le_of_succ_le_succ enough) (Section.reached groups first.1)
            (position + (Section.stored first).length)
          have some_byte :
              (Section.stored first ++ others.flatMap Section.stored).isEmpty = false := by
            simp [Section.stored_ne_nil first]
          rw [Section.reached] at follows
          rw [List.flatMap_cons]
          simp only [go, some_byte, Bool.false_eq_true, if_false, reads, Section.placed, follows,
            placed, Section.reached, Nat.add_assoc]

/-- A walk over frames finds the section of each of them and does not stop. -/
theorem ofBytes_stored {frames : List Frame}
    (small : ∀ frame ∈ frames, frame.2.length < UInt32.size) :
    ofBytes (frames.flatMap Section.stored) = ⟨placed 0 0 frames, none⟩ :=
  go_stored small (Read.length_le_flatMap fun frame _ => Section.stored_ne_nil frame) 0 0 0

end Walk

/-- A table that fills its section is read as it was written. -/
theorem Read.Takes.whole_reader {α : Type} {table : Read α} {encoded : Bytes} {value : α}
    (takes : Read.Takes table encoded value) {part : Section} (payload : part.payload = encoded) :
    Assembly.whole (table part.reader) = .ok value ∧
      ∃ after, table part.reader = .ok value after := by
  have all := takes [] 0 part.payloadOffset
  rw [List.append_nil, ← payload] at all
  rw [Section.reader, Reader.start, all]
  exact ⟨rfl, _, rfl⟩

namespace Assembly

variable {declared : Nat} {assembly middle grown : Assembly} {frame : Frame}
  {frames others : List Frame}

/-- An assembly takes a section up wherever it lies. -/
def Accepts (declared : Nat) (assembly : Assembly) (frame : Frame) (grown : Assembly) : Prop :=
  ∀ part : Section, part.content = frame → assembly.add declared part = .ok grown

/-- An assembly takes up a row of sections one after the other. -/
def AcceptsAll (declared : Nat) (assembly : Assembly) (frames : List Frame) (grown : Assembly) :
    Prop :=
  ∀ (count : Nat) (sections rest : List Section), sections.map Section.content = frames →
    ∃ reached, Parsed.addAll declared count assembly (sections ++ rest) =
      Parsed.addAll declared reached grown rest

theorem AcceptsAll.nil (declared : Nat) (assembly : Assembly) :
    AcceptsAll declared assembly [] assembly := by
  intro count sections rest none_left
  rw [List.map_eq_nil_iff.mp none_left]
  exact ⟨count, rfl⟩

theorem Accepts.all (accepts : Accepts declared assembly frame grown) :
    AcceptsAll declared assembly [frame] grown := by
  intro count sections rest one_left
  obtain ⟨part, rfl, same⟩ := List.map_eq_singleton_iff.mp one_left
  refine ⟨count + 1, ?_⟩
  rw [List.singleton_append, Parsed.addAll, accepts part same]

theorem AcceptsAll.append (early : AcceptsAll declared assembly frames middle)
    (late : AcceptsAll declared middle others grown) :
    AcceptsAll declared assembly (frames ++ others) grown := by
  intro count sections rest both
  obtain ⟨first, second, rfl, firsts, seconds⟩ := List.map_eq_append_iff.mp both
  obtain ⟨between, begins⟩ := early count first (second ++ rest) firsts
  obtain ⟨reached, ends⟩ := late between second rest seconds
  exact ⟨reached, by rw [List.append_assoc, begins, ends]⟩

theorem Accepts.before (accepts : Accepts declared assembly frame middle)
    (late : AcceptsAll declared middle frames grown) :
    AcceptsAll declared assembly (frame :: frames) grown :=
  accepts.all.append late

/-- A section that is there or not is taken up or passed over. -/
theorem AcceptsAll.of_option {α : Type} {table : Option α} {made : α → Frame}
    (absent : table = none → grown = assembly)
    (present : ∀ value, table = some value → Accepts declared assembly (made value) grown) :
    AcceptsAll declared assembly (table.toList.map made) grown := by
  cases table with
  | none => exact absent rfl ▸ AcceptsAll.nil declared _
  | some value => exact (present value rfl).all

/-! ## Sections of a channel -/

/-- The assembly of channel groups only. -/
def ofGroups (groups : List Group) : Assembly := ⟨groups, none, none⟩

variable {groups : List Group} {group filled : Group}

theorem accepts_initialisation {script : Script} {encoded : Bytes}
    (room : groups.length < declared) (takes : Read.Takes Script.read encoded script) :
    Accepts declared (ofGroups groups) (.initialisation, encoded)
      (ofGroups (groups ++ [Group.start script])) := by
  rintro ⟨_, channel, offset, payload⟩ same
  obtain ⟨rfl, rfl⟩ := Prod.mk.inj same
  have read : whole (Script.read (Section.reader ⟨.initialisation, channel, offset, _⟩)) = _ :=
    (takes.whole_reader rfl).1
  have free : ¬(declared ≤ groups.length ∨ False) := by
    rintro (full | none)
    · exact absurd room (Nat.not_lt.mpr full)
    · exact none
  simp only [add, ofGroups, groupsOver, Option.isSome_none, Bool.or_self, Bool.false_eq_true,
    if_neg free, read]
  rfl

theorem fillGroup_last {part : Section} {into : Group → Except FormatError Group}
    (fills : into group = .ok filled) :
    fillGroup (ofGroups (groups ++ [group])) part into = .ok (ofGroups (groups ++ [filled])) := by
  simp only [fillGroup, ofGroups, List.getLast?_concat, groupsOver, Option.isSome_none,
    Bool.or_self, Bool.false_eq_true, if_false, fills, List.dropLast_concat]
  rfl

theorem fill_none {α : Type} {table : Read α} {encoded : Bytes} {value : α} {part : Section}
    (takes : Read.Takes table encoded value) (payload : part.payload = encoded) :
    fill part none table = .ok value := by
  obtain ⟨whole, after, reads⟩ := takes.whole_reader payload
  rw [reads] at whole
  simp only [fill, reads, Option.isSome_none, Bool.false_eq_true, if_false, whole]

/--
A table of the last channel is taken up in its place. The place and what is put there are given for
each kind of section, with the equation that says how a section of this kind is added.
-/
theorem accepts_into {α : Type} {kind : Kind} {table : Read α} {value : α} {encoded : Bytes}
    (place : Group → Option α) (put : Group → α → Group)
    (adds : ∀ (assembly : Assembly) (part : Section), part.kind = kind →
      assembly.add declared part = assembly.fillGroup part fun group => do
        let value ← fill part (place group) table
        return put group value)
    (free : place group = none) (takes : Read.Takes table encoded value) :
    Accepts declared (ofGroups (groups ++ [group])) (kind, encoded)
      (ofGroups (groups ++ [put group value])) := by
  intro part same
  obtain ⟨kinds, payloads⟩ := Prod.mk.inj same
  rw [adds _ part kinds]
  refine fillGroup_last ?_
  rw [free, fill_none takes payloads]
  rfl

theorem accepts_audioInterface {tables : AudioInterface} {encoded : Bytes}
    (free : group.audioInterface = none)
    (takes : Read.Takes AudioInterface.read encoded tables) :
    Accepts declared (ofGroups (groups ++ [group])) (.audioInterface, encoded)
      (ofGroups (groups ++ [{ group with audioInterface := some tables }])) :=
  accepts_into (·.audioInterface) (fun group tables => { group with audioInterface := some tables })
    (fun _ _ same => by simp only [add, same]) free takes

theorem accepts_profiles {profiles : List Profile} {encoded : Bytes} (free : group.profiles = none)
    (takes : Read.Takes Profile.readTable encoded profiles) :
    Accepts declared (ofGroups (groups ++ [group])) (.profiles, encoded)
      (ofGroups (groups ++ [{ group with profiles := some profiles }])) :=
  accepts_into (·.profiles) (fun group profiles => { group with profiles := some profiles })
    (fun _ _ same => by simp only [add, same]) free takes

theorem accepts_interrupts {table : InterruptTable} {encoded : Bytes}
    (free : group.interrupts = none)
    (takes : Read.Takes InterruptTable.read encoded table) :
    Accepts declared (ofGroups (groups ++ [group])) (.interrupts, encoded)
      (ofGroups (groups ++ [{ group with interrupts := some table }])) :=
  accepts_into (·.interrupts) (fun group table => { group with interrupts := some table })
    (fun _ _ same => by simp only [add, same]) free takes

theorem accepts_power {scripts : PowerScripts} {encoded : Bytes} (free : group.power = none)
    (takes : Read.Takes PowerScripts.read encoded scripts) :
    Accepts declared (ofGroups (groups ++ [group])) (.power, encoded)
      (ofGroups (groups ++ [{ group with power := some scripts }])) :=
  accepts_into (·.power) (fun group scripts => { group with power := some scripts })
    (fun _ _ same => by simp only [add, same]) free takes

/-! ## Sections of the payload -/

theorem accepts_controls {controls : List Control} {encoded : Bytes}
    (free : assembly.controls = none) (takes : Read.Takes Control.readTable encoded controls) :
    Accepts declared assembly (.controls, encoded)
      { assembly with controls := some controls } := by
  intro part same
  obtain ⟨kinds, payloads⟩ := Prod.mk.inj same
  simp only [add, kinds, free, fill_none takes payloads]
  rfl

theorem accepts_algorithm {parameters : List AlgorithmParameter} {encoded : Bytes}
    (free : assembly.algorithm = none)
    (takes : Read.Takes (Read.counted AlgorithmParameter.read) encoded parameters) :
    Accepts declared assembly (.algorithm, encoded)
      { assembly with algorithm := some parameters } := by
  intro part same
  obtain ⟨kinds, payloads⟩ := Prod.mk.inj same
  simp only [add, kinds, free, fill_none takes payloads]
  rfl

end Assembly

/-! ## The whole payload -/

/--
A header and a row of sections become the payload that the assembly of the sections makes up, if the
assembly is complete.
-/
theorem Parsed.outcome_of_frames {header : Header} {stored : Bytes} {frames : List Frame}
    {assembly : Assembly} {payload : Payload}
    (small : ∀ frame ∈ (Kind.header, stored) :: frames, frame.2.length < UInt32.size)
    (reads : Read.Yields Header.read stored header)
    (accepts : Assembly.AcceptsAll header.channels.length Assembly.empty frames assembly)
    (complete : assembly.finish (((Kind.header, stored) :: frames).flatMap Section.stored) header =
      .ok payload) :
    (ofPayload (((Kind.header, stored) :: frames).flatMap Section.stored)).outcome =
      .ok payload := by
  have walks := Walk.ofBytes_stored small
  generalize ((Kind.header, stored) :: frames).flatMap Section.stored = bytes at *
  have leads : (Section.placed 0 0 (.header, stored)).kind = .header := rfl
  obtain ⟨after, begins⟩ := reads 0 (Section.placed 0 0 (.header, stored)).payloadOffset
  change Header.read (Section.placed 0 0 (.header, stored)).reader = _ at begins
  obtain ⟨reached, adds⟩ := accepts 1 _ [] (Walk.map_content_placed
    (Section.reached 0 .header) (0 + (Section.stored (.header, stored)).length) frames)
  rw [List.append_nil] at adds
  rw [ofPayload, walks]
  simp only [Walk.placed, leads, if_true, begins, body, adds, addAll]
  exact complete

end AmpControl.Tuning
