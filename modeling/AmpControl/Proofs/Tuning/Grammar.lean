import AmpControl.Proofs.Tuning.Division
import AmpControl.Proofs.Tuning.Growth
import AmpControl.Proofs.Tuning.RoundTrip

/-!
# Which payloads are accepted

The reader accepts the payloads of one grammar and no others. The grammar is stated over the frames
of the bytes: a header, the group of each declared channel, and then the frames outside of them.
-/

namespace AmpControl.Tuning

/-! ## From an assembly to a payload -/

namespace Group

theorem finish_eq_ok_iff {group : Group} (channel : Nat) {tables : ChannelTables} :
    group.finish channel = .ok tables ↔ group = tables.group := by
  obtain ⟨initialisation, audioInterface, profiles, interrupts, power⟩ := group
  obtain ⟨⟩ := tables
  cases profiles <;> cases power <;> simp [finish, ChannelTables.group]

theorem finishAll_eq_ok_iff {groups : List Group} (channel : Nat) {tables : List ChannelTables} :
    finishAll channel groups = .ok tables ↔ groups = tables.map ChannelTables.group := by
  induction groups generalizing channel tables with
  | nil => cases tables <;> simp [finishAll]
  | cons group groups ih =>
      constructor
      · intro finished
        obtain ⟨first, one, rest⟩ := passed_bind finished
        obtain ⟨others, all, made⟩ := passed_bind rest
        cases made
        rw [List.map_cons, (finish_eq_ok_iff channel).mp one, (ih (channel + 1)).mp all]
      · intro made
        obtain ⟨first, others, rfl, one, all⟩ := List.map_eq_cons_iff.mp made.symm
        have finished := (finish_eq_ok_iff channel).mpr one.symm
        have follows := (ih (channel + 1)).mpr all.symm
        rw [finishAll, finished]
        simp only [bind, Except.bind, follows]
        rfl

end Group

/-- A payload with the tables of an assembly that is complete. -/
structure Assembly.Makes (assembly : Assembly) (payload : Payload) : Prop where
  complete : payload.header.channels.length ≤ assembly.groups.length
  groups : assembly.groups = payload.channels.map ChannelTables.group
  controls : payload.controls = assembly.controls.getD []
  algorithm : payload.algorithm = assembly.algorithm.getD []
  known : ∀ control ∈ payload.controls, control.channel.toNat < payload.header.channels.length

theorem Assembly.finish_eq_ok_iff {assembly : Assembly} {bytes : Bytes} {header : Header}
    {payload : Payload} : assembly.finish bytes header = .ok payload ↔
      payload.bytes = bytes ∧ payload.header = header ∧ assembly.Makes payload := by
  constructor
  · intro finished
    unfold finish at finished
    by_cases missing : assembly.groups.length < header.channels.length
    · simp only [if_pos missing] at finished
      cases finished
    simp only [if_neg missing] at finished
    obtain ⟨channels, grouped, rest⟩ := passed_bind finished
    cases stray : (assembly.controls.getD []).find? fun control =>
        decide (header.channels.length ≤ control.channel.toNat) with
    | some control => rw [stray] at rest; cases rest
    | none =>
        rw [stray] at rest
        cases rest
        refine ⟨rfl, rfl, Nat.le_of_not_lt missing, (Group.finishAll_eq_ok_iff 0).mp grouped, rfl,
          rfl, fun control member => ?_⟩
        have declared := List.find?_eq_none.mp stray control member
        exact Nat.lt_of_not_le fun beyond => declared (decide_eq_true beyond)
  · rintro ⟨rfl, rfl, complete, groups, controls, algorithm, known⟩
    have none_stray : (assembly.controls.getD []).find? (fun control =>
        decide (payload.header.channels.length ≤ control.channel.toNat)) = none := by
      refine List.find?_eq_none.mpr fun control member => ?_
      rw [decide_eq_true_eq]
      exact Nat.not_le.mpr (known control (controls ▸ member))
    have finished := (Group.finishAll_eq_ok_iff 0).mpr groups
    simp only [finish, if_neg (Nat.not_lt.mpr complete), finished, none_stray]
    rw [← controls, ← algorithm]
    rfl

/-! ## From bytes to an assembly -/

namespace Parsed

/-- Adding sections carries on what an assembly was read from. -/
theorem readFrom_of_addAll {declared count : Nat} {assembly grown : Assembly}
    {sections : List Section} {rows : List (List Frame)} {others : List Frame}
    (readFrom : assembly.ReadFrom rows others)
    (added : (addAll declared count assembly sections).2 = .ok grown) :
    ∃ grownRows grownOthers, grown.ReadFrom grownRows grownOthers ∧
      grownRows.flatten ++ grownOthers =
        rows.flatten ++ others ++ sections.map Section.content := by
  induction sections generalizing count assembly rows others with
  | nil =>
      cases added
      exact ⟨rows, others, readFrom, by rw [List.map_nil, List.append_nil]⟩
  | cons part sections ih =>
      unfold addAll at added
      cases step : assembly.add declared part with
      | error error => rw [step] at added; cases added
      | ok next =>
          rw [step] at added
          obtain ⟨nextRows, nextOthers, nextReadFrom, more⟩ :=
            readFrom.grow (Assembly.grows_of_add step)
          obtain ⟨grownRows, grownOthers, grownReadFrom, all⟩ := ih nextReadFrom added
          refine ⟨grownRows, grownOthers, grownReadFrom, ?_⟩
          rw [all, more, List.map_cons, List.append_assoc, List.singleton_append]

/-- A payload that was read begins with a header, whose sections make the payload up. -/
theorem walk_of_outcome {bytes : Bytes} {payload : Payload}
    (accepted : (ofPayload bytes).outcome = .ok payload) :
    ∃ first others after assembly, Walk.ofBytes bytes = ⟨first :: others, none⟩ ∧
      first.kind = .header ∧ Header.read first.reader = .ok payload.header after ∧
      (addAll payload.header.channels.length 1 Assembly.empty others).2 = .ok assembly ∧
      payload.bytes = bytes ∧ assembly.Makes payload := by
  unfold ofPayload at accepted
  split at accepted
  · cases accepted
  · cases accepted
  · rename_i first others stopped found
    by_cases leads : first.kind = .header
    · rw [if_pos leads] at accepted
      cases reads : Header.read first.reader with
      | error error after => rw [reads] at accepted; cases accepted
      | ok header after =>
          rw [reads] at accepted
          obtain ⟨assembly, added, rest⟩ := passed_bind accepted
          cases stopped with
          | some error => cases rest
          | none =>
              obtain ⟨bytes_eq, rfl, makes⟩ := Assembly.finish_eq_ok_iff.mp rest
              exact ⟨first, others, after, assembly, found, leads, reads, added, bytes_eq, makes⟩
    · rw [if_neg leads] at accepted
      cases accepted

/-- The frames of a payload that was read, and the assembly that they make up. -/
theorem frames_of_outcome {bytes : Bytes} {payload : Payload}
    (accepted : (ofPayload bytes).outcome = .ok payload) :
    ∃ stored frames assembly, bytes = ((Kind.header, stored) :: frames).flatMap Section.stored ∧
      Framable ((Kind.header, stored) :: frames) ∧
      Read.Decodes Header.read stored payload.header ∧
      (addAll payload.header.channels.length 1 Assembly.empty
        (Walk.placed 0 (Section.stored (.header, stored)).length frames)).2 = .ok assembly ∧
      payload.bytes = bytes ∧ assembly.Makes payload := by
  obtain ⟨first, others, after, assembly, walks, leads, reads, added, bytes_eq, makes⟩ :=
    walk_of_outcome accepted
  have finished : (Walk.ofBytes bytes).stopped = none := by rw [walks]
  obtain ⟨frames, framable, rfl⟩ := Walk.frames_of_ofBytes finished
  rw [Walk.ofBytes_stored framable] at walks
  obtain ⟨lie, -⟩ := Walk.mk.inj walks
  cases frames with
  | nil => cases lie
  | cons frame frames =>
      obtain ⟨begins, follows⟩ := List.cons.inj lie
      obtain ⟨kind, stored⟩ := frame
      subst begins
      cases leads
      obtain ⟨yields, none_left⟩ := Header.exhausts_read reads
      obtain ⟨ended, again⟩ := yields 0 0
      refine ⟨stored, frames, assembly, rfl, framable, ⟨ended, again, ?_⟩, ?_, bytes_eq, makes⟩
      · exact (Header.exhausts_read again).2
      · rw [← follows, Nat.zero_add] at added
        exact added

end Parsed

/-! ## The grammar -/

/-- Only controls and algorithm parameters stand outside of the groups. -/
theorem Assembly.ReadFrom.shared {assembly : Assembly} {rows : List (List Frame)}
    {others : List Frame} (readFrom : assembly.ReadFrom rows others) (frame : Frame)
    (member : frame ∈ others) : frame.1 = .controls ∨ frame.1 = .algorithm := by
  obtain ⟨kind, stored⟩ := frame
  cases kind with
  | controls => exact .inl rfl
  | algorithm => exact .inr rfl
  | header | initialisation | audioInterface | profiles | interrupts | power =>
      exact absurd rfl (holds_none_iff.mp (readFrom.others _) _ member)

/--
A payload and the frames of its bytes: the header, a row of frames for each channel, and the frames
that belong to no channel.
-/
structure Payload.Framed (payload : Payload) (stored : Bytes) (rows : List (List Frame))
    (others : List Frame) : Prop where
  /-- The frames are all that there is. -/
  bytes : payload.bytes = ((Kind.header, stored) :: (rows.flatten ++ others)).flatMap Section.stored
  lengths : Framable ((Kind.header, stored) :: (rows.flatten ++ others))
  header : Read.Decodes Header.read stored payload.header
  version : payload.header.version ≤ 3
  some_channel : 1 ≤ payload.header.channels.length
  few_channels : payload.header.channels.length ≤ 4
  declared : payload.channels.length = payload.header.channels.length
  /-- The group of each channel holds the tables of the channel and nothing else. -/
  channels : List.Forall₂ (fun tables frames => tables.slots.Grouped frames) payload.channels rows
  shared : ∀ frame ∈ others, frame.1 = .controls ∨ frame.1 = .algorithm
  /-- The controls are in one frame at most, and so are the algorithm parameters. -/
  controls : ∃ controls, Holds others .controls controls ∧ payload.controls = controls.getD []
  algorithm : ∃ algorithm, Holds others .algorithm algorithm ∧
    payload.algorithm = algorithm.getD []
  /-- No control is on a channel that the header does not declare. -/
  known : ∀ control ∈ payload.controls, control.channel.toNat < payload.header.channels.length

theorem Payload.framed_of_outcome {bytes : Bytes} {payload : Payload}
    (accepted : (Parsed.ofPayload bytes).outcome = .ok payload) :
    payload.bytes = bytes ∧ ∃ stored rows others, payload.Framed stored rows others := by
  obtain ⟨stored, frames, assembly, split, framable, header, added, bytes_eq, makes⟩ :=
    Parsed.frames_of_outcome accepted
  obtain ⟨rows, others, readFrom, all⟩ := Parsed.readFrom_of_addAll .nothing added
  rw [Walk.map_content_placed, List.flatten_nil, List.append_nil, List.nil_append] at all
  obtain ⟨after, reads, none_left⟩ := header
  obtain ⟨_, _, _, _, _, _, _, known, _⟩ := Header.of_read reads
  obtain ⟨some_channel, few_channels⟩ := Header.channels_bounds reads
  have groups := makes.groups ▸ readFrom.groups
  refine ⟨bytes_eq, stored, rows, others, ?_⟩
  exact {
    bytes := by rw [bytes_eq, split, all]
    lengths := all ▸ framable
    header := ⟨after, reads, none_left⟩
    version := known
    some_channel
    few_channels
    declared := (Parsed.shaped_ofPayload accepted).declared
    channels := by simpa using List.forall₂_map_left_iff.mp groups
    shared := readFrom.shared
    controls := ⟨assembly.controls, readFrom.others .controls, makes.controls⟩
    algorithm := ⟨assembly.algorithm, readFrom.others .algorithm, makes.algorithm⟩
    known := makes.known }

theorem Parsed.outcome_of_framed {payload : Payload} {stored : Bytes} {rows : List (List Frame)}
    {others : List Frame} (framed : payload.Framed stored rows others) :
    (ofPayload payload.bytes).outcome = .ok payload := by
  obtain ⟨controls, holdsControls, controls_eq⟩ := framed.controls
  obtain ⟨algorithm, holdsAlgorithm, algorithm_eq⟩ := framed.algorithm
  have readFrom : Assembly.ReadFrom ⟨payload.channels.map ChannelTables.group, controls, algorithm⟩
      rows others := by
    refine ⟨List.forall₂_map_left_iff.mpr (by simpa using framed.channels), fun kind => ?_⟩
    cases kind with
    | controls => exact holdsControls
    | algorithm => exact holdsAlgorithm
    | header | initialisation | audioInterface | profiles | interrupts | power =>
        refine holds_none_iff.mpr fun frame member same => ?_
        obtain shared | shared := framed.shared frame member <;> cases same.symm.trans shared
  have accepts := Assembly.acceptsAll_of_readFrom
    (by rw [List.length_map, framed.declared]) readFrom
  obtain ⟨after, reads, _⟩ := framed.header
  have complete : payload.header.channels.length ≤
      (payload.channels.map ChannelTables.group).length := by
    rw [List.length_map, framed.declared]
  rw [framed.bytes]
  refine outcome_of_frames framed.lengths (Header.exhausts_read reads).1 accepts ?_
  rw [← framed.bytes]
  exact Assembly.finish_eq_ok_iff.mpr
    ⟨rfl, rfl, complete, rfl, controls_eq, algorithm_eq, framed.known⟩

/--
The payloads that are accepted are those of the grammar. Every frame lies within the bytes and none
are left over; each channel is read from the group in its place.
-/
theorem Parsed.accepts_iff_framed {bytes : Bytes} {payload : Payload} :
    (ofPayload bytes).outcome = .ok payload ↔
      payload.bytes = bytes ∧ ∃ stored rows others, payload.Framed stored rows others := by
  constructor
  · exact Payload.framed_of_outcome
  · rintro ⟨rfl, stored, rows, others, framed⟩
    exact outcome_of_framed framed

/-- A payload that is found by evaluation is accepted. -/
theorem Parsed.outcome_of_toOption {bytes : Bytes} {payload : Payload}
    (found : (ofPayload bytes).outcome.toOption = some payload) :
    (ofPayload bytes).outcome = .ok payload := by
  cases outcome : (ofPayload bytes).outcome with
  | error error => rw [outcome] at found; cases found
  | ok parsed => rw [outcome] at found; cases found; rfl

theorem Draft.furnished_accepted :
    (Parsed.ofPayload Draft.furnished.build).outcome = .ok Draft.furnished.payload :=
  Parsed.outcome_of_toOption (by decide +kernel)

end AmpControl.Tuning
