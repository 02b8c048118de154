import AmpControl.Proofs.Tuning.Grammar

/-!
# Payloads without unused interrupt tables

A header that does not put interrupt tables in use makes those of the payload irrelevant. Such a
payload can be trimmed: without the sections of the interrupt tables its bytes are a payload again,
and all else in it stays the same.
-/

namespace AmpControl.Tuning

/-! ## Frames -/

/-- The frames that hold no interrupt table. -/
def untabled (frames : List Frame) : List Frame := frames.filter fun frame => frame.1 ≠ .interrupts

variable {frames others : List Frame} {kind : Kind}

theorem mem_untabled {frame : Frame} :
    frame ∈ untabled frames ↔ frame ∈ frames ∧ frame.1 ≠ .interrupts := by
  simp [untabled]

theorem untabled_cons_of_ne {frame : Frame} (table : frame.1 ≠ .interrupts) :
    untabled (frame :: frames) = frame :: untabled frames :=
  List.filter_cons_of_pos (decide_eq_true table)

theorem untabled_eq_self (none_there : ∀ frame ∈ frames, frame.1 ≠ .interrupts) :
    untabled frames = frames :=
  List.filter_eq_self.mpr fun frame member => decide_eq_true (none_there frame member)

theorem untabled_untabled (frames : List Frame) : untabled (untabled frames) = untabled frames :=
  untabled_eq_self fun _ member => (mem_untabled.mp member).2

theorem Framable.untabled (framable : Framable frames) : Framable (untabled frames) :=
  fun frame member => framable frame (mem_untabled.mp member).1

/-- Frames of any other kind hold what they held. -/
theorem holds_untabled {slot : Option kind.Table} (other : kind ≠ .interrupts) :
    Holds (untabled frames) kind slot ↔ Holds frames kind slot := by
  have same : payloads kind (untabled frames) = payloads kind frames := by
    rw [payloads, untabled, List.filter_filter, payloads]
    congr 1
    refine List.filter_congr fun frame _ => ?_
    by_cases wanted : frame.1 = kind
    · simp [wanted, other]
    · simp [wanted]
  rw [Holds, Holds, same]

/-! ## Bytes -/

/-- The sections of a payload that hold no interrupt table, one behind the other. -/
def withoutInterrupts (bytes : Bytes) : Bytes :=
  (untabled ((Walk.ofBytes bytes).sections.map Section.content)).flatMap Section.stored

theorem withoutInterrupts_stored (framable : Framable frames) :
    withoutInterrupts (frames.flatMap Section.stored) =
      (untabled frames).flatMap Section.stored := by
  rw [withoutInterrupts, Walk.ofBytes_stored framable, Walk.map_content_placed]

/-! ## Payloads -/

/-- The tables of a channel without its interrupt table, unless it is in use. -/
def ChannelTables.trim (used : Bool) (tables : ChannelTables) : ChannelTables :=
  { tables with interrupts := if used then tables.interrupts else none }

theorem ChannelTables.trim_true : ChannelTables.trim true = id := rfl

/-- A trimmed group holds the frames of the group but those of its interrupt table. -/
theorem ChannelTables.grouped_trim {tables : ChannelTables}
    (grouped : tables.slots.Grouped frames) : (tables.trim false).slots.Grouped (untabled frames) := by
  obtain ⟨⟨stored, others, rfl⟩, holds⟩ := grouped
  refine ⟨⟨stored, untabled others, untabled_cons_of_ne (by simp)⟩, fun kind => ?_⟩
  cases kind with
  | interrupts => exact holds_none_iff.mpr fun frame member => (mem_untabled.mp member).2
  | header | initialisation | audioInterface | profiles | power | controls | algorithm =>
      exact (holds_untabled (by simp)).mpr (holds _)

namespace Payload

/-- A payload without the interrupt tables that its header does not put in use. -/
def trim (payload : Payload) : Payload :=
  { payload with
    bytes :=
      if payload.header.interruptsSupported then payload.bytes else withoutInterrupts payload.bytes
    channels := payload.channels.map (ChannelTables.trim payload.header.interruptsSupported) }

variable {payload : Payload} {bytes stored : Bytes} {rows : List (List Frame)}

theorem trim_of_used (used : payload.header.interruptsSupported = true) :
    payload.trim = payload := by
  simp [trim, used, ChannelTables.trim_true]

theorem framed_trim (unused : payload.header.interruptsSupported = false)
    (framed : payload.Framed stored rows others) :
    payload.trim.Framed stored (rows.map untabled) others := by
  have kept : untabled others = others := untabled_eq_self fun frame member same => by
    obtain shared | shared := framed.shared frame member <;> cases shared.symm.trans same
  have all : untabled ((Kind.header, stored) :: (rows.flatten ++ others)) =
      (Kind.header, stored) :: ((rows.map untabled).flatten ++ others) := by
    rw [untabled_cons_of_ne (by simp)]
    conv_rhs => rw [← kept]
    simp only [untabled, List.filter_append, List.filter_flatten]
    rfl
  have grouped : List.Forall₂ (fun tables frames => tables.slots.Grouped frames)
      (payload.channels.map (ChannelTables.trim false)) (rows.map untabled) := by
    refine List.forall₂_map_left_iff.mpr (List.forall₂_map_right_iff.mpr ?_)
    exact framed.channels.imp fun _ _ => ChannelTables.grouped_trim
  have bytes : payload.trim.bytes = withoutInterrupts payload.bytes := by simp [trim, unused]
  have channels : payload.trim.channels = payload.channels.map (ChannelTables.trim false) := by
    rw [trim, unused]
  exact {
    bytes := by rw [bytes, framed.bytes, withoutInterrupts_stored framed.lengths, all]
    lengths := all ▸ Framable.untabled framed.lengths
    header := framed.header
    version := framed.version
    some_channel := framed.some_channel
    few_channels := framed.few_channels
    declared := by rw [channels, List.length_map]; exact framed.declared
    channels := channels ▸ grouped
    shared := framed.shared
    controls := framed.controls
    algorithm := framed.algorithm
    known := framed.known }

/-- The sections that are left are those that hold no interrupt table. -/
theorem contents_withoutInterrupts (parses : (Parsed.ofPayload bytes).outcome = .ok payload) :
    (Walk.ofBytes (withoutInterrupts bytes)).sections.map Section.content =
      untabled ((Walk.ofBytes bytes).sections.map Section.content) := by
  obtain ⟨rfl, stored, rows, others, framed⟩ := framed_of_outcome parses
  have left := Framable.untabled framed.lengths
  rw [framed.bytes, withoutInterrupts_stored framed.lengths, Walk.ofBytes_stored left,
    Walk.ofBytes_stored framed.lengths, Walk.map_content_placed, Walk.map_content_placed]

/-- A payload that was read can be trimmed, and is read again. -/
theorem outcome_trim (parses : (Parsed.ofPayload bytes).outcome = .ok payload) :
    (Parsed.ofPayload payload.trim.bytes).outcome = .ok payload.trim := by
  obtain ⟨same, stored, rows, others, framed⟩ := framed_of_outcome parses
  cases used : payload.header.interruptsSupported with
  | true => rwa [trim_of_used used, same]
  | false => exact Parsed.outcome_of_framed (framed_trim used framed)

/-- There is nothing left to be trimmed of a trimmed payload. -/
theorem trim_trim (parses : (Parsed.ofPayload bytes).outcome = .ok payload) :
    payload.trim.trim = payload.trim := by
  obtain ⟨-, stored, rows, others, framed⟩ := framed_of_outcome parses
  cases used : payload.header.interruptsSupported with
  | true => rw [trim_of_used used, trim_of_used used]
  | false =>
      have again : withoutInterrupts (withoutInterrupts payload.bytes) =
          withoutInterrupts payload.bytes := by
        rw [framed.bytes, withoutInterrupts_stored framed.lengths,
          withoutInterrupts_stored (Framable.untabled framed.lengths), untabled_untabled]
      simp [trim, used, again, ChannelTables.trim]

/-! ### What is kept of a payload -/

@[simp] theorem header_trim (payload : Payload) : payload.trim.header = payload.header := rfl

@[simp] theorem controls_trim (payload : Payload) : payload.trim.controls = payload.controls := rfl

@[simp] theorem channelCount_trim (payload : Payload) :
    payload.trim.channelCount = payload.channelCount := rfl

@[simp] theorem allChannels_trim (payload : Payload) :
    payload.trim.allChannels = payload.allChannels := rfl

theorem channel?_trim (payload : Payload) (channel : UInt8) :
    payload.trim.channel? channel = (payload.channel? channel).map
      (ChannelTables.trim payload.header.interruptsSupported) :=
  List.getElem?_map

/-- The interrupt tables in use are kept. -/
@[simp] theorem interrupts?_trim (payload : Payload) (channel : UInt8) :
    payload.trim.interrupts? channel = payload.interrupts? channel := by
  rw [interrupts?, interrupts?, header_trim, channel?_trim]
  cases payload.header.interruptsSupported with
  | false => rfl
  | true => rw [ChannelTables.trim_true, Option.map_id_fun, id_eq]

@[simp] theorem profiles_trim (payload : Payload) : payload.trim.profiles = payload.profiles := by
  rw [profiles, profiles, channel?_trim]
  cases payload.channel? 0 <;> rfl

@[simp] theorem profileNames_trim (payload : Payload) :
    payload.trim.profileNames = payload.profileNames :=
  congrArg (List.map _) payload.profiles_trim

end Payload

/-! ## Images -/

/-- The image of a payload that was read is this payload. -/
theorem Container.select_of_parses {bytes : Bytes} {payload : Payload}
    (parses : (Parsed.ofPayload bytes).outcome = .ok payload) (revision : UInt32) :
    Container.select bytes revision = .ok bytes := by
  obtain ⟨rfl, stored, rows, others, framed⟩ := Payload.framed_of_outcome parses
  have begins : payload.bytes = Kind.header.tag ++ (LittleEndian.count stored.length ++ stored ++
      (rows.flatten ++ others).flatMap Section.stored) := by
    rw [framed.bytes, List.flatMap_cons, Section.stored, Section.frame]
    simp only [List.append_assoc]
  have plain : Container.isContainer payload.bytes = false := by rw [begins]; rfl
  have some_byte : payload.bytes.isEmpty = false := by rw [begins]; rfl
  simp only [Container.select, some_byte, plain, Bool.false_eq_true, if_false]

/-- The image of the trimmed payload, where an image has a payload for the revision. -/
def trimImage (revision : UInt32) (image : Bytes) : Bytes :=
  match (ParsedImage.ofImage image revision).outcome with
  | .ok payload => payload.trim.bytes
  | .error _ => image

section

variable {revision : UInt32} {image : Bytes} {payload : Payload}

theorem ParsedImage.outcome_ofImage_eq_ok :
    (ofImage image revision).outcome = .ok payload ↔
      ∃ bytes, Container.select image revision = .ok bytes ∧
        (Parsed.ofPayload bytes).outcome = .ok payload := by
  unfold ofImage
  cases Container.select image revision with
  | error error => simp
  | ok bytes => cases outcome : (Parsed.ofPayload bytes).outcome <;> simp [outcome, Except.mapError]

theorem ParsedImage.outcome_of_parses {bytes : Bytes}
    (parses : (Parsed.ofPayload bytes).outcome = .ok payload) (revision : UInt32) :
    (ofImage bytes revision).outcome = .ok payload :=
  outcome_ofImage_eq_ok.mpr ⟨bytes, Container.select_of_parses parses revision, parses⟩

/-- A trimmed image gives the trimmed payload, or fails as it did. -/
theorem ParsedImage.outcome_trimImage (revision : UInt32) (image : Bytes) :
    (ofImage (trimImage revision image) revision).outcome =
      (ofImage image revision).outcome.map Payload.trim := by
  unfold trimImage
  cases outcome : (ofImage image revision).outcome with
  | error error => rw [outcome]; rfl
  | ok payload =>
      obtain ⟨bytes, _, parses⟩ := outcome_ofImage_eq_ok.mp outcome
      exact outcome_of_parses (Payload.outcome_trim parses) revision

theorem trimImage_of_parses {bytes : Bytes}
    (parses : (Parsed.ofPayload bytes).outcome = .ok payload) (revision : UInt32) :
    trimImage revision bytes = payload.trim.bytes := by
  rw [trimImage, ParsedImage.outcome_of_parses parses]

/-- Trimming an image of a payload once more changes nothing. -/
theorem trimImage_trim {bytes : Bytes} (parses : (Parsed.ofPayload bytes).outcome = .ok payload)
    (revision : UInt32) : trimImage revision payload.trim.bytes = trimImage revision bytes := by
  rw [trimImage_of_parses (Payload.outcome_trim parses), trimImage_of_parses parses,
    Payload.trim_trim parses]

end

end AmpControl.Tuning
