import AmpControl.Proofs.Tuning.Grammar
import AmpControl.Proofs.Tuning.Renaming

/-!
# Payloads with long names

A draft with names that do not fit is accepted exactly if none of them is cut inside a character,
and is then read back with its names cut. For a field without text is refused wherever it stands.
-/

namespace AmpControl.Tuning

open Read (Takes likeness_eq)

/-! ## What a read demands -/

namespace Read

variable {α β : Type} {read : Read α} {next : α → Read β} {early late : Bytes} {value : α}
  {condition other : Prop}

/-- A row of bytes is read only if a condition holds. -/
def Demands (read : Read α) (encoded : Bytes) (condition : Prop) : Prop :=
  ∀ ⦃rest position base value after⦄,
    read ⟨encoded ++ rest, position, base⟩ = .ok value after → condition

/-- What the first field demands is demanded of the record. -/
theorem Demands.front (first : Demands read early condition) :
    Demands (read >>= next) (early ++ late) condition := by
  intro rest position base result after succeeds
  obtain ⟨value, middle, begins, -⟩ := bind_eq_ok succeeds
  rw [List.append_assoc] at begins
  exact first begins

/-- What the fields behind the first one demand is demanded of the record. -/
theorem Takes.demands (first : Takes read early value)
    (second : Demands (next value) late condition) :
    Demands (read >>= next) (early ++ late) condition := by
  intro rest position base result after succeeds
  obtain ⟨found, middle, begins, ends⟩ := bind_eq_ok succeeds
  rw [List.append_assoc, first] at begins
  obtain ⟨rfl, rfl⟩ := EStateM.Result.ok.inj begins
  exact second ends

theorem Demands.mono (demands : Demands read early condition) (weaker : condition → other) :
    Demands read early other :=
  fun _ _ _ _ _ succeeds => weaker (demands succeeds)

/-- Of a record that is read something may be demanded that is known of such records only. -/
theorem Demands.and_of (demands : Demands read early condition)
    (follows : condition → Demands read early other) : Demands read early (condition ∧ other) :=
  fun _ _ _ _ _ succeeds => ⟨demands succeeds, follows (demands succeeds) succeeds⟩

section

variable {γ : Type} {encode : γ → Bytes} {good : γ → Prop} {items : List γ}

/-- Records are read only if each of them is. -/
theorem demands_records
    (each : ∀ item ∈ items, Demands read (encode item) (good item) ∧
      (good item → ∃ value, Takes read (encode item) value)) :
    Demands (records read items.length) (items.flatMap encode) (∀ item ∈ items, good item) := by
  induction items with
  | nil => exact fun _ _ _ _ _ _ _ => (nomatch ·)
  | cons first others ih =>
      obtain ⟨⟨demands, takes⟩, rest⟩ := List.forall_mem_cons.mp each
      have leads : Demands (records read (others.length + 1))
          ((first :: others).flatMap encode) (good first) := demands.front
      refine (leads.and_of fun holds => ?_).mono List.forall_mem_cons.mpr
      obtain ⟨value, taken⟩ := takes holds
      have follows : Demands (records read others.length >>= fun values =>
          Pure.pure (value :: values)) (others.flatMap encode ++ [])
          (∀ item ∈ others, good item) := (ih rest).front
      rw [List.append_nil] at follows
      exact taken.demands follows

theorem demands_counted (few : items.length < UInt32.size)
    (each : ∀ item ∈ items, Demands read (encode item) (good item) ∧
      (good item → ∃ value, Takes read (encode item) value)) :
    Demands (counted read) (LittleEndian.count items.length ++ items.flatMap encode)
      (∀ item ∈ items, good item) := by
  intro rest position base values after succeeds
  obtain ⟨amount, middle, counts, listed⟩ := bind_eq_ok succeeds
  obtain ⟨number, isWord, rfl⟩ := word_of_count counts
  rw [List.append_assoc, LittleEndian.count, takes_word] at isWord
  obtain ⟨rfl, rfl⟩ := EStateM.Result.ok.inj isWord
  rw [UInt32.toNat_ofNatClamp_of_lt few] at listed
  exact demands_records each listed

end

end Read

open Read (Demands)

/-! ## Names that are read -/

/-- Text without zero characters. -/
abbrev Name.Plain (text : String) : Prop := Char.ofNat 0 ∉ text.toList

theorem Name.demands_read {name : String} (plain : Plain name) :
    Demands read (encode name) (CutsBetween width name) := by
  intro rest position base value after succeeds
  rw [encode] at succeeds
  obtain ⟨raw, middle, taken, made⟩ := Read.bind_eq_ok succeeds
  rw [Read.takes_length _ (length_field width name)] at taken
  obtain ⟨rfl, rfl⟩ := EStateM.Result.ok.inj taken
  cases decoded : decode? (field width name) with
  | none =>
      simp only [decoded] at made
      cases made
  | some text => exact cutsBetween_of_decode? plain decoded

theorem Name.takes_clip {name : String} (plain : Plain name) (between : CutsBetween width name) :
    Takes read (encode name) (clip width name) := by
  have taken := takes_read (fits_clip width plain)
  rwa [encode, field_clip between] at taken

/-! ## Tables that are read -/

/-- The names of a draft as they are read back, where they can be. -/
abbrev Name.clipped : String → String := Name.clip Name.width

namespace Profile

variable {profile : Profile} {profiles : List Profile}

theorem demands_read (plain : Name.Plain profile.name) :
    Demands read profile.encode (Name.CutsBetween Name.width profile.name) := by
  simp only [encode, List.append_assoc]
  exact (Name.demands_read plain).front

theorem takes_rename (storable : (profile.rename Name.clipped).Storable)
    (small : profile.encode.length < UInt32.size)
    (between : Name.CutsBetween Name.width profile.name) :
    Takes read profile.encode (profile.rename Name.clipped) := by
  have same : (profile.rename Name.clipped).encode = profile.encode :=
    alike_rename likeness_eq (Name.field_clip between)
  exact same ▸ takes_read storable (same.symm ▸ small)

theorem demands_readTable
    (storable : ∀ profile ∈ profiles, (profile.rename Name.clipped).Storable)
    (plain : ∀ profile ∈ profiles, Name.Plain profile.name)
    (small : (encodeTable profiles).length < UInt32.size) :
    Demands readTable (encodeTable profiles)
      (∀ profile ∈ profiles, Name.CutsBetween Name.width profile.name) := by
  rw [encodeTable, List.length_append] at small
  have few := Read.length_le_flatMap fun profile (_ : profile ∈ profiles) => profile.encode_ne_nil
  refine Read.demands_counted (by omega) fun profile member =>
    ⟨demands_read (plain profile member), fun between =>
      ⟨_, takes_rename (storable profile member) ?_ between⟩⟩
  have part : profile.encode.length ≤ (profiles.flatMap encode).length :=
    Read.length_le_of_mem member
  omega

end Profile

theorem Source.demands_read {source : Source} (plain : Name.Plain source.name) :
    Demands read source.encode (Name.CutsBetween Name.width source.name) := by
  simp only [encode, List.append_assoc]
  exact (Name.demands_read plain).front

theorem Source.takes_rename {source : Source} (plain : Name.Plain source.name)
    (between : Name.CutsBetween Name.width source.name) :
    Takes read source.encode (source.rename Name.clipped) := by
  have same : (source.rename Name.clipped).encode = source.encode :=
    alike_rename likeness_eq (Name.field_clip between)
  exact same ▸ takes_read (Name.fits_clip Name.width plain)

theorem InterruptTable.demands_read {table : InterruptTable}
    (plain : ∀ name ∈ table.names, Name.Plain name)
    (small : table.encode.length < UInt32.size) :
    Demands read table.encode (∀ name ∈ table.names, Name.CutsBetween Name.width name) := by
  have few := Read.length_le_flatMap fun source (_ : source ∈ table.sources) =>
    source.encode_ne_nil
  simp only [encode, List.append_assoc, List.length_append] at small ⊢
  rw [← List.append_assoc]
  refine Demands.front (.mono ?_ List.forall_mem_map.mpr)
  refine Read.demands_counted (by omega) fun source member => ?_
  have named := plain source.name (List.mem_map_of_mem member)
  exact ⟨Source.demands_read named, fun between => ⟨_, Source.takes_rename named between⟩⟩

namespace ChoiceControl

variable {control : ChoiceControl}

theorem demands_readItem {item : String × Script} (plain : Name.Plain item.1) :
    Demands readItem (encodeItem item) (Name.CutsBetween Name.width item.1) :=
  (Name.demands_read plain).front

theorem takes_clippedItem {item : String × Script} (plain : Name.Plain item.1)
    (storable : item.2.Storable) (small : (encodeItem item).length < UInt32.size)
    (between : Name.CutsBetween Name.width item.1) :
    Takes readItem (encodeItem item) (Name.clipped item.1, item.2) := by
  rw [encodeItem, List.length_append] at small
  exact .bind (Name.takes_clip plain between)
    ((Script.takes_read storable (by omega)).map (Prod.mk (Name.clipped item.1)))

theorem demands_read (storable : ∀ item ∈ control.items, item.2.Storable)
    (plain : ∀ item ∈ control.items, Name.Plain item.1)
    (small : control.encode.length < UInt32.size) :
    Demands read control.encode
      (∀ item ∈ control.items, Name.CutsBetween Name.width item.1) := by
  have few : control.items.length ≤ (control.items.flatMap encodeItem).length :=
    Read.length_le_flatMap fun item _ =>
      List.append_ne_nil_of_right_ne_nil _ item.2.encode_ne_nil
  simp only [encode, List.append_assoc, List.length_append] at small ⊢
  rw [← List.append_nil (LittleEndian.count _ ++ _)]
  refine (Read.takes_word control.initial).demands (Demands.front ?_)
  refine Read.demands_counted (by omega) fun item member =>
    ⟨demands_readItem (plain item member), fun between =>
      ⟨_, takes_clippedItem (plain item member) (storable item member) ?_ between⟩⟩
  have part : (encodeItem item).length ≤ (control.items.flatMap encodeItem).length :=
    Read.length_le_of_mem member
  omega

end ChoiceControl

namespace Control

variable {control : Control} {controls : List Control}

theorem demands_name (plain : Name.Plain control.name) :
    Demands read control.encode (Name.CutsBetween Name.width control.name) := by
  obtain ⟨name, channel, timing, body⟩ := control
  cases body with
  | integer body =>
      simp only [encode, List.cons_append, List.append_assoc]
      exact (Read.takes_byte 0).demands (Name.demands_read plain).front
  | choice body =>
      simp only [encode, List.cons_append, List.append_assoc]
      exact (Read.takes_byte 1).demands (Name.demands_read plain).front

theorem demands_read (storable : (control.rename Name.clipped).Storable)
    (plain : ∀ name ∈ control.names, Name.Plain name)
    (small : control.encode.length < UInt32.size) :
    Demands read control.encode (∀ name ∈ control.names, Name.CutsBetween Name.width name) := by
  obtain ⟨named, labelled⟩ := List.forall_mem_cons.mp plain
  -- The labels are looked for behind a name that was read.
  refine ((demands_name named).and_of fun between => ?_).mono List.forall_mem_cons.mpr
  obtain ⟨name, channel, timing, body⟩ := control
  cases body with
  | integer body => exact fun _ _ _ _ _ _ _ => (nomatch ·)
  | choice body =>
      have whole : ∀ item ∈ body.items,
          Name.Fits Name.width (Name.clipped item.1) ∧ item.2.Storable :=
        List.forall_mem_map.mp storable.body
      simp only [encode, List.cons_append, List.append_assoc, List.length_cons,
        List.length_append] at small ⊢
      refine (Read.takes_byte 1).demands ((Name.takes_clip named between).demands ?_)
      refine (Read.takes_byte channel).demands ((Timing.takes_read timing).demands ?_)
      rw [← List.append_nil (ChoiceControl.encode body)]
      refine Demands.front (.mono ?_ List.forall_mem_map.mpr)
      exact ChoiceControl.demands_read (fun item member => (whole item member).2)
        (List.forall_mem_map.mp labelled) (by omega)

theorem takes_rename (storable : (control.rename Name.clipped).Storable)
    (small : control.encode.length < UInt32.size)
    (between : ∀ name ∈ control.names, Name.CutsBetween Name.width name) :
    Takes read control.encode (control.rename Name.clipped) := by
  have same : (control.rename Name.clipped).encode = control.encode :=
    alike_rename likeness_eq fun name member => Name.field_clip (between name member)
  exact same ▸ takes_read storable (same.symm ▸ small)

theorem demands_readTable
    (storable : ∀ control ∈ controls, (control.rename Name.clipped).Storable)
    (plain : ∀ control ∈ controls, ∀ name ∈ control.names, Name.Plain name)
    (small : (encodeTable controls).length < UInt32.size) :
    Demands readTable (encodeTable controls)
      (∀ control ∈ controls, ∀ name ∈ control.names, Name.CutsBetween Name.width name) := by
  rw [encodeTable, List.length_append] at small
  have few := Read.length_le_flatMap fun control (_ : control ∈ controls) => control.encode_ne_nil
  refine Read.demands_counted (by omega) fun control member => ?_
  have part : control.encode.length ≤ (controls.flatMap encode).length :=
    Read.length_le_of_mem member
  have short : control.encode.length < UInt32.size := by omega
  exact ⟨demands_read (storable control member) (plain control member) short,
    fun between => ⟨_, takes_rename (storable control member) short between⟩⟩

end Control

theorem Header.demands_read {header : Header} (known : header.version ≤ supportedVersion)
    (plain : Name.Plain header.name) (reserved : Nat) :
    Demands read (header.encode reserved) (Name.CutsBetween Name.width header.name) := by
  simp only [encode, List.append_assoc]
  refine (Read.takes_word header.version).demands ?_
  rw [if_neg (UInt32.not_lt.mpr known)]
  exact (Name.demands_read plain).front

/-! ## Frames that are read -/

/-- Every frame of a payload that was read is read to its end. -/
theorem Payload.Framed.decodes {payload : Payload} {stored : Bytes} {rows : List (List Frame)}
    {others : List Frame} (framed : payload.Framed stored rows others) {frame : Frame}
    (member : frame ∈ (Kind.header, stored) :: (rows.flatten ++ others)) :
    ∃ table, Read.Decodes frame.1.read frame.2 table := by
  rcases List.mem_cons.mp member with rfl | inside
  · exact ⟨payload.header, framed.header⟩
  rcases List.mem_append.mp inside with inner | outer
  · obtain ⟨row, listed, lies⟩ := List.mem_flatten.mp inner
    obtain ⟨tables, -, grouped⟩ := Assembly.exists_of_forall₂ framed.channels listed
    exact decodes_of_holds (grouped.holds frame.1) lies
  · obtain ⟨controls, holdsControls, -⟩ := framed.controls
    obtain ⟨algorithm, holdsAlgorithm, -⟩ := framed.algorithm
    obtain ⟨kind, payload⟩ := frame
    rcases framed.shared _ outer with same | same
    · obtain rfl : kind = .controls := same
      exact decodes_of_holds holdsControls outer
    · obtain rfl : kind = .algorithm := same
      exact decodes_of_holds holdsAlgorithm outer

theorem Parsed.decodes_of_outcome {frames : List Frame} {payload : Payload}
    (small : Framable frames)
    (accepted : (ofPayload (frames.flatMap Section.stored)).outcome = .ok payload) {frame : Frame}
    (member : frame ∈ frames) : ∃ table, Read.Decodes frame.1.read frame.2 table := by
  obtain ⟨bytes, stored, rows, others, framed⟩ := Payload.framed_of_outcome accepted
  rw [framed.bytes] at bytes
  obtain rfl := Walk.frames_unique framed.lengths small bytes
  exact framed.decodes member

/-- What is demanded of a payload that a read takes is so if the payload is read. -/
theorem Read.Demands.of_decodes {α : Type} {read : Read α} {stored : Bytes} {condition : Prop}
    (demands : Demands read stored condition) (decoded : ∃ table, Read.Decodes read stored table) :
    condition := by
  obtain ⟨table, after, succeeds, -⟩ := decoded
  rw [Reader.start, ← List.append_nil stored] at succeeds
  exact demands succeeds

/-! ## Drafts with long names -/

namespace Draft

variable {draft : Draft}

/-- No name of a draft that is accepted was cut inside a character. -/
theorem cutsBetween_of_outcome {payload : Payload}
    (clipped : (draft.rename Name.clipped).Storable)
    (plain : ∀ name ∈ draft.names, Name.Plain name)
    (accepted : (Parsed.ofPayload draft.build).outcome = .ok payload) :
    ∀ name ∈ draft.names, Name.CutsBetween Name.width name := by
  have small : Framable draft.frames := (draft.framable_rename _).mp clipped.sections
  have no_extra : draft.extra = [] := clipped.extra
  rw [build_eq_frames no_extra] at accepted
  have decodes {frame : Frame} (member : frame ∈ draft.frames) :=
    Parsed.decodes_of_outcome small accepted member
  obtain ⟨header, others⟩ := List.forall_mem_cons.mp plain
  obtain ⟨channels, rest⟩ := List.forall_mem_append.mp others
  obtain ⟨profiles, controls⟩ := List.forall_mem_append.mp rest
  refine List.forall_mem_cons.mpr ⟨?_, List.forall_mem_append.mpr
    ⟨?_, List.forall_mem_append.mpr ⟨List.forall_mem_map.mpr ?_, ?_⟩⟩⟩
  · have known : draft.header.header.version ≤ supportedVersion := clipped.header.version
    have demands := Header.demands_read known header draft.header.reserved
    exact demands.of_decodes (decodes List.mem_cons_self)
  · intro name member
    obtain ⟨part, listed, inner⟩ := List.mem_flatMap.mp member
    obtain ⟨table, present, named⟩ := List.mem_flatMap.mp inner
    have lies : (Kind.interrupts, table.encode) ∈ draft.frames := by
      refine List.mem_cons_of_mem _ (List.mem_append_left _
        (List.mem_flatMap.mpr ⟨part, listed, ?_⟩))
      simp [ChannelDraft.frames, Option.mem_toList.mp present]
    have demands := InterruptTable.demands_read (fun name named => channels name
      (List.mem_flatMap.mpr ⟨part, listed, List.mem_flatMap.mpr ⟨table, present, named⟩⟩))
      (small _ lies)
    exact demands.of_decodes (decodes lies) name named
  · intro profile member
    have written : draft.writtenProfiles = draft.profiles := by
      simp [writtenProfiles, List.ne_nil_of_mem member]
    -- The profiles are in the group of each channel, and there is a channel.
    have some_channel : draft.channels ≠ [] := by
      have least := clipped.header.some_channel
      rw [clipped.declared] at least
      exact fun none_there => by simp [rename, none_there] at least
    obtain ⟨part, listed⟩ := List.exists_mem_of_ne_nil _ some_channel
    have lies : (Kind.profiles, Profile.encodeTable draft.profiles) ∈ draft.frames := by
      refine List.mem_cons_of_mem _ (List.mem_append_left _
        (List.mem_flatMap.mpr ⟨part, listed, ?_⟩))
      simp [ChannelDraft.frames, written]
    have demands := Profile.demands_readTable (List.forall_mem_map.mp clipped.profiles)
      (List.forall_mem_map.mp profiles) (small _ lies)
    exact demands.of_decodes (decodes lies) profile member
  · intro name member
    obtain ⟨control, listed, named⟩ := List.mem_flatMap.mp member
    have lies : (Kind.controls, Control.encodeTable draft.controls) ∈ draft.frames := by
      simp [frames, List.ne_nil_of_mem listed]
    have demands := Control.demands_readTable
      (fun control listed => (List.forall_mem_map.mp clipped.controls control listed).1)
      (fun control listed name named => controls name
        (List.mem_flatMap.mpr ⟨control, listed, named⟩)) (small _ lies)
    exact demands.of_decodes (decodes lies) control listed name named

/-- A draft whose names are cut between characters is read back with its names cut. -/
theorem outcome_of_cutsBetween (clipped : (draft.rename Name.clipped).Storable)
    (between : ∀ name ∈ draft.names, Name.CutsBetween Name.width name) :
    (Parsed.ofPayload draft.build).outcome = .ok (draft.rename Name.clipped).payload := by
  have no_extra : (draft.rename Name.clipped).extra = [] := clipped.extra
  have bytes : (draft.rename Name.clipped).build = draft.build :=
    build_rename no_extra fun name member => Name.field_clip (between name member)
  have complete := finish_assembled clipped
  rw [build_eq_frames no_extra] at complete bytes
  rw [← bytes]
  exact Parsed.outcome_of_frames clipped.sections (Header.yields_read clipped.header _)
    (accepts_frames clipped) complete

end Draft

/--
The field of a name without zero characters holds its longest front that fits, if the name is cut
between two characters, and no text otherwise. A draft that can be stored whole but for its names is
read back with each of them cut if all are cut in this way, and is refused otherwise.
-/
theorem Name.long_names_cut (name : String) (draft : Draft) :
    (Char.ofNat 0 ∉ name.toList →
      LongestFront width name (clip width name) ∧
        decode? (encode name) = if CutsBetween width name then some (clip width name) else none) ∧
      ((draft.rename fun _ => "").Storable →
        (∀ name ∈ draft.names, Char.ofNat 0 ∉ name.toList) →
        ((∀ name ∈ draft.names, CutsBetween width name) →
          (Parsed.ofPayload draft.build).outcome = .ok (draft.rename (clip width)).payload) ∧
        ((∃ name ∈ draft.names, ¬CutsBetween width name) →
          ∃ error, (Parsed.ofPayload draft.build).outcome = .error error)) := by
  refine ⟨fun plain => ⟨longestFront_clip width name, decode?_field_eq width plain⟩, ?_⟩
  intro storable plain
  have clipped : (draft.rename clipped).Storable :=
    storable.rename fun name member => fits_clip width (plain name member)
  refine ⟨Draft.outcome_of_cutsBetween clipped, ?_⟩
  rintro ⟨name, member, inside⟩
  cases outcome : (Parsed.ofPayload draft.build).outcome with
  | error error => exact ⟨error, rfl⟩
  | ok payload =>
      exact absurd (Draft.cutsBetween_of_outcome clipped plain outcome name member) inside

/-- The draft of a payload with one channel and the given name. -/
def Draft.named (name : String) : Draft :=
  { Draft.new 1 with
    header := { HeaderDraft.new 1 with header := { (HeaderDraft.new 1).header with name } } }

/-- Of seventy letters the first sixty-four are read back. -/
theorem Name.seventy_letters_cut :
    let name := String.ofList (List.replicate 70 'a')
    let front := String.ofList (List.replicate 64 'a')
    Char.ofNat 0 ∉ name.toList ∧ decode? (encode name) = some front ∧
      ((Draft.named name).rename fun _ => "").Storable ∧
      (Parsed.ofPayload (Draft.named name).build).outcome =
        .ok ((Draft.named name).rename (clip width)).payload := by
  intro name front
  have plain : Char.ofNat 0 ∉ name.toList := by decide +kernel
  have between : CutsBetween width name := by decide +kernel
  have cut : clip width name = front := by decide +kernel
  have storable : ((Draft.named name).rename fun _ => "").Storable := by decide +kernel
  have alone : (Draft.named name).names = [name] := by decide +kernel
  obtain ⟨field, parsed⟩ := long_names_cut name (Draft.named name)
  have decoded := (field plain).2
  rw [if_pos between, cut] at decoded
  refine ⟨plain, decoded, storable, (parsed storable ?_).1 ?_⟩ <;> rw [alone]
  · exact List.forall_mem_singleton.mpr plain
  · exact List.forall_mem_singleton.mpr between

/-- Behind sixty-three letters a character of two bytes is cut in half: the field holds no text, and
the payload is refused. -/
theorem Name.halved_character_refused :
    let name := String.ofList (List.replicate 63 'a' ++ ['é'])
    Char.ofNat 0 ∉ name.toList ∧ decode? (encode name) = none ∧
      (Parsed.ofPayload (Draft.named name).build).outcome = .error .badName := by
  decide +kernel

end AmpControl.Tuning
