import AmpControl.Proofs.Tuning.Layout
import AmpControl.Proofs.Tuning.Restoring

/-!
# One way to divide a payload

A walk that does not stop early has divided the bytes into frames, and there is only one way to
divide them. So the frames of a payload that was cut short are the first frames of the whole one.
-/

namespace AmpControl.Tuning

open Read (likeness_eq)

/-- Frames whose lengths can be stored. -/
def Framable (frames : List Frame) : Prop := ∀ frame ∈ frames, frame.2.length < UInt32.size

namespace Section

/-- The bytes that one section was read from are its stored form. -/
theorem stored_of_read {groups : Nat} {reader after : Reader} {part : Section}
    (succeeds : read groups reader = .ok part after) :
    reader.rest = stored part.content ++ after.rest ∧ part.payload.length < UInt32.size := by
  obtain ⟨start, begun, offset, succeeds⟩ := Read.bind_eq_ok succeeds
  cases offset
  obtain ⟨tag, middle, tagged, succeeds⟩ := Read.bind_eq_ok succeeds
  cases known : Kind.ofTag? tag with
  | none => simp only [known] at succeeds; cases succeeds
  | some kind =>
      simp only [known] at succeeds
      obtain ⟨payload, ended, framed, made⟩ := Read.bind_eq_ok succeeds
      cases made
      have split := (Read.restores_bytes likeness_eq 5).rest_eq tagged
      rw [(Read.restores_lengthPrefixed likeness_eq).rest_eq framed] at split
      refine ⟨?_, Read.length_of_lengthPrefixed framed⟩
      simp only [split, stored, content, frame, Kind.tag_of_ofTag? known, List.append_assoc]

/-- A section that was read lies where its frame lay, and the reader stands right behind it. -/
theorem placed_of_read {groups : Nat} {reader after : Reader} {part : Section}
    (succeeds : read groups reader = .ok part after) :
    part = placed groups (reader.base + reader.position) part.content ∧
      after.position = reader.position + (stored part.content).length ∧
      after.base = reader.base := by
  obtain ⟨split, small⟩ := stored_of_read succeeds
  have again := read_stored part.content small groups after.rest reader.position reader.base
  rw [← split, succeeds] at again
  obtain ⟨lies, behind⟩ := EStateM.Result.ok.inj again
  exact ⟨lies, by rw [behind], by rw [behind]⟩

/-- A byte string does not begin with two frames. -/
theorem stored_append_inj {frame other : Frame} {rest late : Bytes}
    (small : frame.2.length < UInt32.size) (otherSmall : other.2.length < UInt32.size)
    (same : stored frame ++ rest = stored other ++ late) : frame = other ∧ rest = late := by
  -- One read off the front finds both of them.
  have reads := read_stored frame small 0 rest 0 0
  rw [same, read_stored other otherSmall 0 late 0 0] at reads
  obtain ⟨parts, readers⟩ := EStateM.Result.ok.inj reads
  exact ⟨congrArg content parts.symm, (congrArg Reader.rest readers).symm⟩

/-- The frames at the front of a row of frames are the first ones of the row. -/
theorem flatMap_stored_prefix {early whole : List Frame} {rest : Bytes} (small : Framable early)
    (wholeSmall : Framable whole) (same : early.flatMap stored ++ rest = whole.flatMap stored) :
    ∃ late, whole = early ++ late := by
  induction early generalizing whole with
  | nil => exact ⟨whole, rfl⟩
  | cons first others ih =>
      obtain ⟨firstSmall, othersSmall⟩ := List.forall_mem_cons.mp small
      rw [List.flatMap_cons, List.append_assoc] at same
      cases whole with
      | nil => exact absurd (List.append_eq_nil_iff.mp same).1 (stored_ne_nil first)
      | cons head tail =>
          obtain ⟨headSmall, tailSmall⟩ := List.forall_mem_cons.mp wholeSmall
          obtain ⟨rfl, follows⟩ := stored_append_inj firstSmall headSmall same
          obtain ⟨late, rfl⟩ := ih othersSmall tailSmall follows
          exact ⟨late, rfl⟩

end Section

namespace Walk

/--
What a walk does with the bytes in front of it: it divides them into frames, finds the sections of
these, and stops in front of bytes in which no section can be read, if there are any.
-/
structure Divides (groups : Nat) (reader : Reader) (walk : Walk) (frames : List Frame)
    (left : Bytes) : Prop where
  framable : Framable frames
  rest : reader.rest = frames.flatMap Section.stored ++ left
  sections : walk.sections = placed groups (reader.base + reader.position) frames
  finished : walk.stopped = none → left = []
  stops : ∀ error, walk.stopped = some error → left ≠ [] ∧ ∃ begun after,
    Section.read begun ⟨left, reader.position + (frames.flatMap Section.stored).length,
      reader.base⟩ = .error error after

theorem Divides.empty (groups : Nat) {reader : Reader} (none_left : reader.rest = []) :
    Divides groups reader ⟨[], none⟩ [] [] :=
  ⟨fun _ => (nomatch ·), none_left, rfl, fun _ => rfl, nofun⟩

theorem divides_go {bound groups : Nat} {reader : Reader} (enough : reader.rest.length ≤ bound) :
    ∃ frames left, Divides groups reader (go bound groups reader) frames left := by
  induction bound generalizing groups reader with
  | zero => exact ⟨[], [], .empty groups (List.length_eq_zero_iff.mp (Nat.le_zero.mp enough))⟩
  | succ bound ih =>
      unfold go
      split
      · rename_i none_left
        exact ⟨[], [], .empty groups (List.isEmpty_iff.mp none_left)⟩
      · rename_i some_left
        split
        · rename_i error after found
          refine ⟨[], reader.rest, fun _ => (nomatch ·), rfl, rfl, nofun, fun other stopped => ?_⟩
          obtain rfl := Option.some.inj stopped
          exact ⟨fun none_left => some_left (List.isEmpty_iff.mpr none_left), groups, after, found⟩
        · rename_i part after found
          obtain ⟨split, small⟩ := Section.stored_of_read found
          obtain ⟨lies, position, base⟩ := Section.placed_of_read found
          have some_byte := List.length_pos_iff.mpr (Section.stored_ne_nil part.content)
          have shorter : after.rest.length ≤ bound := by
            rw [split, List.length_append] at enough
            omega
          obtain ⟨frames, left, others⟩ := @ih (Section.reached groups part.kind) _ shorter
          refine ⟨part.content :: frames, left, List.forall_mem_cons.mpr ⟨small, others.framable⟩,
            ?_, ?_, others.finished, ?_⟩
          · rw [split, others.rest, List.flatMap_cons, List.append_assoc]
          · have follows := others.sections
            rw [position, base, ← Nat.add_assoc] at follows
            rw [placed, ← lies]
            exact congrArg (part :: ·) follows
          · have stops := others.stops
            rw [position, base] at stops
            rw [List.flatMap_cons, List.length_append, ← Nat.add_assoc]
            exact stops

theorem divides_ofBytes (bytes : Bytes) :
    ∃ frames left, Divides 0 (Reader.start bytes 0) (ofBytes bytes) frames left :=
  divides_go (Nat.le_refl bytes.length)

/-- A walk that does not stop early divides the bytes into frames. -/
theorem frames_of_ofBytes {bytes : Bytes} (finished : (ofBytes bytes).stopped = none) :
    ∃ frames, Framable frames ∧ bytes = frames.flatMap Section.stored := by
  obtain ⟨frames, left, divides⟩ := divides_ofBytes bytes
  have rest := divides.rest
  rw [divides.finished finished, List.append_nil] at rest
  exact ⟨frames, divides.framable, rest⟩

theorem length_placed (groups offset : Nat) (frames : List Frame) :
    (placed groups offset frames).length = frames.length := by
  have contents := congrArg List.length (map_content_placed groups offset frames)
  rwa [List.length_map] at contents

/-- There is one way to divide bytes into frames. -/
theorem frames_unique {frames others : List Frame} (small : Framable frames)
    (otherSmall : Framable others)
    (same : frames.flatMap Section.stored = others.flatMap Section.stored) : frames = others := by
  have found := ofBytes_stored small
  rw [same, ofBytes_stored otherSmall] at found
  have contents := congrArg (fun walk => walk.sections.map Section.content) found
  simpa only [map_content_placed] using contents.symm

/-- Sections lie behind each other as their frames do. -/
theorem placed_append (groups offset : Nat) (early late : List Frame) :
    placed groups offset (early ++ late) = placed groups offset early ++
      placed (groups + early.countP (·.1 = .initialisation))
        (offset + (early.flatMap Section.stored).length) late := by
  induction early generalizing groups offset with
  | nil => rfl
  | cons first others ih =>
      rw [List.cons_append, placed, placed, ih, List.flatMap_cons, List.length_append,
        List.countP_cons, List.cons_append, Section.reached]
      by_cases begins : first.1 = .initialisation
      · simp only [begins, if_true, decide_true, Nat.add_assoc, Nat.add_comm 1]
      · simp only [begins, if_false, decide_false, Bool.false_eq_true, Nat.add_zero, Nat.add_assoc]

end Walk

end AmpControl.Tuning
