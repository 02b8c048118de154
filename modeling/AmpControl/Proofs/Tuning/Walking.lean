import AmpControl.Proofs.Tuning.Division

/-!
# Walks tile their bytes

The sections that a walk finds lie one behind the other from the first byte on, and written out again
they are the bytes up to where the walk stopped. A walk goes on section by section: each call looks
for one more, and after an error nothing is looked for any more.
-/

namespace AmpControl.Tuning

/-! ## Section by section -/

/-- A walk that has got to the place where its reader stands. -/
structure Walker where
  reader : Reader
  /-- The initialisation sections so far. One byte counts them, so counting stops at 255. -/
  groups : UInt8
  /-- An error was found, so nothing more is looked for. -/
  failed : Bool

namespace Walker

def start (data : Bytes) : Walker := ⟨Reader.start data 0, 0, false⟩

/-- The count of initialisation sections behind a section of the given kind. -/
def count (groups : UInt8) (kind : Kind) : UInt8 :=
  if kind = .initialisation ∧ groups < 255 then groups + 1 else groups

/-- What lies next: a section or an error, or nothing once the bytes are used up or an error was
found. -/
def next? (walker : Walker) : Option (Except FormatError Section × Walker) :=
  if walker.failed || walker.reader.rest.isEmpty then none
  else
    match Section.read walker.groups.toNat walker.reader with
    | .error error after => some (.error error, ⟨after, walker.groups, true⟩)
    | .ok part after => some (.ok part, ⟨after, count walker.groups part.kind, false⟩)

/-- What a number of calls yield. -/
def yields : (calls : Nat) → Walker → List (Except FormatError Section)
  | 0, _ => []
  | calls + 1, walker =>
      match walker.next? with
      | none => []
      | some (item, walker) => item :: yields calls walker

end Walker

/-- The sections of a walk and, behind them, the error at which it stopped. -/
def Walk.items (walk : Walk) : List (Except FormatError Section) :=
  walk.sections.map .ok ++ walk.stopped.toList.map .error

/-- Counting stops at 255, and so do the channels that are counted. -/
theorem Section.channelOf_min (groups : Nat) : channelOf (min groups 255) = channelOf groups := by
  simp only [channelOf]
  by_cases none_yet : groups = 0
  · simp [none_yet]
  · have some_group : min groups 255 ≠ 0 := by omega
    rw [if_neg none_yet, if_neg some_group, Nat.min_assoc, Nat.min_self]

/-- A section is read alike once counting has stopped. -/
theorem Section.read_min (groups : Nat) : read (min groups 255) = read groups := by
  have channel (kind : Kind) : channelOf (reached (min groups 255) kind) =
      channelOf (reached groups kind) := by
    rw [← channelOf_min, ← channelOf_min (reached groups kind)]
    refine congrArg channelOf ?_
    rw [reached, reached]
    split <;> omega
  simp only [reached] at channel
  simp only [read, channel]

namespace Walker

theorem toNat_count {counted : UInt8} {groups : Nat} (same : counted.toNat = min groups 255)
    (kind : Kind) : (count counted kind).toNat = min (Section.reached groups kind) 255 := by
  rw [count, Section.reached]
  by_cases begins : kind = .initialisation
  · simp only [begins, true_and, if_true]
    split
    · rename_i less
      have below : counted.toNat < 255 := UInt8.lt_iff_toNat_lt.mp less
      rw [UInt8.toNat_add]
      simp only [show (1 : UInt8).toNat = 1 from rfl]
      omega
    · rename_i full
      have most : 255 ≤ counted.toNat := UInt8.le_iff_toNat_le.mp (UInt8.not_lt.mp full)
      omega
  · simp only [begins, false_and, if_false, same]

theorem yields_failed (calls : Nat) {walker : Walker} (failed : walker.failed = true) :
    walker.yields calls = [] := by
  cases calls with
  | zero => rfl
  | succ calls => simp only [yields, next?, failed, Bool.true_or, if_true]

/-- Any number of calls yields as many items of the walk, or all if there are not so many. -/
theorem yields_eq (calls : Nat) {bound groups : Nat} {walker : Walker}
    (enough : walker.reader.rest.length ≤ bound) (counted : walker.groups.toNat = min groups 255)
    (going : walker.failed = false) :
    walker.yields calls = (Walk.go bound groups walker.reader).items.take calls := by
  induction calls generalizing bound groups walker with
  | zero => rfl
  | succ calls ih =>
      by_cases none_left : walker.reader.rest.isEmpty
      · have stays : Walk.go bound groups walker.reader = ⟨[], none⟩ := by
          cases bound <;> simp only [Walk.go, none_left, if_true]
        simp only [yields, next?, none_left, Bool.or_true, if_true, stays]
        rfl
      · cases bound with
        | zero =>
            refine absurd ?_ none_left
            exact List.isEmpty_iff.mpr (List.length_eq_zero_iff.mp (Nat.le_zero.mp enough))
        | succ bound =>
            simp only [yields, next?, going, none_left, Bool.or_self, Bool.false_eq_true, if_false,
              counted, Section.read_min, Walk.go]
            cases found : Section.read groups walker.reader with
            | error error after =>
                simp [yields_failed, Walk.items]
            | ok part after =>
                obtain ⟨split, _⟩ := Section.stored_of_read found
                have some_byte := List.length_pos_iff.mpr (Section.stored_ne_nil part.content)
                have shorter : after.rest.length ≤ bound := by
                  rw [split, List.length_append] at enough
                  omega
                have follows := @ih bound _ ⟨after, count walker.groups part.kind, false⟩ shorter
                  (toNat_count counted part.kind) rfl
                simp only [follows, Section.reached, Walk.items, List.map_cons, List.cons_append,
                  List.take_succ_cons]

end Walker

/-! ## One behind the other -/

/--
Sections that lie one behind the other in a byte string, the first of them at `place`. Offsets are
those that 64 bits hold.
-/
def Walk.Contiguous (bytes : Bytes) : (place : Nat) → List Section → Prop
  | _, [] => True
  | place, part :: others =>
      part.offset = clampOffset place ∧ clampOffset part.payloadOffset = clampOffset (place + 9) ∧
        (bytes.drop (place + 9)).take part.payload.length = part.payload ∧
        Walk.Contiguous bytes (place + 9 + part.payload.length) others

theorem clampOffset_clampOffset_add (offset more : Nat) :
    clampOffset (clampOffset offset + more) = clampOffset (offset + more) := by
  simp only [clampOffset]
  omega

namespace Section

theorem length_stored (frame : Frame) : (stored frame).length = 9 + frame.2.length := by
  simp only [stored, Section.frame, LittleEndian.count, List.length_append, Kind.length_tag,
    LittleEndian.length_word]

/-- The payload of a frame lies behind the nine bytes of its tag and its length. -/
theorem take_drop_stored (front : Bytes) (frame : Frame) (rest : Bytes) :
    ((front ++ (stored frame ++ rest)).drop (front.length + 9)).take frame.2.length = frame.2 := by
  have nine : (frame.1.tag ++ LittleEndian.count frame.2.length).length = 9 := by
    simp [LittleEndian.count]
  rw [List.drop_append, List.drop_eq_nil_of_le (Nat.le_add_right _ 9), List.nil_append,
    Nat.add_sub_cancel_left, stored, Section.frame, List.append_assoc, ← nine, List.drop_left,
    List.take_left]

end Section

namespace Walk

theorem contiguous_placed (front : Bytes) (groups : Nat) (frames : List Frame) (left : Bytes) :
    Contiguous (front ++ (frames.flatMap Section.stored ++ left)) front.length
      (placed groups front.length frames) := by
  induction frames generalizing front groups with
  | nil => trivial
  | cons frame others ih =>
      have follows := ih (front ++ Section.stored frame) (Section.reached groups frame.1)
      rw [List.length_append, List.append_assoc, ← List.append_assoc (Section.stored frame),
        ← List.flatMap_cons] at follows
      refine ⟨rfl, clampOffset_clampOffset_add .., ?_, ?_⟩
      · rw [List.flatMap_cons, List.append_assoc]
        exact Section.take_drop_stored front frame _
      · rw [Section.length_stored] at follows
        rw [Nat.add_assoc, Section.length_stored]
        exact follows

/-- The channel of a section counts the initialisation sections up to it. -/
theorem channel_of_getElem?_placed {groups offset : Nat} {frames : List Frame} {index : Nat}
    {part : Section} (found : (placed groups offset frames)[index]? = some part) :
    part.channel = Section.channelOf (groups +
      ((placed groups offset frames).take (index + 1)).countP (·.kind = .initialisation)) := by
  induction frames generalizing groups offset index with
  | nil => cases found
  | cons frame others ih =>
      have first : Section.reached groups frame.1 =
          groups + if (Section.placed groups offset frame).kind = .initialisation then 1 else 0 := by
        by_cases begins : frame.1 = .initialisation <;>
          simp [Section.placed, Section.reached, begins]
      rw [placed, List.take_succ_cons, List.countP_cons]
      cases index with
      | zero =>
          cases found
          simp only [List.take_zero, List.countP_nil, Nat.zero_add, decide_eq_true_eq, ← first]
          rfl
      | succ index =>
          rw [ih found, first]
          simp only [decide_eq_true_eq, Nat.add_assoc, Nat.add_comm]

/-- What a walk makes of a byte string. -/
structure Tiles (walk : Walk) (bytes : Bytes) : Prop where
  /-- Call by call, the sections are yielded in order, then the error if there is one, and then
  nothing. -/
  yields : ∀ calls, (Walker.start bytes).yields calls = walk.items.take calls
  contiguous : Contiguous bytes 0 walk.sections
  /-- Written out again, the sections are the bytes in front of those that are left. Bytes are left
  where the walk stopped at an error, and no section can be found at their front. -/
  covers : ∃ left, bytes = (walk.sections.map Section.content).flatMap Section.stored ++ left ∧
    (walk.stopped = none ↔ left = []) ∧
    ∀ frame rest, frame.2.length < UInt32.size → left ≠ Section.stored frame ++ rest
  channel : ∀ index part, walk.sections[index]? = some part →
    part.channel = Section.channelOf
      ((walk.sections.take (index + 1)).countP (·.kind = .initialisation))

/--
The sections of a walk tile the bytes up to where it stops, whatever the bytes are, and frames that
stand one behind the other are all found.
-/
theorem tiles :
    (∀ bytes, (ofBytes bytes).Tiles bytes) ∧
      ∀ frames : List Frame, (∀ frame ∈ frames, frame.2.length < UInt32.size) →
        (ofBytes (frames.flatMap Section.stored)).sections.map Section.content = frames ∧
          (ofBytes (frames.flatMap Section.stored)).stopped = none := by
  refine ⟨fun bytes => ?_, fun frames small => ?_⟩
  · obtain ⟨frames, left, divides⟩ := divides_ofBytes bytes
    have split : bytes = frames.flatMap Section.stored ++ left := divides.rest
    have lie : (ofBytes bytes).sections = placed 0 0 frames := divides.sections
    have contents : (ofBytes bytes).sections.map Section.content = frames := by
      rw [lie, map_content_placed]
    refine ⟨fun calls => Walker.yields_eq calls (Nat.le_refl _) rfl rfl, ?_, ?_, ?_⟩
    · have contiguous := contiguous_placed [] 0 frames left
      rwa [List.nil_append, ← split, List.length_nil, ← lie] at contiguous
    · refine ⟨left, by rw [contents, split], ⟨divides.finished, fun none_left => ?_⟩, ?_⟩
      · cases stopped : (ofBytes bytes).stopped with
        | none => rfl
        | some error => exact absurd none_left (divides.stops error stopped).1
      · rintro frame rest small rfl
        -- A frame in front of what is left would have been read.
        cases stopped : (ofBytes bytes).stopped with
        | none =>
            have none_left := List.append_eq_nil_iff.mp (divides.finished stopped)
            exact Section.stored_ne_nil frame none_left.1
        | some error =>
            obtain ⟨_, begun, after, fails⟩ := divides.stops error stopped
            rw [Section.read_stored frame small] at fails
            cases fails
    · intro index part found
      rw [lie] at found ⊢
      rw [channel_of_getElem?_placed found, Nat.zero_add]
  · rw [ofBytes_stored small]
    exact ⟨map_content_placed 0 0 frames, rfl⟩

/-- An initialisation section and an empty one behind it are found as they were written. -/
theorem tiles_two_frames :
    let frames : List Frame := [(.initialisation, [0, 0, 0, 0]), (.profiles, [])]
    (∀ frame ∈ frames, frame.2.length < UInt32.size) ∧
      (ofBytes (frames.flatMap Section.stored)).sections.map Section.content = frames := by
  intro frames
  have small : ∀ frame ∈ frames, frame.2.length < UInt32.size := by decide
  exact ⟨small, (tiles.2 frames small).1⟩

end Walk

end AmpControl.Tuning
