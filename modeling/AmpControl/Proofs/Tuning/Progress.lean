import AmpControl.Proofs.Tuning.Placement
import AmpControl.Tuning.Parser

/-!
# How far a parser gets

A parser reads the sections of a payload until one of them does not pass. Its count is then the
place of that section, and what it read before has no part in it.
-/

namespace AmpControl.Tuning

/-! ## Sections that pass -/

namespace Walk

/-- A header, and sections of which each passes behind those before it. -/
inductive Passing : Header → List Section → Prop
  | opens {header : Header} {first : Section} {after : Reader} (leads : first.kind = .header)
      (reads : Header.read first.reader = .ok header after) : Passing header [first]
  | goesOn {header : Header} {early : List Section} {part : Section}
      (passing : Passing header early)
      (passes : part.Passes header.channels.length (early.map (·.kind))) :
      Passing header (early ++ [part])

theorem Passing.ne_nil {header : Header} {sections : List Section}
    (passing : Passing header sections) : sections ≠ [] := by
  cases passing with
  | opens leads reads => exact List.cons_ne_nil _ _
  | goesOn passing passes => exact List.append_ne_nil_of_right_ne_nil _ (List.cons_ne_nil _ _)

/-- A section that passes alone is a header. -/
theorem Passing.leads {header : Header} {first : Section} (passing : Passing header [first]) :
    first.kind = .header ∧ ∃ after, Header.read first.reader = .ok header after := by
  generalize alone : [first] = sections at passing
  cases passing with
  | opens leads reads =>
      cases alone
      exact ⟨leads, _, reads⟩
  | goesOn passing passes =>
      have none_before := List.append_eq_singleton_iff.mp alone.symm
      simp [passing.ne_nil] at none_before

/-- The ways in which reading a payload ends, and how many sections have been read then. -/
inductive Reaches (bytes : Bytes) : Except FormatError Payload → Nat → Prop
  /-- The payload does not begin with a section that is read as a header. -/
  | unopened {error : FormatError}
      (closed : ∀ header, ¬Passing header ((ofBytes bytes).sections.take 1))
      (inner : ¬error.Final) : Reaches bytes (.error error) 0
  /-- All sections pass up to one that does not. -/
  | refused {header : Header} {early late : List Section} {part : Section} {error : FormatError}
      (found : (ofBytes bytes).sections = early ++ part :: late) (passing : Passing header early)
      (fails : part.Fails header.channels.length (early.map (·.kind)) error)
      (inner : ¬error.Final) : Reaches bytes (.error error) early.length
  /-- All sections pass, and no further one can be framed. -/
  | unframed {header : Header} {error : FormatError}
      (passing : Passing header (ofBytes bytes).sections)
      (stopped : (ofBytes bytes).stopped = some error) (inner : ¬error.Final) :
      Reaches bytes (.error error) (ofBytes bytes).sections.length
  /-- All sections pass and there are no more bytes, but this does not make up a payload. -/
  | incomplete {header : Header} {error : FormatError}
      (passing : Passing header (ofBytes bytes).sections) (framed : (ofBytes bytes).stopped = none)
      (final : error.Final) : Reaches bytes (.error error) (ofBytes bytes).sections.length
  | complete {payload : Payload} (passing : Passing payload.header (ofBytes bytes).sections)
      (framed : (ofBytes bytes).stopped = none) :
      Reaches bytes (.ok payload) (ofBytes bytes).sections.length

/-- A section passes among those that pass. -/
theorem Passing.passes {header : Header} {sections early late : List Section} {part : Section}
    (passing : Passing header sections) (split : sections = early ++ part :: late)
    (some_before : early ≠ []) :
    Passing header early ∧ part.Passes header.channels.length (early.map (·.kind)) := by
  induction passing generalizing late with
  | opens leads reads =>
      have alone := List.append_eq_singleton_iff.mp split.symm
      simp [some_before] at alone
  | @goesOn before last passing passes ih =>
      rcases late.eq_nil_or_concat with rfl | ⟨between, ending, rfl⟩
      · obtain ⟨rfl, same⟩ := List.append_inj' split rfl
        cases same
        exact ⟨passing, passes⟩
      · rw [List.concat_eq_append, ← List.cons_append, ← List.append_assoc] at split
        exact ih (List.append_inj' split rfl).1

/-- The header is that of the first section. -/
theorem Passing.opened {header : Header} {first : Section} {others : List Section}
    (passing : Passing header (first :: others)) : Passing header [first] := by
  cases others with
  | nil => exact passing
  | cons part late =>
      have split : first :: part :: late = [first] ++ part :: late := rfl
      exact (passing.passes split (List.cons_ne_nil first [])).1

theorem Passing.header_unique {header other : Header} {first : Section} {early late : List Section}
    (passing : Passing header (first :: early)) (also : Passing other (first :: late)) :
    other = header := by
  obtain ⟨-, _, reads⟩ := passing.opened.leads
  obtain ⟨-, _, again⟩ := also.opened.leads
  rw [reads] at again
  cases again
  rfl

/-- So many sections pass, and no more. -/
structure Furthest (bytes : Bytes) (count : Nat) : Prop where
  inside : count ≤ (ofBytes bytes).sections.length
  passes : count = 0 ∨ ∃ header, Passing header ((ofBytes bytes).sections.take count)
  stops : ∀ further header, count < further → further ≤ (ofBytes bytes).sections.length →
    ¬Passing header ((ofBytes bytes).sections.take further)

/-- However reading ends, as many sections have been read as pass one behind the other. -/
theorem Reaches.furthest {bytes : Bytes} {outcome : Except FormatError Payload} {count : Nat}
    (reaches : Reaches bytes outcome count) : Furthest bytes count := by
  have all {header : Header} (passing : Passing header (ofBytes bytes).sections) :
      Furthest bytes (ofBytes bytes).sections.length := by
    refine ⟨Nat.le_refl _, .inr ⟨header, by rwa [List.take_length]⟩, ?_⟩
    intro further _ beyond inside
    exact absurd inside (Nat.not_le.mpr beyond)
  cases reaches with
  | unopened closed inner =>
      refine ⟨Nat.zero_le _, .inl rfl, fun further header beyond inside passing => ?_⟩
      obtain ⟨more, rfl⟩ := Nat.exists_eq_add_one_of_ne_zero (Nat.ne_of_gt beyond)
      cases found : (ofBytes bytes).sections with
      | nil =>
          rw [found] at passing
          exact passing.ne_nil List.take_nil
      | cons first others =>
          rw [found, List.take_succ_cons] at passing
          have opens := closed header
          rw [found] at opens
          exact opens passing.opened
  | @refused header early late part error found passing fails inner =>
      have front : (ofBytes bytes).sections.take early.length = early := by
        rw [found, List.take_left]
      refine ⟨?_, .inr ⟨header, by rwa [front]⟩, fun further other beyond inside also => ?_⟩
      · rw [found, List.length_append]
        exact Nat.le_add_right _ _
      · -- What goes further holds the section that fails, and begins with the same header.
        obtain ⟨more, rfl⟩ := Nat.exists_eq_add_of_lt beyond
        have split : (ofBytes bytes).sections.take (early.length + more + 1) =
            early ++ part :: late.take more := by
          rw [found, Nat.add_assoc, List.take_length_add_append, List.take_succ_cons]
        have passes := (also.passes split passing.ne_nil).2
        rw [split] at also
        cases early with
        | nil => exact passing.ne_nil rfl
        | cons first before =>
            rw [passing.header_unique also] at passes
            exact fails.not_passes passes
  | unframed passing stopped inner => exact all passing
  | incomplete passing framed final => exact all passing
  | complete passing framed => exact all passing

/-- The error at which a walk stops is about one section. -/
theorem inner_of_stopped {bytes : Bytes} {error : FormatError}
    (stopped : (ofBytes bytes).stopped = some error) : ¬error.Final := by
  obtain ⟨frames, left, divides⟩ := divides_ofBytes bytes
  obtain ⟨-, groups, after, fails⟩ := divides.stops error stopped
  exact Section.inner_read groups fails

end Walk

namespace Parsed

open Walk (Passing)

variable {header : Header} {assembly grown : Assembly} {early others : List Section}
  {error : FormatError} {count : Nat}

/-- Sections that are all added pass, and all of them are counted. -/
theorem passing_of_addAll (passing : Passing header early)
    (follows : assembly.Follows (early.map (·.kind)))
    (added : addAll header.channels.length early.length assembly others = (count, .ok grown)) :
    Passing header (early ++ others) ∧ count = (early ++ others).length := by
  -- The row that has passed grows along with the assembly that follows it.
  induction others generalizing early assembly with
  | nil =>
      cases added
      rw [List.append_nil]
      exact ⟨passing, rfl⟩
  | cons part others ih =>
      unfold addAll at added
      cases step : assembly.add header.channels.length part with
      | error other =>
          rw [step] at added
          cases added
      | ok next =>
          rw [step] at added
          obtain ⟨passes, onward⟩ := follows.passes_of_add step
          have goesOn := ih (passing.goesOn passes) (by simpa using onward) (by simpa using added)
          simpa using goesOn

/-- Sections that are not all added pass up to one that fails, and those before it are counted. -/
theorem fails_of_addAll (passing : Passing header early)
    (follows : assembly.Follows (early.map (·.kind)))
    (refused : addAll header.channels.length early.length assembly others =
      (count, .error error)) :
    ∃ front part late, others = front ++ part :: late ∧ Passing header (early ++ front) ∧
      part.Fails header.channels.length ((early ++ front).map (·.kind)) error ∧
      count = (early ++ front).length := by
  induction others generalizing early assembly with
  | nil => cases refused
  | cons part others ih =>
      unfold addAll at refused
      cases step : assembly.add header.channels.length part with
      | error other =>
          rw [step] at refused
          cases refused
          refine ⟨[], part, others, rfl, ?_⟩
          rw [List.append_nil]
          exact ⟨passing, follows.fails_of_add step, rfl⟩
      | ok next =>
          rw [step] at refused
          obtain ⟨passes, onward⟩ := follows.passes_of_add step
          obtain ⟨front, failing, late, rfl, goesOn, fails, counts⟩ :=
            ih (passing.goesOn passes) (by simpa using onward) (by simpa using refused)
          rw [List.append_assoc, List.singleton_append] at goesOn fails counts
          exact ⟨part :: front, failing, late, rfl, goesOn, fails, counts⟩

/-- Behind a header that was read, the count says where reading ended. -/
theorem reaches_body {bytes : Bytes} {first : Section} {after : Reader}
    {stopped : Option FormatError} (walks : Walk.ofBytes bytes = ⟨first :: others, stopped⟩)
    (leads : first.kind = .header) (reads : Header.read first.reader = .ok header after) :
    Walk.Reaches bytes (body bytes header ⟨others, stopped⟩).outcome
      (body bytes header ⟨others, stopped⟩).sections := by
  have opens : Passing header [first] := .opens leads reads
  have follows : Assembly.empty.Follows ([first].map (·.kind)) := by
    rw [List.map_singleton, leads]
    exact Assembly.follows_empty
  have all : (Walk.ofBytes bytes).sections = [first] ++ others := by rw [walks]; rfl
  unfold body
  cases added : addAll header.channels.length 1 Assembly.empty others with
  | mk count result =>
      cases result with
      | error error =>
          obtain ⟨front, part, late, rfl, passing, fails, rfl⟩ :=
            fails_of_addAll opens follows added
          exact .refused all passing fails fails.inner
      | ok assembly =>
          obtain ⟨passing, rfl⟩ := passing_of_addAll opens follows added
          rw [← all] at passing ⊢
          cases stopped with
          | some error =>
              have stopped : (Walk.ofBytes bytes).stopped = some error := by rw [walks]
              exact .unframed passing stopped (Walk.inner_of_stopped stopped)
          | none =>
              have framed : (Walk.ofBytes bytes).stopped = none := by rw [walks]
              change Walk.Reaches bytes (assembly.finish bytes header) _
              cases finished : assembly.finish bytes header with
              | error error => exact .incomplete passing framed (Assembly.final_of_finish finished)
              | ok payload =>
                  obtain ⟨-, rfl, -⟩ := Assembly.finish_eq_ok_iff.mp finished
                  exact .complete passing framed

/-- However reading a payload ends, the count says where. -/
theorem reaches_ofPayload (bytes : Bytes) :
    Walk.Reaches bytes (ofPayload bytes).outcome (ofPayload bytes).sections := by
  unfold ofPayload
  split
  · rename_i error walks
    refine .unopened (fun header passing => ?_) ?_
    · rw [walks] at passing
      exact passing.ne_nil rfl
    · split
      · exact Walk.inner_of_stopped (by rw [walks])
      · exact id
  · rename_i walks
    refine .unopened (fun header passing => ?_) id
    rw [walks] at passing
    exact passing.ne_nil rfl
  · -- A section was framed, so all depends on whether it is a header that can be read.
    rename_i first others stopped walks
    split
    · rename_i leads
      cases reads : Header.read first.reader with
      | error error after =>
          refine .unopened (fun header passing => ?_) (Header.inner_read reads)
          rw [walks] at passing
          obtain ⟨-, _, succeeds⟩ := passing.leads
          rw [reads] at succeeds
          cases succeeds
      | ok header after => exact reaches_body walks leads reads
    · rename_i other
      refine .unopened (fun header passing => ?_) id
      rw [walks] at passing
      exact other passing.leads.1

end Parsed

/-! ## Parsers -/

namespace Parser

/-- What a parser makes of a payload that is read with a number of sections. -/
def result {ε α : Type} (sections : Nat) : Except ε α → EStateM.Result ε Parser α
  | .ok value => .ok value ⟨sections⟩
  | .error error => .error error ⟨sections⟩

theorem addAll_eq (declared sections : Nat) (assembly : Assembly) (others : List Section) :
    addAll declared assembly others ⟨sections⟩ =
      result (Parsed.addAll declared sections assembly others).1
        (Parsed.addAll declared sections assembly others).2 := by
  induction others generalizing assembly sections with
  | nil => rfl
  | cons part others ih =>
      unfold addAll Parsed.addAll
      cases step : assembly.add declared part with
      | error error => rfl
      | ok grown => exact ih (sections + 1) grown

/-- What a parser read before has no part in what it makes of a payload. -/
theorem parse_eq (bytes : Bytes) (parser : Parser) :
    parse bytes parser =
      result (Parsed.ofPayload bytes).sections (Parsed.ofPayload bytes).outcome := by
  unfold parse Parsed.ofPayload
  obtain ⟨sections, stopped⟩ := Walk.ofBytes bytes
  cases sections with
  | nil => cases stopped <;> rfl
  | cons first others =>
      by_cases leads : first.kind = .header
      · simp only [Bind.bind, EStateM.bind, readHeader, if_pos leads]
        cases reads : Header.read first.reader with
        | error error after => rfl
        | ok header after =>
            change EStateM.bind (addAll header.channels.length Assembly.empty others) _ ⟨1⟩ =
              result (Parsed.body bytes header ⟨others, stopped⟩).sections
                (Parsed.body bytes header ⟨others, stopped⟩).outcome
            unfold Parsed.body EStateM.bind
            rw [addAll_eq]
            rcases Parsed.addAll header.channels.length 1 Assembly.empty others with
              ⟨count, error | assembly⟩
            · rfl
            cases stopped with
            | some error => rfl
            | none =>
                change (MonadExcept.ofExcept (assembly.finish bytes header) :
                  EStateM FormatError Parser Payload) ⟨count⟩ =
                    result count (assembly.finish bytes header)
                cases assembly.finish bytes header <;> rfl
      · simp only [Bind.bind, EStateM.bind, readHeader, if_neg leads]
        rfl

theorem adaptExcept_parse (bytes : Bytes) (parser : Parser) :
    EStateM.adaptExcept ImageError.format (parse bytes) parser =
      result (Parsed.ofPayload bytes).sections
        ((Parsed.ofPayload bytes).outcome.mapError .format) := by
  rw [EStateM.adaptExcept, parse_eq]
  cases (Parsed.ofPayload bytes).outcome <;> rfl

theorem parseImage_eq (image : Bytes) (revision : UInt32) (parser : Parser) :
    parseImage image revision parser =
      result (ParsedImage.ofImage image revision).sections
        (ParsedImage.ofImage image revision).outcome := by
  unfold parseImage ParsedImage.ofImage
  cases Container.select image revision with
  | error error => rfl
  | ok bytes => exact adaptExcept_parse bytes ⟨0⟩

/-! ## Calls -/

/-- What a parser may be asked to read. -/
inductive Call where
  | payload (bytes : Bytes)
  | image (bytes : Bytes) (revision : UInt32)
  deriving DecidableEq, Repr

namespace Call

def run : Call → EStateM ImageError Parser Payload
  | payload bytes => EStateM.adaptExcept .format (parse bytes)
  | image bytes revision => parseImage bytes revision

/-- The payload that is to be read. -/
def payload? : Call → Except ContainerError Bytes
  | payload bytes => .ok bytes
  | image bytes revision => Container.select bytes revision

/-- The ways in which a call ends, with what the parser counts then. -/
inductive Ends (call : Call) : EStateM.Result ImageError Parser Payload → Prop
  /-- There is no payload to be read. -/
  | unselected {error : ContainerError} (refused : call.payload? = .error error) :
      Ends call (.error (.container error) ⟨0⟩)
  | refused {bytes : Bytes} {error : FormatError} {count : Nat} (taken : call.payload? = .ok bytes)
      (reaches : Walk.Reaches bytes (.error error) count) (furthest : Walk.Furthest bytes count) :
      Ends call (.error (.format error) ⟨count⟩)
  | accepted {bytes : Bytes} {payload : Payload} {count : Nat} (taken : call.payload? = .ok bytes)
      (reaches : Walk.Reaches bytes (.ok payload) count) (furthest : Walk.Furthest bytes count) :
      Ends call (.ok payload ⟨count⟩)

end Call

/-- The parser that a call leaves, whether or not a payload was read. -/
def perform (parser : Parser) (call : Call) : Parser :=
  match call.run parser with
  | .ok _ after => after
  | .error _ after => after

/-- A parser that has read for some calls. -/
def after (calls : List Call) : Parser := calls.foldl perform new

namespace Call

theorem run_eq (call : Call) (parser : Parser) : call.run parser = call.run new := by
  cases call with
  | payload bytes => simp only [run, adaptExcept_parse]
  | image bytes revision => simp only [run, parseImage_eq]

theorem ends_of_payload {call : Call} {bytes : Bytes} (taken : call.payload? = .ok bytes) :
    call.Ends (result (Parsed.ofPayload bytes).sections
      ((Parsed.ofPayload bytes).outcome.mapError .format)) := by
  have reaches := Parsed.reaches_ofPayload bytes
  cases outcome : (Parsed.ofPayload bytes).outcome with
  | error error => exact .refused taken (outcome ▸ reaches) reaches.furthest
  | ok payload => exact .accepted taken (outcome ▸ reaches) reaches.furthest

theorem ends_run (call : Call) (parser : Parser) : call.Ends (call.run parser) := by
  cases call with
  | payload bytes =>
      rw [run, adaptExcept_parse]
      exact ends_of_payload rfl
  | image bytes revision =>
      rw [run, parseImage_eq, ParsedImage.ofImage]
      cases selects : Container.select bytes revision with
      | error error => exact .unselected selects
      | ok payload => exact ends_of_payload selects

/--
However often a parser was used, it makes of a call what a new parser makes of it. Its count is the
number of sections if all of them could be read, the place of the first one that could not be read
otherwise, and 0 if there was no payload or no header.
-/
theorem counts_sections (calls : List Call) (call : Call) :
    call.run (after calls) = call.run new ∧ call.Ends (call.run (after calls)) :=
  ⟨call.run_eq _, call.ends_run _⟩

/-- A fifth section that is cut off does not count, nor does anything that was read before. -/
example :
    let cut := ((Draft.new 1).addSection Kind.algorithm.tag [1, 0]).build
    (after [.payload cut]).sections = 4 ∧
      (after [.payload cut, .payload (Draft.new 1).build]).sections = 4 ∧
      (after [.payload cut, .image [] 0]).sections = 0 := by
  decide +kernel

end Call

end Parser

end AmpControl.Tuning
