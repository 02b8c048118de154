import AmpControl.Proofs.Tuning.Shape
import AmpControl.Proofs.Tuning.Taking

/-!
# Writing what was read

A read that succeeds takes a row of bytes, and it takes this row for the same value wherever it
stands and whatever follows. What is written for the value need not be the same row: bytes behind
the end of a name are lost, and every set flag is written as one. It is a row that the same read
takes for the same value, and it is as long. Reads that are put one after the other keep this, so
it is shown once for each field and then follows for every record.
-/

namespace AmpControl.Tuning.Read

variable {α β : Type} {alike : Bytes → Bytes → Prop} {read : Read α} {next : α → Read β}
  {part : α → Bytes} {encode : β → Bytes} {written : Bytes}

/-! ## Rows that may stand for one another -/

/--
A way in which the row that is written may differ from the row that was read: never in length, and
in a row of rows as far as in each of them.
-/
structure Likeness (alike : Bytes → Bytes → Prop) : Prop where
  refl : ∀ row, alike row row
  append : ∀ {early early' late late'}, alike early early' → alike late late' →
    alike (early ++ late) (early' ++ late')
  length : ∀ {taken fresh}, alike taken fresh → fresh.length = taken.length

/-- Rows that differ in their bytes at most. -/
def SameLength (taken fresh : Bytes) : Prop := fresh.length = taken.length

theorem likeness_eq : Likeness (· = ·) where
  refl _ := rfl
  append early late := congrArg₂ (· ++ ·) early late
  length same := same ▸ rfl

theorem likeness_sameLength : Likeness SameLength where
  refl _ := rfl
  append early late := by
    simp only [SameLength, List.length_append] at early late ⊢
    omega
  length same := same

/-! ## What a read took -/

/-- A read took a row of bytes off the front, and takes the row for its value anywhere. -/
structure Took (read : Read α) (reader after : Reader) (value : α) (taken : Bytes) : Prop where
  rest : reader.rest = taken ++ after.rest
  position : after.position = reader.position + taken.length
  base : after.base = reader.base
  takes : Takes read taken value

/-- A read that takes a row anywhere took it where the row stood. -/
theorem Took.of_takes {reader after : Reader} {value : α} {taken rest : Bytes}
    (takes : Takes read taken value) (split : reader.rest = taken ++ rest)
    (succeeds : read reader = .ok value after) : Took read reader after value taken := by
  have again := takes rest reader.position reader.base
  rw [← split, succeeds] at again
  have ends := (EStateM.Result.ok.inj again).2
  exact ⟨by rw [split, ends], by rw [ends], by rw [ends], takes⟩

theorem Took.bind {reader middle after : Reader} {value : α} {result : β} {early late : Bytes}
    (first : Took read reader middle value early)
    (second : Took (next value) middle after result late) :
    Took (read >>= next) reader after result (early ++ late) where
  rest := by rw [first.rest, second.rest, List.append_assoc]
  position := by rw [second.position, first.position, List.length_append, Nat.add_assoc]
  base := second.base.trans first.base
  takes := first.takes.bind second.takes

/--
Whatever a read took, the row that `encode` writes for the value is like it and is taken for the
same value.
-/
def Restores (alike : Bytes → Bytes → Prop) (read : Read α) (encode : α → Bytes) : Prop :=
  ∀ ⦃reader after : Reader⦄ ⦃value : α⦄, read reader = .ok value after → ∃ taken,
    Took read reader after value taken ∧ alike taken (encode value) ∧
      Takes read (encode value) value

/--
The rest of a record restores what it takes: behind the row `written` for the fields before it,
`encode` writes a row for the other fields that is like the row that was taken.
-/
def Completes (alike : Bytes → Bytes → Prop) (written : Bytes) (read : Read β)
    (encode : β → Bytes) : Prop :=
  ∀ ⦃reader after : Reader⦄ ⦃value : β⦄, read reader = .ok value after → ∃ taken fresh,
    Took read reader after value taken ∧ alike taken fresh ∧ Takes read fresh value ∧
      encode value = written ++ fresh

/-- A read that takes only the rows that are written for its values restores what it takes. -/
theorem Restores.of_exact {encode : α → Bytes} (like : Likeness alike)
    (exact : ∀ {reader after : Reader} {value : α}, read reader = .ok value after →
      Takes read (encode value) value ∧ ∃ rest, reader.rest = encode value ++ rest) :
    Restores alike read encode := by
  intro reader after value succeeds
  obtain ⟨takes, rest, split⟩ := exact succeeds
  exact ⟨encode value, .of_takes takes split succeeds, like.refl _, takes⟩

theorem Restores.took {encode : α → Bytes} (restores : Restores alike read encode)
    {reader after : Reader} {value : α} (succeeds : read reader = .ok value after) :
    ∃ taken, Took read reader after value taken :=
  let ⟨taken, took, _⟩ := restores succeeds
  ⟨taken, took⟩

theorem Restores.takes {encode : α → Bytes} (restores : Restores alike read encode)
    {reader after : Reader} {value : α} (succeeds : read reader = .ok value after) :
    Takes read (encode value) value :=
  let ⟨_, _, _, takes⟩ := restores succeeds
  takes

/-- What an exact read took is what is written for its value. -/
theorem Restores.rest_eq {encode : α → Bytes} (restores : Restores (· = ·) read encode)
    {reader after : Reader} {value : α} (succeeds : read reader = .ok value after) :
    reader.rest = encode value ++ after.rest := by
  obtain ⟨_, took, rfl, _⟩ := restores succeeds
  exact took.rest

theorem Completes.restores {read : Read β} (completes : Completes alike [] read encode) :
    Restores alike read encode := by
  intro reader after value succeeds
  obtain ⟨taken, fresh, took, like, takes, writes⟩ := completes succeeds
  rw [List.nil_append] at writes
  exact ⟨taken, took, writes ▸ like, writes ▸ takes⟩

namespace Completes

/-- Nothing is left of a record that was written whole. -/
theorem pure (like : Likeness alike) {value : β} (whole : encode value = written) :
    Completes alike written (Pure.pure value) encode := by
  rintro reader after _ ⟨⟩
  exact ⟨[], [], .of_takes (.pure value) rfl rfl, like.refl [], .pure value, by simp [whole]⟩

/-- A read that fails takes nothing that would have to be restored. -/
theorem failed {error : FormatError} : Completes alike written (throw error) encode := by
  rintro reader after value ⟨⟩

theorem refused {error : FormatError} {next : α → Read β} :
    Completes alike written (throw error >>= next) encode := by
  rintro reader after value ⟨⟩

/-- A field and then the rest, which may make use of what values the field can have. -/
theorem bind_of (like : Likeness alike) (begins : Restores alike read part)
    (follows : ∀ value, (∃ reader after, read reader = .ok value after) →
      Completes alike (written ++ part value) (next value) encode) :
    Completes alike written (read >>= next) encode := by
  intro reader after result succeeds
  obtain ⟨value, middle, first, second⟩ := bind_eq_ok succeeds
  obtain ⟨early, took, likeEarly, takesEarly⟩ := begins first
  obtain ⟨late, fresh, tookLate, likeLate, takesLate, writes⟩ :=
    follows value ⟨reader, middle, first⟩ second
  refine ⟨early ++ late, part value ++ fresh, took.bind tookLate, like.append likeEarly likeLate,
    takesEarly.bind takesLate, ?_⟩
  rw [writes, List.append_assoc]

theorem bind (like : Likeness alike) (begins : Restores alike read part)
    (follows : ∀ value, Completes alike (written ++ part value) (next value) encode) :
    Completes alike written (read >>= next) encode :=
  bind_of like begins fun value _ => follows value

/-- The offset is asked for reports only, so it has no part in what is taken. -/
theorem after_offset {next : Nat → Read β}
    (same : ∀ {start : Nat} (other : Nat) {reader after : Reader} {value : β},
      next start reader = .ok value after → next other reader = .ok value after)
    (follows : ∀ start, Completes alike written (next start) encode) :
    Completes alike written (offset >>= next) encode := by
  intro reader after value succeeds
  have anywhere {row : Bytes} (takes : Takes (next reader.offset) row value) :
      Takes (offset >>= next) row value :=
    .after_offset fun other rest position base => same other (takes rest position base)
  obtain ⟨taken, fresh, took, like, takes, writes⟩ := follows reader.offset succeeds
  exact ⟨taken, fresh, ⟨took.rest, took.position, took.base, anywhere took.takes⟩, like,
    anywhere takes, writes⟩

end Completes

/-! ## Bytes and integers -/

theorem length_of_bytes {amount : Nat} {reader after : Reader} {taken : Bytes}
    (succeeds : bytes amount reader = .ok taken after) :
    taken.length = amount ∧ taken = reader.rest.take amount := by
  simp only [bytes] at succeeds
  split at succeeds
  · rename_i enough
    cases succeeds
    exact ⟨enough, rfl⟩
  · cases succeeds

theorem length_of_lengthPrefixed {reader after : Reader} {body : Bytes}
    (succeeds : lengthPrefixed reader = .ok body after) : body.length < UInt32.size := by
  unfold lengthPrefixed at succeeds
  split at succeeds
  · rename_i length middle first
    split at succeeds
    · rename_i ended second
      cases succeeds
      exact (length_of_bytes second).1 ▸ length.toNat_lt
    · cases succeeds
  · cases succeeds

section

variable (like : Likeness alike)
include like

theorem restores_byte : Restores alike byte fun value => [value] := by
  refine .of_exact like fun {reader after value} succeeds => ⟨takes_byte value, ?_⟩
  unfold byte at succeeds
  split at succeeds
  · rename_i first rest split
    cases succeeds
    exact ⟨rest, split⟩
  · cases succeeds

theorem restores_halfword : Restores alike halfword LittleEndian.halfword := by
  refine .of_exact like fun {reader after value} succeeds => ⟨takes_halfword value, ?_⟩
  unfold halfword at succeeds
  split at succeeds
  · rename_i low high rest split
    cases succeeds
    exact ⟨rest, by rw [split, LittleEndian.halfword_toHalfword]; rfl⟩
  · cases succeeds

theorem restores_word : Restores alike word LittleEndian.word := by
  refine .of_exact like fun {reader after value} succeeds => ⟨takes_word value, ?_⟩
  unfold word at succeeds
  split at succeeds
  · rename_i first second third fourth rest split
    cases succeeds
    exact ⟨rest, by rw [split, LittleEndian.word_toWord]; rfl⟩
  · cases succeeds

theorem restores_signedWord :
    Restores alike signedWord fun value => LittleEndian.word value.toUInt32 :=
  Completes.restores (.bind like (restores_word like) fun _ => .pure like rfl)

theorem restores_bytes (amount : Nat) : Restores alike (bytes amount) fun taken => taken := by
  refine .of_exact like fun {reader after taken} succeeds => ?_
  obtain ⟨length, taken_eq⟩ := length_of_bytes succeeds
  exact ⟨takes_length taken length, reader.rest.drop amount,
    by rw [taken_eq, List.take_append_drop]⟩

theorem restores_lengthPrefixed :
    Restores alike lengthPrefixed fun body => LittleEndian.count body.length ++ body := by
  refine .of_exact like fun {reader after body} succeeds => ?_
  have small := length_of_lengthPrefixed succeeds
  unfold lengthPrefixed at succeeds
  split at succeeds
  · rename_i length middle first
    split at succeeds
    · rename_i ended second
      cases succeeds
      have counted : LittleEndian.count body.length = LittleEndian.word length := by
        rw [(length_of_bytes second).1, LittleEndian.count, UInt32.ofNatClamp_toNat]
      have framed := (restores_word likeness_eq).rest_eq first
      rw [(restores_bytes likeness_eq length.toNat).rest_eq second] at framed
      exact ⟨takes_lengthPrefixed body small, after.rest,
        by rw [framed, counted, List.append_assoc]⟩
    · cases succeeds
  · cases succeeds

end

/-- Any byte but zero is a set flag, which is written as one. -/
theorem Completes.flag (next : Bool → Read β)
    (follows : ∀ flag, Completes SameLength (written ++ [if flag then 1 else 0]) (next flag)
      encode) :
    Completes SameLength written (byte >>= fun stored => next (stored != 0)) encode := by
  intro reader after result succeeds
  obtain ⟨stored, middle, first, second⟩ := bind_eq_ok succeeds
  obtain ⟨late, fresh, tookLate, likeLate, takesLate, writes⟩ := follows (stored != 0) second
  obtain ⟨_, took, rfl, _⟩ := restores_byte likeness_eq first
  refine ⟨[stored] ++ late, [if stored != 0 then 1 else 0] ++ fresh, took.bind tookLate,
    likeness_sameLength.append rfl likeLate, (takes_byte _).bind ?_, ?_⟩
  · rwa [stored_flag]
  · rw [writes, List.append_assoc]

/-! ## Rows of records -/

/-- The number of records is stored as a word. -/
theorem word_of_count {amount : Nat} {reader after : Reader}
    (succeeds : count reader = .ok amount after) :
    ∃ number, word reader = .ok number after ∧ number.toNat = amount := by
  unfold count at succeeds
  split at succeeds
  · rename_i number middle isWord
    split at succeeds
    · cases succeeds
      exact ⟨number, isWord, rfl⟩
    · cases succeeds
  · cases succeeds

section

variable (like : Likeness alike) {record : Read α} {encode : α → Bytes}
include like

theorem restores_records (restores : Restores alike record encode) (amount : Nat) :
    Restores alike (records record amount) fun items => items.flatMap encode := by
  induction amount with
  | zero => exact Completes.restores (.pure like rfl)
  | succ amount ih =>
      refine Completes.restores (.bind like restores fun first => ?_)
      exact .bind like ih fun others => .pure like List.flatMap_cons

/-- What is written for a record is never empty, so records are never more than bytes. -/
theorem restores_counted (restores : Restores alike record encode)
    (nonempty : ∀ item, encode item ≠ []) :
    Restores alike (counted record) fun items =>
      LittleEndian.count items.length ++ items.flatMap encode := by
  intro reader after items succeeds
  obtain ⟨amount, middle, first, second⟩ := bind_eq_ok succeeds
  obtain ⟨number, isWord, rfl⟩ := word_of_count first
  have listed := length_records second
  have few : items.length < UInt32.size := listed ▸ number.toNat_lt
  have counted : LittleEndian.count items.length = LittleEndian.word number := by
    rw [listed, LittleEndian.count, UInt32.ofNatClamp_toNat]
  obtain ⟨row, took, likeRow, again⟩ := restores_records like restores number.toNat second
  have some_byte := length_le_flatMap fun item (_ : item ∈ items) => nonempty item
  have takes := takes_counted_of_records (listed ▸ took.takes) (like.length likeRow ▸ some_byte) few
  have split : reader.rest = LittleEndian.count items.length ++ row ++ after.rest := by
    rw [(restores_word likeness_eq).rest_eq isWord, took.rest, counted, List.append_assoc]
  exact ⟨_, .of_takes takes split succeeds, like.append (like.refl _) likeRow,
    takes_counted_of_records (listed ▸ again) some_byte few⟩

end

/-- Records that were read until no byte was left fill the bytes. -/
theorem records_of_upTo {record : Read α} {encode : α → Bytes}
    (restores : Restores (· = ·) record encode) (nonempty : ∀ item, encode item ≠ [])
    {bound : Nat} {reader after : Reader} {items : List α} (enough : reader.rest.length ≤ bound)
    (succeeds : upTo record bound reader = .ok items after) :
    reader.rest = items.flatMap encode ∧ ∀ item ∈ items, Takes record (encode item) item := by
  induction bound generalizing reader items with
  | zero =>
      cases succeeds
      exact ⟨List.length_eq_zero_iff.mp (Nat.le_zero.mp enough), fun _ => (nomatch ·)⟩
  | succ bound ih =>
      unfold upTo at succeeds
      split at succeeds
      · rename_i none_left
        cases succeeds
        exact ⟨List.isEmpty_iff.mp none_left, fun _ => (nomatch ·)⟩
      · obtain ⟨first, middle, begins, others⟩ := bind_eq_ok succeeds
        obtain ⟨rest, ended, follows, made⟩ := bind_eq_ok others
        cases made
        have split := restores.rest_eq begins
        have some_byte := List.length_pos_iff.mpr (nonempty first)
        have shorter : middle.rest.length ≤ bound := by
          rw [split, List.length_append] at enough
          omega
        obtain ⟨filled, taken⟩ := ih shorter follows
        refine ⟨by rw [split, filled, List.flatMap_cons], ?_⟩
        exact List.forall_mem_cons.mpr ⟨restores.takes begins, taken⟩

/-! ## Reads of all that is left -/

/-- A read leaves nothing, and the bytes that were left settle its value wherever they lie. -/
def Exhausts (read : Read α) : Prop :=
  ∀ ⦃reader after : Reader⦄ ⦃value : α⦄, read reader = .ok value after →
    Yields read reader.rest value ∧ after.rest = []

namespace Exhausts

theorem bind (begins : Restores alike read part) (follows : ∀ value, Exhausts (next value)) :
    Exhausts (read >>= next) := by
  intro reader after result succeeds
  obtain ⟨value, middle, first, second⟩ := bind_eq_ok succeeds
  obtain ⟨taken, took⟩ := begins.took first
  obtain ⟨yields, none_left⟩ := follows value second
  rw [took.rest]
  exact ⟨took.takes.yields yields, none_left⟩

theorem refused {error : FormatError} : Exhausts (throw error >>= next) := by
  rintro reader after value ⟨⟩

theorem remainder (value : α) : Exhausts (remainder >>= fun _ => pure value) := by
  rintro reader after _ ⟨⟩
  exact ⟨yields_remainder reader.rest value, List.drop_length⟩

end Exhausts

end AmpControl.Tuning.Read
