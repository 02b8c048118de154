import AmpControl.Proofs.Tuning.Reports
import AmpControl.Tuning.Slice

/-!
# Where reads leave a reader

A read that succeeds takes exactly the bytes that stand for its answer, and leaves the reader right
behind them. A read that fails leaves the reader where it was, and only does so if no bytes there
stand for an answer. The one exception is a name that is no text: its field is passed over. So a
reader never goes back and never leaves its byte string, whatever is asked of it.
-/

namespace AmpControl.Tuning

namespace Reader

/-! ## Operations -/

/-- What may be asked of a reader. An array of bytes is read as that number of bytes. -/
inductive Operation where
  | byte
  | halfword
  | word
  | signedWord
  | count
  | tag
  | name
  | lengthPrefixed
  | bytes (amount : Nat)
  | skip (amount : Nat)
  | remainder
  | peek
  deriving DecidableEq, Repr

/-- What an operation gives. -/
inductive Answer where
  | nothing
  | byte (value : UInt8)
  | halfword (value : UInt16)
  | word (value : UInt32)
  | signedWord (value : Int32)
  | number (amount : Nat)
  | text (text : String)
  | bytes (taken : Bytes)
  | next (byte : Option UInt8)
  deriving DecidableEq, Repr

namespace Operation

def perform : Operation → Read Answer
  | byte => return .byte (← Read.byte)
  | halfword => return .halfword (← Read.halfword)
  | word => return .word (← Read.word)
  | signedWord => return .signedWord (← Read.signedWord)
  | count => return .number (← Read.count)
  | tag => return .bytes (← Read.tag)
  | name => return .text (← Name.read)
  | lengthPrefixed => return .bytes (← Read.lengthPrefixed)
  | bytes amount => return .bytes (← Read.bytes amount)
  | skip amount => do
      Read.skip amount
      return .nothing
  | remainder => return .bytes (← Read.remainder)
  | peek => fun reader => .ok (.next reader.peek?) reader

/-- A row of bytes with others behind it stands for the answer to an operation. -/
inductive Gives : Operation → (taken behind : Bytes) → Answer → Prop
  | byte {behind : Bytes} (value : UInt8) : Gives .byte [value] behind (.byte value)
  | halfword {behind : Bytes} (value : UInt16) :
      Gives .halfword (LittleEndian.halfword value) behind (.halfword value)
  | word {behind : Bytes} (value : UInt32) :
      Gives .word (LittleEndian.word value) behind (.word value)
  | signedWord {behind : Bytes} (value : Int32) :
      Gives .signedWord (LittleEndian.word value.toUInt32) behind (.signedWord value)
  /-- Records are counted only where as many bytes follow. -/
  | count {behind : Bytes} (number : UInt32) (enough : number.toNat ≤ behind.length) :
      Gives .count (LittleEndian.word number) behind (.number number.toNat)
  | tag {taken behind : Bytes} (length : taken.length = 5) : Gives .tag taken behind (.bytes taken)
  | name {taken behind : Bytes} {text : String} (length : taken.length = Name.width)
      (decodes : Name.decode? taken = some text) : Gives .name taken behind (.text text)
  | lengthPrefixed {body behind : Bytes} (length : UInt32) (counted : body.length = length.toNat) :
      Gives .lengthPrefixed (LittleEndian.word length ++ body) behind (.bytes body)
  | bytes {taken behind : Bytes} : Gives (.bytes taken.length) taken behind (.bytes taken)
  | skip {taken behind : Bytes} : Gives (.skip taken.length) taken behind .nothing
  | remainder {taken : Bytes} : Gives .remainder taken [] (.bytes taken)
  | peek {behind : Bytes} : Gives .peek [] behind (.next behind.head?)

end Operation

/-- A reader that stands behind some bytes of another one. -/
structure Behind (reader : Reader) (taken : Bytes) (after : Reader) : Prop where
  rest : reader.rest = taken ++ after.rest
  position : after.position = reader.position + taken.length
  base : after.base = reader.base

end Reader

open Reader (Behind Operation Answer)

namespace Read

variable {α : Type} {read : Read α} {reader after : Reader} {value : α} {taken : Bytes}

theorem Took.behind (took : Took read reader after value taken) : reader.Behind taken after :=
  ⟨took.rest, took.position, took.base⟩

/-- A row that a read takes anywhere is taken where it stands. -/
theorem Takes.eq_ok (takes : Takes read taken value) (behind : reader.Behind taken after) :
    read reader = .ok value after := by
  have starts : reader = ⟨taken ++ after.rest, reader.position, reader.base⟩ := by
    rw [← behind.rest]
  have ends : after = ⟨after.rest, reader.position + taken.length, reader.base⟩ := by
    rw [← behind.position, ← behind.base]
  rw [starts, ends]
  exact takes after.rest reader.position reader.base

/-- A read that takes the rows which it writes, and no others, succeeds where such a row stands. -/
theorem Restores.eq_ok_iff {encode : α → Bytes} (restores : Restores (· = ·) read encode)
    (takes : ∀ value, Takes read (encode value) value) :
    read reader = .ok value after ↔ reader.Behind (encode value) after := by
  constructor
  · intro succeeds
    obtain ⟨_, took, rfl, _⟩ := restores succeeds
    exact took.behind
  · exact (takes value).eq_ok

theorem bytes_eq_ok_iff {amount : Nat} :
    bytes amount reader = .ok taken after ↔ reader.Behind taken after ∧ taken.length = amount := by
  constructor
  · intro succeeds
    obtain ⟨_, took, rfl, _⟩ := restores_bytes likeness_eq amount succeeds
    exact ⟨took.behind, (length_of_bytes succeeds).1⟩
  · rintro ⟨behind, rfl⟩
    exact (takes_bytes taken).eq_ok behind

theorem byte_eq_ok_iff {value : UInt8} :
    byte reader = .ok value after ↔ reader.Behind [value] after :=
  (restores_byte likeness_eq).eq_ok_iff takes_byte

theorem halfword_eq_ok_iff {value : UInt16} :
    halfword reader = .ok value after ↔ reader.Behind (LittleEndian.halfword value) after :=
  (restores_halfword likeness_eq).eq_ok_iff takes_halfword

theorem word_eq_ok_iff {value : UInt32} :
    word reader = .ok value after ↔ reader.Behind (LittleEndian.word value) after :=
  (restores_word likeness_eq).eq_ok_iff takes_word

theorem signedWord_eq_ok_iff {value : Int32} :
    signedWord reader = .ok value after ↔
      reader.Behind (LittleEndian.word value.toUInt32) after :=
  (restores_signedWord likeness_eq).eq_ok_iff takes_signedWord

theorem count_eq_ok_iff {amount : Nat} :
    count reader = .ok amount after ↔ ∃ number : UInt32, number.toNat = amount ∧
      amount ≤ after.rest.length ∧ reader.Behind (LittleEndian.word number) after := by
  simp only [← word_eq_ok_iff]
  constructor
  · intro succeeds
    obtain ⟨number, isWord, rfl⟩ := word_of_count succeeds
    refine ⟨number, rfl, ?_, isWord⟩
    simp only [count, isWord] at succeeds
    split at succeeds
    · assumption
    · cases succeeds
  · rintro ⟨number, rfl, enough, isWord⟩
    simp only [count, isWord]
    exact if_pos enough

/-- A length and its bytes stand one behind the other. -/
theorem lengthPrefixed_eq_ok_iff {body : Bytes} :
    lengthPrefixed reader = .ok body after ↔ ∃ length : UInt32, body.length = length.toNat ∧
      reader.Behind (LittleEndian.word length ++ body) after := by
  have counted {length : UInt32} (same : body.length = length.toNat) :
      LittleEndian.count body.length = LittleEndian.word length := by
    rw [same, LittleEndian.count, UInt32.ofNatClamp_toNat]
  constructor
  · intro succeeds
    obtain ⟨_, took, rfl, _⟩ := restores_lengthPrefixed likeness_eq succeeds
    have same : body.length = (UInt32.ofNatClamp body.length).toNat :=
      (UInt32.toNat_ofNatClamp_of_lt (length_of_lengthPrefixed succeeds)).symm
    exact ⟨_, same, took.behind⟩
  · rintro ⟨length, same, behind⟩
    rw [← counted same] at behind
    exact (takes_lengthPrefixed body (same ▸ length.toNat_lt)).eq_ok behind

theorem remainder_eq_ok_iff :
    remainder reader = .ok taken after ↔ reader.Behind taken after ∧ after.rest = [] := by
  have none_left : (reader.advance reader.rest.length).rest = [] := List.drop_length
  constructor
  · rintro ⟨⟩
    exact ⟨⟨by rw [none_left, List.append_nil], rfl, rfl⟩, none_left⟩
  · rintro ⟨behind, ends⟩
    have all : reader.rest = taken := by rw [behind.rest, ends, List.append_nil]
    have same : reader.advance reader.rest.length = after := by
      obtain ⟨rest, position, base⟩ := after
      cases ends
      rw [Reader.advance, List.drop_length, all, ← behind.position, ← behind.base]
    rw [← same, ← all]
    rfl

end Read

theorem Name.read_eq_ok_iff {reader after : Reader} {text : String} :
    read reader = .ok text after ↔ ∃ raw, reader.Behind raw after ∧ raw.length = width ∧
      decode? raw = some text := by
  constructor
  · intro succeeds
    obtain ⟨raw, middle, taken, made⟩ := Read.bind_eq_ok succeeds
    obtain ⟨behind, length⟩ := Read.bytes_eq_ok_iff.mp taken
    cases decodes : decode? raw with
    | none =>
        rw [decodes] at made
        cases made
    | some found =>
        rw [decodes] at made
        cases made
        exact ⟨raw, behind, length, decodes⟩
  · rintro ⟨raw, behind, length, decodes⟩
    have taken := Read.bytes_eq_ok_iff.mpr ⟨behind, length⟩
    simp only [read, readField, Bind.bind, EStateM.bind, taken, decodes]
    rfl

/-! ## Reads that fail -/

namespace Read

variable {α : Type} {read : Read α} {reader after : Reader}

/-- A read that fails only for lack of bytes, and then leaves the reader where it was. -/
def Stays (read : Read α) : Prop :=
  ∀ ⦃reader after : Reader⦄ ⦃error : FormatError⦄, read reader = .error error after →
    after = reader ∧ ∃ offset needed available, error = .truncated offset needed available

theorem stays_bytes (amount : Nat) : Stays (bytes amount) := by
  intro reader after error failed
  simp only [bytes] at failed
  split at failed
  · cases failed
  · cases failed
    exact ⟨rfl, _, _, _, rfl⟩

theorem stays_byte : Stays byte := by
  intro reader after error failed
  unfold byte at failed
  split at failed
  · cases failed
  · cases failed
    exact ⟨rfl, _, _, _, rfl⟩

theorem stays_halfword : Stays halfword := by
  intro reader after error failed
  unfold halfword at failed
  split at failed
  · cases failed
  · cases failed
    exact ⟨rfl, _, _, _, rfl⟩

theorem stays_word : Stays word := by
  intro reader after error failed
  unfold word at failed
  split at failed
  · cases failed
  · cases failed
    exact ⟨rfl, _, _, _, rfl⟩

theorem stays_count : Stays count := by
  intro reader after error failed
  unfold count at failed
  split at failed
  · split at failed
    · cases failed
    · cases failed
      exact ⟨rfl, _, _, _, rfl⟩
  · rename_i fails
    cases failed
    exact ⟨rfl, (stays_word fails).2⟩

/-- The length is given back when the bytes behind it are too few. -/
theorem stays_lengthPrefixed : Stays lengthPrefixed := by
  intro reader after error failed
  unfold lengthPrefixed at failed
  split at failed
  · rename_i length behind isWord
    split at failed
    · cases failed
    · rename_i fails
      cases failed
      exact ⟨rfl, (stays_bytes length.toNat fails).2⟩
  · rename_i fails
    cases failed
    exact ⟨rfl, (stays_word fails).2⟩

end Read

theorem Name.read_eq_error {reader after : Reader} {error : FormatError}
    (failed : read reader = .error error after) :
    (error = .badName ∧ after = reader.advance width ∧ width ≤ reader.rest.length ∧
        decode? (reader.rest.take width) = none) ∨
      (after = reader ∧ ∃ offset needed available, error = .truncated offset needed available) ∧
        reader.rest.length < width := by
  simp only [read, readField, Bind.bind, EStateM.bind] at failed
  cases taken : Read.bytes width reader with
  | error other middle =>
      rw [taken] at failed
      cases failed
      refine .inr ⟨Read.stays_bytes width taken, ?_⟩
      simp only [Read.bytes] at taken
      split at taken
      · cases taken
      · rename_i short
        rw [List.length_take] at short
        omega
  | ok raw middle =>
      rw [taken] at failed
      obtain ⟨length, same⟩ := Read.length_of_bytes taken
      cases decodes : decode? raw with
      | some text =>
          simp only [decodes] at failed
          cases failed
      | none =>
          simp only [decodes] at failed
          cases failed
          have enough : width ≤ reader.rest.length := by
            rw [same, List.length_take] at length
            omega
          refine .inl ⟨rfl, ?_, enough, same ▸ decodes⟩
          simp only [Read.bytes, List.length_take_of_le enough, if_true] at taken
          exact (EStateM.Result.ok.inj taken).2.symm

/-! ## Answers -/

namespace Read

variable {α : Type} {read : Read α} {reader after : Reader}

/-- A value that is only made into an answer was read before. -/
theorem answers_iff {β : Type} {made : α → β} {answer : β} :
    (read >>= fun value => Pure.pure (made value)) reader = .ok answer after ↔
      ∃ value, read reader = .ok value after ∧ made value = answer := by
  constructor
  · intro succeeds
    obtain ⟨value, middle, begins, ends⟩ := bind_eq_ok succeeds
    cases ends
    exact ⟨value, begins, rfl⟩
  · rintro ⟨value, begins, rfl⟩
    simp only [Bind.bind, EStateM.bind, begins]
    rfl

theorem fails_iff {β : Type} {made : α → β} {error : FormatError} :
    (read >>= fun value => Pure.pure (made value)) reader = .error error after ↔
      read reader = .error error after := by
  simp only [Bind.bind, EStateM.bind]
  cases outcome : read reader with
  | ok value middle => exact ⟨nofun, nofun⟩
  | error other middle => simp only [EStateM.Result.error.injEq]

end Read

namespace Reader.Operation

open Read (answers_iff fails_iff)

variable {operation : Operation} {reader after : Reader} {answer : Answer}

/-- An operation that succeeds took a row of bytes that stands for its answer. -/
theorem gives_of_perform (succeeds : operation.perform reader = .ok answer after) :
    ∃ taken, reader.Behind taken after ∧ operation.Gives taken after.rest answer := by
  cases operation with
  | byte =>
      obtain ⟨value, reads, rfl⟩ := answers_iff.mp succeeds
      exact ⟨_, Read.byte_eq_ok_iff.mp reads, .byte value⟩
  | halfword =>
      obtain ⟨value, reads, rfl⟩ := answers_iff.mp succeeds
      exact ⟨_, Read.halfword_eq_ok_iff.mp reads, .halfword value⟩
  | word =>
      obtain ⟨value, reads, rfl⟩ := answers_iff.mp succeeds
      exact ⟨_, Read.word_eq_ok_iff.mp reads, .word value⟩
  | signedWord =>
      obtain ⟨value, reads, rfl⟩ := answers_iff.mp succeeds
      exact ⟨_, Read.signedWord_eq_ok_iff.mp reads, .signedWord value⟩
  | count =>
      obtain ⟨amount, reads, rfl⟩ := answers_iff.mp succeeds
      obtain ⟨number, rfl, enough, behind⟩ := Read.count_eq_ok_iff.mp reads
      exact ⟨_, behind, .count number enough⟩
  | tag =>
      obtain ⟨taken, reads, rfl⟩ := answers_iff.mp succeeds
      obtain ⟨behind, length⟩ := Read.bytes_eq_ok_iff.mp reads
      exact ⟨taken, behind, .tag length⟩
  | name =>
      obtain ⟨text, reads, rfl⟩ := answers_iff.mp succeeds
      obtain ⟨raw, behind, length, decodes⟩ := Name.read_eq_ok_iff.mp reads
      exact ⟨raw, behind, .name length decodes⟩
  | lengthPrefixed =>
      obtain ⟨body, reads, rfl⟩ := answers_iff.mp succeeds
      obtain ⟨length, counted, behind⟩ := Read.lengthPrefixed_eq_ok_iff.mp reads
      exact ⟨_, behind, .lengthPrefixed length counted⟩
  | bytes amount =>
      obtain ⟨taken, reads, rfl⟩ := answers_iff.mp succeeds
      obtain ⟨behind, rfl⟩ := Read.bytes_eq_ok_iff.mp reads
      exact ⟨taken, behind, .bytes⟩
  | skip amount =>
      obtain ⟨_, reads, rfl⟩ := answers_iff.mp succeeds
      obtain ⟨taken, reads, _⟩ := answers_iff.mp reads
      obtain ⟨behind, rfl⟩ := Read.bytes_eq_ok_iff.mp reads
      exact ⟨taken, behind, .skip⟩
  | remainder =>
      obtain ⟨taken, reads, rfl⟩ := answers_iff.mp succeeds
      obtain ⟨behind, ends⟩ := Read.remainder_eq_ok_iff.mp reads
      exact ⟨taken, behind, ends ▸ .remainder⟩
  | peek =>
      cases succeeds
      exact ⟨[], ⟨rfl, rfl, rfl⟩, .peek⟩

/-- An operation succeeds where a row of bytes stands for an answer to it. -/
theorem perform_of_gives {taken : Bytes} (behind : reader.Behind taken after)
    (gives : operation.Gives taken after.rest answer) :
    operation.perform reader = .ok answer after := by
  generalize left : after.rest = others at gives
  cases gives with
  | byte value => exact answers_iff.mpr ⟨value, Read.byte_eq_ok_iff.mpr behind, rfl⟩
  | halfword value => exact answers_iff.mpr ⟨value, Read.halfword_eq_ok_iff.mpr behind, rfl⟩
  | word value => exact answers_iff.mpr ⟨value, Read.word_eq_ok_iff.mpr behind, rfl⟩
  | signedWord value => exact answers_iff.mpr ⟨value, Read.signedWord_eq_ok_iff.mpr behind, rfl⟩
  | count number enough =>
      have reads := Read.count_eq_ok_iff.mpr ⟨number, rfl, left ▸ enough, behind⟩
      exact answers_iff.mpr ⟨_, reads, rfl⟩
  | tag length =>
      exact answers_iff.mpr ⟨taken, Read.bytes_eq_ok_iff.mpr ⟨behind, length⟩, rfl⟩
  | name length decodes =>
      have reads := Name.read_eq_ok_iff.mpr ⟨taken, behind, length, decodes⟩
      exact answers_iff.mpr ⟨_, reads, rfl⟩
  | lengthPrefixed length counted =>
      have reads := Read.lengthPrefixed_eq_ok_iff.mpr ⟨length, counted, behind⟩
      exact answers_iff.mpr ⟨_, reads, rfl⟩
  | bytes => exact answers_iff.mpr ⟨taken, Read.bytes_eq_ok_iff.mpr ⟨behind, rfl⟩, rfl⟩
  | skip =>
      have reads := Read.bytes_eq_ok_iff.mpr ⟨behind, rfl⟩
      exact answers_iff.mpr ⟨(), answers_iff.mpr ⟨taken, reads, rfl⟩, rfl⟩
  | remainder => exact answers_iff.mpr ⟨taken, Read.remainder_eq_ok_iff.mpr ⟨behind, left⟩, rfl⟩
  | peek =>
      have same : reader = after := by
        obtain ⟨_, _, _⟩ := reader
        obtain ⟨rest, position, base⟩ := behind
        cases rest
        cases position
        cases base
        rfl
      rw [← left, ← same]
      rfl

/-- An operation that fails leaves the reader where it was, but for a name that is no text. -/
theorem stays_of_perform {error : FormatError}
    (fails : operation.perform reader = .error error after) :
    (operation = .name ∧ error = .badName ∧ after = reader.advance Name.width ∧
        Name.width ≤ reader.rest.length ∧ Name.decode? (reader.rest.take Name.width) = none) ∨
      (after = reader ∧ ∃ offset needed available, error = .truncated offset needed available) ∧
        (operation = .name → reader.rest.length < Name.width) := by
  have lacking {α : Type} {read : Read α} {made : α → Answer} (stays : Read.Stays read)
      (fails : (read >>= fun value => pure (made value)) reader = .error error after)
      (other : operation ≠ .name) :
      (after = reader ∧ ∃ offset needed available, error = .truncated offset needed available) ∧
        (operation = .name → reader.rest.length < Name.width) :=
    ⟨stays (fails_iff.mp fails), fun same => absurd same other⟩
  cases operation with
  | byte => exact .inr (lacking Read.stays_byte fails nofun)
  | halfword => exact .inr (lacking Read.stays_halfword fails nofun)
  | word => exact .inr (lacking Read.stays_word fails nofun)
  | signedWord =>
      have word := fails_iff.mp (fails_iff.mp fails)
      exact .inr ⟨Read.stays_word word, nofun⟩
  | count => exact .inr (lacking Read.stays_count fails nofun)
  | tag => exact .inr (lacking (Read.stays_bytes 5) fails nofun)
  | name =>
      rcases Name.read_eq_error (fails_iff.mp fails) with noText | ⟨stays, short⟩
      · exact .inl ⟨rfl, noText⟩
      · exact .inr ⟨stays, fun _ => short⟩
  | lengthPrefixed => exact .inr (lacking Read.stays_lengthPrefixed fails nofun)
  | bytes amount => exact .inr (lacking (Read.stays_bytes amount) fails nofun)
  | skip amount =>
      have bytes := fails_iff.mp (fails_iff.mp fails)
      exact .inr ⟨Read.stays_bytes amount bytes, nofun⟩
  | remainder =>
      have nothing := fails_iff.mp fails
      cases nothing
  | peek => cases fails

end Reader.Operation

/-! ## Readers in a byte string -/

namespace Reader

/-- The reader after an operation, whether or not the operation succeeded. -/
def perform (reader : Reader) (operation : Operation) : Reader :=
  match operation.perform reader with
  | .ok _ after => after
  | .error _ after => after

/-- The reader after some operations. -/
def after (reader : Reader) (operations : List Operation) : Reader := operations.foldl perform reader

/-- A reader that stands at its position in a byte string, with all that follows before it. -/
structure Stands (data : Bytes) (base : Nat) (reader : Reader) : Prop where
  inside : reader.position ≤ data.length
  rest : reader.rest = data.drop reader.position
  base : reader.base = base

theorem stands_start (data : Bytes) (base : Nat) : (start data base).Stands data base :=
  ⟨Nat.zero_le _, rfl, rfl⟩

variable {data : Bytes} {base : Nat} {reader moved : Reader} {taken : Bytes}

theorem behind_advance {amount : Nat} (room : amount ≤ reader.rest.length) :
    reader.Behind (reader.rest.take amount) (reader.advance amount) :=
  ⟨(List.take_append_drop amount reader.rest).symm, by rw [List.length_take_of_le room]; rfl, rfl⟩

theorem Stands.behind (stands : reader.Stands data base) (behind : reader.Behind taken moved) :
    moved.Stands data base := by
  have split : data.drop reader.position = taken ++ moved.rest :=
    stands.rest.symm.trans behind.rest
  have length := congrArg List.length split
  rw [List.length_drop, List.length_append] at length
  have inside := stands.inside
  refine ⟨by rw [behind.position]; omega, ?_, behind.base.trans stands.base⟩
  rw [behind.position, ← List.drop_drop, split, List.drop_left]

/-- What was taken are the bytes between the two positions. -/
theorem Stands.between (stands : reader.Stands data base) (behind : reader.Behind taken moved) :
    (data.drop reader.position).take (moved.position - reader.position) = taken := by
  rw [← stands.rest, behind.rest, behind.position, Nat.add_sub_cancel_left, List.take_left]

/-- The ways in which an operation ends, at the place of a byte string where a reader stands. -/
inductive Moves (data : Bytes) (reader : Reader) :
    Operation → EStateM.Result FormatError Reader Answer → Prop
  /-- The bytes up to the new position stand for the answer. -/
  | reads {operation : Operation} {answer : Answer} {after : Reader}
      (forward : reader.position ≤ after.position) (inside : after.position ≤ data.length)
      (gives : operation.Gives ((data.drop reader.position).take (after.position - reader.position))
        (data.drop after.position) answer) : Moves data reader operation (.ok answer after)
  /-- No bytes from the position on stand for an answer, and the position stays. -/
  | stays {operation : Operation} {offset needed available : Nat}
      (nothing : ∀ taken behind answer, data.drop reader.position = taken ++ behind →
        ¬operation.Gives taken behind answer)
      (short : operation = .name → data.length < reader.position + Name.width) :
      Moves data reader operation (.error (.truncated offset needed available) reader)
  /-- The field of a name is there, but it holds no text. -/
  | passes (room : reader.position + Name.width ≤ data.length)
      (noText : Name.decode? ((data.drop reader.position).take Name.width) = none) :
      Moves data reader .name (.error .badName (reader.advance Name.width))

theorem Stands.moves (stands : reader.Stands data base) (operation : Operation) :
    Moves data reader operation (operation.perform reader) := by
  have length : reader.rest.length = data.length - reader.position := by
    rw [stands.rest, List.length_drop]
  have inside := stands.inside
  cases outcome : operation.perform reader with
  | ok answer after =>
      obtain ⟨taken, behind, gives⟩ := Operation.gives_of_perform outcome
      have moved := stands.behind behind
      refine .reads (by rw [behind.position]; exact Nat.le_add_right _ _) moved.inside ?_
      rwa [stands.between behind, ← moved.rest]
  | error error after =>
      rcases Operation.stays_of_perform outcome with
        ⟨rfl, rfl, rfl, room, noText⟩ | ⟨⟨rfl, offset, needed, available, rfl⟩, short⟩
      · exact .passes (by omega) (stands.rest ▸ noText)
      · refine .stays (fun taken behind answer split gives => ?_) fun name => ?_
        · have place : after.Behind taken ⟨behind, after.position + taken.length, after.base⟩ :=
            ⟨stands.rest.trans split, rfl, rfl⟩
          rw [Operation.perform_of_gives place gives] at outcome
          cases outcome
        · have few := short name
          omega

/-- Whatever is asked of a reader, it stays in its byte string and never goes back. -/
theorem Stands.perform (stands : reader.Stands data base) (operation : Operation) :
    (reader.perform operation).Stands data base ∧
      reader.position ≤ (reader.perform operation).position := by
  have further {taken : Bytes} {moved : Reader} (behind : reader.Behind taken moved) :
      moved.Stands data base ∧ reader.position ≤ moved.position :=
    ⟨stands.behind behind, by rw [behind.position]; exact Nat.le_add_right _ _⟩
  unfold Reader.perform
  cases outcome : operation.perform reader with
  | ok answer moved =>
      obtain ⟨taken, behind, _⟩ := Operation.gives_of_perform outcome
      exact further behind
  | error error moved =>
      rcases Operation.stays_of_perform outcome with ⟨_, _, rfl, room, _⟩ | ⟨⟨rfl, _⟩, _⟩
      · exact further (behind_advance room)
      · exact ⟨stands, Nat.le_refl _⟩

theorem Stands.after (stands : reader.Stands data base) (operations : List Operation) :
    (reader.after operations).Stands data base := by
  induction operations generalizing reader with
  | nil => exact stands
  | cons operation others ih => exact ih (stands.perform operation).1

/-! ## Places in 64 bits -/

theorem slice?_eq_some {data : Bytes} {first last : UInt64} (ordered : first.toNat ≤ last.toNat)
    (inside : last.toNat ≤ data.length) :
    slice? data first last = some ((data.drop first.toNat).take (last.toNat - first.toNat)) := by
  have before : first ≤ last := UInt64.le_iff_toNat_le.mpr ordered
  rw [slice?, if_pos ⟨before, inside⟩, UInt64.toNat_sub_of_le _ _ before]

/-- No sum of a place and a size is lost: what does not fit into 64 bits is past the end anyway. -/
theorem Stands.slice_eq_bytes (stands : reader.Stands data base)
    (small : data.length < UInt64.size) (size : UInt64) :
    Read.slice data size reader = Read.bytes size.toNat reader := by
  have inside := stands.inside
  have first : (UInt64.ofNat reader.position).toNat = reader.position :=
    UInt64.toNat_ofNat_of_lt' (Nat.lt_of_le_of_lt inside small)
  have length : reader.rest.length = data.length - reader.position := by
    rw [stands.rest, List.length_drop]
  by_cases enough : reader.position + size.toNat ≤ data.length
  · have last : (UInt64.ofNat (reader.position + size.toNat)).toNat =
        reader.position + size.toNat := UInt64.toNat_ofNat_of_lt' (by omega)
    have sums : Checked.sum? (.ofNat reader.position) size =
        some (.ofNat (reader.position + size.toNat)) := by
      rw [Checked.sum?_eq_some_iff, last, first]
    have taken : slice? data (.ofNat reader.position) (.ofNat (reader.position + size.toNat)) =
        some (reader.rest.take size.toNat) := by
      rw [slice?_eq_some (by omega) (by omega), first, last, Nat.add_sub_cancel_left, stands.rest]
    have room : (reader.rest.take size.toNat).length = size.toNat :=
      List.length_take_of_le (by omega)
    have left : data.drop (reader.position + size.toNat) = reader.rest.drop size.toNat := by
      rw [stands.rest, List.drop_drop]
    simp only [Read.slice, Read.bytes, sums, taken, last, room, left, Option.bind_some,
      Option.map_some, if_true, Reader.advance]
  · have nothing : ((Checked.sum? (.ofNat reader.position) size).bind fun last =>
        (slice? data (.ofNat reader.position) last).map (·, last)) = none := by
      refine Option.bind_eq_none_iff.mpr fun last sums => ?_
      rw [Checked.sum?_eq_some_iff, first] at sums
      rw [slice?, if_neg (by omega), Option.map_none]
    have short : (reader.rest.take size.toNat).length ≠ size.toNat := by
      rw [List.length_take]
      omega
    simp only [Read.slice, Read.bytes, nothing, if_neg short]

/--
Whatever was asked of a reader before, it stands in its byte string, and one more operation takes it
no further than the end and never back. The bytes that it passes stand for the answer; if it gives
none it stays where it is, and no bytes there stand for an answer, unless it passes the field of a
name that is no text. Sums of places and sizes that do not fit into 64 bits change nothing in this.
-/
theorem reads_atomic (data : Bytes) (base : Nat) (operations : List Operation) :
    let reader := (start data base).after operations
    reader.position ≤ data.length ∧
      (∀ operation, reader.position ≤ (reader.perform operation).position ∧
        Moves data reader operation (operation.perform reader)) ∧
      (data.length < UInt64.size → ∀ size : UInt64,
        Read.slice data size reader = Read.bytes size.toNat reader) := by
  intro reader
  have stands : reader.Stands data base := (stands_start data base).after operations
  exact ⟨stands.inside, fun operation => ⟨(stands.perform operation).2, stands.moves operation⟩,
    stands.slice_eq_bytes⟩

/-- A count of too many records is given back, and a field of stray bytes is passed over. -/
theorem stray_field_passed :
    let data : Bytes := [0xFF, 0xFF, 0xFF, 0x7F] ++ List.replicate 64 0xC3 ++ [1]
    let reader := (start data 7).after [.count, .word]
    reader = ⟨List.replicate 64 0xC3 ++ [1], 4, 7⟩ ∧
      Operation.count.perform (start data 7) =
        .error (.truncated 7 2147483647 69) (start data 7) ∧
      Operation.name.perform reader = .error .badName (reader.advance 64) ∧
      Moves data reader .name (.error .badName (reader.advance 64)) ∧
      Read.slice data 0xFFFFFFFFFFFFFFFF reader = Read.bytes 0xFFFFFFFFFFFFFFFF reader := by
  intro data reader
  have standing : reader = ⟨List.replicate 64 0xC3 ++ [1], 4, 7⟩ := by decide +kernel
  have refused : Operation.name.perform reader = .error .badName (reader.advance 64) := by
    have stray : Name.decode? (List.replicate 64 0xC3) = none := by decide +kernel
    have taken : Read.bytes 64 reader = .ok (List.replicate 64 0xC3) (reader.advance 64) := by
      rw [standing]
      rfl
    refine Read.fails_iff.mpr ?_
    simp only [Name.read, Name.readField, Name.width, Bind.bind, EStateM.bind, taken, stray]
    rfl
  obtain ⟨_, moves, words⟩ := reads_atomic data 7 [.count, .word]
  have passed := (moves .name).2
  rw [show Operation.name.perform _ = _ from refused] at passed
  exact ⟨standing, rfl, refused, passed, words (by decide +kernel) 0xFFFFFFFFFFFFFFFF⟩

end Reader

end AmpControl.Tuning
