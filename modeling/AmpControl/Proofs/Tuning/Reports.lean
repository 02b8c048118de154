import AmpControl.Proofs.Tuning.Slots

/-!
# What a failed read reports

A read stands at a place of the payload, and reads a part of it that ends somewhere. When it fails,
what it reports can be checked against the bytes: the place is the one where it failed, and what is
said of this place is so. Reads that are put one after the other keep this.
-/

namespace AmpControl.Tuning

/-! ## Places -/

/-- Offsets that are held alike stay alike. -/
theorem clampOffset_add_congr {offset other : Nat} (alike : clampOffset offset = clampOffset other)
    (more : Nat) : clampOffset (offset + more) = clampOffset (other + more) := by
  simp only [clampOffset] at alike ⊢
  omega

/-- A reader that stands at a place of a byte string, in a part of it that ends at `stop`. -/
structure Reader.Within (bytes : Bytes) (place stop : Nat) (reader : Reader) : Prop where
  lies : ∃ front back, bytes = front ++ (reader.rest ++ back) ∧ front.length = place
  offset : reader.offset = clampOffset place
  stop : place + reader.remaining = stop

/-- Errors that report no place. -/
def FormatError.Placeless : FormatError → Prop
  | truncated .. | unknownTag .. | unknownOpcode .. => False
  | invalidRecord .misplacedSection _ | invalidRecord .duplicateSection _ => False
  | _ => True

/-- An error that arose at `start` or behind it, in a part of the bytes that ends at `stop`. -/
inductive FormatError.Founded (bytes : Bytes) (start stop : Nat) : FormatError → Prop
  /-- Fewer bytes are left in the part than are needed. -/
  | missing {place needed available : Nat} (behind : start ≤ place)
      (left : place + available = stop) (short : available < needed) :
      Founded bytes start stop (.truncated (clampOffset place) needed available)
  /-- A word counts more records than bytes are left behind it. -/
  | miscounted {place available : Nat} {number : UInt32} (behind : start ≤ place)
      (left : place + available = stop)
      (counts : (bytes.drop place).take 4 = LittleEndian.word number) (some_left : 4 ≤ available)
      (short : available < 4 + number.toNat) :
      Founded bytes start stop (.truncated (clampOffset place) number.toNat available)
  | unknownTag {place : Nat} {tag : Bytes} (lies : (bytes.drop place).take 5 = tag)
      (whole : tag.length = 5) (unknown : Kind.ofTag? tag = none) :
      Founded bytes start stop (.unknownTag tag (clampOffset place))
  | unknownOpcode {place : Nat} {opcode : UInt8} (lies : bytes[place]? = some opcode)
      (unknown : opcode ∉ [1, 2, 3, 4]) :
      Founded bytes start stop (.unknownOpcode opcode (clampOffset place))
  | placeless {error : FormatError} (placeless : error.Placeless) : Founded bytes start stop error

theorem FormatError.Founded.earlier {bytes : Bytes} {start later stop : Nat} {error : FormatError}
    (founded : Founded bytes later stop error) (before : start ≤ later) :
    Founded bytes start stop error := by
  cases founded with
  | missing behind left short => exact .missing (Nat.le_trans before behind) left short
  | miscounted behind left counts some_left short =>
      exact .miscounted (Nat.le_trans before behind) left counts some_left short
  | unknownTag lies whole unknown => exact .unknownTag lies whole unknown
  | unknownOpcode lies unknown => exact .unknownOpcode lies unknown
  | placeless placeless => exact .placeless placeless

namespace Reader.Within

variable {bytes : Bytes} {place stop : Nat} {reader : Reader}

theorem drop (within : reader.Within bytes place stop) :
    ∃ back, bytes.drop place = reader.rest ++ back := by
  obtain ⟨front, back, rfl, rfl⟩ := within.lies
  exact ⟨back, List.drop_left⟩

/-- The bytes of the reader are those of the byte string. -/
theorem take {amount : Nat} (within : reader.Within bytes place stop)
    (enough : amount ≤ reader.rest.length) :
    (bytes.drop place).take amount = reader.rest.take amount := by
  obtain ⟨back, split⟩ := within.drop
  rw [split, List.take_append_of_le_length enough]

theorem getElem? {first : UInt8} {rest : Bytes} (within : reader.Within bytes place stop)
    (split : reader.rest = first :: rest) : bytes[place]? = some first := by
  obtain ⟨back, lies⟩ := within.drop
  rw [← List.head?_drop, lies, split]
  rfl

/-- A reader that moved on stands as much further on. -/
theorem advance {after : Reader} {taken : Bytes} (within : reader.Within bytes place stop)
    (rest : reader.rest = taken ++ after.rest)
    (position : after.position = reader.position + taken.length) (base : after.base = reader.base) :
    after.Within bytes (place + taken.length) stop where
  lies := by
    obtain ⟨front, back, rfl, rfl⟩ := within.lies
    exact ⟨front ++ taken, back, by rw [rest]; simp, List.length_append⟩
  offset := by
    rw [Reader.offset, position, base, ← Nat.add_assoc]
    exact clampOffset_add_congr within.offset _
  stop := by
    have ends := within.stop
    rw [Reader.remaining, rest, List.length_append] at ends
    rw [Reader.remaining, Nat.add_assoc, ends]

end Reader.Within

namespace Read

open FormatError (Founded)

variable {α β : Type} {read : Read α} {next : α → Read β} {whole : Bytes} {place stop : Nat}
  {reader : Reader}

/-- What a read makes of a reader at a place: it moves on in its part, or its report is founded. -/
structure ReportsAt (whole : Bytes) (place stop : Nat) (read : Read α) (reader : Reader) :
    Prop where
  moves : ∀ value after, read reader = .ok value after →
    ∃ reached, place ≤ reached ∧ after.Within whole reached stop
  fails : ∀ error after, read reader = .error error after → Founded whole place stop error

/-- A read whose reports are founded wherever it stands. -/
def Reports (read : Read α) : Prop :=
  ∀ ⦃whole : Bytes⦄ ⦃place stop : Nat⦄ ⦃reader : Reader⦄, reader.Within whole place stop →
    ReportsAt whole place stop read reader

/-- The second of two steps may make use of what the first one read. -/
theorem ReportsAt.bind (first : ReportsAt whole place stop read reader)
    (second : ∀ value middle reached, read reader = .ok value middle →
      middle.Within whole reached stop → ReportsAt whole reached stop (next value) middle) :
    ReportsAt whole place stop (read >>= next) reader where
  moves := by
    intro result after succeeds
    obtain ⟨value, middle, begins, ends⟩ := bind_eq_ok succeeds
    obtain ⟨reached, further, within⟩ := first.moves value middle begins
    obtain ⟨last, onward, lies⟩ := (second value middle reached begins within).moves _ _ ends
    exact ⟨last, Nat.le_trans further onward, lies⟩
  fails := by
    intro error after failed
    simp only [Bind.bind, EStateM.bind] at failed
    cases begins : read reader with
    | error other middle =>
        rw [begins] at failed
        cases failed
        exact first.fails _ _ begins
    | ok value middle =>
        rw [begins] at failed
        obtain ⟨reached, further, within⟩ := first.moves value middle begins
        exact ((second value middle reached begins within).fails _ _ failed).earlier further

/-- Asking for the offset reports nothing. -/
theorem ReportsAt.after_offset {next : Nat → Read β}
    (reports : ReportsAt whole place stop (next reader.offset) reader) :
    ReportsAt whole place stop (offset >>= next) reader :=
  ⟨reports.moves, reports.fails⟩

namespace Reports

theorem bind (first : Reports read) (second : ∀ value, Reports (next value)) :
    Reports (read >>= next) :=
  fun _ _ _ _ within => (first within).bind fun value _ _ _ => @second value _ _ _ _

theorem pure (value : α) : Reports (Pure.pure value) := by
  refine fun whole place stop reader within => ⟨?_, nofun⟩
  rintro _ _ ⟨⟩
  exact ⟨place, Nat.le_refl place, within⟩

theorem failed {error : FormatError} (placeless : error.Placeless) :
    Reports (throw error : Read α) := by
  refine fun whole place stop reader within => ⟨nofun, ?_⟩
  rintro _ _ ⟨⟩
  exact .placeless placeless

theorem refused {error : FormatError} (placeless : error.Placeless) :
    Reports (throw error >>= next) := by
  refine fun whole place stop reader within => ⟨nofun, ?_⟩
  rintro _ _ ⟨⟩
  exact .placeless placeless

/-- A read that takes a row moves on by it, and may fail for lack of bytes. -/
theorem of_restores {alike : Bytes → Bytes → Prop} {encode : α → Bytes}
    (restores : Restores alike read encode)
    (fails : ∀ ⦃reader after : Reader⦄ ⦃error : FormatError⦄, read reader = .error error after →
      ∃ needed, error = reader.truncated needed ∧ reader.remaining < needed) : Reports read := by
  intro whole place stop reader within
  refine ⟨fun value after succeeds => ?_, fun error after failed => ?_⟩
  · obtain ⟨taken, took⟩ := restores.took succeeds
    exact ⟨_, Nat.le_add_right place taken.length,
      within.advance took.rest took.position took.base⟩
  · obtain ⟨needed, rfl, short⟩ := fails failed
    rw [Reader.truncated, within.offset]
    exact .missing (Nat.le_refl place) within.stop short

end Reports

/-! ## Bytes, integers and rows -/

theorem reports_bytes (amount : Nat) : Reports (bytes amount) := by
  refine .of_restores (restores_bytes likeness_eq amount) fun reader after error failed => ?_
  simp only [bytes] at failed
  split at failed
  · cases failed
  · rename_i less
    cases failed
    rw [List.length_take] at less
    exact ⟨amount, rfl, by rw [Reader.remaining]; omega⟩

theorem reports_byte : Reports byte := by
  refine .of_restores (restores_byte likeness_eq) fun reader after error failed => ?_
  unfold byte at failed
  split at failed
  · cases failed
  · rename_i none_left
    cases failed
    exact ⟨1, rfl, by simp [Reader.remaining, none_left]⟩

theorem reports_halfword : Reports halfword := by
  refine .of_restores (restores_halfword likeness_eq) fun reader after error failed => ?_
  unfold halfword at failed
  split at failed
  · cases failed
  · rename_i few
    cases failed
    refine ⟨2, rfl, ?_⟩
    rw [Reader.remaining]
    rcases split : reader.rest with _ | ⟨low, _ | ⟨high, rest⟩⟩
    · simp
    · simp
    · exact (few low high rest split).elim

theorem word_eq_error {after : Reader} {error : FormatError}
    (failed : word reader = .error error after) :
    error = reader.truncated 4 ∧ reader.remaining < 4 := by
  unfold word at failed
  split at failed
  · cases failed
  · rename_i few
    cases failed
    refine ⟨rfl, ?_⟩
    rw [Reader.remaining]
    rcases split : reader.rest with
      _ | ⟨first, _ | ⟨second, _ | ⟨third, _ | ⟨fourth, rest⟩⟩⟩⟩
    · simp
    · simp
    · simp
    · simp
    · exact (few first second third fourth rest split).elim

theorem reports_word : Reports word :=
  .of_restores (restores_word likeness_eq) fun _ _ _ failed => ⟨4, word_eq_error failed⟩

theorem reports_signedWord : Reports signedWord := reports_word.bind fun _ => .pure _

/-- A number of records that is too large is reported where it stands. -/
theorem reports_count : Reports count := by
  intro whole place stop reader within
  have word := reports_word within
  refine ⟨fun amount after succeeds => ?_, fun error after failed => ?_⟩
  · obtain ⟨number, isWord, _⟩ := word_of_count succeeds
    exact word.moves number after isWord
  · unfold count at failed
    split at failed
    · rename_i number behind isWord
      split at failed
      · cases failed
      · rename_i more
        cases failed
        have split := (restores_word likeness_eq).rest_eq isWord
        have length : reader.remaining = 4 + behind.remaining := by
          rw [Reader.remaining, split, List.length_append, LittleEndian.length_word]
          rfl
        rw [Reader.truncated, within.offset]
        have some_left : 4 ≤ reader.remaining := length ▸ Nat.le_add_right 4 _
        refine .miscounted (Nat.le_refl place) within.stop ?_ some_left ?_
        · rw [within.take some_left, split]
          rfl
        · omega
    · rename_i other middle isError
      cases failed
      exact word.fails _ _ isError

theorem reports_lengthPrefixed : Reports lengthPrefixed := by
  intro whole place stop reader within
  have word := reports_word within
  refine ⟨fun body after succeeds => ?_, fun error after failed => ?_⟩
  · obtain ⟨taken, took⟩ := (restores_lengthPrefixed likeness_eq).took succeeds
    exact ⟨_, Nat.le_add_right place taken.length,
      within.advance took.rest took.position took.base⟩
  · unfold lengthPrefixed at failed
    split at failed
    · rename_i length behind isWord
      split at failed
      · cases failed
      · rename_i other middle isError
        cases failed
        obtain ⟨reached, further, lies⟩ := word.moves length behind isWord
        exact ((reports_bytes length.toNat lies).fails _ _ isError).earlier further
    · rename_i other middle isError
      cases failed
      exact word.fails _ _ isError

theorem reports_records {record : Read α} (reports : Reports record) (amount : Nat) :
    Reports (records record amount) := by
  induction amount with
  | zero => exact .pure []
  | succ amount ih => exact reports.bind fun _ => ih.bind fun _ => .pure _

theorem reports_counted {record : Read α} (reports : Reports record) :
    Reports (counted record) := reports_count.bind fun amount => reports_records reports amount

theorem reports_upTo {record : Read α} (reports : Reports record) (bound : Nat) :
    Reports (upTo record bound) := by
  induction bound with
  | zero => exact .pure []
  | succ bound ih =>
      have several : Reports (record >>= fun first =>
          upTo record bound >>= fun others => Pure.pure (first :: others)) :=
        reports.bind fun _ => ih.bind fun _ => .pure _
      intro whole place stop reader within
      by_cases none_left : reader.rest.isEmpty
      · refine ⟨fun value after succeeds => ?_, fun error after failed => ?_⟩
        · simp only [upTo, if_pos none_left] at succeeds
          cases succeeds
          exact ⟨place, Nat.le_refl place, within⟩
        · simp only [upTo, if_pos none_left] at failed
          cases failed
      · refine ⟨fun value after succeeds => ?_, fun error after failed => ?_⟩
        · simp only [upTo, if_neg none_left] at succeeds
          exact (several within).moves value after succeeds
        · simp only [upTo, if_neg none_left] at failed
          exact (several within).fails error after failed

theorem reports_remainder : Reports remainder := by
  intro whole place stop reader within
  refine ⟨?_, nofun⟩
  rintro _ _ ⟨⟩
  refine ⟨_, Nat.le_add_right place reader.rest.length, within.advance ?_ rfl rfl⟩
  simp [Reader.advance]

end Read

/-! ## Names and scripts -/

open Read (Reports ReportsAt)

theorem Name.reports_readField (size : Nat) : Reports (readField size) := by
  refine (Read.reports_bytes size).bind fun raw => ?_
  cases decode? raw with
  | some name => exact .pure name
  | none => exact .failed trivial

namespace Command

theorem reports_readAddress : Reports readAddress := by
  refine Read.reports_byte.bind fun book => Read.reports_byte.bind fun page => ?_
  refine Read.reports_byte.bind fun offset => ?_
  by_cases high : 0x80 ≤ offset
  · rw [if_pos high]
    exact .refused trivial
  · rw [if_neg high]
    exact .pure _

/-- An opcode that is not known is reported where it lies. -/
theorem reports_read : Reports read := by
  intro whole place stop reader within
  refine .after_offset (.bind (Read.reports_byte within)
    fun opcode middle reached begins lies => ?_)
  split
  · exact (reports_readAddress.bind fun _ => Read.reports_byte.bind fun _ => .pure _) lies
  · refine (reports_readAddress.bind fun _ => Read.reports_halfword.bind fun length => ?_) lies
    exact (Read.reports_bytes length.toNat).bind fun _ => .pure _
  · refine (reports_readAddress.bind fun _ => Read.reports_byte.bind fun _ => ?_) lies
    exact Read.reports_byte.bind fun _ => .pure _
  · exact (Read.reports_halfword.bind fun _ => .pure _) lies
  · rename_i notWrite notBurst notUpdate notPause
    refine ⟨nofun, ?_⟩
    rintro _ _ ⟨⟩
    rw [within.offset]
    have split := (Read.restores_byte Read.likeness_eq).rest_eq begins
    refine .unknownOpcode (within.getElem? split) ?_
    simp only [List.mem_cons, List.not_mem_nil, or_false, not_or]
    exact ⟨notWrite, notBurst, notUpdate, notPause⟩

end Command

namespace Script

/-- A body is refused for what one of its commands reports, if it does not run past the body. -/
theorem decode_eq_error {body : Bytes} {base : Nat} {error : FormatError}
    (refused : decode body base = .error error) :
    error = .scriptOverrun body.length ∨ (∀ offset needed available,
      error ≠ .truncated offset needed available) ∧
        ∃ after, Read.toEnd Command.read (Reader.start body base) = .error error after := by
  unfold decode at refused
  split at refused
  · cases refused
  · cases refused
    exact .inl rfl
  · rename_i other after plain fails
    cases refused
    exact .inr ⟨plain, after, fails⟩

/-- A reader over the body of a script stands behind the length of the body. -/
theorem within_body {whole : Bytes} {place stop : Nat} {reader after : Reader} {body : Bytes}
    (within : reader.Within whole place stop)
    (framed : Read.lengthPrefixed reader = .ok body after) :
    (Reader.start body (clampOffset (reader.offset + 4))).Within whole (place + 4)
      (place + 4 + body.length) where
  lies := by
    obtain ⟨front, back, rfl, rfl⟩ := within.lies
    refine ⟨front ++ LittleEndian.count body.length, after.rest ++ back, ?_, List.length_append⟩
    rw [(Read.restores_lengthPrefixed Read.likeness_eq).rest_eq framed, Reader.start]
    simp only [List.append_assoc]
  offset := by
    rw [within.offset, Reader.offset, Reader.start]
    simp only [clampOffset]
    omega
  stop := rfl

/-- Only the overrun of a script says nothing of a place; its commands are reported where they
lie. -/
theorem reports_read : Reports read := by
  intro whole place stop reader within
  refine .after_offset (.bind (Read.reports_lengthPrefixed within)
    fun body middle reached framed lies => ?_)
  cases decoded : decode body (clampOffset (reader.offset + 4)) with
  | ok commands => exact Read.Reports.pure commands lies
  | error error =>
      refine ⟨nofun, ?_⟩
      rintro _ _ ⟨⟩
      rcases decode_eq_error decoded with rfl | ⟨inside, after, fails⟩
      · exact .placeless trivial
      · have commands := Read.reports_upTo Command.reports_read body.length
        cases (commands (within_body within framed)).fails error after fails with
        | missing | miscounted => exact absurd rfl (inside _ _ _)
        | unknownTag lies whole unknown => exact .unknownTag lies whole unknown
        | unknownOpcode lies unknown => exact .unknownOpcode lies unknown
        | placeless placeless => exact .placeless placeless

end Script

/-! ## Tables -/

theorem PowerScripts.reports_read : Reports read := by
  have script := Script.reports_read
  refine script.bind fun softReset => script.bind fun powerUp => script.bind fun powerDown => ?_
  exact script.bind fun mute => script.bind fun check => .pure _

theorem Profile.reports_read : Reports read := by
  have script := Script.reports_read
  refine (Name.reports_readField _).bind fun name => Read.reports_word.bind fun capabilities => ?_
  refine script.bind fun beforePowerUp => script.bind fun afterPowerUp => ?_
  exact script.bind fun beforePowerDown => script.bind fun afterPowerDown => .pure _

theorem Source.reports_read : Reports read := by
  have word := Read.reports_word
  refine (Name.reports_readField _).bind fun name => word.bind fun status => ?_
  refine word.bind fun mask => word.bind fun actions => ?_
  exact Read.reports_byte.bind fun clockBased => .pure _

theorem InterruptTable.reports_read : Reports read := by
  have script := Script.reports_read
  refine (Read.reports_counted Source.reports_read).bind fun sources => ?_
  refine script.bind fun unmask => script.bind fun mask => script.bind fun clear => ?_
  refine Read.reports_word.bind fun settleTime => ?_
  exact (Read.reports_counted Read.reports_word).bind fun dump => .pure _

theorem VariantTable.reports_read : Reports read := by
  have variant : Reports readVariant :=
    Read.reports_word.bind fun value => Script.reports_read.bind fun script => .pure _
  exact Read.reports_word.bind fun fallback =>
    (Read.reports_counted variant).bind fun variants => .pure _

theorem SlotKey.reports_read : Reports read := by
  refine (Name.reports_readField slotKeyWidth).bind fun text => ?_
  cases ofText? text with
  | some key => exact .pure key
  | none => exact .failed trivial

theorem SlotConfig.reports_read : Reports read :=
  SlotKey.reports_read.bind fun _ => Script.reports_read.bind fun _ => .pure _

theorem AudioInterface.reports_read : Reports read := by
  have table := VariantTable.reports_read
  refine table.bind fun sampleRate => table.bind fun formatInversion => ?_
  refine table.bind fun formatMask => table.bind fun receiveSlots => ?_
  refine table.bind fun transmitSlots => table.bind fun receiveBitWidth => ?_
  refine table.bind fun receiveSlotLength => table.bind fun transmitSlotLength => ?_
  exact (Read.reports_counted SlotConfig.reports_read).bind fun slots => .pure _

/-! ## Controls -/

theorem Timing.reports_read : Reports read := by
  refine Read.reports_byte.bind fun code => ?_
  split
  · exact .pure _
  · exact .pure _
  · exact .pure _
  · exact .failed trivial

theorem WriteMode.reports_read : Reports read := by
  refine Read.reports_byte.bind fun code => ?_
  split
  · exact .pure _
  · exact .pure _
  · exact .pure _
  · exact .failed trivial

namespace Element

theorem reports_read : Reports read := by
  refine Read.reports_byte.bind fun code => ?_
  split
  · exact .pure _
  · exact .pure _
  · exact .failed trivial

theorem reports_readCandidate (element : Element) : Reports element.readCandidate := by
  cases element with
  | byte => exact Read.reports_byte.bind fun stored => .pure _
  | word => exact Read.reports_word

end Element

theorem IntegerControl.reports_read : Reports read := by
  have word := Read.reports_word
  have signed := Read.reports_signedWord
  refine word.bind fun register => WriteMode.reports_read.bind fun mode => word.bind fun mask => ?_
  refine signed.bind fun lowest => signed.bind fun highest => signed.bind fun step => ?_
  refine signed.bind fun initial => ?_
  by_cases falls : step ≤ 0
  · rw [if_pos falls]
    exact .refused trivial
  rw [if_neg falls]
  by_cases empty : highest < lowest
  · rw [if_pos empty]
    exact .refused trivial
  rw [if_neg empty]
  refine Element.reports_read.bind fun element => ?_
  exact (Read.reports_counted element.reports_readCandidate).bind fun candidates => .pure _

theorem ChoiceControl.reports_read : Reports read := by
  have item : Reports readItem :=
    (Name.reports_readField _).bind fun label => Script.reports_read.bind fun script => .pure _
  exact Read.reports_word.bind fun initial =>
    (Read.reports_counted item).bind fun items => .pure _

theorem Control.reports_read : Reports read := by
  refine Read.reports_byte.bind fun kind => (Name.reports_readField _).bind fun name => ?_
  refine Read.reports_byte.bind fun channel => Timing.reports_read.bind fun timing => ?_
  split
  · exact IntegerControl.reports_read.bind fun body => .pure _
  · exact ChoiceControl.reports_read.bind fun body => .pure _
  · exact .failed trivial

theorem AlgorithmParameter.reports_read : Reports read :=
  Read.reports_word.bind fun _ => Read.reports_word.bind fun _ => .pure _

/-! ## Headers and sections -/

theorem Header.reports_read : Reports read := by
  have word := Read.reports_word
  have byte := Read.reports_byte
  have identity : Reports ChannelIdentity.read :=
    word.bind fun deviceId => word.bind fun busAddress => .pure _
  refine word.bind fun version => ?_
  by_cases later : supportedVersion < version
  · rw [if_pos later]
    exact .refused trivial
  rw [if_neg later]
  refine (Name.reports_readField _).bind fun name => word.bind fun timestamp => ?_
  refine word.bind fun count => ?_
  by_cases bad : count = 0 ∨ maxChannels < count.toNat
  · rw [if_pos bad]
    exact .refused trivial
  rw [if_neg bad]
  refine (Read.reports_records identity _).bind fun channels => byte.bind fun senseWidth => ?_
  refine byte.bind fun voltageSense => word.bind fun features => ?_
  exact Read.reports_remainder.bind fun _ => .pure _

/-- Whatever a section holds, what is reported of it is founded. -/
theorem Kind.reports_read (kind : Kind) : Reports kind.read := by
  cases kind with
  | header => exact Header.reports_read
  | initialisation => exact Script.reports_read
  | audioInterface => exact AudioInterface.reports_read
  | profiles => exact Read.reports_counted Profile.reports_read
  | interrupts => exact InterruptTable.reports_read
  | power => exact PowerScripts.reports_read
  | controls => exact Read.reports_counted Control.reports_read
  | algorithm => exact Read.reports_counted AlgorithmParameter.reports_read

/-- A tag that is not known is reported where it lies. -/
theorem Section.reports_read (groups : Nat) : Reports (read groups) := by
  intro whole place stop reader within
  refine .after_offset (.bind (Read.reports_bytes 5 within)
    fun tag middle reached tagged lies => ?_)
  cases known : Kind.ofTag? tag with
  | some kind => exact (Read.reports_lengthPrefixed.bind fun payload => .pure _) lies
  | none =>
      refine ⟨nofun, ?_⟩
      rintro _ _ ⟨⟩
      obtain ⟨length, taken⟩ := Read.length_of_bytes tagged
      rw [within.offset]
      refine .unknownTag ?_ length known
      rw [within.take, taken]
      rw [taken, List.length_take] at length
      omega

end AmpControl.Tuning
