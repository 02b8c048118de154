import AmpControl.Proofs.Tuning.Globals
import AmpControl.Proofs.Tuning.Restoring
import AmpControl.Proofs.Tuning.Tables

/-!
# Tables are written back

Every table that was read, out of whatever bytes, is written as a row of the same length that is
read as the same table. A script is even written as the bytes that it was read from. So a payload
can be taken apart and put together again without moving a section.
-/

namespace AmpControl.Tuning

open Read (Completes Likeness Restores SameLength Takes likeness_eq likeness_sameLength)

variable {alike : Bytes → Bytes → Prop}

/-! ## Names -/

namespace Name

variable {raw : Bytes} {text : String}

theorem utf8_of_decode? (decoded : decode? raw = some text) :
    utf8 text = raw.takeWhile (· != 0) := by
  simp only [decode?, String.fromUTF8?] at decoded
  split at decoded
  · cases decoded
    rfl
  · cases decoded

/-- The text that is read from a field fits the field again. -/
theorem fits_of_decode? (decoded : decode? raw = some text) : Fits raw.length text where
  plain zero := by
    have member : (0 : UInt8) ∈ utf8 text := by
      rw [utf8_eq_flatMap]
      exact List.mem_flatMap.mpr ⟨_, zero, by decide⟩
    rw [utf8_of_decode? decoded] at member
    exact absurd (List.mem_takeWhile_imp member) (by decide)
  short := by
    rw [← length_utf8, utf8_of_decode? decoded]
    exact (List.takeWhile_prefix _).length_le

theorem restores_readField (size : Nat) : Restores SameLength (readField size) (field size) := by
  intro reader after text succeeds
  obtain ⟨raw, middle, first, second⟩ := Read.bind_eq_ok succeeds
  have length := (Read.length_of_bytes first).1
  have split := (Read.restores_bytes likeness_eq size).rest_eq first
  cases decoded : decode? raw with
  | none => simp only [decoded] at second; cases second
  | some name =>
      simp only [decoded] at second
      cases second
      refine ⟨raw, .of_takes (takes_of_decode? length decoded) split succeeds, ?_, ?_⟩
      · rw [SameLength, length_field, length]
      · exact takes_readField (length ▸ fits_of_decode? decoded)

end Name

/-! ## Scripts -/

namespace Command

/-- The parts of an address with a seven-bit offset are the bytes that it was put together from. -/
theorem address_ofParts {book page offset : UInt8} (low : ¬0x80 ≤ offset) :
    address (Register.ofParts book page offset) = [book, page, offset] := by
  have bookBound := book.toNat_lt
  have pageBound := page.toNat_lt
  have offsetBound : offset.toNat < 128 := UInt8.lt_iff_toNat_lt.mp (UInt8.not_le.mp low)
  have seven_bits : offset.toNat &&& (127 : UInt32).toNat = offset.toNat := by
    rw [show (127 : UInt32).toNat = 2 ^ 7 - 1 from rfl, Nat.and_two_pow_sub_one_eq_mod]
    exact Nat.mod_eq_of_lt offsetBound
  have raw : (Register.ofParts book page offset).raw.toNat =
      book.toNat * 32768 + page.toNat * 128 + offset.toNat := by
    simp only [Register.ofParts, UInt32.toNat_add, UInt32.toNat_mul, UInt32.toNat_and,
      UInt8.toNat_toUInt32, seven_bits]
    simp only [show (32768 : UInt32).toNat = 32768 from rfl,
      show (128 : UInt32).toNat = 128 from rfl]
    omega
  simp only [address, Register.book, Register.page, Register.offset, raw, List.cons.injEq, and_true]
  refine ⟨?_, ?_, ?_⟩ <;>
    · apply UInt8.toNat_inj.mp
      simp only [UInt8.toNat_ofNat']
      omega

theorem restores_readAddress (like : Likeness alike) : Restores alike readAddress address := by
  refine Completes.restores (.bind like (Read.restores_byte like) fun book => ?_)
  refine .bind like (Read.restores_byte like) fun page => ?_
  refine .bind like (Read.restores_byte like) fun offset => ?_
  split
  · exact .refused
  · rename_i low
    exact .pure like (address_ofParts low)

theorem restores_read (like : Likeness alike) : Restores alike read encode := by
  refine Completes.restores (.after_offset ?_ fun start => ?_)
  · intro start other reader after value succeeds
    obtain ⟨opcode, middle, first, second⟩ := Read.bind_eq_ok succeeds
    simp only [bind, EStateM.bind, first] at second ⊢
    split at second
    · exact second
    · exact second
    · exact second
    · exact second
    · cases second
  · refine .bind like (Read.restores_byte like) fun opcode => ?_
    split
    · refine .bind like (restores_readAddress like) fun register => ?_
      exact .bind like (Read.restores_byte like) fun value => .pure like rfl
    · refine .bind like (restores_readAddress like) fun register => ?_
      refine .bind like (Read.restores_halfword like) fun length => ?_
      refine .bind_of like (Read.restores_bytes like length.toNat) fun data made => .pure like ?_
      obtain ⟨reader, after, made⟩ := made
      have length_eq := (Read.length_of_bytes made).1
      have kept : data.take 65535 = data :=
        List.take_of_length_le (length_eq ▸ Nat.le_of_lt_succ length.toNat_lt)
      simp only [encode, kept, length_eq, UInt16.ofNat_toNat]
      rfl
    · refine .bind like (restores_readAddress like) fun register => ?_
      refine .bind like (Read.restores_byte like) fun mask => ?_
      exact .bind like (Read.restores_byte like) fun value => .pure like (by simp [encode])
    · exact .bind like (Read.restores_halfword like) fun milliseconds => .pure like rfl
    · exact .failed

end Command

namespace Script

/-- A body that is decoded is what is written for its commands, so it is decoded anywhere. -/
theorem flatMap_of_decode {body : Bytes} {base : Nat} {script : Script}
    (decoded : decode body base = .ok script) :
    body = script.flatMap Command.encode ∧ ∀ other, decode body other = .ok script := by
  simp only [decode] at decoded
  split at decoded
  · rename_i commands after succeeds
    cases decoded
    obtain ⟨filled, taken⟩ := Read.records_of_upTo (Command.restores_read likeness_eq)
      Command.encode_ne_nil (Nat.le_refl _) succeeds
    refine ⟨filled, fun other => ?_⟩
    have all := Read.toEnd_of_takes taken (fun command _ => command.encode_ne_nil) other
    simp only [Reader.start] at filled all
    rw [decode, Reader.start, filled, all]
  · cases decoded
  · cases decoded

theorem restores_read (like : Likeness alike) : Restores alike read encode := by
  refine .of_exact like fun {reader after script} succeeds => ?_
  obtain ⟨start, begun, offset, succeeds⟩ := Read.bind_eq_ok succeeds
  cases offset
  obtain ⟨body, middle, framed, succeeds⟩ := Read.bind_eq_ok succeeds
  cases decoded : decode body (clampOffset (reader.offset + 4)) with
  | error error => simp only [decoded] at succeeds; cases succeeds
  | ok commands =>
      simp only [decoded] at succeeds
      cases succeeds
      obtain ⟨filled, anywhere⟩ := flatMap_of_decode decoded
      have small := Read.length_of_lengthPrefixed framed
      have split := (Read.restores_lengthPrefixed likeness_eq).rest_eq framed
      rw [encode, ← filled]
      exact ⟨takes_of_decode small anywhere, after.rest, split⟩

end Script

namespace PowerScripts

theorem restores_read (like : Likeness alike) : Restores alike read encode := by
  have script := Script.restores_read like
  refine Completes.restores (.bind like script fun softReset => .bind like script fun powerUp => ?_)
  refine .bind like script fun powerDown => .bind like script fun mute => ?_
  exact .bind like script fun check => .pure like rfl

end PowerScripts

/-! ## The tables of a channel -/

namespace Profile

theorem restores_read : Restores SameLength read encode := by
  have like := likeness_sameLength
  have script := Script.restores_read like
  refine Completes.restores (.bind like (Name.restores_readField _) fun name => ?_)
  refine .bind like (Read.restores_word like) fun capabilities => ?_
  refine .bind like script fun beforePowerUp => .bind like script fun afterPowerUp => ?_
  exact .bind like script fun beforePowerDown => .bind like script fun afterPowerDown =>
    .pure like rfl

theorem restores_readTable : Restores SameLength readTable encodeTable :=
  Read.restores_counted likeness_sameLength restores_read encode_ne_nil

end Profile

namespace Source

theorem restores_read : Restores SameLength read encode := by
  have like := likeness_sameLength
  have word := Read.restores_word like
  refine Completes.restores (.bind like (Name.restores_readField _) fun name => ?_)
  refine .bind like word fun status => .bind like word fun mask => .bind like word fun actions => ?_
  refine .flag (fun clockBased => pure (Source.mk name ⟨status⟩ mask actions clockBased))
    fun clockBased => ?_
  exact .pure like rfl

end Source

namespace InterruptTable

theorem restores_read : Restores SameLength read encode := by
  have like := likeness_sameLength
  have script := Script.restores_read like
  have sources := Read.restores_counted like Source.restores_read Source.encode_ne_nil
  have dump := Read.restores_counted like (Read.restores_word like)
    fun _ => List.cons_ne_nil _ _
  refine Completes.restores (.bind like sources fun sources => ?_)
  refine .bind like script fun unmask => .bind like script fun mask => ?_
  refine .bind like script fun clear => .bind like (Read.restores_word like) fun settleTime => ?_
  refine .bind like dump fun dump => .pure like ?_
  simp [encode, List.flatMap_map]

end InterruptTable

namespace VariantTable

theorem restores_readVariant (like : Likeness alike) :
    Restores alike readVariant encodeVariant := by
  refine Completes.restores (.bind like (Read.restores_word like) fun value => ?_)
  exact .bind like (Script.restores_read like) fun script => .pure like rfl

theorem restores_read (like : Likeness alike) : Restores alike read encode := by
  have variants := Read.restores_counted like (restores_readVariant like)
    fun _ => List.cons_ne_nil _ _
  refine Completes.restores (.bind like (Read.restores_word like) fun fallback => ?_)
  exact .bind like variants fun variants => .pure like (by simp [encode])

end VariantTable

theorem SlotKey.restores_read : Restores SameLength read encode := by
  have like := likeness_sameLength
  refine Completes.restores (.bind like (Name.restores_readField slotKeyWidth) fun text => ?_)
  cases made : ofText? text with
  | none => exact .failed
  | some key =>
      simp only [ofText?] at made
      split at made
      · cases made
        exact .pure like rfl
      · cases made

namespace SlotConfig

theorem restores_read : Restores SameLength read encode := by
  have like := likeness_sameLength
  refine Completes.restores (.bind like SlotKey.restores_read fun key => ?_)
  exact .bind like (Script.restores_read like) fun script => .pure like rfl

end SlotConfig

namespace AudioInterface

theorem restores_read : Restores SameLength read encode := by
  have like := likeness_sameLength
  have table := VariantTable.restores_read like
  have slots := Read.restores_counted like SlotConfig.restores_read SlotConfig.encode_ne_nil
  refine Completes.restores (.bind like table fun sampleRate => ?_)
  refine .bind like table fun formatInversion => .bind like table fun formatMask => ?_
  refine .bind like table fun receiveSlots => .bind like table fun transmitSlots => ?_
  refine .bind like table fun receiveBitWidth => .bind like table fun receiveSlotLength => ?_
  refine .bind like table fun transmitSlotLength => .bind like slots fun slots => .pure like ?_
  simp [encode, Setting.all, AudioInterface.table]

end AudioInterface

/-! ## Controls -/

theorem Timing.restores_read (like : Likeness alike) :
    Restores alike read fun timing => [timing.code] := by
  refine Completes.restores (.bind like (Read.restores_byte like) fun code => ?_)
  split
  · exact .pure like rfl
  · exact .pure like rfl
  · exact .pure like rfl
  · exact .failed

theorem WriteMode.restores_read (like : Likeness alike) :
    Restores alike read fun mode => [mode.code] := by
  refine Completes.restores (.bind like (Read.restores_byte like) fun code => ?_)
  split
  · exact .pure like rfl
  · exact .pure like rfl
  · exact .pure like rfl
  · exact .failed

namespace Element

theorem restores_read (like : Likeness alike) :
    Restores alike read fun element => [element.code] := by
  refine Completes.restores (.bind like (Read.restores_byte like) fun code => ?_)
  split
  · exact .pure like rfl
  · exact .pure like rfl
  · exact .failed

theorem restores_readCandidate (like : Likeness alike) (element : Element) :
    Restores alike element.readCandidate element.encode := by
  cases element with
  | byte =>
      refine Completes.restores (.bind like (Read.restores_byte like) fun stored => .pure like ?_)
      simp only [encode, UInt8.toNat_toUInt32, UInt8.ofNatClamp_toNat]
      rfl
  | word => exact Read.restores_word like

end Element

namespace IntegerControl

theorem restores_read (like : Likeness alike) : Restores alike read encode := by
  have word := Read.restores_word like
  have signed := Read.restores_signedWord like
  refine Completes.restores (.bind like word fun register => ?_)
  refine .bind like (WriteMode.restores_read like) fun mode => .bind like word fun mask => ?_
  refine .bind like signed fun lowest => .bind like signed fun highest => ?_
  refine .bind like signed fun step => .bind like signed fun initial => ?_
  by_cases falls : step ≤ 0
  · rw [if_pos falls]
    exact .refused
  rw [if_neg falls]
  by_cases empty : highest < lowest
  · rw [if_pos empty]
    exact .refused
  rw [if_neg empty]
  refine .bind like (Element.restores_read like) fun element => ?_
  have candidates := Read.restores_counted like (Element.restores_readCandidate like element)
    element.encode_ne_nil
  exact .bind like candidates fun candidates => .pure like (by simp [encode])

end IntegerControl

namespace ChoiceControl

theorem restores_readItem : Restores SameLength readItem encodeItem := by
  have like := likeness_sameLength
  refine Completes.restores (.bind like (Name.restores_readField _) fun label => ?_)
  exact .bind like (Script.restores_read like) fun script => .pure like rfl

theorem restores_read : Restores SameLength read encode := by
  have like := likeness_sameLength
  have items := Read.restores_counted like restores_readItem
    fun item => List.append_ne_nil_of_right_ne_nil _ item.2.encode_ne_nil
  refine Completes.restores (.bind like (Read.restores_word like) fun initial => ?_)
  exact .bind like items fun items => .pure like (by simp [encode])

end ChoiceControl

namespace Control

theorem restores_read : Restores SameLength read encode := by
  have like := likeness_sameLength
  refine Completes.restores (.bind like (Read.restores_byte like) fun kind => ?_)
  refine .bind like (Name.restores_readField _) fun name => ?_
  refine .bind like (Read.restores_byte like) fun channel => ?_
  refine .bind like (Timing.restores_read like) fun timing => ?_
  split
  · refine .bind like (IntegerControl.restores_read like) fun body => .pure like ?_
    simp [encode, Name.encode]
  · refine .bind like ChoiceControl.restores_read fun body => .pure like ?_
    simp [encode, Name.encode]
  · exact .failed

theorem restores_readTable : Restores SameLength readTable encodeTable :=
  Read.restores_counted likeness_sameLength restores_read encode_ne_nil

end Control

theorem AlgorithmParameter.restores_read (like : Likeness alike) : Restores alike read encode := by
  refine Completes.restores (.bind like (Read.restores_word like) fun id => ?_)
  exact .bind like (Read.restores_word like) fun value => .pure like rfl

/-! ## Headers -/

theorem ChannelIdentity.restores_read (like : Likeness alike) : Restores alike read encode := by
  refine Completes.restores (.bind like (Read.restores_word like) fun deviceId => ?_)
  exact .bind like (Read.restores_word like) fun busAddress => .pure like rfl

/-- A header takes all of its section, and reads the same wherever the section lies. -/
theorem Header.exhausts_read : Read.Exhausts read := by
  have word := Read.restores_word likeness_eq
  have byte := Read.restores_byte likeness_eq
  have identity := ChannelIdentity.restores_read likeness_eq
  refine .bind word fun version => ?_
  by_cases later : supportedVersion < version
  · rw [if_pos later]
    exact .refused
  rw [if_neg later]
  refine .bind (Name.restores_readField _) fun name => ?_
  refine .bind word fun timestamp => .bind word fun count => ?_
  by_cases bad : count = 0 ∨ maxChannels < count.toNat
  · rw [if_pos bad]
    exact .refused
  rw [if_neg bad]
  refine .bind (Read.restores_records likeness_eq identity _) fun channels => ?_
  exact .bind byte fun senseWidth => .bind byte fun voltageSense => .bind word fun features =>
    .remainder _

/-- The number of channels lies where it is looked up ahead of the header. -/
theorem Header.peek_of_read {reader after : Reader} {header : Header}
    (read : Header.read reader = .ok header after) :
    ∃ count, peekChannelCount? reader.rest = some count ∧
      count.toNat = header.channels.length := by
  obtain ⟨_, _, _, counted, _, count, first, _, second, third, fourth, _, _, listed⟩ := of_read read
  obtain ⟨field, took, sameLength, _⟩ := Name.restores_readField _ second
  have width : field.length = Name.width := sameLength.symm.trans (Name.length_field _ header.name)
  have word := Read.restores_word likeness_eq
  have split := word.rest_eq first
  rw [took.rest, word.rest_eq third, word.rest_eq fourth] at split
  have front : (LittleEndian.word header.version ++
      (field ++ LittleEndian.word header.timestamp)).length = 4 + Name.width + 4 := by
    simp only [List.length_append, LittleEndian.length_word, width, Nat.add_assoc]
  have peeks : Takes (Read.skip (4 + Name.width + 4) >>= fun _ => Read.word) _ count :=
    (Read.takes_skip _ front).bind (Read.takes_word count)
  have found := peeks counted.rest 0 0
  simp only [List.append_assoc] at found
  refine ⟨count, ?_, (Read.length_records listed).symm⟩
  simp only [peekChannelCount?, Reader.start, split, found]

/-! ## The tables of an image -/

/--
Reading a table and writing it again never changes its length, nor what is read: whatever bytes a
table was read from, and wherever in them, the bytes that it took stand for it in front of any other
bytes, and so does the row that is written for it. For scripts the two rows are one and the same.
-/
theorem tables_restored :
    Restores (· = ·) Script.read Script.encode ∧
      Restores (· = ·) PowerScripts.read PowerScripts.encode ∧
      Restores SameLength AudioInterface.read AudioInterface.encode ∧
      Restores SameLength Profile.readTable Profile.encodeTable ∧
      Restores SameLength InterruptTable.read InterruptTable.encode ∧
      Restores SameLength Control.readTable Control.encodeTable :=
  ⟨Script.restores_read likeness_eq, PowerScripts.restores_read likeness_eq,
    AudioInterface.restores_read, Profile.restores_readTable, InterruptTable.restores_read,
    Control.restores_readTable⟩

/-- The profile of one name, with a byte behind the end of the name. -/
def Profile.strayByte : Bytes :=
  LittleEndian.count 1 ++ [0x61, 0, 0x62] ++ LittleEndian.zeros 81

/-- The byte behind the end of the name is lost; the row is as long and is read the same. -/
theorem tables_restored_strayByte :
    ∃ after, Profile.readTable (.start Profile.strayByte 0) = .ok [Profile.empty "a" 0] after ∧
      Profile.encodeTable [Profile.empty "a" 0] ≠ Profile.strayByte ∧
      SameLength Profile.strayByte (Profile.encodeTable [Profile.empty "a" 0]) ∧
      Takes Profile.readTable (Profile.encodeTable [Profile.empty "a" 0])
        [Profile.empty "a" 0] := by
  obtain ⟨_, _, _, restores, _, _⟩ := tables_restored
  have reads : Profile.readTable (.start Profile.strayByte 0) =
      .ok [Profile.empty "a" 0] ⟨[], 88, 0⟩ := rfl
  obtain ⟨taken, took, like, takes⟩ := restores reads
  have whole : Profile.strayByte = taken := took.rest.trans (List.append_nil taken)
  exact ⟨_, reads, by decide +kernel, whole ▸ like, takes⟩

end AmpControl.Tuning
