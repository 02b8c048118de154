import AmpControl.Proofs.Tuning.Positions

/-!
# Which errors a read raises

That a section is missing, or that a control is on a channel that is not there, is said of a whole
payload. No read of a section says so, whatever the section holds.
-/

namespace AmpControl.Tuning

/-- Errors that are raised once all sections have been read. -/
def FormatError.Final : FormatError → Prop
  | missingSection .. | invalidRecord .controlChannel _ => True
  | _ => False

/-- What is said of a whole payload points at no place in it. -/
theorem FormatError.Final.placeless {error : FormatError} (final : error.Final) :
    error.Placeless := by
  cases error with
  | missingSection => trivial
  | invalidRecord rule value =>
      cases rule with
      | controlChannel => trivial
      | _ => cases final
  | _ => cases final

namespace Read

variable {α β : Type} {read : Read α} {next : α → Read β}

/-- A read that says nothing of a whole payload when it fails. -/
def Inner (read : Read α) : Prop :=
  ∀ ⦃reader after : Reader⦄ ⦃error : FormatError⦄, read reader = .error error after → ¬error.Final

namespace Inner

theorem bind (first : Inner read) (second : ∀ value, Inner (next value)) :
    Inner (read >>= next) := by
  intro reader after error failed
  simp only [Bind.bind, EStateM.bind] at failed
  cases begins : read reader with
  | ok value middle =>
      rw [begins] at failed
      exact second value failed
  | error other middle =>
      rw [begins] at failed
      cases failed
      exact first begins

theorem pure (value : α) : Inner (Pure.pure value) := nofun

theorem failed {error : FormatError} (inner : ¬error.Final) : Inner (throw error : Read α) := by
  rintro reader after _ ⟨⟩
  exact inner

theorem refused {error : FormatError} (inner : ¬error.Final) : Inner (throw error >>= next) := by
  rintro reader after _ ⟨⟩
  exact inner

/-- A read that fails only for lack of bytes says nothing else. -/
theorem of_stays (stays : Stays read) : Inner read := by
  intro reader after error failed
  obtain ⟨_, offset, needed, available, rfl⟩ := stays failed
  exact id

end Inner

theorem inner_offset : Inner offset := nofun

theorem inner_remainder : Inner remainder := nofun

theorem inner_bytes (amount : Nat) : Inner (bytes amount) := .of_stays (stays_bytes amount)

theorem inner_byte : Inner byte := .of_stays stays_byte

theorem inner_halfword : Inner halfword := .of_stays stays_halfword

theorem inner_word : Inner word := .of_stays stays_word

theorem inner_signedWord : Inner signedWord := inner_word.bind fun _ => .pure _

theorem inner_lengthPrefixed : Inner lengthPrefixed := .of_stays stays_lengthPrefixed

theorem inner_records {record : Read α} (inner : Inner record) (amount : Nat) :
    Inner (records record amount) := by
  induction amount with
  | zero => exact .pure []
  | succ amount ih => exact inner.bind fun _ => ih.bind fun _ => .pure _

theorem inner_counted {record : Read α} (inner : Inner record) : Inner (counted record) :=
  (Inner.of_stays stays_count).bind fun amount => inner_records inner amount

theorem inner_upTo {record : Read α} (inner : Inner record) (bound : Nat) :
    Inner (upTo record bound) := by
  induction bound with
  | zero => exact .pure []
  | succ bound ih =>
      have several : Inner (record >>= fun first =>
          upTo record bound >>= fun others => Pure.pure (first :: others)) :=
        inner.bind fun _ => ih.bind fun _ => .pure _
      intro reader after error failed
      unfold upTo at failed
      split at failed
      · cases failed
      · exact several failed

end Read

open Read (Inner inner_byte inner_halfword inner_word inner_signedWord inner_counted)

/-! ## Names and scripts -/

theorem Name.inner_readField (size : Nat) : Inner (readField size) := by
  refine (Read.inner_bytes size).bind fun raw => ?_
  cases decode? raw with
  | some name => exact .pure name
  | none => exact .failed id

namespace Command

theorem inner_readAddress : Inner readAddress := by
  refine inner_byte.bind fun book => inner_byte.bind fun page => inner_byte.bind fun offset => ?_
  by_cases high : 0x80 ≤ offset
  · rw [if_pos high]
    exact .refused id
  · rw [if_neg high]
    exact .pure _

theorem inner_read : Inner read := by
  refine Read.inner_offset.bind fun offset => inner_byte.bind fun opcode => ?_
  split
  · exact inner_readAddress.bind fun _ => inner_byte.bind fun _ => .pure _
  · refine inner_readAddress.bind fun _ => inner_halfword.bind fun length => ?_
    exact (Read.inner_bytes length.toNat).bind fun _ => .pure _
  · refine inner_readAddress.bind fun _ => inner_byte.bind fun _ => ?_
    exact inner_byte.bind fun _ => .pure _
  · exact inner_halfword.bind fun _ => .pure _
  · exact .failed id

end Command

theorem Script.inner_read : Inner read := by
  refine Read.inner_offset.bind fun offset => Read.inner_lengthPrefixed.bind fun body => ?_
  cases decoded : decode body (clampOffset (offset + 4)) with
  | ok commands => exact .pure commands
  | error error =>
      refine .failed ?_
      rcases decode_eq_error decoded with rfl | ⟨_, after, fails⟩
      · exact id
      · exact Read.inner_upTo Command.inner_read _ fails

/-! ## Tables -/

theorem PowerScripts.inner_read : Inner read := by
  have script := Script.inner_read
  refine script.bind fun softReset => script.bind fun powerUp => script.bind fun powerDown => ?_
  exact script.bind fun mute => script.bind fun check => .pure _

theorem Profile.inner_read : Inner read := by
  have script := Script.inner_read
  refine (Name.inner_readField _).bind fun name => inner_word.bind fun capabilities => ?_
  refine script.bind fun beforePowerUp => script.bind fun afterPowerUp => ?_
  exact script.bind fun beforePowerDown => script.bind fun afterPowerDown => .pure _

theorem Source.inner_read : Inner read := by
  refine (Name.inner_readField _).bind fun name => inner_word.bind fun status => ?_
  refine inner_word.bind fun mask => inner_word.bind fun actions => ?_
  exact inner_byte.bind fun clockBased => .pure _

theorem InterruptTable.inner_read : Inner read := by
  have script := Script.inner_read
  refine (inner_counted Source.inner_read).bind fun sources => script.bind fun unmask => ?_
  refine script.bind fun mask => script.bind fun clear => inner_word.bind fun settleTime => ?_
  exact (inner_counted inner_word).bind fun dump => .pure _

theorem VariantTable.inner_read : Inner read := by
  have variant : Inner readVariant :=
    inner_word.bind fun value => Script.inner_read.bind fun script => .pure _
  exact inner_word.bind fun fallback => (inner_counted variant).bind fun variants => .pure _

theorem SlotKey.inner_read : Inner read := by
  refine (Name.inner_readField slotKeyWidth).bind fun text => ?_
  cases ofText? text with
  | some key => exact .pure key
  | none => exact .failed id

theorem AudioInterface.inner_read : Inner read := by
  have table := VariantTable.inner_read
  have config : Inner SlotConfig.read :=
    SlotKey.inner_read.bind fun _ => Script.inner_read.bind fun _ => .pure _
  refine table.bind fun sampleRate => table.bind fun formatInversion => ?_
  refine table.bind fun formatMask => table.bind fun receiveSlots => ?_
  refine table.bind fun transmitSlots => table.bind fun receiveBitWidth => ?_
  refine table.bind fun receiveSlotLength => table.bind fun transmitSlotLength => ?_
  exact (inner_counted config).bind fun slots => .pure _

/-! ## Controls -/

theorem Timing.inner_read : Inner read := by
  refine inner_byte.bind fun code => ?_
  split
  · exact .pure _
  · exact .pure _
  · exact .pure _
  · exact .failed id

theorem WriteMode.inner_read : Inner read := by
  refine inner_byte.bind fun code => ?_
  split
  · exact .pure _
  · exact .pure _
  · exact .pure _
  · exact .failed id

namespace Element

theorem inner_read : Inner read := by
  refine inner_byte.bind fun code => ?_
  split
  · exact .pure _
  · exact .pure _
  · exact .failed id

theorem inner_readCandidate (element : Element) : Inner element.readCandidate := by
  cases element with
  | byte => exact inner_byte.bind fun stored => .pure _
  | word => exact inner_word

end Element

theorem IntegerControl.inner_read : Inner read := by
  have signed := inner_signedWord
  refine inner_word.bind fun register => WriteMode.inner_read.bind fun mode => ?_
  refine inner_word.bind fun mask => signed.bind fun lowest => signed.bind fun highest => ?_
  refine signed.bind fun step => signed.bind fun initial => ?_
  by_cases falls : step ≤ 0
  · rw [if_pos falls]
    exact .refused id
  rw [if_neg falls]
  by_cases empty : highest < lowest
  · rw [if_pos empty]
    exact .refused id
  rw [if_neg empty]
  refine Element.inner_read.bind fun element => ?_
  exact (inner_counted element.inner_readCandidate).bind fun candidates => .pure _

theorem ChoiceControl.inner_read : Inner read := by
  have item : Inner readItem :=
    (Name.inner_readField _).bind fun label => Script.inner_read.bind fun script => .pure _
  exact inner_word.bind fun initial => (inner_counted item).bind fun items => .pure _

theorem Control.inner_read : Inner read := by
  refine inner_byte.bind fun kind => (Name.inner_readField _).bind fun name => ?_
  refine inner_byte.bind fun channel => Timing.inner_read.bind fun timing => ?_
  split
  · exact IntegerControl.inner_read.bind fun body => .pure _
  · exact ChoiceControl.inner_read.bind fun body => .pure _
  · exact .failed id

theorem AlgorithmParameter.inner_read : Inner read :=
  inner_word.bind fun _ => inner_word.bind fun _ => .pure _

/-! ## Headers and sections -/

theorem Header.inner_read : Inner read := by
  have identity : Inner ChannelIdentity.read :=
    inner_word.bind fun deviceId => inner_word.bind fun busAddress => .pure _
  refine inner_word.bind fun version => ?_
  by_cases later : supportedVersion < version
  · rw [if_pos later]
    exact .refused id
  rw [if_neg later]
  refine (Name.inner_readField _).bind fun name => inner_word.bind fun timestamp => ?_
  refine inner_word.bind fun count => ?_
  by_cases bad : count = 0 ∨ maxChannels < count.toNat
  · rw [if_pos bad]
    exact .refused id
  rw [if_neg bad]
  refine (Read.inner_records identity _).bind fun channels => inner_byte.bind fun senseWidth => ?_
  refine inner_byte.bind fun voltageSense => inner_word.bind fun features => ?_
  exact Read.inner_remainder.bind fun _ => .pure _

/-- Whatever a section holds, no error of it is about a whole payload. -/
theorem Kind.inner_read (kind : Kind) : Inner kind.read := by
  cases kind with
  | header => exact Header.inner_read
  | initialisation => exact Script.inner_read
  | audioInterface => exact AudioInterface.inner_read
  | profiles => exact inner_counted Profile.inner_read
  | interrupts => exact InterruptTable.inner_read
  | power => exact PowerScripts.inner_read
  | controls => exact inner_counted Control.inner_read
  | algorithm => exact inner_counted AlgorithmParameter.inner_read

theorem Section.inner_read (groups : Nat) : Inner (read groups) := by
  refine Read.inner_offset.bind fun offset => (Read.inner_bytes 5).bind fun tag => ?_
  cases Kind.ofTag? tag with
  | some kind => exact Read.inner_lengthPrefixed.bind fun payload => .pure _
  | none => exact .failed id

end AmpControl.Tuning
