import AmpControl.Proofs.Tuning.Name
import AmpControl.Proofs.Tuning.Script
import AmpControl.Tuning.Payload

/-!
# The tables of a payload as they are stored

The header, the controls and the algorithm parameters are read back like the tables of a channel. A
control is looked at while it is read, so it has to be one that passes: its step is positive and its
range is not empty.
-/

namespace AmpControl.Tuning

open Read (Takes)

/-! ## Controls -/

theorem Timing.takes_read (timing : Timing) : Takes read [timing.code] timing := by
  cases timing <;> exact fun _ _ _ => rfl

theorem WriteMode.takes_read (mode : WriteMode) : Takes read [mode.code] mode := by
  cases mode <;> exact fun _ _ _ => rfl

namespace Element

theorem takes_read (element : Element) : Takes read [element.code] element := by
  cases element <;> exact fun _ _ _ => rfl

/-- A candidate that an element of the given width can hold. -/
def Holds : Element → UInt32 → Prop
  | byte, candidate => candidate.toNat ≤ 255
  | word, _ => True

instance (element : Element) (candidate : UInt32) : Decidable (element.Holds candidate) :=
  match element with
  | byte => inferInstanceAs (Decidable (candidate.toNat ≤ 255))
  | word => inferInstanceAs (Decidable True)

theorem takes_readCandidate {element : Element} {candidate : UInt32}
    (holds : element.Holds candidate) :
    Takes element.readCandidate (element.encode candidate) candidate := by
  cases element with
  | word => exact Read.takes_word candidate
  | byte =>
      have kept : (UInt8.ofNatClamp candidate.toNat).toUInt32 = candidate := by
        refine UInt32.toNat_inj.mp ?_
        rw [UInt8.toNat_toUInt32, UInt8.toNat_ofNatClamp_of_lt (Nat.lt_succ_of_le holds)]
      have taken := (Read.takes_byte (.ofNatClamp candidate.toNat)).map UInt8.toUInt32
      rwa [kept] at taken

theorem encode_ne_nil (element : Element) (candidate : UInt32) :
    element.encode candidate ≠ [] := by
  cases element <;> exact List.cons_ne_nil _ _

end Element

namespace IntegerControl

variable {control : IntegerControl}

/-- An integer control that is stored whole and passes when it is read. -/
structure Storable (control : IntegerControl) : Prop where
  step : 0 < control.step
  range : control.lowest ≤ control.highest
  candidates : ∀ candidate ∈ control.candidates, control.element.Holds candidate

instance (control : IntegerControl) : Decidable control.Storable :=
  -- Evaluation goes through the candidates, not through all words that there are.
  letI : Decidable (∀ candidate ∈ control.candidates, control.element.Holds candidate) :=
    List.decidableBAll _ _
  decidable_of_iff (0 < control.step ∧ control.lowest ≤ control.highest ∧
      ∀ candidate ∈ control.candidates, control.element.Holds candidate)
    ⟨fun ⟨step, range, candidates⟩ => ⟨step, range, candidates⟩,
      fun ⟨step, range, candidates⟩ => ⟨step, range, candidates⟩⟩

theorem takes_read (storable : control.Storable) (small : control.encode.length < UInt32.size) :
    Takes read control.encode control := by
  have rises : ¬control.step ≤ 0 := Int32.not_le.mpr storable.step
  have spans : ¬control.highest < control.lowest := Int32.not_lt.mpr storable.range
  simp only [encode, List.append_assoc, List.length_append] at small ⊢
  have candidates := Read.takes_counted_of_small control.element.encode
    (fun candidate member _ => Element.takes_readCandidate (storable.candidates candidate member))
    (fun candidate _ => control.element.encode_ne_nil candidate) (by omega)
  refine .bind (Read.takes_word control.register.raw) (.bind (WriteMode.takes_read control.mode) ?_)
  refine .bind (Read.takes_word control.mask) (.bind (Read.takes_signedWord control.lowest) ?_)
  refine .bind (Read.takes_signedWord control.highest) ?_
  refine .bind (Read.takes_signedWord control.step) ?_
  refine .bind (Read.takes_signedWord control.initial) ?_
  rw [if_neg rises, if_neg spans]
  refine .bind (Element.takes_read control.element) ?_
  exact candidates.map (IntegerControl.mk control.register control.mode control.mask
    control.lowest control.highest control.step control.initial control.element)

end IntegerControl

namespace ChoiceControl

variable {control : ChoiceControl}

/-- A choice control that is stored whole. -/
def Storable (control : ChoiceControl) : Prop :=
  ∀ item ∈ control.items, Name.Fits Name.width item.1 ∧ item.2.Storable

instance (control : ChoiceControl) : Decidable control.Storable :=
  inferInstanceAs (Decidable (∀ item ∈ control.items, _ ∧ _))

theorem takes_readItem {item : String × Script} (fits : Name.Fits Name.width item.1)
    (storable : item.2.Storable) (small : (encodeItem item).length < UInt32.size) :
    Takes readItem (encodeItem item) item := by
  simp only [encodeItem, List.length_append] at small ⊢
  exact .bind (Name.takes_read fits)
    ((Script.takes_read storable (by omega)).map (Prod.mk item.1))

theorem takes_read (storable : control.Storable) (small : control.encode.length < UInt32.size) :
    Takes read control.encode control := by
  simp only [encode, List.append_assoc, List.length_append] at small ⊢
  have items := Read.takes_counted_of_small encodeItem
    (fun item member => takes_readItem (storable item member).1 (storable item member).2)
    (fun item _ => List.append_ne_nil_of_right_ne_nil _ item.2.encode_ne_nil) (by omega)
  exact .bind (Read.takes_word control.initial) (items.map (ChoiceControl.mk control.initial))

end ChoiceControl

/-- What a control picks from is stored whole and passes when it is read. -/
def ControlBody.Storable : ControlBody → Prop
  | integer body => body.Storable
  | choice body => body.Storable

instance : DecidablePred ControlBody.Storable
  | .integer body => inferInstanceAs (Decidable body.Storable)
  | .choice body => inferInstanceAs (Decidable body.Storable)

namespace Control

variable {control : Control} {controls : List Control}

/-- A control that is stored whole and passes when it is read. -/
structure Storable (control : Control) : Prop where
  name : Name.Fits Name.width control.name
  body : control.body.Storable

instance (control : Control) : Decidable control.Storable :=
  decidable_of_iff (Name.Fits Name.width control.name ∧ control.body.Storable)
    ⟨fun ⟨name, body⟩ => ⟨name, body⟩, fun ⟨name, body⟩ => ⟨name, body⟩⟩

theorem encode_ne_nil (control : Control) : control.encode ≠ [] := by
  obtain ⟨_, _, _, body⟩ := control
  cases body <;> exact List.cons_ne_nil _ _

theorem takes_read (storable : control.Storable) (small : control.encode.length < UInt32.size) :
    Takes read control.encode control := by
  obtain ⟨name, channel, timing, body⟩ := control
  obtain ⟨named, whole⟩ := storable
  cases body with
  | integer body =>
      simp only [encode, List.cons_append, List.append_assoc, List.length_cons,
        List.length_append] at small ⊢
      refine .cons (.bind (Name.takes_read named) (.cons ?_))
      exact (Timing.takes_read timing).bind ((IntegerControl.takes_read whole (by omega)).map
        fun body => Control.mk name channel timing (.integer body))
  | choice body =>
      simp only [encode, List.cons_append, List.append_assoc, List.length_cons,
        List.length_append] at small ⊢
      refine .cons (.bind (Name.takes_read named) (.cons ?_))
      exact (Timing.takes_read timing).bind ((ChoiceControl.takes_read whole (by omega)).map
        fun body => Control.mk name channel timing (.choice body))

theorem takes_readTable (storable : ∀ control ∈ controls, control.Storable)
    (small : (encodeTable controls).length < UInt32.size) :
    Takes readTable (encodeTable controls) controls := by
  rw [encodeTable, List.length_append] at small
  exact Read.takes_counted_of_small encode
    (fun control member => takes_read (storable control member))
    (fun control _ => control.encode_ne_nil) (by omega)

end Control

/-! ## Algorithm parameters -/

theorem AlgorithmParameter.takes_read (parameter : AlgorithmParameter) :
    Takes read parameter.encode parameter :=
  .bind (Read.takes_word parameter.id)
    ((Read.takes_word parameter.value).map (AlgorithmParameter.mk parameter.id))

/-! ## Headers -/

theorem ChannelIdentity.takes_read (identity : ChannelIdentity) :
    Takes read identity.encode identity :=
  .bind (Read.takes_word identity.deviceId)
    ((Read.takes_word identity.busAddress).map (ChannelIdentity.mk identity.deviceId))

namespace Header

variable {header : Header}

/-- A header that is stored whole and passes when it is read. -/
structure Storable (header : Header) : Prop where
  version : header.version ≤ supportedVersion
  name : Name.Fits Name.width header.name
  some_channel : 1 ≤ header.channels.length
  few_channels : header.channels.length ≤ maxChannels

instance (header : Header) : Decidable header.Storable :=
  decidable_of_iff (header.version ≤ supportedVersion ∧ Name.Fits Name.width header.name ∧
      1 ≤ header.channels.length ∧ header.channels.length ≤ maxChannels)
    ⟨fun ⟨version, name, least, most⟩ => ⟨version, name, least, most⟩,
      fun ⟨version, name, least, most⟩ => ⟨version, name, least, most⟩⟩

/-- A header is read back, and the reserved bytes behind it are passed over. -/
theorem yields_read (storable : header.Storable) (reserved : Nat) :
    Read.Yields read (header.encode reserved) header := by
  have length : (UInt32.ofNatClamp header.channels.length).toNat = header.channels.length :=
    UInt32.toNat_ofNatClamp_of_lt (Nat.lt_of_le_of_lt storable.few_channels (by decide))
  have known : ¬supportedVersion < header.version := UInt32.not_lt.mpr storable.version
  have counted : ¬(UInt32.ofNatClamp header.channels.length = 0 ∨
      maxChannels < (UInt32.ofNatClamp header.channels.length).toNat) := by
    rw [← UInt32.toNat_inj, length]
    have some_channel := storable.some_channel
    have few_channels := storable.few_channels
    rintro (none | many)
    · exact absurd (none ▸ some_channel) (by decide)
    · exact absurd many (Nat.not_lt.mpr few_channels)
  have identities : Takes (Read.records ChannelIdentity.read header.channels.length)
      (header.channels.flatMap ChannelIdentity.encode) header.channels :=
    Read.takes_records fun identity _ => identity.takes_read
  rw [← length] at identities
  simp only [encode, LittleEndian.count, List.append_assoc]
  refine (Read.takes_word header.version).yields ?_
  rw [if_neg known]
  refine (Name.takes_read storable.name).yields ((Read.takes_word header.timestamp).yields ?_)
  refine (Read.takes_word _).yields ?_
  rw [if_neg counted]
  refine identities.yields ((Read.takes_byte header.senseWidth).yields ?_)
  refine (Read.takes_byte (if header.voltageSense then 1 else 0)).yields ?_
  rw [Read.stored_flag]
  exact (Read.takes_word header.features).yields (Read.yields_remainder _ header)

end Header

end AmpControl.Tuning
