import AmpControl.Proofs.Run.Request

/-!
# Lookups of audio interface scripts

A setting and a negotiation look up one script for each channel with audio interface tables and
carry it out before they look up the next. So a lookup that fails comes too late for the channels
before it: their scripts stay carried out, and a fault that they met is not told.
-/

namespace AmpControl

open Tuning (AudioInterface Draft Payload Profile Script Setting SlotConfig SlotKey SlotRequest
  Variant)

/-! ## Scripts on several channels -/

namespace Device

variable {role : Role} {scripts : List (UInt8 × Script)} {device : Device}

/-- Scripts are carried out on channels, one after the other. -/
def programmed (role : Role) (scripts : List (UInt8 × Script)) (device : Device) : Device :=
  (Work.inOrder (scripts.map fun entry => run entry.1 role entry.2) device).1

theorem programmed_nil (role : Role) (device : Device) : device.programmed role [] = device := rfl

theorem programmed_cons (role : Role) (channel : UInt8) (script : Script)
    (others : List (UInt8 × Script)) (device : Device) :
    device.programmed role ((channel, script) :: others) =
      ((run channel role script).leaves device).programmed role others :=
  Work.fst_inOrder_cons _ _ _

/-- Every script is noted in the history. -/
theorem length_history_programmed (role : Role) (scripts : List (UInt8 × Script))
    (device : Device) :
    (device.programmed role scripts).history.length =
      scripts.length + device.history.length := by
  induction scripts generalizing device with
  | nil => simp [programmed_nil]
  | cons entry others ih =>
      obtain ⟨channel, script⟩ := entry
      have ran : ((run channel role script).leaves device).history =
          .ran channel role (device.power channel) (device.waiting channel)
            (device.locked channel) :: device.history := by
        unfold Work.leaves latchFault
        split
        · split <;> rfl
        · rfl
      rw [programmed_cons, ih, ran, List.length_cons, List.length_cons]
      omega

/-- No scripts at all are the only ones that leave no trace. -/
theorem programmed_eq_self_iff : device.programmed role scripts = device ↔ scripts = [] := by
  constructor
  · intro same
    have length := length_history_programmed role scripts device
    rw [same] at length
    exact List.eq_nil_of_length_eq_zero (by omega)
  · rintro rfl
    rfl

end Device

namespace Request

variable {role : Role} {choose : UInt8 → Except DeviceError (Option Script)}
  {payload : Payload} {device : Device} {channel : UInt8}

/-- The scripts that are found for channels. -/
def found (choose : UInt8 → Except DeviceError (Option Script)) (channels : List UInt8) :
    List (UInt8 × Script) :=
  channels.filterMap fun channel =>
    match choose channel with
    | .ok (some script) => some (channel, script)
    | .ok none | .error _ => none

/-- How scripts are looked up and carried out: all of them, or those before the first refusal. -/
inductive Programs (role : Role) (choose : UInt8 → Except DeviceError (Option Script))
    (channels : List UInt8) (device : Device) :
    EStateM.Result DeviceError Device (Option TransportFault) → Prop where
  | all (fault : Option TransportFault)
      (chosen : ∀ channel ∈ channels, ∃ script, choose channel = .ok script) :
      Programs role choose channels device
        (.ok fault (device.programmed role (found choose channels)))
  | refused {early later : List UInt8} {channel : UInt8} {error : DeviceError}
      (split : channels = early ++ channel :: later)
      (chosen : ∀ other ∈ early, ∃ script, choose other = .ok script)
      (refuses : choose channel = .error error) :
      Programs role choose channels device
        (.error error (device.programmed role (found choose early)))

theorem found_cons (choose : UInt8 → Except DeviceError (Option Script)) (channel : UInt8)
    (others : List UInt8) :
    found choose (channel :: others) = found choose [channel] ++ found choose others := by
  have split : channel :: others = [channel] ++ others := rfl
  rw [split, found, List.filterMap_append, found, found]

/-- One more channel in front, with or without a script. -/
theorem Programs.cons {chosen : Option Script} {others : List UInt8} {middle : Device}
    {result : EStateM.Result DeviceError Device (Option TransportFault)}
    (choice : choose channel = .ok chosen)
    (ran : ∀ scripts, middle.programmed role scripts =
      device.programmed role (found choose [channel] ++ scripts))
    (programs : Programs role choose others middle result) :
    Programs role choose (channel :: others) device result := by
  cases programs with
  | all fault accepted =>
      rw [ran, ← found_cons]
      exact .all fault (List.forall_mem_cons.mpr ⟨⟨chosen, choice⟩, accepted⟩)
  | @refused early later refusing error split accepted refuses =>
      have whole : channel :: others = (channel :: early) ++ refusing :: later := by
        rw [split, List.cons_append]
      rw [ran, ← found_cons]
      exact .refused whole (List.forall_mem_cons.mpr ⟨⟨chosen, choice⟩, accepted⟩) refuses

theorem programs_programAll (role : Role) (choose : UInt8 → Except DeviceError (Option Script))
    (channels : List UInt8) (held : Option TransportFault) (device : Device) :
    Programs role choose channels device (programAll role choose channels held device) := by
  induction channels generalizing held device with
  | nil => exact .all held fun _ member => absurd member List.not_mem_nil
  | cons channel others ih =>
      unfold programAll
      cases choice : choose channel with
      | error error =>
          have refused : Programs role choose (channel :: others) device
              (.error error (device.programmed role (found choose []))) :=
            .refused rfl (fun _ member => absurd member List.not_mem_nil) choice
          exact refused
      | ok chosen =>
          cases chosen with
          | none =>
              refine .cons choice (fun scripts => ?_) (ih held device)
              simp [found, choice]
          | some script =>
              refine .cons choice (fun scripts => ?_) (ih _ ((Device.run channel role
                script).leaves device))
              simp [found, choice, Device.programmed_cons]

/-! ## Settings and negotiations -/

/-- The script for a variant of a setting on a channel, none on a channel without tables. -/
def settingScript (payload : Payload) (setting : Setting) (variant : Variant) (channel : UInt8) :
    Except DeviceError (Option Script) :=
  match interface? payload channel with
  | none => .ok none
  | some tables =>
      match tables.select setting variant with
      | .ok script => .ok (some script)
      | .error unsupported => .error (.unsupported unsupported)

theorem applySetting_eq (ready : device.ready? = some payload) (setting : Setting)
    (variant : Variant) :
    applySetting setting variant device =
      (programAll (.setting setting) (settingScript payload setting variant) payload.allChannels
        none >>= raise) device := by
  have found := loadedPayload_of_ready ready
  unfold applySetting
  exact bind_ok found _

/-- What a negotiation asks the slot configurations of every channel for. -/
def slotRequest (payload : Payload) (slotWidth : UInt8) (device : Device) : SlotRequest :=
  ⟨slotWidth, device.framing, payload.channelCount, payload.header.senseWidth,
    payload.header.voltageSense⟩

/-- The best slot configuration of a channel, none on a channel without tables. -/
def slotScript (payload : Payload) (request : SlotRequest) (channel : UInt8) :
    Except DeviceError (Option Script) :=
  match interface? payload channel with
  | none => .ok none
  | some tables =>
      match request.resolve tables.slots with
      | some config => .ok (some config.script)
      | none => .error (.noSlotConfig request.slotWidth)

/-- Ends a negotiation in which every channel with tables was programmed. -/
def settle (payload : Payload) (request : SlotRequest) (fault : Option TransportFault) :
    Request SlotKey :=
  match (slotChoices payload request).getLast?.join with
  | none => throw (.noSlotConfig request.slotWidth)
  | some config => do
      change fun device => { device with slot := some config.key }
      raise fault
      return config.key

theorem negotiate_eq (ready : device.ready? = some payload) (slotWidth : UInt8) :
    negotiate slotWidth device =
      (programAll .slot (slotScript payload (slotRequest payload slotWidth device))
        payload.allChannels none >>= settle payload (slotRequest payload slotWidth device))
        device := by
  have found := loadedPayload_of_ready ready
  unfold negotiate slotScript settle slotRequest
  -- The comparison of the two sides must not begin to evaluate the resolution.
  generalize SlotRequest.resolve = resolve
  generalize slotChoices = choices
  exact bind_ok found _

theorem settingScript_eq_none_iff {setting : Setting} {variant : Variant} :
    settingScript payload setting variant channel = .ok none ↔
      interface? payload channel = none := by
  unfold settingScript
  cases interface? payload channel with
  | none => simp
  | some tables =>
      simp only
      cases tables.select setting variant <;> simp

/-- A channel with tables is programmed with what its slots come to, or refused. -/
theorem slotScript_of_tables {tables : AudioInterface}
    (tabled : interface? payload channel = some tables) (request : SlotRequest) :
    slotScript payload request channel =
      ((request.resolve tables.slots).elim (.error (.noSlotConfig request.slotWidth))
        fun config => .ok (some config.script)) := by
  unfold slotScript
  rw [tabled]
  simp only
  cases request.resolve tables.slots <;> rfl

theorem slotScript_eq_none_iff {request : SlotRequest} :
    slotScript payload request channel = .ok none ↔ interface? payload channel = none := by
  cases tabled : interface? payload channel with
  | none => simp [slotScript, tabled]
  | some tables =>
      rw [slotScript_of_tables tabled]
      cases request.resolve tables.slots <;> simp

theorem found_eq_nil_iff {channels : List UInt8}
    (accepted : ∀ channel ∈ channels, ∃ script, choose channel = .ok script) :
    found choose channels = [] ↔ ∀ channel ∈ channels, choose channel = .ok none := by
  rw [found, List.filterMap_eq_nil_iff]
  apply forall₂_congr
  intro channel member
  obtain ⟨script, chosen⟩ := accepted channel member
  rw [chosen]
  cases script <;> simp

/--
A lookup refuses a channel. The scripts of the channels before it were carried out, so the device is
as it was if and only if none of those has audio interface tables.
-/
structure RefusedAt (payload : Payload) (role : Role)
    (choose : UInt8 → Except DeviceError (Option Script)) (error : DeviceError)
    (early : List UInt8) (channel : UInt8) (device after : Device) : Prop where
  before : ∃ later, payload.allChannels = early ++ channel :: later
  accepted : ∀ other ∈ early, ∃ script, choose other = .ok script
  refuses : choose channel = .error error
  left : after = device.programmed role (found choose early)
  untouched : after = device ↔ ∀ other ∈ early, interface? payload other = none

theorem refusedAt_of_split {early later : List UInt8} {error : DeviceError}
    (absent : ∀ channel, choose channel = .ok none ↔ interface? payload channel = none)
    (split : payload.allChannels = early ++ channel :: later)
    (accepted : ∀ other ∈ early, ∃ script, choose other = .ok script)
    (refuses : choose channel = .error error) :
    RefusedAt payload role choose error early channel device
      (device.programmed role (found choose early)) where
  before := ⟨later, split⟩
  accepted := accepted
  refuses := refuses
  left := rfl
  untouched := by
    rw [Device.programmed_eq_self_iff, found_eq_nil_iff accepted]
    exact forall₂_congr fun other _ => absent other

theorem refusedAt_of_applySetting (ready : device.ready? = some payload) {setting : Setting}
    {variant : Variant} {unsupported : Tuning.UnsupportedVariant} {after : Device}
    (refused : applySetting setting variant device = .error (.unsupported unsupported) after) :
    ∃ early channel, RefusedAt payload (.setting setting) (settingScript payload setting variant)
      (.unsupported unsupported) early channel device after := by
  rw [applySetting_eq ready] at refused
  have programs := programs_programAll (.setting setting) (settingScript payload setting variant)
    payload.allChannels none device
  simp only [bind, EStateM.bind] at refused
  generalize programAll _ _ _ _ device = result at programs refused
  cases programs with
  | all fault accepted => cases fault <;> cases refused
  | refused split accepted refuses =>
      cases refused
      exact ⟨_, _, refusedAt_of_split (fun _ => settingScript_eq_none_iff) split accepted refuses⟩

/-- Where every channel with tables was programmed, nothing is chosen only if there is none. -/
theorem untabled_of_settled {request : SlotRequest}
    (accepted : ∀ channel ∈ payload.allChannels, ∃ script,
      slotScript payload request channel = .ok script)
    (unchosen : (slotChoices payload request).getLast?.join = none) :
    ∀ channel ∈ payload.allChannels, interface? payload channel = none := by
  have chosen : ∀ choice ∈ slotChoices payload request, choice.isSome = true := by
    intro choice member
    obtain ⟨tables, listed, rfl⟩ := List.mem_map.mp member
    obtain ⟨channel, declared, tabled⟩ := List.mem_filterMap.mp listed
    obtain ⟨script, found⟩ := accepted channel declared
    rw [slotScript_of_tables tabled] at found
    cases resolved : request.resolve tables.slots with
    | some config => rfl
    | none =>
        rw [resolved] at found
        cases found
  have empty : slotChoices payload request = [] := by
    cases last : (slotChoices payload request).getLast? with
    | none => exact List.getLast?_eq_none_iff.mp last
    | some choice =>
        rw [last] at unchosen
        have there := chosen choice (List.mem_of_getLast? last)
        cases choice with
        | none => cases there
        | some config => cases unchosen
  rw [slotChoices, List.map_eq_nil_iff, List.filterMap_eq_nil_iff] at empty
  exact empty

theorem refusedAt_of_negotiate (ready : device.ready? = some payload) {slotWidth width : UInt8}
    {after : Device} (refused : negotiate slotWidth device = .error (.noSlotConfig width) after) :
    width = slotWidth ∧
      ((after = device ∧ ∀ channel ∈ payload.allChannels, interface? payload channel = none) ∨
        ∃ early channel, RefusedAt payload .slot
          (slotScript payload (slotRequest payload slotWidth device)) (.noSlotConfig width) early
          channel device after) := by
  rw [negotiate_eq ready] at refused
  have wide : (slotRequest payload slotWidth device).slotWidth = slotWidth := rfl
  generalize slotRequest payload slotWidth device = request at refused wide ⊢
  have programs := programs_programAll .slot (slotScript payload request) payload.allChannels none
    device
  simp only [bind, EStateM.bind] at refused
  generalize programAll _ _ _ _ device = result at programs refused
  cases programs with
  | @refused early later channel error split accepted refuses =>
      cases refused
      have same : width = request.slotWidth := by
        cases tabled : interface? payload channel with
        | none => simp [slotScript, tabled] at refuses
        | some tables =>
            rw [slotScript_of_tables tabled] at refuses
            cases resolved : request.resolve tables.slots with
            | some config => simp [resolved] at refuses
            | none =>
                rw [resolved] at refuses
                exact (DeviceError.noSlotConfig.inj (Except.error.inj refuses)).symm
      exact ⟨same.trans wide, .inr ⟨early, channel,
        refusedAt_of_split (fun _ => slotScript_eq_none_iff) split accepted refuses⟩⟩
  | all fault accepted =>
      simp only [settle] at refused
      cases settled : (slotChoices payload request).getLast?.join with
      | none =>
          rw [settled] at refused
          cases refused
          have untabled := untabled_of_settled accepted settled
          refine ⟨wide, .inl ⟨?_, untabled⟩⟩
          rw [Device.programmed_eq_self_iff, found_eq_nil_iff accepted]
          exact fun channel member => slotScript_eq_none_iff.mpr (untabled channel member)
      | some config =>
          rw [settled] at refused
          cases fault <;> cases refused

end Request

/-! ## An image whose channels differ -/

namespace Tuning.Draft

/--
Two channels whose audio interface tables differ: the first one alone has scripts for sample rates,
and the slot configuration of the second one is a narrower one. The second profile
carries out the slot script again on every power-up.
-/
def uneven : Draft :=
  let tables (rates : VariantTable) (slot : SlotConfig) : AudioInterface :=
    ⟨rates, .empty, .empty, .empty, .empty, .empty, .empty, .empty, [slot]⟩
  let slot (value : UInt8) : Script := Script.writing (Register.ofParts 0 0 0x31) value
  let wide : SlotConfig := ⟨⟨"16_TDM_02_16_1", by decide +kernel⟩, slot 16⟩
  let narrow : SlotConfig := ⟨⟨"12_TDM_02_12_1", by decide +kernel⟩, slot 12⟩
  let rate (value : UInt8) : Script := Script.writing (Register.ofParts 0 0 0x30) value
  let rates : VariantTable := ⟨0, [(44100, rate 0x44), (48000, rate 0x48)]⟩
  ((((Draft.new 2).withAudioInterface 0 (tables rates wide)).withAudioInterface 1
    (tables .empty narrow)).addProfile (Profile.empty "default" 0)).addProfile
    (Profile.empty "rearm" 0x20)

end Tuning.Draft

/-- The source of the image whose channels differ. -/
def FirmwareSource.uneven : FirmwareSource := .new (some Tuning.Draft.uneven.build)

namespace Device

/--
What a failed lookup leaves behind. Of the channels with audio interface tables those before the
refused one were reprogrammed, and nothing else was done: the device is as it was, its calls
included, if and only if the refused channel is the first of them.
-/
theorem programmed_until_refusal (device : Device) (payload : Payload)
    (ready : device.ready? = some payload) :
    (∀ setting variant unsupported after,
      Request.applySetting setting variant device = .error (.unsupported unsupported) after →
      ∃ early channel, Request.RefusedAt payload (.setting setting)
        (Request.settingScript payload setting variant) (.unsupported unsupported) early channel
        device after) ∧
    (∀ slotWidth width after,
      Request.negotiate slotWidth device = .error (.noSlotConfig width) after →
      width = slotWidth ∧
        ((after = device ∧
            ∀ channel ∈ payload.allChannels, Request.interface? payload channel = none) ∨
          ∃ early channel, Request.RefusedAt payload .slot
            (Request.slotScript payload (Request.slotRequest payload slotWidth device))
            (.noSlotConfig width) early channel device after)) :=
  ⟨fun _ _ _ _ => Request.refusedAt_of_applySetting ready,
    fun _ _ _ => Request.refusedAt_of_negotiate ready⟩

/-- Where the first channel with tables is refused, nothing is done at all. -/
theorem untouched_by_refusal :
    let device := reached .standard .uneven [.load 1]
    (∃ payload, device.ready? = some payload) ∧
      Request.applySetting .formatMask (.value 1) device =
        .error (.unsupported ⟨.formatMask, 1⟩) device := by
  intro device
  have isReady : device.ready?.isSome = true := by decide +kernel
  obtain ⟨payload, ready⟩ := Option.isSome_iff_exists.mp isReady
  refine ⟨⟨payload, ready⟩, ?_⟩
  have answered : (match Request.applySetting .formatMask (.value 1) device with
      | .ok _ _ => none
      | .error error _ => some error) = some (.unsupported ⟨.formatMask, 1⟩) := by decide +kernel
  have first : (device.ready?.map fun payload => (payload.allChannels.head?,
      (Request.interface? payload 0).map fun tables =>
        (tables.select .formatMask (.value 1)).isOk)) = some (some 0, some false) := by
    decide +kernel
  rw [ready] at first
  obtain ⟨head, refused⟩ := Prod.mk.inj (Option.some.inj first)
  cases result : Request.applySetting .formatMask (.value 1) device with
  | ok answer after => simp [result] at answered
  | error error after =>
      obtain rfl : error = .unsupported ⟨.formatMask, 1⟩ := by simpa [result] using answered
      obtain ⟨early, channel, refusal⟩ :=
        (programmed_until_refusal device payload ready).1 _ _ _ _ result
      obtain ⟨later, split⟩ := refusal.before
      cases early with
      | nil =>
          have same : after = device := refusal.untouched.mpr (by simp)
          rw [same]
      | cons other early =>
          obtain ⟨script, accepted⟩ := refusal.accepted other List.mem_cons_self
          obtain rfl : other = 0 := by simpa [split] using head
          obtain ⟨tables, tabled, unauthored⟩ := Option.map_eq_some_iff.mp refused
          rw [Request.settingScript, tabled] at accepted
          cases selected : tables.select .formatMask (.value 1) with
          | ok script => simp [selected, Except.isOk, Except.toBool] at unauthored
          | error unsupported => simp [selected] at accepted

/-- A setting that the second channel does not author was written to the first one all the same. -/
theorem first_channel_reprogrammed :
    let device := reached .standard .uneven [.load 1]
    device.loadState = .ready ∧
      (match Request.applySetting .sampleRate (.value 48000) device with
        | .ok _ _ => none
        | .error error after => some (error, after.bus.transport.calls)) =
        some (.unsupported ⟨.sampleRate, 48000⟩, device.bus.transport.calls ++
          [.write 0 (Register.ofParts 0 0 0x30) 0x48]) := by
  decide +kernel

end Device

end AmpControl
