import AmpControl.Proofs.Device.Confinement
import AmpControl.Proofs.Run.DeclaredCalls
import AmpControl.Proofs.Run.Lookups
import AmpControl.Proofs.Run.Watching
import AmpControl.Proofs.Tuning.SlotChoice

/-!
# Arming sense data again

A negotiation programs every channel with the configuration that its own table offers, and only the
key of the last of them is kept. When a channel is initialised or powered up again, the script under
that key is carried out. That is the script of the negotiation only where the keys agree.
-/

namespace AmpControl

open Tuning (AudioInterface ChannelTables Payload Profile Script SlotConfig SlotKey SlotRequest)

namespace Work

variable {early late : List Work} {work other : Work} {device : Device}

/-- A part may be replaced by one that does the same where the part begins. -/
theorem inOrder_replace (same : work (inOrder early device).1 = other (inOrder early device).1) :
    inOrder (early ++ work :: late) device = inOrder (early ++ other :: late) device := by
  have part_same : work.part (inOrder early device) = other.part (inOrder early device) := by
    unfold part
    rw [same]
  unfold inOrder at part_same ⊢
  rw [List.foldl_append, List.foldl_append, List.foldl_cons, List.foldl_cons, part_same]

end Work

namespace Request

variable {payload : Payload} {device after : Device} {channel slotWidth : UInt8} {key : SlotKey}

/--
What a negotiation without a fault leaves: every channel with tables was programmed, and the key of
the last choice is the one in use.
-/
structure Agreed (payload : Payload) (request : SlotRequest) (key : SlotKey)
    (device after : Device) : Prop where
  accepted : ∀ channel ∈ payload.allChannels, ∃ script,
    slotScript payload request channel = .ok script
  left : after = { device.programmed .slot
    (found (slotScript payload request) payload.allChannels) with slot := some key }
  last : (slotChoices payload request).getLast?.join.map (·.key) = some key

theorem agreed_of_negotiate (ready : device.ready? = some payload)
    (agrees : negotiate slotWidth device = .ok key after) :
    Agreed payload (slotRequest payload slotWidth device) key device after := by
  rw [negotiate_eq ready] at agrees
  generalize slotRequest payload slotWidth device = request at agrees ⊢
  have programs := programs_programAll .slot (slotScript payload request) payload.allChannels none
    device
  simp only [bind, EStateM.bind] at agrees
  generalize programAll _ _ _ _ device = result at programs agrees
  cases programs with
  | refused split accepted refuses => cases agrees
  | all fault accepted =>
      simp only [settle] at agrees
      cases chosen : (slotChoices payload request).getLast?.join with
      | none =>
          rw [chosen] at agrees
          cases agrees
      | some config =>
          rw [chosen] at agrees
          cases fault with
          | some fault => cases agrees
          | none =>
              cases agrees
              exact ⟨accepted, rfl, congrArg (Option.map (·.key)) chosen⟩

/-- A channel with tables was programmed with the configuration that the request comes to there. -/
theorem Agreed.chosen {request : SlotRequest} (agreed : Agreed payload request key device after)
    (declared : channel < payload.channelCount) {tables : AudioInterface}
    (tabled : interface? payload channel = some tables) :
    ∃ config, request.resolve tables.slots = some config ∧
      (channel, config.script) ∈ found (slotScript payload request) payload.allChannels := by
  have listed : channel ∈ payload.allChannels := Payload.mem_allChannels.mpr declared
  obtain ⟨script, accepted⟩ := agreed.accepted channel listed
  have offered := accepted
  rw [slotScript_of_tables tabled] at offered
  cases resolved : request.resolve tables.slots with
  | none => simp [resolved] at offered
  | some config =>
      obtain rfl : some config.script = script := by simpa [resolved] using offered
      refine ⟨config, rfl, List.mem_filterMap.mpr ⟨channel, listed, ?_⟩⟩
      rw [accepted]

end Request

namespace Device

variable {payload : Payload} {stale : UInt8 → Tuning.Timing → Prop} {before after held : Device}
  {channel : UInt8} {tables : ChannelTables}

/-! ## The slot configuration in use -/

theorem slot_of_step (step : Step payload stale before after) : after.slot = before.slot := by
  cases step with
  | replayed channel timing =>
      rw [replay_eq]
      rfl
  | latched fault => rw [latchFault_eq]
  | ran | began | pulsed | changed | cancelled | scheduled | drove | counted | reported
  | remarked => rfl

/-- Work on channels keeps the slot configuration in use. -/
theorem slot_of_steps (steps : Steps payload stale before after) : after.slot = before.slot := by
  induction steps with
  | refl => rfl
  | tail _ last ih => exact (slot_of_step last).trans ih

/-- So does every operation but a negotiation. -/
theorem slot_perform {operation : Operation}
    (apart : ∀ slotWidth, operation ≠ .negotiate slotWidth) (device : Device) :
    (operation.perform device).slot = device.slot := by
  by_cases reads : ∃ channel, operation = .counters channel
  · obtain ⟨channel, rfl⟩ := reads
    exact Request.slot_counters channel device
  · have unread : ∀ channel, operation ≠ .counters channel := not_exists.mp reads
    have recounts := operation.recounts unread device
    generalize operation.looks device = looks at recounts
    cases recounts with
    | watched watches => exact watches.slot apart
    | installed asks _ watches => exact (watches.slot apart).trans (asks.slot apart)

theorem slot_after {operations : List Operation}
    (apart : ∀ operation ∈ operations, ∀ slotWidth, operation ≠ .negotiate slotWidth)
    (device : Device) : (device.after operations).slot = device.slot := by
  induction operations generalizing device with
  | nil => rfl
  | cons operation others ih =>
      obtain ⟨first, rest⟩ := List.forall_mem_cons.mp apart
      exact (ih rest _).trans (slot_perform first device)

/-! ## Carrying its script out again -/

/-- Carries out the script of a slot configuration, if there is one. -/
def sensing (channel : UInt8) : Option SlotConfig → Work
  | some config => run channel .slot config.script
  | none => Work.idle

/-- What is carried out on a channel whenever it is initialised or powered up again. -/
structure Rearms (payload : Payload) (channel : UInt8) (tables : ChannelTables)
    (armed : Option SlotConfig) (held : Device) : Prop where
  initialised : initialise payload channel held =
    Work.inOrder [
      run channel .initialisation tables.initialisation,
      applyFallbacks channel tables.audioInterface,
      sensing channel armed,
      replay payload channel .anytime] held
  poweredUp : (held.selection payload).capabilities &&& Profile.rearmBit ≠ 0 →
    powerUp payload channel held =
      Work.inOrder [
        beginPowerUp channel,
        maskInterrupts payload channel,
        Work.inOrder [clearInterrupts payload channel, sensing channel armed],
        applyProfile payload .beforePowerUp channel,
        replay payload channel .beforePowerUp,
        run channel .powerUp tables.power.powerUp,
        applyProfile payload .afterPowerUp channel,
        endPowerUp channel] held

theorem armSense_of_slot (same : after.slot = held.slot) :
    armSense payload channel after = sensing channel (held.slotInUse? payload channel) after := by
  have inUse : after.slotInUse? payload channel = held.slotInUse? payload channel := by
    rw [slotInUse?, same, slotInUse?]
  rw [armSense, inUse]
  cases held.slotInUse? payload channel <;> rfl

theorem slot_of_on {work : Work} (on : Work.On (fun _ => True) work) (device : Device) :
    (work device).1.slot = device.slot := by
  have counts : Work.Counts True work := .of_on on
  exact (counts device).slot trivial

theorem rearms (tabled : payload.channel? channel = some tables) (held : Device) :
    Rearms payload channel tables (held.slotInUse? payload channel) held where
  initialised := by
    have prefixed : Work.On (fun _ => True) (Work.inOrder [
        run channel .initialisation tables.initialisation,
        applyFallbacks channel tables.audioInterface]) :=
      .inOrder (List.forall_mem_cons.mpr ⟨.run trivial _ _,
        List.forall_mem_singleton.mpr (Work.on_applyFallbacks trivial _)⟩)
    have armed : armSense payload channel _ = _ := armSense_of_slot (slot_of_on prefixed held)
    rw [initialise, tabled]
    exact Work.inOrder_replace armed
  poweredUp := by
    intro capable
    let begun := (Work.inOrder [beginPowerUp channel, maskInterrupts payload channel] held).1
    have masks : Work.On (fun _ => True)
        (Work.inOrder [beginPowerUp channel, maskInterrupts payload channel]) :=
      .inOrder (List.forall_mem_cons.mpr ⟨Work.on_silent trivial .began,
        List.forall_mem_singleton.mpr (Work.on_maskInterrupts trivial)⟩)
    have clears : Work.On (fun _ => True) (Work.inOrder [clearInterrupts payload channel]) :=
      .inOrder (List.forall_mem_singleton.mpr (Work.on_clearInterrupts trivial))
    have armed : armSense payload channel _ = _ :=
      armSense_of_slot ((slot_of_on clears begun).trans (slot_of_on masks held))
    have sameProfile : begun.activeProfile = held.activeProfile :=
      (masks.confined held).beside.activeProfile
    have arms : rearmSense payload channel begun =
        Work.inOrder [clearInterrupts payload channel,
          sensing channel (held.slotInUse? payload channel)] begun := by
      have still : begun.selection payload = held.selection payload := by
        rw [selection, sameProfile, selection]
      rw [rearmSense, Work.reading_apply, still, if_pos capable]
      exact Work.inOrder_replace armed
    rw [powerUp, tabled]
    exact Work.inOrder_replace arms

/--
What a negotiation programs and what is carried out later. Each channel with audio interface tables
is programmed with the configuration that the request comes to in its own table. Whenever it is
initialised again, or powered up under a profile that arms sense data again, the first configuration
under the key of the last of these channels is carried out on it, if it has one. That is the
configuration it was programmed with if and only if the two keys are the same.
-/
theorem rearmed_by_last_key (config : Config) (firmware : FirmwareSource)
    (operations : List Operation) (payload : Payload)
    (ready : (reached config firmware operations).ready? = some payload) (slotWidth : UInt8)
    (key : SlotKey) (negotiated : Device)
    (agrees : Request.negotiate slotWidth (reached config firmware operations) =
      .ok key negotiated)
    (later : List Operation)
    (apart : ∀ operation ∈ later, ∀ slotWidth, operation ≠ .negotiate slotWidth) (held : Device)
    (worked : Steps payload (fun _ _ => True) (negotiated.after later) held) (channel : UInt8)
    (tables : ChannelTables) (interface : AudioInterface)
    (tabled : payload.channel? channel = some tables)
    (authored : tables.audioInterface = some interface) :
    let device := reached config firmware operations
    let request := Request.slotRequest payload slotWidth device
    let armed := interface.slots.find? fun config => config.key = key
    Request.Agreed payload request key device negotiated ∧
      ∃ chosen, request.resolve interface.slots = some chosen ∧
        (channel, chosen.script) ∈
          Request.found (Request.slotScript payload request) payload.allChannels ∧
        (armed = some chosen ↔ chosen.key = key) ∧
        Rearms payload channel tables armed held := by
  intro device request armed
  have agreed : Request.Agreed payload request key device negotiated :=
    Request.agreed_of_negotiate ready agrees
  have fitting := fitting_reached config firmware operations
  have shaped := (fitting payload (ready?_eq_some ready).2).shaped
  have interfaced : Request.interface? payload channel = some interface := by
    rw [Request.interface?, tabled]
    exact authored
  obtain ⟨chosen, resolved, programmed⟩ :=
    agreed.chosen (shaped.declared_of_tables tabled) interfaced
  have first := SlotRequest.find?_of_resolve resolved
  have kept : held.slot = some key := by
    rw [slot_of_steps worked, slot_after apart negotiated, agreed.left]
  have inUse : held.slotInUse? payload channel = armed := by
    simp only [slotInUse?, kept, tabled, authored, bind, Option.bind, armed]
  refine ⟨agreed, chosen, resolved, programmed, ⟨fun same => ?_, fun same => ?_⟩,
    inUse ▸ rearms tabled held⟩
  · have met := List.find?_some same
    exact of_decide_eq_true met
  · have there : armed = interface.slots.find? fun config => config.key = chosen.key := by
      rw [same]
    rw [there]
    exact first

/-- The last channel is powered up with the slot script that was negotiated for it. -/
theorem narrow_slot_rearmed :
    let device := reached .standard .uneven [.load 1]
    ∃ payload key negotiated tables config, device.ready? = some payload ∧
      Request.negotiate 16 device = .ok key negotiated ∧
      payload.channel? 1 = some tables ∧ config.key = key ∧
      config.script = Script.writing (Register.ofParts 0 0 0x31) 12 ∧
      Rearms payload 1 tables (some config)
        (negotiated.after [.selectProfile 1, .power 2 .active]) := by
  intro device
  have slots : (device.ready?.bind fun payload => (payload.channel? 1).bind fun tables =>
      tables.audioInterface.map fun interface =>
        interface.slots.map fun config => (config.key.text, config.script)) =
      some [("12_TDM_02_12_1", Script.writing (Register.ofParts 0 0 0x31) 12)] := by
    decide +kernel
  have answered : (match Request.negotiate 16 device with
      | .ok key _ => some key.text
      | .error _ _ => none) = some "12_TDM_02_12_1" := by decide +kernel
  obtain ⟨payload, ready, there⟩ := Option.bind_eq_some_iff.mp slots
  obtain ⟨tables, tabled, offered⟩ := Option.bind_eq_some_iff.mp there
  obtain ⟨interface, authored, slots⟩ := Option.map_eq_some_iff.mp offered
  obtain ⟨narrow, only, read⟩ := List.map_eq_singleton_iff.mp slots
  obtain ⟨text, script⟩ := Prod.mk.inj read
  cases agrees : Request.negotiate 16 device with
  | error error after => simp [agrees] at answered
  | ok key negotiated =>
      have told : key.text = "12_TDM_02_12_1" := by simpa [agrees] using answered
      have same : narrow.key = key := SlotKey.eq_of_text (text.trans told.symm)
      obtain ⟨_, chosen, _, _, _, rearms⟩ := rearmed_by_last_key .standard .uneven [.load 1]
        payload ready 16 key negotiated agrees [.selectProfile 1, .power 2 .active]
        (by simp) _ .refl 1 tables interface tabled authored
      have first : (interface.slots.find? fun config => config.key = key) = some narrow := by
        rw [only]
        exact List.find?_cons_of_pos (decide_eq_true same)
      rw [first] at rearms
      exact ⟨payload, key, negotiated, tables, narrow, ready, rfl, tabled, same, script, rearms⟩

/-- The first channel is powered up without the slot script that was negotiated for it. -/
theorem wide_slot_forgotten :
    let negotiated := reached .standard .uneven [.load 1, .negotiate 16]
    let playing := reached .standard .uneven
      [.load 1, .negotiate 16, .selectProfile 1, .power 1 .active]
    negotiated.bus.transport.calls =
        (reached .standard .uneven [.load 1]).bus.transport.calls ++
          [.write 0 (Register.ofParts 0 0 0x31) 16, .write 1 (Register.ofParts 0 0 0x31) 12] ∧
      playing.payload.map (fun payload => (playing.selection payload).capabilities) =
        some Profile.rearmBit ∧
      playing.bus.transport.calls =
        negotiated.bus.transport.calls ++ [.write 0 (Register.ofParts 0 0 0x02) 2] := by
  decide +kernel

end Device

end AmpControl
