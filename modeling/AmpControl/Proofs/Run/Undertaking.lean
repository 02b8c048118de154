import AmpControl.Proofs.Device.Refusal
import AmpControl.Proofs.Run.Invariant

/-!
# Operations as conduct

An operation loads the image first if it has to. The rest of it is conduct with the payload that is
in place then, unless the operation only changes what nothing on the bus comes of.
-/

namespace AmpControl

open Tuning (Control Framing Payload Script Setting Variant)

namespace Device

/-- What loading comes to: quiet attempts, and the installation at the end unless all fail. -/
inductive Loads (before : Device) : Device → Prop where
  | asked {after : Device} (asks : ∀ place, Conduct place before after none) : Loads before after
  | installed {asked : Device} {payload : Payload} (asks : ∀ place, Conduct place before asked none)
      (shaped : payload.Shaped) : Loads before (asked.install payload)

/-- What an operation comes to, unless it is a change of the transport from outside. -/
inductive Undertakes (before : Device) : Device → Prop where
  | done {middle after : Device} (loads : Loads before middle)
      (conduct : Conduct after.payload middle after none) : Undertakes before after
  /-- The image could not be loaded, and a write waits for it. -/
  | cached {middle : Device} (loads : Loads before middle) (writes : List (String × Int)) :
      Undertakes before { middle with cachedWrites := writes }
  | forgot {errors : ErrorCode} : Undertakes before { before with errors := errors }

variable {place : Option Payload} {payload : Payload} {device before middle after : Device}

/-- What neither calls nor records may change. -/
theorem conduct_beside {firmware : FirmwareSource} {loadState : LoadState} {activeProfile : Nat}
    {framing : Framing} {slot : Option Tuning.SlotKey} {notified : Bool} :
    Conduct place device
      { device with
        firmware := firmware
        loadState := loadState
        activeProfile := activeProfile
        framing := framing
        slot := slot
        notified := notified } none :=
  .quiet (.of_same rfl rfl rfl rfl rfl rfl)

namespace Loads

theorem after_asking (asks : ∀ place, Conduct place before middle none)
    (loads : Loads middle after) : Loads before after := by
  cases loads with
  | asked later => exact .asked fun place => (asks place).trans (later place)
  | installed later shaped =>
      exact .installed (fun place => (asks place).trans (later place)) shaped

theorem refl (device : Device) : Loads device device := .asked fun _ => .idle none

end Loads

theorem loads_attempt (tries : Nat) (last : Tuning.ImageError) (device : Device) :
    Loads device (attempt tries last device).1 := by
  induction tries generalizing last device with
  | zero => exact .asked fun _ => conduct_beside
  | succ tries ih =>
      unfold attempt
      have fetched (place : Option Payload) : Conduct place device device.fetch.1 none :=
        conduct_beside
      cases outcome : device.fetch with
      | mk asked answer =>
          rw [outcome] at fetched
          cases answer with
          | ok payload => exact .installed fetched (shaped_fetch (congrArg Prod.snd outcome))
          | error error =>
              simp only
              by_cases again : error.isRetryable = true
              · rw [if_pos again]
                refine .after_asking fetched (.after_asking (fun place => ?_) (ih error _))
                split
                · exact .idle none
                · exact .waited _
              · rw [if_neg again]
                exact .asked fun place => (fetched place).trans conduct_beside

theorem loads_load (tries : UInt32) (device : Device) : Loads device (device.load tries).1 :=
  .after_asking (fun _ => conduct_beside) (loads_attempt _ _ _)

namespace Undertakes

theorem of_loads (loads : Loads before after) : Undertakes before after := .done loads (.idle none)

/-- Conduct with the payload that was in place from the beginning. -/
theorem of_conduct (loads : Loads before middle) (inPlace : middle.payload = place)
    (conduct : Conduct place middle after none) : Undertakes before after := by
  refine .done loads ?_
  rwa [conduct.keeps_payload, inPlace]

end Undertakes

theorem Kept.shaped (kept : device.Kept) (ready : device.ready? = some payload) :
    payload.Shaped := (kept.of_ready ready).1.shaped

/-! ## Workers -/

theorem conduct_handleInterrupt (kept : device.Kept) :
    Conduct device.payload device device.handleInterrupt.1 none := by
  obtain same | ⟨payload, ready, surveyed⟩ := device.handleInterrupt_cases
  · rw [same]
    exact .idle none
  · rw [surveyed, (ready?_eq_some ready).2]
    exact conduct_survey (kept.shaped ready) device

/-- Deferred work up to a time. -/
theorem conduct_until (ending : Nat) (device : Device) :
    Conduct place device ((deferredUntil deferredPauses ending device).waitUntil ending) none :=
  (conduct_deferredUntil _ _ _).trans (.waited _)

theorem conduct_runFor (kept : device.Kept) (microseconds : Nat) :
    Conduct device.payload device (device.runFor microseconds) none := by
  have begun : Conduct device.payload device { device with notified := false } none :=
    conduct_beside
  simp only [runFor]
  split
  · generalize device.clock + Bus.milliseconds device.config.debounceDelay.toNat = passTime
    have pauses : Conduct device.payload device ((deferredUntil deferredPauses passTime
        { device with notified := false }).waitUntil passTime) none :=
      begun.trans (conduct_until passTime _)
    have turns : Turns { device with notified := false } ((deferredUntil deferredPauses passTime
        { device with notified := false }).waitUntil passTime) :=
      (turns_deferredUntil _ _ _).trans (turns_waitUntil _ _)
    have moves : Moves device _ := moves_beside.trans turns.moves
    have recovered := conduct_handleInterrupt (moves.keeps kept).1
    rw [pauses.keeps_payload] at recovered
    exact (pauses.trans recovered).trans (conduct_until _ _)
  · exact begun.trans (conduct_until _ _)

end Device

namespace Request

open Device (Conduct Loads Undertakes conduct_beside loads_load)

variable {α β : Type} {place : Option Payload} {payload : Payload} {device middle : Device}

/-! ## Sequences -/

theorem conduct_bind {first : Request α} {next : α → Request β}
    (early : Conduct place device (first.leaves device) none)
    (late : ∀ value middle, first device = .ok value middle →
      Conduct place middle ((next value).leaves middle) none) :
    Conduct place device ((first >>= next).leaves device) none := by
  unfold leaves at early ⊢
  simp only [bind, EStateM.bind]
  cases outcome : first device with
  | ok value middle =>
      rw [outcome] at early
      exact early.trans (late value middle outcome)
  | error error middle =>
      rw [outcome] at early
      exact early

theorem undertakes_load (tries : UInt32) (device : Device) :
    Undertakes device ((load tries).leaves device) := by
  rw [leaves_load]
  exact .of_loads (loads_load tries device)

theorem loads_ensureReady (device : Device) : Loads device (ensureReady.leaves device) := by
  rw [leaves_ensureReady]
  split
  · exact .refl device
  · exact loads_load _ device

theorem leaves_loadedPayload (device : Device) :
    loadedPayload.leaves device = ensureReady.leaves device := by
  unfold leaves
  simp only [loadedPayload, bind, EStateM.bind]
  cases ensureReady device with
  | error error middle => rfl
  | ok value middle =>
      have same := leaves_payload middle
      unfold leaves at same
      exact same

/-- A request that goes on with the payload is conduct with it, once the image is loaded. -/
theorem undertakes_with_payload (kept : device.Kept) {next : Payload → Request α}
    (late : ∀ payload middle, payload.Shaped → middle.ready? = some payload →
      Conduct (some payload) middle ((next payload).leaves middle) none) :
    Undertakes device ((loadedPayload >>= next).leaves device) := by
  have loads := loads_ensureReady device
  have still := ((moves_loadedPayload device).keeps kept).1
  rw [← leaves_loadedPayload] at loads
  cases outcome : loadedPayload device with
  | error error middle =>
      have same : (loadedPayload >>= next).leaves device = loadedPayload.leaves device := by
        simp only [leaves, bind, EStateM.bind, outcome]
      rw [same]
      exact .of_loads loads
  | ok payload middle =>
      have ready := ready_of_loadedPayload outcome
      rw [leaves_of_ok outcome] at loads still
      rw [leaves_bind_ok outcome]
      exact .of_conduct loads (Device.ready?_eq_some ready).2
        (late payload middle (still.shaped ready) ready)

/-- A request that asks for the payload that is there. -/
theorem conduct_of_payload {next : Payload → Request α}
    (late : ∀ payload, Conduct place device ((next payload).leaves device) none) :
    Conduct place device ((Request.payload >>= next).leaves device) none := by
  refine conduct_bind ?_ fun payload middle outcome => ?_
  · rw [leaves_payload]
    exact .idle none
  · have same : middle = device := (leaves_of_ok outcome).symm.trans (leaves_payload device)
    rw [same]
    exact late payload

/-! ## Power -/

theorem conduct_powered (shaped : payload.Shaped) (mask : UInt8) (target : Power)
    (device : Device) :
    Conduct place device (powered payload mask target device) none := by
  have moved : Conduct place device (Work.each (wanted payload mask target device)
      (Device.transition payload target) device).1 none := by
    refine Work.settles_each (fun channel member => ?_) device
    have small := shaped.lt_eight (unlocked_of_wanted member).1
    exact (Device.settles_transition small target).conducted
  simp only [powered]
  split
  · exact moved.trans (Device.conduct_escalate shaped _)
  · exact moved

theorem undertakes_power (kept : device.Kept) (mask : UInt8) (target : Power) :
    Undertakes device ((power mask target).leaves device) := by
  refine undertakes_with_payload kept fun payload middle shaped ready => ?_
  have found := loadedPayload_of_ready ready
  have outcome := leaves_power found mask target
  rw [power, leaves_bind_ok found] at outcome
  obtain same | same := outcome
  · rw [same]
    exact .idle none
  · rw [same]
    exact conduct_powered shaped mask target middle

/-! ## Questions and changes beside the channels -/

theorem undertakes_selectProfile (kept : device.Kept) (index : Nat) :
    Undertakes device ((selectProfile index).leaves device) := by
  refine undertakes_with_payload kept fun payload middle shaped ready => ?_
  rw [leaves_get_bind]
  cases (middle.selection payload).choose index with
  | ok chosen => exact conduct_beside
  | error error => exact .idle none

theorem undertakes_setFraming (framing : Framing) (device : Device) :
    Undertakes device ((setFraming framing).leaves device) := by
  have loads := loads_ensureReady device
  unfold leaves setFraming at *
  simp only [bind, EStateM.bind]
  cases outcome : ensureReady device with
  | ok value middle =>
      rw [outcome] at loads
      exact .done loads conduct_beside
  | error error middle =>
      rw [outcome] at loads
      exact .of_loads loads

theorem undertakes_getControl (kept : device.Kept) (id : Nat) :
    Undertakes device ((getControl id).leaves device) := by
  refine undertakes_with_payload kept fun payload middle shaped ready => ?_
  rw [leaves_get_bind]
  cases middle.values[id]? <;> exact .idle none

theorem conduct_counters (channel : UInt8) (device : Device) :
    Conduct place device ((counters channel).leaves device) none := by
  refine conduct_of_payload fun payload => ?_
  cases payload.interrupts? channel with
  | none => exact .idle none
  | some table =>
      rw [leaves_get_bind]
      cases device.channel? channel with
      | none => exact .idle none
      | some state => exact .quiet (Device.quiet_onChannel _ _ _)

theorem conduct_runDeferred (device : Device) :
    Conduct place device (runDeferred.leaves device) none := by
  have turns : Conduct place device device.runDeferred.1 none := Device.conduct_deferredTurns _ _ _
  unfold leaves runDeferred
  cases outcome : device.runDeferred with
  | mk after ran =>
      rw [outcome] at turns
      exact turns

theorem leaves_handleInterrupt (device : Device) :
    handleInterrupt.leaves device = device.handleInterrupt.1 := by
  unfold leaves handleInterrupt
  cases device.handleInterrupt with
  | mk after answer => cases answer <;> rfl

/-! ## Control writes -/

theorem conduct_dispatch {write : Control.Write} (small : write.control.channel < 8)
    (device : Device) : Conduct place device ((dispatch write).leaves device) none := by
  unfold dispatch leaves
  cases write.outcome with
  | deferred => exact .idle none
  | applied =>
      have errand := Bus.errand_write write device.bus
      have sent : Conduct place device
          (Device.onBus write.carryOut (device.record (.dispatched write.id write.index))).1
          (Device.onBus write.carryOut (device.record (.dispatched write.id write.index))).2 :=
        .trans (.quiet (Device.quiet_record _ device)) (.errand small errand)
      have met : (Device.onBus write.carryOut
          (device.record (.dispatched write.id write.index))).2 = (write.carryOut device.bus).2 :=
        rfl
      simp only
      generalize Device.onBus write.carryOut _ = outcome at sent met ⊢
      obtain ⟨after, fault⟩ := outcome
      cases fault with
      | none => exact sent
      | some fault =>
          rw [← errand.reported fault met.symm] at small
          have latched := sent.latched
          rw [Device.latchFault_of_small small] at latched
          exact latched

/-- Writing a control of a payload that is ready. -/
theorem conduct_putControl (shaped : payload.Shaped) (ready : device.ready? = some payload)
    (id : Nat) (value : Int) :
    Conduct place device ((putControl id value).leaves device) none := by
  rw [putControl, leaves_bind_ok (loadedPayload_of_ready ready), leaves_get_bind]
  cases accepted : Control.accept payload.controls id value (device.maskOf .active) with
  | error error => exact .idle none
  | ok write =>
      obtain ⟨_, found, _, _⟩ := Control.accept_eq_ok accepted
      have small := shaped.lt_eight (shaped.control_declared (List.mem_of_getElem? found))
      have stored : Conduct place device { device with values := device.values.set id value }
          none := .quiet (.of_same rfl rfl rfl rfl rfl rfl)
      have sent : Conduct place { device with values := device.values.set id value } _ none :=
        conduct_dispatch small _
      rw [← leaves_bind_pure (dispatch write) fun _ => write.outcome] at sent
      exact stored.trans sent

theorem undertakes_putControl (kept : device.Kept) (id : Nat) (value : Int) :
    Undertakes device ((putControl id value).leaves device) := by
  refine undertakes_with_payload kept fun payload middle shaped ready => ?_
  have wrote : Conduct (some payload) middle ((putControl id value).leaves middle) none :=
    conduct_putControl shaped ready id value
  rwa [putControl, leaves_bind_ok (loadedPayload_of_ready ready)] at wrote

/-- Writing a control by name, once there is a payload or there is none. -/
theorem conduct_putFound (kept : device.Kept) (name : String) (value : Int) :
    Conduct place device ((putFound name value).leaves device) none := by
  refine conduct_bind ?_ fun payload middle found => ?_
  · rw [leaves_payload]
    exact .idle none
  · have same : middle = device := by
      have here := leaves_payload device
      rwa [leaves, found] at here
    rw [same] at found ⊢
    have ready := ready_of_payload found
    cases Control.find? payload.controls name with
    | none => exact .idle none
    | some id => exact conduct_putControl (kept.shaped ready) ready id value

theorem undertakes_putControlNamed (kept : device.Kept) (name : String) (value : Int) :
    Undertakes device ((putControlNamed name value).leaves device) := by
  have loads := loads_ensureReady device
  have still := ((moves_ensureReady device).keeps kept).1
  unfold leaves at loads still
  unfold leaves putControlNamed
  cases outcome : ensureReady device with
  | error error after =>
      rw [outcome] at loads
      exact .cached loads _
  | ok value' after =>
      rw [outcome] at loads still
      exact .of_conduct loads rfl (conduct_putFound still name value)

/-! ## Audio interface -/

theorem conduct_programAll {role : Role} {choose : UInt8 → Except DeviceError (Option Script)}
    {channels : List UInt8} (small : ∀ channel ∈ channels, channel < 8)
    (fault : Option TransportFault) (device : Device) :
    Conduct place device ((programAll role choose channels fault).leaves device) none := by
  induction channels generalizing device fault with
  | nil => exact .idle none
  | cons channel others ih =>
      have late := ih fun channel member => small channel (List.mem_cons_of_mem _ member)
      unfold programAll
      cases choose channel with
      | error error => exact .idle none
      | ok chosen =>
          cases chosen with
          | none => exact late fault device
          | some script =>
              have ran : Conduct place device ((Device.run channel role script).leaves device)
                  none :=
                (Device.conducted_run (small channel List.mem_cons_self) role script).leaves device
              exact ran.trans (late _ _)

theorem conduct_raise (fault : Option TransportFault) (device : Device) :
    Conduct place device ((raise fault).leaves device) none := by
  cases fault <;> exact .idle none

theorem undertakes_applySetting (kept : device.Kept) (setting : Setting) (variant : Variant) :
    Undertakes device ((applySetting setting variant).leaves device) := by
  refine undertakes_with_payload kept fun payload middle shaped ready => ?_
  refine conduct_bind (conduct_programAll
    (fun channel listed => Device.small_of_listed shaped listed) _ _) ?_
  exact fun fault last _ => conduct_raise fault last

theorem undertakes_negotiate (kept : device.Kept) (slotWidth : UInt8) :
    Undertakes device ((negotiate slotWidth).leaves device) := by
  refine undertakes_with_payload kept fun payload middle shaped ready => ?_
  refine conduct_bind (.idle none) fun held same answer => ?_
  cases answer
  refine conduct_bind (conduct_programAll
    (fun channel listed => Device.small_of_listed shaped listed) _ _) ?_
  intro fault last _
  split
  · exact .idle none
  · refine conduct_bind conduct_beside fun _ next _ => ?_
    exact conduct_bind (conduct_raise fault _) fun _ _ _ => .idle none

end Request

/-- What every operation comes to. -/
theorem Operation.undertakes (operation : Operation) {device : Device} (kept : device.Kept) :
    (∃ change, operation = .disturb change) ∨
      Device.Undertakes device (operation.perform device) := by
  have conducted {after : Device} (conduct : Device.Conduct device.payload device after none) :
      (∃ change, operation = .disturb change) ∨ Device.Undertakes device after :=
    .inr (.of_conduct (.refl device) rfl conduct)
  have asked {α : Type} {next : Payload → Request α} (same : ∀ payload middle,
      (next payload).leaves middle = middle) : (∃ change, operation = .disturb change) ∨
      Device.Undertakes device ((Request.loadedPayload >>= next).leaves device) :=
    .inr (Request.undertakes_with_payload kept fun payload middle _ _ => by
      rw [same]
      exact .idle none)
  cases operation with
  | load tries => exact .inr (Request.undertakes_load tries device)
  | probe => exact .inr (Request.undertakes_load device.config.loadTries device)
  | profileNames => exact asked fun _ _ => rfl
  | selectProfile index => exact .inr (Request.undertakes_selectProfile kept index)
  | capabilities => exact conducted (Request.conduct_of_payload fun _ => .idle none)
  | channelAllowed channel => exact conducted (Request.conduct_of_payload fun _ => .idle none)
  | power mask target => exact .inr (Request.undertakes_power kept mask target)
  | handleInterrupt =>
      have passed := Device.conduct_handleInterrupt kept
      rw [← Request.leaves_handleInterrupt] at passed
      exact conducted passed
  | counters channel => exact conducted (Request.conduct_counters channel device)
  | takeErrors => exact .inr .forgot
  | runDeferred => exact conducted (Request.conduct_runDeferred device)
  | controls => exact asked fun _ _ => rfl
  | getControl id => exact .inr (Request.undertakes_getControl kept id)
  | putControl id value => exact .inr (Request.undertakes_putControl kept id value)
  | putControlNamed name value => exact .inr (Request.undertakes_putControlNamed kept name value)
  | applySetting setting variant =>
      exact .inr (Request.undertakes_applySetting kept setting variant)
  | setFraming framing => exact .inr (Request.undertakes_setFraming framing device)
  | negotiate slotWidth => exact .inr (Request.undertakes_negotiate kept slotWidth)
  | algorithm => exact conducted (Request.conduct_of_payload fun _ => .idle none)
  | runFor microseconds => exact conducted (Device.conduct_runFor kept microseconds)
  | wait microseconds => exact conducted (.waited microseconds)
  | disturb change => exact .inl ⟨change, rfl⟩
  | notify | supply => exact conducted Device.conduct_beside

end AmpControl
