import AmpControl.Proofs.Device.Attempts
import AmpControl.Proofs.Run.Restarts
import AmpControl.Proofs.Run.Undertaking

/-!
# Loads in a run

Only a load changes the load state, and a load that was begun is ended: no operation leaves a device
loading. An operation that loads first does nothing else where the load fails, but for a write by
name, which is kept.
-/

namespace AmpControl

open Tuning (Control Framing Payload Script Setting Variant)

/-- An operation that loads the image first if that was not done, and needs a payload to go on. -/
def Operation.LoadsFirst : Operation → Prop
  | .profileNames | .selectProfile _ | .power _ _ | .controls | .getControl _ | .putControl _ _
  | .applySetting _ _ | .setFraming _ | .negotiate _ => True
  | _ => False

namespace Device

variable {payload : Payload} {device before after : Device}

/-! ## Workers -/

theorem loadState_deferredTurn (kept : device.Kept) :
    device.deferredTurn.1.loadState = device.loadState := by
  cases ready : device.ready? with
  | some payload => exact (safe_deferredTurn (kept.of_ready ready).1 ready).frame.loadState
  | none =>
      rcases deferredTurn_of_not_ready ready with same | ⟨channel, dropped⟩
      · rw [same]
      · rw [dropped]
        rfl

theorem Turns.loadState (turns : Turns before after) (kept : before.Kept) :
    after.loadState = before.loadState := by
  induction turns with
  | refl => rfl
  | @tail middle last early turn ih =>
      have turns : Turns before middle := early
      have keptMiddle := (turns.moves.keeps kept).1
      refine Eq.trans ?_ ih
      cases turn with
      | waited => rfl
      | worked => exact loadState_deferredTurn keptMiddle

theorem loadState_handleInterrupt (kept : device.Kept) :
    device.handleInterrupt.1.loadState = device.loadState := by
  obtain same | ⟨payload, ready, surveyed⟩ := device.handleInterrupt_cases
  · rw [same]
  · obtain ⟨_, leads, _⟩ := survey_spec (kept.of_ready ready).1
    rw [surveyed]
    exact leads.loadState

/-- Deferred work up to a time. -/
theorem loadState_until (ending : Nat) (kept : device.Kept) :
    ((deferredUntil deferredPauses ending device).waitUntil ending).Kept ∧
      ((deferredUntil deferredPauses ending device).waitUntil ending).loadState =
        device.loadState := by
  have turns : Turns device ((deferredUntil deferredPauses ending device).waitUntil ending) :=
    (turns_deferredUntil _ _ _).trans (turns_waitUntil _ _)
  exact ⟨(turns.moves.keeps kept).1, turns.loadState kept⟩

theorem loadState_runFor (microseconds : Nat) (kept : device.Kept) :
    (device.runFor microseconds).loadState = device.loadState := by
  have begun : Moves device { device with notified := false } := moves_beside
  have keptBegun := (begun.keeps kept).1
  simp only [runFor]
  split
  · generalize device.clock + Bus.milliseconds device.config.debounceDelay.toNat = passTime
    obtain ⟨keptPass, untilPass⟩ := loadState_until passTime keptBegun
    have passed := loadState_handleInterrupt keptPass
    have recovery := (course_handleInterrupt .refl .refl).keeps keptPass
    have rest := (loadState_until (device.clock + microseconds) recovery.1).2
    exact (rest.trans passed).trans untilPass
  · exact (loadState_until _ keptBegun).2

end Device

namespace Request

variable {α β : Type} {payload : Payload} {device : Device}

/-! ## Requests -/

theorem loadState_bind {first : Request α} {next : α → Request β}
    (early : (first.leaves device).loadState = device.loadState)
    (late : ∀ value middle, first device = .ok value middle →
      ((next value).leaves middle).loadState = middle.loadState) :
    ((first >>= next).leaves device).loadState = device.loadState :=
  leaves_bind (fun after => after.loadState = device.loadState) early
    fun value middle outcome same => (late value middle outcome).trans same

/-- A request about the payload that is there. -/
theorem loadState_of_payload {next : Payload → Request α}
    (late : ∀ payload middle, ((next payload).leaves middle).loadState = middle.loadState) :
    ((Request.payload >>= next).leaves device).loadState = device.loadState := by
  apply loadState_bind
  · rw [leaves_payload]
  · exact fun payload middle _ => late payload middle

theorem ensureReady_of_ready (ready : device.loadState = .ready) :
    ensureReady device = .ok () device := if_pos ready

theorem ready_of_ensureReady {value : Unit} {after : Device}
    (ensured : ensureReady device = .ok value after) : after.loadState = .ready := by
  unfold ensureReady at ensured
  split at ensured
  · rename_i ready
    cases ensured
    exact ready
  · have loaded := Device.loaded_load device.config.lazyLoadTries device
    cases outcome : device.load device.config.lazyLoadTries with
    | mk installed answer =>
        rw [outcome] at ensured loaded
        cases answer with
        | error error => cases ensured
        | ok done =>
            cases ensured
            cases loaded
            rfl

theorem idle_ensureReady (idle : device.loadState ≠ .loading) :
    (ensureReady.leaves device).loadState ≠ .loading := by
  rw [leaves_ensureReady]
  split
  · exact idle
  · exact Device.loadState_load _ device

/-- A request that goes on with the payload, and leaves the load state as it finds it then. -/
theorem idle_with_payload (idle : device.loadState ≠ .loading) (kept : device.Kept)
    {next : Payload → Request α}
    (late : ∀ payload middle, middle.Kept → middle.ready? = some payload →
      ((next payload).leaves middle).loadState = middle.loadState) :
    ((loadedPayload >>= next).leaves device).loadState ≠ .loading := by
  have ended := idle_ensureReady idle
  have still := ((moves_loadedPayload device).keeps kept).1
  rw [← leaves_loadedPayload] at ended
  apply leaves_bind (fun after => after.loadState ≠ .loading) ended
  intro payload middle outcome idleMiddle
  rw [leaves_of_ok outcome] at still
  rw [late payload middle still (ready_of_loadedPayload outcome)]
  exact idleMiddle

theorem loadState_powered (kept : device.Kept) (ready : device.ready? = some payload)
    (mask : UInt8) (target : Power) :
    (powered payload mask target device).loadState = device.loadState := by
  obtain ⟨moves, frame⟩ : Device.Moves device (Work.each (wanted payload mask target device)
      (Device.transition payload target) device).1 ∧ _ :=
    moves_transitions ready (fun channel member => (unlocked_of_wanted member).1)
      fun channel member => (unlocked_of_wanted member).2
  have sound := ((moves.keeps kept).1.of_ready (frame.ready?.trans ready)).1
  simp only [powered]
  split
  · exact (Device.escalate_spec sound).1.loadState.trans frame.loadState
  · exact frame.loadState

/-- To dispatch a write changes neither stored values nor the load state. -/
theorem beside_dispatch (write : Control.Write) (device : Device) :
    Device.Beside device ((dispatch write).leaves device) := by
  unfold dispatch leaves
  cases write.outcome with
  | deferred => exact .refl device
  | applied =>
      have sent : Device.Beside device (Device.onBus write.carryOut
          (device.record (.dispatched write.id write.index))).1 := .of_parts
      simp only
      generalize Device.onBus write.carryOut _ = outcome at sent ⊢
      obtain ⟨after, fault⟩ := outcome
      cases fault with
      | none => exact sent
      | some fault => exact sent.trans ⟨Device.frame_latch _ (by simp) _, rfl, rfl, rfl⟩

theorem loadState_putControl (ready : device.ready? = some payload) (id : Nat) (value : Int) :
    ((putControl id value).leaves device).loadState = device.loadState := by
  rw [putControl, leaves_bind_ok (loadedPayload_of_ready ready), leaves_get_bind]
  cases Control.accept payload.controls id value (device.maskOf .active) with
  | error error => rfl
  | ok write =>
      have sent := beside_dispatch write { device with values := device.values.set id value }
      rw [← leaves_bind_pure (dispatch write) fun _ => write.outcome] at sent
      exact sent.loadState

theorem loadState_programAll (role : Role) (choose : UInt8 → Except DeviceError (Option Script))
    (channels : List UInt8) (fault : Option TransportFault) (device : Device) :
    ((programAll role choose channels fault).leaves device).loadState = device.loadState := by
  induction channels generalizing device fault with
  | nil => rfl
  | cons channel others ih =>
      unfold programAll
      cases choose channel with
      | error error => rfl
      | ok chosen =>
          cases chosen with
          | none => exact ih fault device
          | some script =>
              have ran : ((Device.run channel role script).leaves device).loadState =
                  device.loadState := (Device.frame_latchFault _ _).loadState
              exact (ih _ _).trans ran

theorem loadState_raise (fault : Option TransportFault) (device : Device) :
    ((raise fault).leaves device).loadState = device.loadState := by
  cases fault <;> rfl

/-! ## Requests that load first -/

theorem idle_selectProfile (idle : device.loadState ≠ .loading) (kept : device.Kept)
    (index : Nat) : ((selectProfile index).leaves device).loadState ≠ .loading := by
  apply idle_with_payload idle kept
  intro payload middle _ _
  rw [leaves_get_bind]
  cases (middle.selection payload).choose index <;> rfl

theorem idle_power (idle : device.loadState ≠ .loading) (kept : device.Kept) (mask : UInt8)
    (target : Power) : ((power mask target).leaves device).loadState ≠ .loading := by
  apply idle_with_payload idle kept
  intro payload middle keptMiddle ready
  have found := loadedPayload_of_ready ready
  have outcome := leaves_power found mask target
  rw [power, leaves_bind_ok found] at outcome
  rcases outcome with same | same
  · rw [same]
  · rw [same]
    exact loadState_powered keptMiddle ready mask target

theorem idle_getControl (idle : device.loadState ≠ .loading) (kept : device.Kept) (id : Nat) :
    ((getControl id).leaves device).loadState ≠ .loading := by
  apply idle_with_payload idle kept
  intro payload middle _ _
  rw [leaves_get_bind]
  cases middle.values[id]? <;> rfl

theorem idle_putControl (idle : device.loadState ≠ .loading) (kept : device.Kept) (id : Nat)
    (value : Int) : ((putControl id value).leaves device).loadState ≠ .loading := by
  apply idle_with_payload idle kept
  intro payload middle _ ready
  have wrote := loadState_putControl ready id value
  rwa [putControl, leaves_bind_ok (loadedPayload_of_ready ready)] at wrote

theorem loadState_putFound (name : String) (value : Int) (device : Device) :
    ((putFound name value).leaves device).loadState = device.loadState := by
  apply loadState_bind
  · rw [leaves_payload]
  · intro payload middle found
    cases Control.find? payload.controls name with
    | none => rfl
    | some id => exact loadState_putControl (ready_of_payload found) id value

theorem idle_putControlNamed (idle : device.loadState ≠ .loading) (name : String) (value : Int) :
    ((putControlNamed name value).leaves device).loadState ≠ .loading := by
  have ended := idle_ensureReady idle
  unfold leaves at ended
  unfold leaves putControlNamed
  cases outcome : ensureReady device with
  | error error after =>
      rw [outcome] at ended
      exact ended
  | ok value' after =>
      rw [outcome] at ended
      exact loadState_putFound name value after ▸ ended

theorem idle_applySetting (idle : device.loadState ≠ .loading) (kept : device.Kept)
    (setting : Setting) (variant : Variant) :
    ((applySetting setting variant).leaves device).loadState ≠ .loading := by
  apply idle_with_payload idle kept
  intro payload middle _ _
  apply loadState_bind
  · exact loadState_programAll _ _ _ _ middle
  · exact fun fault last _ => loadState_raise fault last

theorem idle_setFraming (idle : device.loadState ≠ .loading) (framing : Framing) :
    ((setFraming framing).leaves device).loadState ≠ .loading :=
  leaves_bind (fun after => after.loadState ≠ .loading) (idle_ensureReady idle)
    fun _ _ _ idleMiddle => idleMiddle

theorem idle_negotiate (idle : device.loadState ≠ .loading) (kept : device.Kept)
    (slotWidth : UInt8) : ((negotiate slotWidth).leaves device).loadState ≠ .loading := by
  apply idle_with_payload idle kept
  intro payload middle _ _
  rw [leaves_get_bind]
  apply loadState_bind
  · exact loadState_programAll _ _ _ _ middle
  · intro fault last _
    split
    · rfl
    · rename_i config _
      have raised := loadState_raise fault { last with slot := some config.key }
      rw [← leaves_bind_pure (raise fault) fun _ => config.key] at raised
      exact raised

theorem loadState_counters (channel : UInt8) (device : Device) :
    ((counters channel).leaves device).loadState = device.loadState := by
  apply loadState_of_payload
  intro payload middle
  cases payload.interrupts? channel with
  | none => rfl
  | some table =>
      rw [leaves_get_bind]
      cases middle.channel? channel <;> rfl

/-! ## Loads that fail -/

/-- Where loading on first use fails, a request that needs a payload ends. -/
theorem leaves_of_failure {after : Device} {error : DeviceError}
    (failed : ensureReady device = .error error after) (next : Payload → Request α) :
    ((loadedPayload >>= next).leaves device) = after := by
  simp only [leaves, loadedPayload, bind, EStateM.bind, failed]

theorem failed_ensureReady {after : Device} {error : DeviceError}
    (failed : ensureReady device = .error error after) : device.Failed after := by
  unfold ensureReady at failed
  split at failed
  · cases failed
  · cases outcome : device.load device.config.lazyLoadTries with
    | mk loaded answer =>
        rw [outcome] at failed
        cases answer with
        | ok done => cases failed
        | error reason =>
            have spared := Device.failed_load (congrArg Prod.snd outcome)
            rw [outcome] at spared
            cases failed
            exact spared

end Request

namespace Device

variable {device : Device}

/-! ## Operations -/

/-- No operation leaves a device loading. -/
theorem idle_perform (operation : Operation) (kept : device.Kept)
    (idle : device.loadState ≠ .loading) : (operation.perform device).loadState ≠ .loading := by
  have ended (tries : UInt32) : ((Request.load tries).leaves device).loadState ≠ .loading := by
    rw [Request.leaves_load]
    exact loadState_load tries device
  have left {after : Device} (same : after.loadState = device.loadState) :
      after.loadState ≠ .loading := same ▸ idle
  cases operation with
  | load tries => exact ended tries
  | probe => exact ended device.config.loadTries
  | profileNames => exact Request.idle_with_payload idle kept fun _ _ _ _ => rfl
  | selectProfile index => exact Request.idle_selectProfile idle kept index
  | capabilities => exact left (Request.loadState_of_payload fun _ _ => rfl)
  | channelAllowed channel => exact left (Request.loadState_of_payload fun _ _ => rfl)
  | power mask target => exact Request.idle_power idle kept mask target
  | handleInterrupt =>
      have passed := loadState_handleInterrupt kept
      rw [← Request.leaves_handleInterrupt] at passed
      exact left passed
  | counters channel => exact left (Request.loadState_counters channel device)
  | takeErrors => exact left rfl
  | runDeferred =>
      have turns : Turns device device.runDeferred.1 := turns_deferredTurns _ _ _
      exact left (turns.loadState kept)
  | controls => exact Request.idle_with_payload idle kept fun _ _ _ _ => rfl
  | getControl id => exact Request.idle_getControl idle kept id
  | putControl id value => exact Request.idle_putControl idle kept id value
  | putControlNamed name value => exact Request.idle_putControlNamed idle name value
  | applySetting setting variant => exact Request.idle_applySetting idle kept setting variant
  | setFraming framing => exact Request.idle_setFraming idle framing
  | negotiate slotWidth => exact Request.idle_negotiate idle kept slotWidth
  | algorithm => exact left (Request.loadState_of_payload fun _ _ => rfl)
  | runFor microseconds => exact left (loadState_runFor microseconds kept)
  | notify | wait | disturb | supply => exact left rfl

theorem idle_after (operations : List Operation) (kept : device.Kept)
    (idle : device.loadState ≠ .loading) : (device.after operations).loadState ≠ .loading := by
  induction operations generalizing device with
  | nil => exact idle
  | cons first others ih =>
      exact ih (kept_perform first kept).1 (idle_perform first kept idle)

/--
A load asks for the image until an answer holds a payload, or has a usable container with something
else in it, or the attempts, of which there is at least one, are used up; it pauses once between two
requests. In the first case the payload is installed without any further request, and the device is
ready; in the others the error is that of the last answer, where no image counts as an empty one.
Nothing that can happen to a device leaves it loading.
-/
theorem load_protocol :
    (∀ (tries : UInt32) (device : Device), ∃ after answer,
      Loaded { device with loadState := .loading } (max tries.toNat 1) after answer ∧
      Request.load tries device = match answer with
        | .ok () => .ok () after
        | .error error => .error (.image error) after) ∧
    (∀ (repeats : Nat) (device : Device), device.asking repeats = { device with
      firmware := device.firmware.asked device.config.firmwareName (repeats + 1)
      bus := device.bus.wait (repeats * device.retryPause) }) ∧
    (∀ (device : Device) (place : Nat), device.firmware.answer place = none →
      device.verdict place = .error (.container .empty)) ∧
    (∀ (payload : Payload) (device : Device), (device.install payload).loadState = .ready ∧
      (device.install payload).firmware = device.firmware) ∧
    ∀ (config : Config) (firmware : FirmwareSource) (operations : List Operation),
      (reached config firmware operations).loadState ≠ .loading := by
  refine ⟨fun tries device => ?_, asking_eq, fun device place absent => ?_,
    fun payload device => ⟨loadState_install payload device, firmware_install payload device⟩, ?_⟩
  · refine ⟨_, _, loaded_load tries device, ?_⟩
    unfold Request.load
    rcases device.load tries with ⟨after, error | _⟩ <;> rfl
  · rw [verdict, absent]
    rfl
  · intro config firmware operations
    exact idle_after operations (kept_initial config firmware) (by simp [initial])

/-- Where the second request is the first that is answered, a device is ready after one pause. -/
example :
    let loaded := reached .standard { FirmwareSource.small with queued := [none] } [.load 3]
    loaded.loadState = .ready ∧ loaded.firmware.requests.length = 2 ∧ loaded.clock = 100000 := by
  decide +kernel

/--
A load that fails, also on first use, does nothing but to ask the source, to let time pass, and to
say so in the load state. An operation that loads first ends there. Only a write by name is kept.
-/
theorem failed_loads_invisible (device : Device) :
    (∀ tries error, (device.load tries).2 = .error error →
      device.Failed ((Operation.load tries).perform device)) ∧
    ∀ error after, Request.ensureReady device = .error error after →
      device.Failed after ∧
      (∀ operation : Operation, operation.LoadsFirst → operation.perform device = after) ∧
      ∀ name value, (Operation.putControlNamed name value).perform device =
        { after with cachedWrites :=
            (after.cachedWrites.filter fun entry => entry.1 != name) ++ [(name, value)] } := by
  refine ⟨fun tries error failed => ?_, fun error after failed => ⟨?_, ?_, ?_⟩⟩
  · rw [Operation.perform, Request.leaves_load]
    exact failed_load failed
  · exact Request.failed_ensureReady failed
  · intro operation first
    cases operation with
    | profileNames | selectProfile | power | controls | getControl | putControl | applySetting
    | negotiate => exact Request.leaves_of_failure failed _
    | setFraming framing =>
        simp only [Operation.perform, Request.leaves, Request.setFraming, bind, EStateM.bind,
          failed]
    | _ => exact first.elim
  · intro name value
    simp only [Operation.perform, Request.leaves, Request.putControlNamed, failed]
    rfl

/-- A channel plays, its deferred work is still to come, and the image is gone. -/
def playingWithoutImage : List Operation :=
  [.load 1, .power 1 .active, .supply (.new none)]

/-- The channel plays on after a load that failed, and its deferred work still waits. -/
theorem failed_reload_spares_channel :
    (reached .standard .small playingWithoutImage).Failed
        (reached .standard .small (playingWithoutImage ++ [.load 1])) ∧
      (reached .standard .small (playingWithoutImage ++ [.load 1])).loadState = .loadFailed ∧
      (reached .standard .small (playingWithoutImage ++ [.load 1])).power 0 = .active ∧
      (reached .standard .small (playingWithoutImage ++ [.load 1])).waiting 0 = true := by
  have failed := (failed_loads_invisible (reached .standard .small playingWithoutImage)).1 1
    (.container .empty) (by decide +kernel)
  have performed : reached .standard .small (playingWithoutImage ++ [.load 1]) =
      (Operation.load 1).perform (reached .standard .small playingWithoutImage) :=
    after_append playingWithoutImage [.load 1] _
  rw [← performed] at failed
  refine ⟨failed, ?_, ?_, ?_⟩ <;> decide +kernel

end Device

end AmpControl
