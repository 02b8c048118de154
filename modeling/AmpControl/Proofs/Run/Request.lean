import AmpControl.Proofs.Run.Move

/-!
# Requests as moves

A request is a row of moves, whether it is fulfilled or not, because its parts are.
-/

namespace AmpControl

open Tuning (AudioInterface Control Framing Payload Script Setting Variant)

namespace Request

open Device (Aside Course Frame Move Moves moves_aside moves_beside)

variable {α β : Type} {device after : Device} {payload : Payload}

/-- What a request leaves behind is what its first part does if that fails. -/
theorem leaves_bind {first : Request α} {next : α → Request β} (holds : Device → Prop)
    (early : holds (first.leaves device))
    (late : ∀ value middle, first device = .ok value middle → holds middle →
      holds ((next value).leaves middle)) :
    holds ((first >>= next).leaves device) := by
  unfold leaves at early ⊢
  simp only [bind, EStateM.bind]
  cases outcome : first device with
  | ok value middle =>
      rw [outcome] at early
      exact late value middle outcome early
  | error error middle =>
      rw [outcome] at early
      exact early

/-- A request of two parts is a row of moves if both of them are. -/
theorem moves_bind {first : Request α} {next : α → Request β}
    (early : Moves device (first.leaves device))
    (late : ∀ value middle, first device = .ok value middle →
      Moves middle ((next value).leaves middle)) :
    Moves device ((first >>= next).leaves device) :=
  leaves_bind (Moves device) early fun value middle outcome moved =>
    moved.trans (late value middle outcome)

theorem leaves_of_ok {request : Request α} {value : α} (outcome : request device = .ok value after) :
    request.leaves device = after := by
  simp only [leaves, outcome]

theorem bind_ok {first : Request α} {value : α} {middle : Device}
    (outcome : first device = .ok value middle) (next : α → Request β) :
    (first >>= next) device = next value middle := by
  simp only [bind, EStateM.bind, outcome]

theorem leaves_bind_ok {first : Request α} {next : α → Request β} {value : α} {middle : Device}
    (outcome : first device = .ok value middle) :
    (first >>= next).leaves device = (next value).leaves middle := by
  rw [leaves, bind_ok outcome, leaves]

/-- A request that first looks at the device goes on with it. -/
theorem get_bind (next : Device → Request β) (device : Device) :
    (get >>= next) device = next device device := rfl

theorem leaves_get_bind (next : Device → Request β) (device : Device) :
    (get >>= next).leaves device = (next device).leaves device := rfl

/-- What is left behind does not depend on the answer that is made in the end. -/
theorem leaves_bind_pure (first : Request α) (answer : α → β) (device : Device) :
    (first >>= fun value => pure (answer value)).leaves device = first.leaves device := by
  unfold leaves
  simp only [bind, EStateM.bind]
  cases first device <;> rfl

theorem leaves_load (tries : UInt32) (device : Device) :
    (load tries).leaves device = (device.load tries).1 := by
  unfold leaves load
  rcases device.load tries with ⟨after, error | _⟩ <;> rfl

/-- Loading on first use is a load, or nothing. -/
theorem leaves_ensureReady (device : Device) :
    ensureReady.leaves device = if device.loadState = .ready then device
      else (device.load device.config.lazyLoadTries).1 := by
  unfold leaves ensureReady
  by_cases ready : device.loadState = .ready
  · simp only [if_pos ready]
  · simp only [if_neg ready]
    rcases device.load device.config.lazyLoadTries with ⟨after, error | _⟩ <;> rfl

theorem moves_load (tries : UInt32) (device : Device) :
    Moves device ((load tries).leaves device) := by
  rw [leaves_load]
  exact Device.moves_load tries device

theorem moves_ensureReady (device : Device) : Moves device (ensureReady.leaves device) := by
  rw [leaves_ensureReady]
  split
  · exact .refl
  · exact Device.moves_load _ device

theorem leaves_payload (device : Device) : Request.payload.leaves device = device := by
  unfold leaves Request.payload
  cases device.ready? <;> rfl

theorem payload_of_ready (ready : device.ready? = some payload) :
    Request.payload device = .ok payload device := by
  rw [Request.payload, ready]

theorem payload_of_unready (unready : device.ready? = none) :
    Request.payload device = .error (.notReady device.loadState) device := by
  rw [Request.payload, unready]

theorem ready_of_payload (found : Request.payload device = .ok payload after) :
    after.ready? = some payload := by
  unfold Request.payload at found
  cases ready : device.ready? with
  | none => rw [ready] at found; cases found
  | some held => rw [ready] at found; cases found; exact ready

theorem moves_payload (device : Device) : Moves device (Request.payload.leaves device) := by
  rw [leaves_payload]
  exact .refl

theorem moves_loadedPayload (device : Device) : Moves device (loadedPayload.leaves device) :=
  moves_bind (moves_ensureReady device) fun _ middle _ => moves_payload middle

theorem ready_of_loadedPayload (found : loadedPayload device = .ok payload after) :
    after.ready? = some payload := by
  simp only [loadedPayload, bind, EStateM.bind] at found
  cases outcome : ensureReady device with
  | ok value middle => rw [outcome] at found; exact ready_of_payload found
  | error error middle => rw [outcome] at found; cases found

/-- A ready device loads nothing. -/
theorem loadedPayload_of_ready (ready : device.ready? = some payload) :
    loadedPayload device = .ok payload device := by
  have isReady := (Device.ready?_eq_some ready).1
  simp only [loadedPayload, bind, EStateM.bind, ensureReady, if_pos isReady, Request.payload, ready]

/-- A request that goes on with the payload is a row of moves if it is one for a ready device. -/
theorem moves_with_payload {next : Payload → Request α}
    (late : ∀ payload middle, middle.ready? = some payload →
      Moves middle ((next payload).leaves middle)) (device : Device) :
    Moves device ((loadedPayload >>= next).leaves device) :=
  moves_bind (moves_loadedPayload device) fun payload middle found =>
    late payload middle (ready_of_loadedPayload found)

/-! ## Power -/

theorem moves_transitions {target : Power} {channels : List UInt8}
    (ready : device.ready? = some payload)
    (declared : ∀ channel ∈ channels, channel < payload.channelCount)
    (unlocked : ∀ channel ∈ channels, target ≠ .shutdown → device.locked channel = false) :
    Moves device (Work.each channels (Device.transition payload target) device).1 ∧
      Frame device (Work.each channels (Device.transition payload target) device).1 := by
  refine Work.keeps_inOrder (fun held => Moves device held ∧ Frame device held) ?_
    ⟨.refl, Frame.refl device⟩
  rintro part member held ⟨sofar, frame⟩
  obtain ⟨channel, listed, rfl⟩ := List.mem_map.mp member
  have unlockedHeld (powered : target ≠ .shutdown) : held.locked channel = false :=
    (frame.locked channel).trans (unlocked channel listed powered)
  have steps : Device.Steps payload (fun _ _ => True) held
      ((Device.transition payload target channel).leaves held) :=
    Device.steps_leaves (Device.steps_transition unlockedHeld fun _ _ => trivial)
  have move : Move held ((Device.transition payload target channel).leaves held) :=
    .transitioned (frame.ready?.trans ready) (declared channel listed) unlockedHeld
  exact ⟨sofar.tail move, frame.trans steps.frame⟩

/-- The channels of a mask that the selected profile has. -/
def selected (payload : Payload) (mask : UInt8) (device : Device) : UInt8 :=
  mask &&& (device.selection payload).channelMask

/-- The channels that a power request moves: none that is locked, unless they are shut down. -/
def wanted (payload : Payload) (mask : UInt8) (target : Power) (device : Device) : List UInt8 :=
  Channel.among (if target = .shutdown then selected payload mask device
    else selected payload mask device &&& ~~~device.lockedOut) payload.channelCount

theorem unlocked_of_wanted {mask channel : UInt8} {target : Power}
    (member : channel ∈ wanted payload mask target device) :
    channel < payload.channelCount ∧ (target ≠ .shutdown → device.locked channel = false) := by
  obtain ⟨declared, chosen⟩ := Channel.mem_among.mp member
  refine ⟨declared, fun powered => ?_⟩
  have small := Channel.small_of_within chosen
  rw [if_neg powered, Channel.within_and, Channel.within_not _ small] at chosen
  exact (Bool.not_eq_true' _).mp (Bool.and_eq_true_iff.mp chosen).2

/-- What a request for power leaves behind: a fault of the transitions leads to an escalation. -/
def powered (payload : Payload) (mask : UInt8) (target : Power) (device : Device) : Device :=
  let outcome := Work.each (wanted payload mask target device)
    (Device.transition payload target) device
  if outcome.2.isSome then outcome.1.escalate payload else outcome.1

/-- A request is refused if all the channels that it is about are locked. -/
theorem leaves_power_eq {middle : Device} (found : loadedPayload device = .ok payload middle)
    (mask : UInt8) (target : Power) :
    (power mask target).leaves device =
      if selected payload mask middle &&& middle.lockedOut ≠ 0 ∧ target ≠ .shutdown ∧
          selected payload mask middle = selected payload mask middle &&& middle.lockedOut then
        middle
      else powered payload mask target middle := by
  rw [power, leaves_bind_ok found, leaves_get_bind]
  by_cases refused : selected payload mask middle &&& middle.lockedOut ≠ 0 ∧ target ≠ .shutdown ∧
      selected payload mask middle = selected payload mask middle &&& middle.lockedOut
  · rw [if_pos refused]
    rw [selected] at refused
    rw [if_pos refused]
    rfl
  · rw [if_neg refused]
    rw [selected] at refused
    rw [if_neg refused]
    cases outcome : Work.each (wanted payload mask target middle)
        (Device.transition payload target) middle with
    | mk moved fault =>
        simp only [powered, outcome]
        simp only [wanted, selected] at outcome
        simp only [outcome]
        cases fault with
        | none => rfl
        | some fault => rfl

theorem leaves_power {middle : Device} (found : loadedPayload device = .ok payload middle)
    (mask : UInt8) (target : Power) :
    (power mask target).leaves device = middle ∨
      (power mask target).leaves device = powered payload mask target middle := by
  rw [leaves_power_eq found]
  split
  · exact .inl rfl
  · exact .inr rfl

theorem course_powered (mask : UInt8) (target : Power) (ready : device.ready? = some payload) :
    Course device (powered payload mask target device) := by
  obtain ⟨moves, frame⟩ : Moves device (Work.each (wanted payload mask target device)
      (Device.transition payload target) device).1 ∧ _ :=
    moves_transitions ready (fun channel member => (unlocked_of_wanted member).1)
      fun channel member => (unlocked_of_wanted member).2
  simp only [powered]
  split
  · exact .escalated moves (frame.ready?.trans ready)
  · exact .moved moves

theorem course_power (mask : UInt8) (target : Power) (device : Device) :
    Course device ((power mask target).leaves device) := by
  have loads := moves_loadedPayload device
  rw [leaves] at loads
  cases loaded : loadedPayload device with
  | ok payload middle =>
      rw [loaded] at loads
      obtain same | same := leaves_power loaded mask target
      · rw [same]
        exact .moved loads
      · rw [same]
        exact .after_moves loads (course_powered mask target (ready_of_loadedPayload loaded))
  | error error middle =>
      rw [loaded] at loads
      have same : (power mask target).leaves device = middle := by
        simp only [leaves, power, bind, EStateM.bind, loaded]
      rw [same]
      exact .moved loads

/-! ## Questions -/

/-- A request that only looks at the device. -/
theorem moves_same {request : Request α} (same : request.leaves device = device) :
    Moves device (request.leaves device) := by
  rw [same]
  exact .refl

theorem moves_profileNames (device : Device) : Moves device (profileNames.leaves device) :=
  moves_with_payload (fun _ _ _ => moves_same rfl) device

theorem moves_controls (device : Device) : Moves device (controls.leaves device) :=
  moves_with_payload (fun _ _ _ => moves_same rfl) device

theorem moves_capabilities (device : Device) : Moves device (capabilities.leaves device) :=
  moves_bind (moves_payload device) fun _ _ _ => moves_same rfl

theorem moves_channelAllowed (channel : UInt8) (device : Device) :
    Moves device ((channelAllowed channel).leaves device) :=
  moves_bind (moves_payload device) fun _ _ _ => moves_same rfl

theorem moves_algorithm (device : Device) : Moves device (algorithm.leaves device) :=
  moves_bind (moves_payload device) fun _ _ _ => moves_same rfl

theorem moves_getControl (id : Nat) (device : Device) :
    Moves device ((getControl id).leaves device) := by
  refine moves_with_payload (fun payload middle ready => moves_same ?_) device
  rw [leaves_get_bind]
  cases middle.values[id]? <;> rfl

/-! ## Changes beside the channels -/

theorem moves_probe (device : Device) : Moves device (probe.leaves device) :=
  moves_load device.config.loadTries device

theorem moves_selectProfile (index : Nat) (device : Device) :
    Moves device ((selectProfile index).leaves device) := by
  refine moves_with_payload (fun payload middle ready => ?_) device
  rw [leaves_get_bind]
  cases (middle.selection payload).choose index with
  | ok chosen => exact moves_beside
  | error error => exact .refl

theorem moves_setFraming (framing : Framing) (device : Device) :
    Moves device ((setFraming framing).leaves device) :=
  moves_bind (moves_ensureReady device) fun _ _ _ => moves_beside

theorem moves_takeErrors (device : Device) : Moves device (takeErrors.leaves device) := by
  refine moves_aside ⟨⟨rfl, rfl, rfl, rfl, rfl, ?_⟩, rfl, rfl⟩
    ⟨⟨rfl, rfl, rfl, rfl, le_rfl, rfl⟩, rfl, rfl⟩
  change ((device.errors.clear .transport).clear .stuckInterrupt).channels .lockedOut = _
  rw [ErrorCode.channels_clear_of_ne _ (by decide), ErrorCode.channels_clear_of_ne _ (by decide)]

theorem moves_counters (channel : UInt8) (device : Device) :
    Moves device ((counters channel).leaves device) := by
  refine moves_bind (moves_payload device) fun payload middle _ => ?_
  cases payload.interrupts? channel with
  | none => exact .refl
  | some table =>
      rw [leaves_get_bind]
      cases middle.channel? channel with
      | none => exact .refl
      | some state =>
          exact moves_aside ⟨Device.frame_onChannel _ _ _,
            Device.standing_onChannel_of_same _ _ (fun _ => rfl) fun _ => rfl, rfl⟩
            ⟨⟨rfl, rfl, rfl, rfl, le_rfl, rfl⟩, rfl, Device.storm?_onChannel _ _ fun _ => rfl⟩

/-! ## Workers -/

theorem course_handleInterrupt (device : Device) :
    Course device (handleInterrupt.leaves device) := by
  have course : Course device device.handleInterrupt.1 := Device.course_handleInterrupt .refl .refl
  unfold leaves handleInterrupt
  cases outcome : device.handleInterrupt with
  | mk after answer =>
      rw [outcome] at course
      cases answer <;> exact course

theorem moves_runDeferred (device : Device) : Moves device (runDeferred.leaves device) := by
  have moves : Moves device device.runDeferred.1 := (Device.turns_deferredTurns _ _ _).moves
  unfold leaves runDeferred
  cases outcome : device.runDeferred with
  | mk after ran =>
      rw [outcome] at moves
      exact moves

/-! ## Control writes -/

/-- Storing the value of an accepted write and dispatching it is one move. -/
theorem moves_dispatch {id : Nat} {value : Int} {write : Control.Write}
    (ready : device.ready? = some payload)
    (accepted : Control.accept payload.controls id value (device.maskOf .active) = .ok write) :
    Moves device
      ((dispatch write).leaves { device with values := device.values.set id value }) := by
  have wrote : Moves device (device.written write value) := .single (.wrote ready accepted)
  obtain ⟨rfl, _, _, _⟩ := Control.accept_eq_ok accepted
  unfold Device.written at wrote
  unfold dispatch leaves
  cases outcome : write.outcome with
  | deferred =>
      rw [outcome] at wrote
      exact wrote
  | applied =>
      rw [outcome] at wrote
      simp only at wrote ⊢
      generalize Device.onBus write.carryOut _ = sent at wrote ⊢
      obtain ⟨after, fault⟩ := sent
      cases fault with
      | none => exact wrote
      | some fault =>
          exact wrote.trans (moves_aside ⟨Device.frame_latch _ (by simp) _, rfl, rfl⟩
            ⟨⟨rfl, rfl, rfl, rfl, le_rfl, rfl⟩, rfl, rfl⟩)

theorem moves_putControl (id : Nat) (value : Int) (device : Device) :
    Moves device ((putControl id value).leaves device) := by
  refine moves_with_payload (fun payload middle ready => ?_) device
  rw [leaves_get_bind]
  cases accepted : Control.accept payload.controls id value (middle.maskOf .active) with
  | error error => exact .refl
  | ok write =>
      have moves := moves_dispatch ready accepted
      rw [← leaves_bind_pure (dispatch write) fun _ => write.outcome] at moves
      exact moves

theorem moves_putFound (name : String) (value : Int) (device : Device) :
    Moves device ((putFound name value).leaves device) := by
  refine moves_bind (moves_payload device) fun payload middle _ => ?_
  cases Control.find? payload.controls name with
  | none => exact .refl
  | some id => exact moves_putControl id value middle

theorem moves_putControlNamed (name : String) (value : Int) (device : Device) :
    Moves device ((putControlNamed name value).leaves device) := by
  have ensured := moves_ensureReady device
  unfold leaves at ensured
  unfold leaves putControlNamed
  cases outcome : ensureReady device with
  | error error after =>
      rw [outcome] at ensured
      exact ensured.trans moves_beside
  | ok value' after =>
      rw [outcome] at ensured
      exact ensured.trans (moves_putFound name value after)

/-! ## Audio interface -/

/-- Scripts of the audio interface on the channels of a payload that is ready. -/
theorem moves_programAll {role : Role}
    (plain : ∀ power waiting locked, role.Permitted power waiting locked)
    (kept : role ≠ .softReset) (choose : UInt8 → Except DeviceError (Option Script))
    (channels : List UInt8) (fault : Option TransportFault) (ready : device.ready? = some payload) :
    Moves device ((programAll role choose channels fault).leaves device) := by
  induction channels generalizing device fault with
  | nil => exact .refl
  | cons channel others ih =>
      unfold programAll
      cases choose channel with
      | error error => exact .refl
      | ok chosen =>
          cases chosen with
          | none => exact ih fault ready
          | some script =>
              have programmed : Move device ((Device.run channel role script).leaves device) :=
                .programmed ready plain kept script
              have ran : Frame device (Device.run channel role script device).1 :=
                ⟨rfl, rfl, rfl, rfl, rfl, rfl⟩
              have frame : Frame device ((Device.run channel role script).leaves device) :=
                ran.trans (Device.frame_latchFault _ _)
              exact .head programmed (ih _ (frame.ready?.trans ready))

theorem moves_raise (fault : Option TransportFault) :
    Moves device ((raise fault).leaves device) := by
  cases fault with
  | none => exact .refl
  | some fault => exact .refl

theorem moves_applySetting (setting : Setting) (variant : Variant) (device : Device) :
    Moves device ((applySetting setting variant).leaves device) := by
  refine moves_with_payload (fun payload middle ready => ?_) device
  refine moves_bind (moves_programAll (by intros; trivial) (by simp) _ _ _ ready) ?_
  exact fun fault last _ => moves_raise fault

theorem moves_negotiate (slotWidth : UInt8) (device : Device) :
    Moves device ((negotiate slotWidth).leaves device) := by
  refine moves_with_payload (fun payload middle ready => ?_) device
  refine moves_bind .refl fun held same answer => ?_
  cases answer
  refine moves_bind (moves_programAll (by intros; trivial) (by simp) _ _ _ ready) ?_
  intro fault last _
  split
  · exact .refl
  · rename_i config _
    refine moves_bind moves_beside fun _ next _ => ?_
    exact moves_bind (moves_raise fault) fun _ _ _ => .refl

end Request

/-- What every operation comes to. -/
theorem Operation.course_perform (operation : Operation) (device : Device) :
    (∃ change, operation = .disturb change) ∨
      Device.Course device (operation.perform device) := by
  have moved {after : Device} (moves : Device.Moves device after) :
      (∃ change, operation = .disturb change) ∨ Device.Course device after :=
    .inr (.moved moves)
  cases operation with
  | load tries => exact moved (Request.moves_load tries device)
  | probe => exact moved (Request.moves_probe device)
  | profileNames => exact moved (Request.moves_profileNames device)
  | selectProfile index => exact moved (Request.moves_selectProfile index device)
  | capabilities => exact moved (Request.moves_capabilities device)
  | channelAllowed channel => exact moved (Request.moves_channelAllowed channel device)
  | power mask target => exact .inr (Request.course_power mask target device)
  | handleInterrupt => exact .inr (Request.course_handleInterrupt device)
  | counters channel => exact moved (Request.moves_counters channel device)
  | takeErrors => exact moved (Request.moves_takeErrors device)
  | runDeferred => exact moved (Request.moves_runDeferred device)
  | controls => exact moved (Request.moves_controls device)
  | getControl id => exact moved (Request.moves_getControl id device)
  | putControl id value => exact moved (Request.moves_putControl id value device)
  | putControlNamed name value => exact moved (Request.moves_putControlNamed name value device)
  | applySetting setting variant => exact moved (Request.moves_applySetting setting variant device)
  | setFraming framing => exact moved (Request.moves_setFraming framing device)
  | negotiate slotWidth => exact moved (Request.moves_negotiate slotWidth device)
  | algorithm => exact moved (Request.moves_algorithm device)
  | runFor microseconds => exact .inr (Device.course_runFor microseconds device)
  | wait microseconds => exact moved (Device.moves_wait microseconds device)
  | disturb change => exact .inl ⟨change, rfl⟩
  | notify | supply => exact moved Device.moves_beside

end AmpControl
