import AmpControl.Proofs.Device.Trimming
import AmpControl.Proofs.Run.Invariant
import AmpControl.Proofs.Run.Reply

/-!
# Runs with trimmed payloads

A run that is supplied with trimmed images replies what the run with the images themselves replies,
and leaves the trimmed device behind. So a payload whose header leaves its interrupt tables unused
cannot be told from the same payload without them.
-/

namespace AmpControl

open Tuning (Control Framing ImageError ParsedImage Payload Script Setting SlotRequest Variant
  trimImage)

/-! ## Loading -/

theorem FirmwareSource.request_trim (revision : UInt32) (name : String) (source : FirmwareSource) :
    (source.trim revision).request name =
      ((source.request name).1.trim revision,
        (source.request name).2.map (trimImage revision)) := by
  obtain ⟨queued, fallback, requests⟩ := source
  cases queued <;> rfl

namespace Device

open Work (trims_inOrder)

theorem trims_initialiseAll (payload : Payload) :
    Trims (initialiseAll payload) (initialiseAll payload.trim) :=
  trims_inOrder (trims_flatMap fun channel =>
    .cons (trims_softReset _ channel) (.cons (trims_initialise _ channel) .nil))

theorem makeCachedWrites_trim (payload : Payload) (device : Device) :
    device.trim.makeCachedWrites payload.trim = (device.makeCachedWrites payload).trim := by
  have begun : ({ device.trim with cachedWrites := [] } : Device) =
      ({ device with cachedWrites := [] } : Device).trim := rfl
  unfold makeCachedWrites
  rw [begun]
  refine List.foldl_hom Device.trim fun held entry => ?_
  obtain ⟨name, value⟩ := entry
  simp only [Payload.controls_trim]
  cases Control.acceptNamed payload.controls name value 0 with
  | error error => rfl
  | ok write =>
      obtain ⟨place, control, index, outcome⟩ := write
      cases outcome <;> rfl

theorem adopt_trim (payload : Payload) (device : Device) :
    device.trim.adopt payload.trim = (device.adopt payload).trim := by
  have fresh : freshChannel payload.trim = freshChannel payload := by
    funext channel
    rw [freshChannel, Payload.interrupts?_trim, freshChannel]
  unfold adopt
  rw [fresh, Payload.profiles_trim]
  rfl

theorem install_trim (payload : Payload) (device : Device) :
    device.trim.install payload.trim = (device.install payload).trim := by
  have prepared : (initialiseAll payload.trim (device.trim.adopt payload.trim)).1 =
      (initialiseAll payload (device.adopt payload)).1.trim := by
    rw [adopt_trim, trims_initialiseAll]
  unfold install
  rw [prepared]
  simp only [makeCachedWrites_trim]
  generalize (initialiseAll payload (device.adopt payload)).1.makeCachedWrites payload = written
  rfl

theorem fetch_trim (device : Device) :
    device.trim.fetch = (device.fetch.1.trim, device.fetch.2.map Payload.trim) := by
  have asked : device.trim.firmware.request device.trim.config.firmwareName = _ :=
    device.firmware.request_trim device.config.revision device.config.firmwareName
  unfold fetch
  simp only [asked]
  rcases device.firmware.request device.config.firmwareName with ⟨source, _ | image⟩
  · rfl
  · exact Prod.ext rfl (ParsedImage.outcome_trimImage device.config.revision image)

theorem trims_attempt (tries : Nat) (last : ImageError) :
    Trims (attempt tries last) (attempt tries last) := by
  intro device
  induction tries generalizing last device with
  | zero => rfl
  | succ tries ih =>
      unfold attempt
      rw [fetch_trim]
      rcases device.fetch with ⟨fetched, error | payload⟩
      · simp only [Except.map]
        split
        · have paused (wait : Nat) : (if tries = 0 then fetched.trim else fetched.trim.wait wait) =
              (if tries = 0 then fetched else fetched.wait wait).trim := by
            split <;> rfl
          rw [← ih, ← paused]
          rfl
        · rfl
      · simp only [Except.map, install_trim]

theorem trims_load (tries : UInt32) : Trims (load tries) (load tries) := by
  intro device
  exact trims_attempt (max tries.toNat 1) (.container .empty) { device with loadState := .loading }

end Device

/-! ## Requests -/

namespace Request

open Device (capabilities_trim channelMask_trim channel?_trim config_trim framing_trim
  loadState_trim lockedOut_trim maskOf_trim ready?_trim values_trim)

variable {α β γ δ : Type}

/-- The outcome with the trimmed device and with another answer in place of the one given. -/
def trimmed (convert : α → β) :
    EStateM.Result DeviceError Device α → EStateM.Result DeviceError Device β
  | .ok answer after => .ok (convert answer) after.trim
  | .error error after => .error error after.trim

/-- A request comes to the same with the trimmed device, but for the conversion of its answer. -/
def Trims (convert : α → β) (request : Request α) (other : Request β) : Prop :=
  ∀ device, other device.trim = trimmed convert (request device)

theorem trims_pure (convert : α → β) (answer : α) :
    Trims convert (pure answer) (pure (convert answer)) := fun _ => rfl

theorem trims_throw (convert : α → β) (error : DeviceError) :
    Trims convert (throw error) (throw error) := fun _ => rfl

theorem trims_get : Trims Device.trim get get := fun _ => rfl

theorem trims_set (device : Device) : Trims id (set device) (set device.trim) := fun _ => rfl

theorem trims_change (step : Device → Device)
    (commutes : ∀ device, step device.trim = (step device).trim) :
    Trims id (change step) (change step) :=
  fun device => congrArg (EStateM.Result.ok ()) (commutes device)

theorem trims_bind {convert : α → γ} {convertLast : β → δ} {first : Request α} {other : Request γ}
    {next : α → Request β} {follows : γ → Request δ} (early : Trims convert first other)
    (late : ∀ answer, Trims convertLast (next answer) (follows (convert answer))) :
    Trims convertLast (first >>= next) (other >>= follows) := by
  intro device
  simp only [bind, EStateM.bind, early device]
  cases first device with
  | ok answer middle => exact late answer middle
  | error error middle => rfl

theorem trims_map {first other : Request α} (answer : α → β) (trims : Trims id first other) :
    Trims id (answer <$> first) (answer <$> other) := by
  intro device
  simp only [Functor.map, EStateM.map, trims device]
  cases first device <;> rfl

theorem trims_load (tries : UInt32) : Trims id (load tries) (load tries) := by
  intro device
  unfold load
  rw [Device.trims_load]
  rcases device.load tries with ⟨after, error | _⟩ <;> rfl

theorem trims_ensureReady : Trims id ensureReady ensureReady := by
  intro device
  unfold ensureReady
  rw [loadState_trim, config_trim, Device.trims_load]
  split
  · rfl
  · rcases device.load device.config.lazyLoadTries with ⟨after, error | _⟩ <;> rfl

theorem trims_payload : Trims Payload.trim payload payload := by
  intro device
  unfold Request.payload
  rw [ready?_trim]
  cases device.ready? <;> rfl

theorem trims_loadedPayload : Trims Payload.trim loadedPayload loadedPayload :=
  trims_bind trims_ensureReady fun _ => trims_payload

/-- A request that goes on with the payload. -/
theorem trims_with_payload {next : Payload → Request α}
    (late : ∀ payload, Trims id (next payload) (next payload.trim)) :
    Trims id (loadedPayload >>= next) (loadedPayload >>= next) :=
  trims_bind trims_loadedPayload late

/-- A request that asks for the payload that is there. -/
theorem trims_of_payload {next : Payload → Request α}
    (late : ∀ payload, Trims id (next payload) (next payload.trim)) :
    Trims id (Request.payload >>= next) (Request.payload >>= next) :=
  trims_bind trims_payload late

/-! ### Questions -/

theorem trims_profileNames : Trims id profileNames profileNames :=
  trims_with_payload fun payload => by
    rw [Payload.profileNames_trim]
    exact trims_pure id _

theorem trims_selectProfile (index : Nat) :
    Trims id (selectProfile index) (selectProfile index) := by
  refine trims_with_payload fun payload => trims_bind trims_get fun device => ?_
  have count : (device.trim.selection payload.trim).count = (device.selection payload).count :=
    congrArg List.length payload.profiles_trim
  unfold Selection.choose
  rw [count]
  by_cases inside : index < (device.selection payload).count
  · simp only [if_pos inside]
    exact trims_change _ fun _ => rfl
  · simp only [if_neg inside]
    exact trims_throw id _

theorem trims_capabilities : Trims id capabilities capabilities :=
  trims_of_payload fun payload => trims_bind trims_get fun device => by
    rw [capabilities_trim]
    exact trims_pure id _

theorem trims_channelAllowed (channel : UInt8) :
    Trims id (channelAllowed channel) (channelAllowed channel) :=
  trims_of_payload fun payload => trims_bind trims_get fun device => by
    rw [channelMask_trim]
    exact trims_pure id _

theorem trims_handleInterrupt : Trims id handleInterrupt handleInterrupt := by
  intro device
  unfold handleInterrupt
  rw [Device.trims_handleInterrupt]
  rcases device.handleInterrupt with ⟨after, state | report⟩ <;> rfl

theorem trims_counters (channel : UInt8) : Trims id (counters channel) (counters channel) := by
  refine trims_of_payload fun payload => ?_
  rw [Payload.interrupts?_trim]
  cases payload.interrupts? channel with
  | none => exact trims_pure id _
  | some table =>
      refine trims_bind trims_get fun device => ?_
      rw [channel?_trim]
      cases device.channel? channel with
      | none => exact trims_throw id _
      | some state => exact trims_bind (trims_change _ fun _ => rfl) fun _ => trims_pure id _

theorem trims_takeErrors : Trims id takeErrors takeErrors := fun _ => rfl

theorem trims_runDeferred : Trims id runDeferred runDeferred := by
  intro device
  have ran : device.trim.runDeferred = (device.runDeferred.1.trim, device.runDeferred.2) :=
    Device.trims_deferredTurns _ 0 device
  simp only [runDeferred, ran]
  rfl

/-! ### Power -/

theorem trims_power (mask : UInt8) (target : Power) :
    Trims id (power mask target) (power mask target) := by
  refine trims_with_payload fun payload => trims_bind trims_get fun device => ?_
  simp only [Payload.channelCount_trim, channelMask_trim, lockedOut_trim]
  split
  · exact trims_throw id _
  · have moves := Work.trims_each (Channel.among
      (if target = .shutdown then mask &&& (device.selection payload).channelMask
        else mask &&& (device.selection payload).channelMask &&& ~~~device.lockedOut)
      payload.channelCount) (fun channel => Device.trims_transition payload target channel) device
    simp only [moves]
    rcases Work.each _ _ device with ⟨moved, _ | fault⟩
    · exact trims_set moved
    · simp only [Device.escalate_trim]
      exact trims_bind (trims_set _) fun _ => trims_throw id _

/-! ### Controls -/

theorem trims_controls : Trims id controls controls :=
  trims_with_payload fun _ => trims_pure id _

theorem trims_getControl (control : Nat) : Trims id (getControl control) (getControl control) := by
  refine trims_with_payload fun payload => trims_bind trims_get fun device => ?_
  rw [values_trim]
  cases device.values[control]? with
  | none => exact trims_throw id _
  | some value => exact trims_pure id _

theorem trims_dispatch (write : Control.Write) : Trims id (dispatch write) (dispatch write) := by
  unfold dispatch
  cases write.outcome with
  | deferred => exact trims_pure id _
  | applied =>
      intro device
      have sent : Device.onBus write.carryOut
          (device.trim.record (.dispatched write.id write.index)) =
          ((Device.onBus write.carryOut (device.record (.dispatched write.id write.index))).1.trim,
            (Device.onBus write.carryOut (device.record (.dispatched write.id write.index))).2) :=
        rfl
      simp only [sent]
      rcases Device.onBus write.carryOut _ with ⟨after, _ | fault⟩ <;> rfl

theorem trims_putControl (control : Nat) (value : Int) :
    Trims id (putControl control value) (putControl control value) := by
  refine trims_with_payload fun payload => trims_bind trims_get fun device => ?_
  rw [maskOf_trim, Payload.controls_trim]
  cases Control.accept payload.controls control value (device.maskOf .active) with
  | error error => exact trims_throw id _
  | ok write =>
      exact trims_bind (trims_change _ fun _ => rfl) fun _ =>
        trims_bind (trims_dispatch write) fun _ => trims_pure id _

theorem trims_putFound (name : String) (value : Int) :
    Trims id (putFound name value) (putFound name value) := by
  refine trims_of_payload fun payload => ?_
  rw [Payload.controls_trim]
  cases Control.find? payload.controls name with
  | none => exact trims_throw id _
  | some control => exact trims_putControl control value

theorem trims_putControlNamed (name : String) (value : Int) :
    Trims id (putControlNamed name value) (putControlNamed name value) := by
  intro device
  unfold putControlNamed
  rw [trims_ensureReady]
  cases ensureReady device with
  | error error after => rfl
  | ok answer after => exact trims_putFound name value after

/-! ### Audio interface -/

theorem interface?_trim (payload : Payload) (channel : UInt8) :
    interface? payload.trim channel = interface? payload channel := by
  rw [interface?, Payload.channel?_trim, interface?]
  cases payload.channel? channel <;> rfl

theorem trims_programAll (role : Role) (choose : UInt8 → Except DeviceError (Option Script))
    (channels : List UInt8) (held : Option TransportFault) :
    Trims id (programAll role choose channels held) (programAll role choose channels held) := by
  induction channels generalizing held with
  | nil => exact trims_pure id held
  | cons channel others ih =>
      unfold programAll
      cases choose channel with
      | error error => exact trims_throw id _
      | ok chosen =>
          cases chosen with
          | none => exact ih held
          | some script =>
              refine trims_bind trims_get fun device => ?_
              rw [Work.part_trim (Device.trims_run channel role script)]
              exact trims_bind (trims_set _) fun _ => ih _

theorem trims_raise (fault : Option TransportFault) : Trims id (raise fault) (raise fault) := by
  cases fault with
  | none => exact trims_pure id _
  | some fault => exact trims_throw id _

theorem trims_applySetting (setting : Setting) (variant : Variant) :
    Trims id (applySetting setting variant) (applySetting setting variant) := by
  refine trims_with_payload fun payload => ?_
  simp only [interface?_trim, Payload.allChannels_trim]
  exact trims_bind (trims_programAll _ _ _ _) fun fault => trims_raise fault

theorem trims_setFraming (framing : Framing) : Trims id (setFraming framing) (setFraming framing) :=
  trims_bind trims_ensureReady fun _ => trims_change _ fun _ => rfl

theorem slotChoices_trim (payload : Payload) (request : SlotRequest) :
    slotChoices payload.trim request = slotChoices payload request := by
  simp only [slotChoices, Payload.allChannels_trim, funext (interface?_trim payload)]

theorem trims_negotiate (slotWidth : UInt8) :
    Trims id (negotiate slotWidth) (negotiate slotWidth) := by
  refine trims_with_payload fun payload => trims_bind trims_get fun device => ?_
  simp only [framing_trim, interface?_trim, slotChoices_trim, Payload.allChannels_trim,
    Payload.channelCount_trim, Payload.header_trim]
  refine trims_bind (trims_programAll _ _ _ _) fun fault => ?_
  rw [id_eq]
  split
  · exact trims_throw id _
  · exact trims_bind (trims_change _ fun _ => rfl) fun _ =>
      trims_bind (trims_raise fault) fun _ => trims_pure id _

theorem trims_algorithm : Trims id algorithm algorithm :=
  trims_of_payload fun _ => trims_pure id _

end Request

/-! ## Operations -/

namespace Operation

/-- The operation with trimmed images in place of those that it supplies. -/
def trim (revision : UInt32) : Operation → Operation
  | supply firmware => supply (firmware.trim revision)
  | operation => operation

/-- An operation is the same request with the trimmed device, if it supplies trimmed images. -/
theorem request_trim (operation : Operation) (device : Device) :
    (operation.trim device.config.revision).request device.trim =
      Request.trimmed id (operation.request device) := by
  open Request in
  cases operation with
  | load tries => exact trims_map _ (trims_load tries) device
  | probe => exact trims_map _ (trims_bind trims_get fun _ => trims_load _) device
  | profileNames => exact trims_map _ trims_profileNames device
  | selectProfile index => exact trims_map _ (trims_selectProfile index) device
  | capabilities => exact trims_map _ trims_capabilities device
  | channelAllowed channel => exact trims_map _ (trims_channelAllowed channel) device
  | power mask target => exact trims_map _ (trims_power mask target) device
  | handleInterrupt => exact trims_map _ trims_handleInterrupt device
  | counters channel => exact trims_map _ (trims_counters channel) device
  | takeErrors => exact trims_map _ trims_takeErrors device
  | runDeferred => exact trims_map _ trims_runDeferred device
  | controls => exact trims_map _ trims_controls device
  | getControl control => exact trims_map _ (trims_getControl control) device
  | putControl control value => exact trims_map _ (trims_putControl control value) device
  | putControlNamed name value => exact trims_map _ (trims_putControlNamed name value) device
  | applySetting setting variant => exact trims_map _ (trims_applySetting setting variant) device
  | setFraming framing => exact trims_map _ (trims_setFraming framing) device
  | negotiate slotWidth => exact trims_map _ (trims_negotiate slotWidth) device
  | algorithm => exact trims_map _ trims_algorithm device
  | notify => exact trims_map _ (trims_change Device.notifyInterrupt fun _ => rfl) device
  | runFor microseconds =>
      exact trims_map _ (trims_change _ (Device.runFor_trim microseconds)) device
  | wait microseconds =>
      exact trims_map _ (trims_change (Device.wait microseconds) fun _ => rfl) device
  | disturb change =>
      exact trims_map _ (trims_change (perform (.disturb change)) fun _ => rfl) device
  | supply firmware => rfl

theorem perform_trim (operation : Operation) (device : Device) :
    (operation.trim device.config.revision).perform device.trim =
      (operation.perform device).trim := by
  rw [← leaves_request, ← leaves_request, Request.leaves, request_trim, Request.leaves]
  cases operation.request device <;> rfl

theorem reply_trim (operation : Operation) (device : Device) :
    (operation.trim device.config.revision).reply device.trim = operation.reply device := by
  rw [reply, request_trim, reply]
  cases operation.request device <;> rfl

end Operation

end AmpControl
