import AmpControl.Proofs.Run.Fitting
import AmpControl.Proofs.Run.Restarts
import AmpControl.Proofs.Run.Undertaking

/-!
# The state and the calls fit the payload

Between two operations the state of a device has the shape of the payload that is in its place, also
where the last load failed. An operation puts another payload in place before it makes a call, if it
does so at all; from then on it only resets the hardware and calls channels that the payload
declares.
-/

namespace AmpControl

open Bus (Attempt)
open Tuning (Control Framing Payload Script Setting Variant)

namespace Request

open Device (Fitted Operates Undergoes)

variable {α β : Type} {payload : Payload} {device middle : Device}

/-! ## Sequences -/

theorem operates_bind {first : Request α} {next : α → Request β}
    (early : Operates device (first.leaves device))
    (late : ∀ value middle, first device = .ok value middle →
      Operates middle ((next value).leaves middle)) :
    Operates device ((first >>= next).leaves device) :=
  leaves_bind (Operates device) early fun value middle outcome sofar =>
    sofar.trans (late value middle outcome)

theorem undergoes_load (tries : UInt32) (device : Device) :
    Undergoes device ((load tries).leaves device) := by
  rw [leaves_load]
  exact Device.undergoes_load tries device

theorem undergoes_ensureReady (device : Device) :
    Undergoes device (ensureReady.leaves device) := by
  rw [leaves_ensureReady]
  split
  · exact .of_operates (.refl device)
  · exact Device.undergoes_load _ device

theorem undergoes_loadedPayload (device : Device) :
    Undergoes device (loadedPayload.leaves device) := by
  refine leaves_bind (Undergoes device) (undergoes_ensureReady device) fun _ middle _ sofar => ?_
  rw [leaves_payload]
  exact sofar

/-- A request that goes on with the payload. -/
theorem undergoes_with_payload (fits : device.Fitting) {next : Payload → Request α}
    (late : ∀ payload middle, middle.Fitting → middle.ready? = some payload →
      Operates middle ((next payload).leaves middle)) :
    Undergoes device ((loadedPayload >>= next).leaves device) :=
  leaves_bind (Undergoes device) (undergoes_loadedPayload device) fun payload middle found sofar =>
    sofar.tail (late payload middle (sofar.fitting fits) (ready_of_loadedPayload found))

/-- A request that asks for the payload that is there. -/
theorem operates_of_payload {next : Payload → Request α}
    (late : ∀ payload, device.ready? = some payload →
      Operates device ((next payload).leaves device)) :
    Operates device ((Request.payload >>= next).leaves device) := by
  refine operates_bind ?_ fun payload middle found => ?_
  · rw [leaves_payload]
    exact .refl device
  · have same : middle = device := (leaves_of_ok found).symm.trans (leaves_payload device)
    subst same
    exact late payload (ready_of_payload found)

/-! ## Power -/

theorem operates_powered (mask : UInt8) (target : Power) (ready : device.ready? = some payload) :
    Operates device (powered payload mask target device) := by
  have moved : Device.Manages payload device (Work.each (wanted payload mask target device)
      (Device.transition payload target) device).1 :=
    Device.manages_each (fun channel member => Work.manages_of_on (unlocked_of_wanted member).1
      fun here => Work.on_transition here target) device
  refine .of_manages (Device.ready?_eq_some ready).2 ?_
  simp only [powered]
  split
  · exact moved.trans (Device.manages_escalate _)
  · exact moved

theorem undergoes_power (fits : device.Fitting) (mask : UInt8) (target : Power) :
    Undergoes device ((power mask target).leaves device) := by
  refine undergoes_with_payload fits fun payload middle _ ready => ?_
  have found := loadedPayload_of_ready ready
  have outcome := leaves_power found mask target
  rw [power, leaves_bind_ok found] at outcome
  obtain same | same := outcome
  · rw [same]
    exact .refl middle
  · rw [same]
    exact operates_powered mask target ready

/-! ## Questions and changes beside the channels -/

/-- A profile is selected only if the payload has it. -/
theorem undergoes_selectProfile (fits : device.Fitting) (index : Nat) :
    Undergoes device ((selectProfile index).leaves device) := by
  refine undergoes_with_payload fits fun payload middle middleFits ready => ?_
  rw [leaves_get_bind]
  have inPlace := (Device.ready?_eq_some ready).2
  unfold Selection.choose
  by_cases inside : index < (middle.selection payload).count
  · rw [if_pos inside]
    refine ⟨rfl, .refl _, fun _ held there => ?_⟩
    obtain rfl := Option.some.inj (inPlace.symm.trans there)
    have fitted := middleFits payload inPlace
    exact ⟨fitted.shaped, fitted.counterCounts, fitted.length_values, fitted.values, .inl inside⟩
  · rw [if_neg inside]
    exact .refl middle

theorem undergoes_setFraming (framing : Framing) (device : Device) :
    Undergoes device ((setFraming framing).leaves device) :=
  leaves_bind (Undergoes device) (undergoes_ensureReady device) fun _ _ _ sofar =>
    sofar.tail (.of_same rfl rfl rfl rfl rfl)

theorem undergoes_getControl (fits : device.Fitting) (id : Nat) :
    Undergoes device ((getControl id).leaves device) := by
  refine undergoes_with_payload fits fun payload middle _ _ => ?_
  rw [leaves_get_bind]
  cases middle.values[id]? <;> exact .refl middle

/-- The counters that are read stay as many as they are. -/
theorem operates_counters (channel : UInt8) (device : Device) :
    Operates device ((counters channel).leaves device) := by
  refine operates_of_payload fun payload _ => ?_
  cases payload.interrupts? channel with
  | none => exact .refl device
  | some table =>
      rw [leaves_get_bind]
      cases device.channel? channel with
      | none => exact .refl device
      | some state =>
          refine .of_same rfl rfl rfl rfl (Device.counterCounts_onChannel channel device ?_)
          intro held _
          simp only [List.length_append, List.length_map, List.length_take, List.length_drop]
          omega

/-! ## Control writes -/

theorem operates_dispatch {write : Control.Write}
    (sent : Operates (device.record (.dispatched write.id write.index))
      { device.record (.dispatched write.id write.index) with
        bus := (write.carryOut device.bus).1 }) :
    Operates device ((dispatch write).leaves device) := by
  unfold dispatch leaves
  cases write.outcome with
  | deferred => exact .refl device
  | applied =>
      have recorded : Operates device (device.record (.dispatched write.id write.index)) :=
        .of_same rfl rfl rfl rfl rfl
      have made : Operates device
          (Device.onBus write.carryOut (device.record (.dispatched write.id write.index))).1 :=
        recorded.trans sent
      simp only
      generalize Device.onBus write.carryOut _ = outcome at made ⊢
      obtain ⟨after, fault⟩ := outcome
      cases fault with
      | none => exact made
      | some fault => exact made.trans (.of_same rfl rfl rfl rfl rfl)

theorem operates_putControl (fits : device.Fitting) (ready : device.ready? = some payload)
    (id : Nat) (value : Int) : Operates device ((putControl id value).leaves device) := by
  have inPlace := (Device.ready?_eq_some ready).2
  rw [putControl, leaves_bind_ok (loadedPayload_of_ready ready), leaves_get_bind]
  cases accepted : Control.accept payload.controls id value (device.maskOf .active) with
  | error error => exact .refl device
  | ok write =>
      obtain ⟨stored, sent⟩ := Device.operates_written fits inPlace accepted
      have dispatched := operates_dispatch (sent
        (({ device with values := device.values.set id value } : Device).record
          (.dispatched write.id write.index)) inPlace)
      rw [← leaves_bind_pure (dispatch write) fun _ => write.outcome] at dispatched
      exact stored.trans dispatched

theorem undergoes_putControl (fits : device.Fitting) (id : Nat) (value : Int) :
    Undergoes device ((putControl id value).leaves device) := by
  refine undergoes_with_payload fits fun payload middle middleFits ready => ?_
  have wrote := operates_putControl middleFits ready id value
  rwa [putControl, leaves_bind_ok (loadedPayload_of_ready ready)] at wrote

theorem operates_putFound (fits : device.Fitting) (name : String) (value : Int) :
    Operates device ((putFound name value).leaves device) := by
  refine operates_of_payload fun payload ready => ?_
  cases Control.find? payload.controls name with
  | none => exact .refl device
  | some id => exact operates_putControl fits ready id value

theorem undergoes_putControlNamed (fits : device.Fitting) (name : String) (value : Int) :
    Undergoes device ((putControlNamed name value).leaves device) := by
  have ensured := undergoes_ensureReady device
  unfold leaves at ensured
  unfold leaves putControlNamed
  cases outcome : ensureReady device with
  | error error after =>
      rw [outcome] at ensured
      exact ensured.tail (.of_same rfl rfl rfl rfl rfl)
  | ok answer after =>
      rw [outcome] at ensured
      exact ensured.tail (operates_putFound (ensured.fitting fits) name value)

/-! ## Audio interface -/

theorem operates_programAll {role : Role} {choose : UInt8 → Except DeviceError (Option Script)}
    {channels : List UInt8} (inPlace : device.payload = some payload)
    (declared : ∀ channel ∈ channels, channel < payload.channelCount)
    (fault : Option TransportFault) :
    Operates device ((programAll role choose channels fault).leaves device) := by
  induction channels generalizing device fault with
  | nil => exact .refl device
  | cons channel others ih =>
      have later (channel : UInt8) (member : channel ∈ others) :=
        declared channel (List.mem_cons_of_mem _ member)
      unfold programAll
      cases choose channel with
      | error error => exact .refl device
      | ok chosen =>
          cases chosen with
          | none => exact ih inPlace later fault
          | some script =>
              have runs : (Device.run channel role script).Manages payload :=
                Work.manages_of_on (declared channel List.mem_cons_self)
                  fun here => .run here role script
              have ran : Operates device ((Device.run channel role script).leaves device) :=
                .of_manages inPlace (runs.leaves device)
              exact ran.trans (ih (ran.inPlace.trans inPlace) later _)

theorem operates_raise (fault : Option TransportFault) (device : Device) :
    Operates device ((raise fault).leaves device) := by
  cases fault <;> exact .refl device

theorem undergoes_applySetting (fits : device.Fitting) (setting : Setting) (variant : Variant) :
    Undergoes device ((applySetting setting variant).leaves device) := by
  refine undergoes_with_payload fits fun payload middle _ ready => ?_
  refine operates_bind (operates_programAll (Device.ready?_eq_some ready).2
    (fun channel listed => Payload.mem_allChannels.mp listed) _) ?_
  exact fun fault last _ => operates_raise fault last

theorem undergoes_negotiate (fits : device.Fitting) (slotWidth : UInt8) :
    Undergoes device ((negotiate slotWidth).leaves device) := by
  refine undergoes_with_payload fits fun payload middle _ ready => ?_
  refine operates_bind (.refl middle) fun held same answer => ?_
  cases answer
  refine operates_bind (operates_programAll (Device.ready?_eq_some ready).2
    (fun channel listed => Payload.mem_allChannels.mp listed) _) ?_
  intro fault last _
  split
  · exact .refl last
  · refine operates_bind (.of_same rfl rfl rfl rfl rfl) fun _ next _ => ?_
    exact operates_bind (operates_raise fault next) fun _ ended _ => .refl ended

end Request

/-- What every operation comes to. -/
theorem Operation.undergoes (operation : Operation) {device : Device} (fits : device.Fitting) :
    (∃ change, operation = .disturb change) ∨
      Device.Undergoes device (operation.perform device) := by
  have operated {after : Device} (operates : Device.Operates device after) :
      (∃ change, operation = .disturb change) ∨ Device.Undergoes device after :=
    .inr (.of_operates operates)
  have asked {α : Type} {next : Payload → Request α} (same : ∀ payload middle,
      (next payload).leaves middle = middle) : (∃ change, operation = .disturb change) ∨
      Device.Undergoes device ((Request.loadedPayload >>= next).leaves device) :=
    .inr (Request.undergoes_with_payload fits fun payload middle _ _ => by
      rw [same]
      exact .refl middle)
  cases operation with
  | load tries => exact .inr (Request.undergoes_load tries device)
  | probe => exact .inr (Request.undergoes_load device.config.loadTries device)
  | profileNames => exact asked fun _ _ => rfl
  | selectProfile index => exact .inr (Request.undergoes_selectProfile fits index)
  | capabilities => exact operated (Request.operates_of_payload fun _ _ => .refl device)
  | channelAllowed channel => exact operated (Request.operates_of_payload fun _ _ => .refl device)
  | power mask target => exact .inr (Request.undergoes_power fits mask target)
  | handleInterrupt =>
      have passed := device.operates_handleInterrupt
      rw [← Request.leaves_handleInterrupt] at passed
      exact operated passed
  | counters channel => exact operated (Request.operates_counters channel device)
  | takeErrors => exact operated (.of_same rfl rfl rfl rfl rfl)
  | runDeferred => exact operated (Device.operates_runDeferred fits)
  | controls => exact asked fun _ _ => rfl
  | getControl id => exact .inr (Request.undergoes_getControl fits id)
  | putControl id value => exact .inr (Request.undergoes_putControl fits id value)
  | putControlNamed name value => exact .inr (Request.undergoes_putControlNamed fits name value)
  | applySetting setting variant =>
      exact .inr (Request.undergoes_applySetting fits setting variant)
  | setFraming framing => exact .inr (Request.undergoes_setFraming framing device)
  | negotiate slotWidth => exact .inr (Request.undergoes_negotiate fits slotWidth)
  | algorithm => exact operated (Request.operates_of_payload fun _ _ => .refl device)
  | runFor microseconds => exact operated (Device.operates_runFor microseconds fits)
  | wait microseconds => exact operated (Device.operates_wait microseconds device)
  | disturb change => exact .inl ⟨change, rfl⟩
  | notify | supply => exact operated (.of_same rfl rfl rfl rfl rfl)

namespace Device

variable {device : Device} {payload : Payload}

/-! ## Runs -/

theorem fitting_perform (operation : Operation) (fits : device.Fitting) :
    (operation.perform device).Fitting := by
  obtain ⟨change, rfl⟩ | undergoes := operation.undergoes fits
  · exact fun held there => (fits held there).of_same rfl rfl rfl
  · exact undergoes.fitting fits

theorem fitting_after (operations : List Operation) (fits : device.Fitting) :
    (device.after operations).Fitting := by
  induction operations generalizing device with
  | nil => exact fits
  | cons first others ih => exact ih (fitting_perform first fits)

theorem fitting_reached (config : Config) (firmware : FirmwareSource)
    (operations : List Operation) : (reached config firmware operations).Fitting :=
  fitting_after operations fun _ there => nomatch there

/--
Whenever a payload is in its place, whatever was loaded or failed to load before: there is one state
for each channel that it declares, with one counter for each source of the interrupt table in use;
there is one value for each control, which is the initial one or one that the control accepts; and
the active profile is one of the payload, or the first where the payload has none.
-/
theorem state_fits_payload (config : Config) (firmware : FirmwareSource)
    (operations : List Operation) (payload : Payload)
    (inPlace : (reached config firmware operations).payload = some payload) :
    let device := reached config firmware operations
    device.channels.length = payload.channelCount.toNat ∧
    (∀ channel < payload.channelCount, ∃ state, device.channel? channel = some state ∧
      state.counters.length = ((payload.interrupts? channel).map (·.sources.length)).getD 0) ∧
    device.values.length = payload.controls.length ∧
    (∀ (id : Nat) (control : Control) (value : Int), payload.controls[id]? = some control →
      device.values[id]? = some value →
      value = control.initial ∨ ∃ index, control.index? value = some index) ∧
    (device.activeProfile < payload.profiles.length ∨
      payload.profiles = [] ∧ device.activeProfile = 0) := by
  intro device
  have fitted := fitting_reached config firmware operations payload inPlace
  have counts : device.channels.map (fun state => state.counters.length) =
      payload.allChannels.map (sourceCount payload) := fitted.counterCounts
  refine ⟨?_, fun channel declared => ?_, fitted.length_values, ?_, fitted.profile⟩
  · have same := congrArg List.length counts
    rwa [List.length_map, List.length_map, Payload.allChannels, Channel.length_upTo] at same
  · have there : payload.allChannels[channel.toNat]? = some channel := by
      have inside := UInt8.lt_iff_toNat_lt.mp declared
      simp [Payload.allChannels, Channel.upTo, inside]
    have here := congrArg (·[channel.toNat]?) counts
    simp only [List.getElem?_map, there, Option.map_some] at here
    obtain ⟨state, found, count⟩ := Option.map_eq_some_iff.mp here
    exact ⟨state, found, count⟩
  · intro id control value found held
    rcases fitted.values id control value found held with initial | accepted
    · exact .inl initial
    · exact .inr (Option.isSome_iff_exists.mp accepted)

/-- A payload with two channels gives way to the small one, and the image is gone afterwards. -/
def shrunkWithoutImage : List Operation :=
  [.load 1, .power 3 .active, .supply .small, .load 1, .putControl 0 1, .supply (.new none),
    .load 1]

/-- After a load that failed the state fits the payload that stayed in place. -/
theorem small_fits_after_failure :
    (reached .standard (.watching 2 1) shrunkWithoutImage).loadState = .loadFailed ∧
      ∃ payload, (reached .standard (.watching 2 1) shrunkWithoutImage).payload = some payload ∧
        (reached .standard (.watching 2 1) shrunkWithoutImage).channels.length =
          payload.channelCount.toNat ∧
        (reached .standard (.watching 2 1) shrunkWithoutImage).values = [1] := by
  refine ⟨by decide +kernel, ?_⟩
  obtain ⟨payload, inPlace⟩ := Option.isSome_iff_exists.mp
    (show (reached .standard (.watching 2 1) shrunkWithoutImage).payload.isSome = true by
      decide +kernel)
  have fitted := state_fits_payload .standard (.watching 2 1) shrunkWithoutImage payload inPlace
  exact ⟨payload, inPlace, fitted.1, by decide +kernel⟩

/-! ## Calls -/

/-- A reset, or a call to a channel for which the bus remembers a bank. -/
def Remembered (attempt : Attempt) : Prop :=
  attempt.call = .reset ∨
    ∃ channel : UInt8, attempt.call.channel? = some channel ∧ channel.toNat < Tuning.maxChannels

/-- The calls that an operation makes, once the payload is in place that stays there. -/
theorem calls_perform (operation : Operation) (fits : device.Fitting) :
    (∃ change, operation = .disturb change) ∨
      ∃ middle, Readies device middle ∧ (operation.perform device).payload = middle.payload ∧
        ∃ calls, (operation.perform device).bus.transport.attempts =
            calls ++ device.bus.transport.attempts ∧
          ∀ attempt ∈ calls, attempt.call = .reset ∨
            ∃ (payload : Payload) (channel : UInt8), middle.payload = some payload ∧
              attempt.call.channel? = some channel ∧ channel < payload.channelCount ∧
              channel.toNat < Tuning.maxChannels := by
  obtain disturbs | ⟨middle, readies, operates⟩ := operation.undergoes fits
  · exact .inl disturbs
  · obtain ⟨calls, grown, holds⟩ := operates.calls.calls
    refine .inr ⟨middle, readies, operates.inPlace, calls, ?_, fun attempt member => ?_⟩
    · rw [grown, readies.attempts]
    · obtain ⟨payload, inPlace, reset | ⟨channel, declared, addresses⟩⟩ := holds attempt member
      · exact .inl reset
      · have shaped := (readies.fitting fits payload inPlace).shaped
        have inside := shaped.lt_channelCount_iff.mp declared
        rw [shaped.declared] at inside
        exact .inr ⟨payload, channel, inPlace, addresses, declared,
          inside.trans_le shaped.few_channels⟩

theorem remembered_after {operations : List Operation}
    (keeps : ∀ operation ∈ operations, operation.KeepsCalls) (fits : device.Fitting)
    (sofar : ∀ attempt ∈ device.bus.transport.attempts, Remembered attempt) :
    ∀ attempt ∈ (device.after operations).bus.transport.attempts, Remembered attempt := by
  induction operations generalizing device with
  | nil => exact sofar
  | cons first others ih =>
      refine ih (fun operation member => keeps operation (List.mem_cons_of_mem _ member))
        (fitting_perform first fits) ?_
      intro attempt member
      obtain ⟨change, rfl⟩ | ⟨middle, _, _, calls, grown, holds⟩ := calls_perform first fits
      · have same := keeps (.disturb change) List.mem_cons_self device.bus.transport
        exact sofar attempt (same ▸ member)
      · rw [grown] at member
        rcases List.mem_append.mp member with late | early
        · obtain reset | ⟨_, channel, _, addresses, _, inside⟩ := holds attempt late
          · exact .inl reset
          · exact .inr ⟨channel, addresses, inside⟩
        · exact sofar attempt early

/--
The bus is driven on declared channels only. Whatever was done before, an operation puts another
payload in place before it makes a call, if it does so at all, and keeps this payload; every call of
the operation is a reset, or is to a channel that the payload in place declares, for which the bus
remembers a bank. So in every run all calls but resets are to such channels, as far as nobody
meddles with the record of the calls.
-/
theorem calls_on_declared_channels (config : Config) (firmware : FirmwareSource)
    (early : List Operation) (operation : Operation) :
    ((∃ change, operation = .disturb change) ∨
      ∃ middle, Readies (reached config firmware early) middle ∧
        (reached config firmware (early ++ [operation])).payload = middle.payload ∧
        ∃ calls, (reached config firmware (early ++ [operation])).bus.transport.attempts =
            calls ++ (reached config firmware early).bus.transport.attempts ∧
          ∀ attempt ∈ calls, attempt.call = .reset ∨
            ∃ (payload : Payload) (channel : UInt8), middle.payload = some payload ∧
              attempt.call.channel? = some channel ∧ channel < payload.channelCount ∧
              channel.toNat < Tuning.maxChannels) ∧
    ((∀ operation ∈ early, operation.KeepsCalls) →
      ∀ attempt ∈ (reached config firmware early).bus.transport.attempts,
        attempt.call = .reset ∨ ∃ channel : UInt8, attempt.call.channel? = some channel ∧
          channel.toNat < Tuning.maxChannels) := by
  constructor
  · have performed : reached config firmware (early ++ [operation]) =
        operation.perform (reached config firmware early) := after_append early [operation] _
    rw [performed]
    exact calls_perform operation (fitting_reached config firmware early)
  · exact fun keeps => remembered_after keeps (fun _ there => nomatch there)
      fun attempt member => absurd member List.not_mem_nil

/-- A payload with two channels plays, and the small image is supplied. -/
def playingBeforeSmall : List Operation := [.load 1, .power 3 .active, .supply .small]

/-- The image that replaces one with two channels is loaded by calls to its only channel. -/
theorem calls_of_small :
    ∃ calls, (reached .standard (.watching 2 1)
          (playingBeforeSmall ++ [.load 1])).bus.transport.attempts =
        calls ++ (reached .standard (.watching 2 1) playingBeforeSmall).bus.transport.attempts ∧
      calls ≠ [] ∧
      ∀ attempt ∈ calls, attempt.call = .reset ∨ attempt.call.channel? = some 0 := by
  obtain ⟨⟨change, impossible⟩ | ⟨middle, _, same, calls, grown, holds⟩, _⟩ :=
    calls_on_declared_channels .standard (.watching 2 1) playingBeforeSmall (.load 1)
  · cases impossible
  · refine ⟨calls, grown, fun none => ?_, fun attempt member => ?_⟩
    · rw [none, List.nil_append] at grown
      exact absurd (congrArg List.length grown) (by decide +kernel)
    · rcases holds attempt member with reset | ⟨payload, channel, inPlace, addresses, declared, _⟩
      · exact .inl reset
      · have only : (reached .standard (.watching 2 1)
            (playingBeforeSmall ++ [.load 1])).payload.map (·.channelCount) = some 1 := by
          decide +kernel
        rw [same, inPlace] at only
        rw [show payload.channelCount = 1 from Option.some.inj only] at declared
        have first : channel = 0 := by
          have below := UInt8.lt_iff_toNat_lt.mp declared
          exact UInt8.toNat_inj.mp (Nat.lt_one_iff.mp below)
        exact .inr (first ▸ addresses)

end Device

end AmpControl
