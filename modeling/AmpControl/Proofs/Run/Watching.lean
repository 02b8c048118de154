import AmpControl.Proofs.Device.Attempts
import AmpControl.Proofs.Device.Watching
import AmpControl.Proofs.Run.Undertaking

/-!
# Operations and the counters

An operation changes the counters by the looks that its recovery pass and its deferred work take, or
it puts a payload in place, which brings counters at zero. Only reading them is left, which is a
request of its own. The slot configuration in use outlives all operations but negotiations.
-/

namespace AmpControl

open Tuning (Control Payload Script Setting Variant)

namespace Device

variable {armed : Prop} {payload : Payload} {device before middle after : Device}
  {channel : UInt8} {looks : List Look}

/-! ## Looks of the workers -/

/-- The looks of a recovery pass, if one is made. -/
def interruptLooks (device : Device) : List Look :=
  match device.ready? with
  | some payload => if payload.header.interruptsSupported then device.surveyLooks payload else []
  | none => []

/-- The looks of a turn of the deferred work. -/
def turnLooks (device : Device) : List Look :=
  match device.deferred.takeDue device.clock, device.ready? with
  | some ((channel, _), _), some payload =>
      if device.power channel = .active then device.lookAt payload channel true else []
  | _, _ => []

def turnsLooks : (bound : Nat) → Device → List Look
  | 0, _ => []
  | bound + 1, device =>
      device.turnLooks ++
        match device.deferredTurn with
        | (_, .idle) | (_, .dropped) => []
        | (after, .skipped) | (after, .ran) => turnsLooks bound after

def deferredLooks (device : Device) : List Look := turnsLooks (Tuning.maxChannels + 1) device

/-- The looks of the deferred work up to a time. -/
def untilLooks : (bound : Nat) → (ending : Nat) → Device → List Look
  | 0, _, _ => []
  | bound + 1, ending, device =>
      match device.deferred.nextDue? with
      | some due =>
          if due ≤ ending then
            (device.waitUntil due).deferredLooks ++
              untilLooks bound ending (device.waitUntil due).runDeferred.1
          else []
      | none => []

/-- The looks of both loops. -/
def runLooks (microseconds : Nat) (device : Device) : List Look :=
  let ending := device.clock + microseconds
  let passTime := device.clock + Bus.milliseconds device.config.debounceDelay.toNat
  let begun := { device with notified := false }
  if device.notified ∧ passTime ≤ ending then
    let waited := (deferredUntil deferredPauses passTime begun).waitUntil passTime
    untilLooks deferredPauses passTime begun ++ waited.interruptLooks ++
      untilLooks deferredPauses ending waited.handleInterrupt.1
  else untilLooks deferredPauses ending begun

/-! ## What the workers do to the counters -/

theorem watches_handleInterrupt (device : Device) :
    Watches armed device.interruptLooks device device.handleInterrupt.1 := by
  unfold interruptLooks
  cases ready : device.ready? with
  | none =>
      rw [handleInterrupt, ready]
      exact .refl device
  | some payload =>
      rw [handleInterrupt_of_ready ready]
      by_cases supported : payload.header.interruptsSupported = true
      · rw [if_pos supported]
        simp only [if_pos supported]
        exact watches_survey (ready?_eq_some ready).2
      · rw [if_neg supported]
        simp only [if_neg supported]
        exact .refl device

theorem watches_wait (microseconds : Nat) (device : Device) :
    Watches armed [] device (device.wait microseconds) := .of_same rfl rfl rfl rfl

theorem watches_finishPowerUp (inPlace : device.payload = some payload) (channel : UInt8) :
    Watches armed (device.lookAt payload channel true) device
      (device.finishPowerUp payload channel) := by
  have polled : Watches armed (device.lookAt payload channel true) device
      ((pollAfterPowerUp payload channel).leaves device) := by
    refine .tail ?_ (watches_latchFault _ _)
    cases tabled : payload.interrupts? channel with
    | none =>
        rw [pollAfterPowerUp, lookAt, tabled]
        exact .refl device
    | some table =>
        rw [fst_pollAfterPowerUp tabled]
        exact watches_poll inPlace tabled true
  have rest : Work.Counts armed (Work.inOrder [clearInterrupts payload channel,
      unmaskInterrupts payload channel, replay payload channel .afterPowerUp]) := by
    apply Work.counts_inOrder
    intro part member
    simp only [List.mem_cons, List.not_mem_nil, or_false] at member
    rcases member with rfl | rfl | rfl
    · exact .of_on (Work.on_clearInterrupts trivial)
    · exact .of_on (Work.on_unmaskInterrupts trivial)
    · exact .of_on (.replay trivial _ _)
  have worked : Watches armed (device.lookAt payload channel true) device
      (Work.inOrder [pollAfterPowerUp payload channel, clearInterrupts payload channel,
        unmaskInterrupts payload channel, replay payload channel .afterPowerUp] device).1 := by
    rw [Work.fst_inOrder_cons]
    exact polled.tail (rest _)
  unfold finishPowerUp
  generalize Work.inOrder _ device = outcome at worked ⊢
  obtain ⟨after, fault⟩ := outcome
  cases fault with
  | none => exact worked.tail (.of_same rfl rfl rfl rfl)
  | some fault => exact worked.tail (.of_same rfl rfl rfl rfl)

theorem watches_deferredTurn (device : Device) :
    Watches armed device.turnLooks device device.deferredTurn.1 := by
  unfold turnLooks
  cases due : device.deferred.takeDue device.clock with
  | none =>
      rw [deferredTurn, due]
      exact .refl device
  | some entry =>
      obtain ⟨⟨channel, generation⟩, left⟩ := entry
      have taken : Watches armed [] device (device.cancelDeferred channel) :=
        .of_same rfl rfl rfl rfl
      have still : (device.cancelDeferred channel).ready? = device.ready? := rfl
      rw [deferredTurn_of_due due, still]
      cases ready : device.ready? with
      | none => exact taken.trans (.of_same rfl rfl rfl rfl)
      | some payload =>
          have playing : (device.cancelDeferred channel).power channel = device.power channel := rfl
          simp only [playing]
          split
          · have inPlace : (device.cancelDeferred channel).payload = some payload :=
              (ready?_eq_some ready).2
            have finished : Watches armed ((device.cancelDeferred channel).lookAt payload channel
                true) (device.cancelDeferred channel) _ := watches_finishPowerUp inPlace channel
            exact taken.trans finished
          · exact taken

theorem watches_deferredTurns (bound ran : Nat) (device : Device) :
    Watches armed (turnsLooks bound device) device (deferredTurns bound ran device).1 := by
  induction bound generalizing ran device with
  | zero => exact .refl device
  | succ bound ih =>
      have first : Watches armed device.turnLooks device device.deferredTurn.1 :=
        watches_deferredTurn device
      unfold turnsLooks deferredTurns
      cases turn : device.deferredTurn with
      | mk after outcome =>
          rw [turn] at first
          cases outcome with
          | idle => exact first.trans (.refl _)
          | dropped => exact first.trans (.refl _)
          | skipped => exact first.trans (ih ran after)
          | ran => exact first.trans (ih (ran + 1) after)

theorem watches_runDeferred (device : Device) :
    Watches armed device.deferredLooks device device.runDeferred.1 := watches_deferredTurns _ _ _

theorem watches_deferredUntil (bound ending : Nat) (device : Device) :
    Watches armed (untilLooks bound ending device) device
      (deferredUntil bound ending device) := by
  induction bound generalizing device with
  | zero => exact .refl device
  | succ bound ih =>
      unfold untilLooks deferredUntil
      cases device.deferred.nextDue? with
      | none => exact .refl device
      | some due =>
          simp only
          by_cases early : due ≤ ending
          · rw [if_pos early, if_pos early]
            exact (watches_wait _ device).trans ((watches_runDeferred _).trans (ih _))
          · rw [if_neg early, if_neg early]
            exact .refl device

theorem watches_runFor (microseconds : Nat) (device : Device) :
    Watches armed (device.runLooks microseconds) device (device.runFor microseconds) := by
  have begun : Watches armed [] device { device with notified := false } :=
    .of_same rfl rfl rfl rfl
  have lasts (held : Device) (ending : Nat) : Watches armed (untilLooks deferredPauses ending held)
      held ((deferredUntil deferredPauses ending held).waitUntil ending) :=
    (watches_deferredUntil _ _ _).tail (watches_wait _ _)
  simp only [runFor, runLooks]
  split
  · exact ((begun.trans (lasts _ _)).trans (watches_handleInterrupt _)).trans (lasts _ _)
  · exact begun.trans (lasts _ _)

/-! ## Loading -/

/-- What an operation does to the counters unless it reads them. -/
inductive Recounts (armed : Prop) (before : Device) : List Look → Device → Prop where
  | watched {looks : List Look} {after : Device} (watches : Watches armed looks before after) :
      Recounts armed before looks after
  | installed {asked after : Device} {payload : Payload} (asks : Watches armed [] before asked)
      (shaped : payload.Shaped) (watches : Watches armed [] (asked.adopt payload) after) :
      Recounts armed before [] after

namespace Recounts

theorem tail (recounts : Recounts armed before [] middle)
    (watches : Watches armed [] middle after) :
    Recounts armed before [] after := by
  cases recounts with
  | watched first => exact .watched (first.trans watches)
  | installed asks shaped first => exact .installed asks shaped (first.trans watches)

theorem after_asking (asks : Watches armed [] before middle)
    (recounts : Recounts armed middle [] after) : Recounts armed before [] after := by
  cases recounts with
  | watched later => exact .watched (asks.trans later)
  | installed later shaped watches => exact .installed (asks.trans later) shaped watches

end Recounts

theorem watches_written (write : Control.Write) (value : Int) (device : Device) :
    Watches armed [] device (device.written write value) := by
  unfold written
  cases write.outcome with
  | deferred => exact .of_same rfl rfl rfl rfl
  | applied => exact .of_same rfl rfl rfl (List.count_cons_of_ne (by simp))

/-- Once a payload is in place, the rest of its installation leaves its counters at zero. -/
theorem watches_install (payload : Payload) (device : Device) :
    Watches armed [] (device.adopt payload) (device.install payload) := by
  have initialised : Work.Counts armed (initialiseAll payload) :=
    .of_on (Work.on_initialiseAll payload fun _ _ => trivial)
  have made (held : Device) : Watches armed [] held (held.makeCachedWrites payload) := by
    rw [makeCachedWrites_eq]
    refine List.foldlRecOn (motive := fun later : Device => Watches armed [] held later)
      held.cachedWrites _ (.of_same rfl rfl rfl rfl) fun later sofar entry _ => sofar.trans ?_
    unfold writtenLate
    cases Control.acceptNamed payload.controls entry.1 entry.2 0 with
    | error error => exact .refl later
    | ok write => exact watches_written write entry.2 later
  have readied (held : Device) : Watches armed [] held held.readied := .of_same rfl rfl rfl rfl
  rw [install_eq]
  exact ((initialised _).trans (made _)).trans (readied _)

theorem recounts_attempt (tries : Nat) (last : Tuning.ImageError) (device : Device) :
    Recounts armed device [] (attempt tries last device).1 := by
  induction tries generalizing last device with
  | zero => exact .watched (.of_same rfl rfl rfl rfl)
  | succ tries ih =>
      unfold attempt
      have fetched : Watches armed [] device device.fetch.1 := .of_same rfl rfl rfl rfl
      cases outcome : device.fetch with
      | mk asked answer =>
          rw [outcome] at fetched
          cases answer with
          | ok payload =>
              have shaped : payload.Shaped := shaped_fetch (congrArg Prod.snd outcome)
              exact .installed fetched shaped (watches_install payload asked)
          | error error =>
              simp only
              by_cases again : error.isRetryable = true
              · rw [if_pos again]
                refine .after_asking fetched (.after_asking ?_ (ih error _))
                split
                · exact .refl asked
                · exact watches_wait _ asked
              · rw [if_neg again]
                exact .watched (fetched.trans (.of_same rfl rfl rfl rfl))

theorem recounts_load (tries : UInt32) (device : Device) :
    Recounts armed device [] (device.load tries).1 := by
  have begun : Watches armed [] device { device with loadState := .loading } :=
    .of_same rfl rfl rfl rfl
  exact .after_asking begun (recounts_attempt _ _ _)

end Device

namespace Request

open Device (Recounts Watches)

variable {α β : Type} {armed : Prop} {device : Device} {payload : Payload}

theorem watches_bind {first : Request α} {next : α → Request β}
    (early : Watches armed [] device (first.leaves device))
    (late : ∀ value middle, first device = .ok value middle →
      Watches armed [] middle ((next value).leaves middle)) :
    Watches armed [] device ((first >>= next).leaves device) :=
  leaves_bind (Watches armed [] device) early fun value middle outcome sofar =>
    sofar.trans (late value middle outcome)

theorem recounts_bind {first : Request α} {next : α → Request β}
    (early : Recounts armed device [] (first.leaves device))
    (late : ∀ value middle, first device = .ok value middle →
      Watches armed [] middle ((next value).leaves middle)) :
    Recounts armed device [] ((first >>= next).leaves device) :=
  leaves_bind (Recounts armed device []) early fun value middle outcome sofar =>
    sofar.tail (late value middle outcome)

theorem recounts_load (tries : UInt32) (device : Device) :
    Recounts armed device [] ((load tries).leaves device) := by
  rw [leaves_load]
  exact Device.recounts_load tries device

theorem recounts_ensureReady (device : Device) :
    Recounts armed device [] (ensureReady.leaves device) := by
  rw [leaves_ensureReady]
  split
  · exact .watched (.refl device)
  · exact Device.recounts_load _ device

theorem recounts_with_payload {next : Payload → Request α}
    (late : ∀ payload middle, middle.ready? = some payload →
      Watches armed [] middle ((next payload).leaves middle)) (device : Device) :
    Recounts armed device [] ((loadedPayload >>= next).leaves device) := by
  refine recounts_bind ?_ fun payload middle found => late payload middle
    (ready_of_loadedPayload found)
  rw [leaves_loadedPayload]
  exact recounts_ensureReady device

/-- A request that only looks at the device. -/
theorem watches_same {request : Request α} (same : request.leaves device = device) :
    Watches armed [] device (request.leaves device) := by
  rw [same]
  exact .refl device

theorem watches_of_payload {next : Payload → Request α}
    (late : ∀ payload, Watches armed [] device ((next payload).leaves device)) :
    Watches armed [] device ((Request.payload >>= next).leaves device) := by
  refine watches_bind (watches_same (leaves_payload device)) fun payload middle found => ?_
  have same : middle = device := (leaves_of_ok found).symm.trans (leaves_payload device)
  rw [same]
  exact late payload

theorem watches_powered (mask : UInt8) (target : Power) (payload : Payload) (device : Device) :
    Watches armed [] device (powered payload mask target device) := by
  have moves : Work.Counts armed (Work.each (wanted payload mask target device)
      (Device.transition payload target)) :=
    .of_on (Work.on_each fun _ _ => Work.on_transition trivial target)
  simp only [powered]
  split
  · exact (moves device).trans (Device.watches_escalate payload _)
  · exact moves device

theorem recounts_power (mask : UInt8) (target : Power) (device : Device) :
    Recounts armed device [] ((power mask target).leaves device) := by
  refine recounts_with_payload (fun payload middle ready => ?_) device
  have found := loadedPayload_of_ready ready
  have outcome := leaves_power found mask target
  rw [power, leaves_bind_ok found] at outcome
  obtain same | same := outcome
  · rw [same]
    exact .refl middle
  · rw [same]
    exact watches_powered mask target payload middle

theorem watches_dispatch (write : Control.Write) (device : Device) :
    Watches armed [] device ((dispatch write).leaves device) := by
  unfold dispatch leaves
  cases write.outcome with
  | deferred => exact .refl device
  | applied =>
      have sent : Watches armed [] device (Device.onBus write.carryOut
          (device.record (.dispatched write.id write.index))).1 :=
        .of_same rfl rfl rfl (List.count_cons_of_ne (by simp))
      simp only
      generalize Device.onBus write.carryOut _ = outcome at sent ⊢
      obtain ⟨after, fault⟩ := outcome
      cases fault with
      | none => exact sent
      | some fault => exact sent.trans (.of_same rfl rfl rfl rfl)

/-- Writing a control of a payload that is ready. -/
theorem watches_putControl (ready : device.ready? = some payload) (id : Nat) (value : Int) :
    Watches armed [] device ((putControl id value).leaves device) := by
  rw [putControl, leaves_bind_ok (loadedPayload_of_ready ready), leaves_get_bind]
  cases Control.accept payload.controls id value (device.maskOf .active) with
  | error error => exact .refl device
  | ok write =>
      have stored : Watches armed [] device { device with values := device.values.set id value } :=
        .of_same rfl rfl rfl rfl
      have sent : Watches armed [] { device with values := device.values.set id value } _ :=
        watches_dispatch write _
      rw [← leaves_bind_pure (dispatch write) fun _ => write.outcome] at sent
      exact stored.trans sent

theorem recounts_putControl (id : Nat) (value : Int) (device : Device) :
    Recounts armed device [] ((putControl id value).leaves device) := by
  refine recounts_with_payload (fun payload middle ready => ?_) device
  have wrote : Watches armed [] middle ((putControl id value).leaves middle) :=
    watches_putControl ready id value
  rwa [putControl, leaves_bind_ok (loadedPayload_of_ready ready)] at wrote

theorem recounts_putControlNamed (name : String) (value : Int) (device : Device) :
    Recounts armed device [] ((putControlNamed name value).leaves device) := by
  have ensured : Recounts armed device [] (ensureReady.leaves device) := recounts_ensureReady device
  unfold leaves at ensured
  unfold leaves putControlNamed
  cases outcome : ensureReady device with
  | error error after =>
      rw [outcome] at ensured
      exact ensured.tail (.of_same rfl rfl rfl rfl)
  | ok value' after =>
      rw [outcome] at ensured
      have put : Watches armed [] after ((putFound name value).leaves after) := by
        refine watches_bind (watches_same (leaves_payload after)) fun payload middle found => ?_
        cases Control.find? payload.controls name with
        | none => exact .refl middle
        | some id => exact watches_putControl (ready_of_payload found) id value
      exact ensured.tail put

theorem watches_programAll {role : Role} (choose : UInt8 → Except DeviceError (Option Script))
    (channels : List UInt8) (fault : Option TransportFault) (device : Device) :
    Watches armed [] device ((programAll role choose channels fault).leaves device) := by
  induction channels generalizing device fault with
  | nil => exact .refl device
  | cons channel others ih =>
      unfold programAll
      cases choose channel with
      | error error => exact .refl device
      | ok chosen =>
          cases chosen with
          | none => exact ih fault device
          | some script =>
              have ran : Work.Counts armed (Device.run channel role script) :=
                .of_on (.run trivial role script)
              exact (ran.leaves device).trans (ih _ _)

theorem watches_raise (fault : Option TransportFault) (device : Device) :
    Watches armed [] device ((raise fault).leaves device) := by
  cases fault <;> exact .refl device

theorem recounts_applySetting (setting : Setting) (variant : Variant) (device : Device) :
    Recounts armed device [] ((applySetting setting variant).leaves device) := by
  refine recounts_with_payload (fun payload middle ready => ?_) device
  exact watches_bind (watches_programAll _ _ _ _) fun fault last _ => watches_raise fault last

/-- A negotiation changes the slot configuration in use, and no counter. -/
theorem recounts_negotiate (unarmed : ¬armed) (slotWidth : UInt8) (device : Device) :
    Recounts armed device [] ((negotiate slotWidth).leaves device) := by
  refine recounts_with_payload (fun payload middle ready => ?_) device
  refine watches_bind (.refl middle) fun held same answer => ?_
  cases answer
  refine watches_bind (watches_programAll _ _ _ _) ?_
  intro fault last _
  split
  · exact .refl last
  · rename_i config _
    have chosen : Watches armed [] last { last with slot := some config.key } :=
      ⟨rfl, rfl, fun is => absurd is unarmed, fun _ _ => rfl⟩
    refine watches_bind chosen fun _ next _ => ?_
    exact watches_bind (watches_raise fault next) fun _ _ _ => .refl _

/-- Reading the counters concerns neither the payload in place nor the slot configuration. -/
theorem slot_counters (channel : UInt8) (device : Device) :
    ((counters channel).leaves device).slot = device.slot := by
  refine leaves_bind (fun after => after.slot = device.slot) (by rw [leaves_payload]) ?_
  intro payload middle found same
  rw [← same]
  cases payload.interrupts? channel with
  | none => rfl
  | some table =>
      rw [leaves_get_bind]
      cases middle.channel? channel <;> rfl

end Request

namespace Operation

open Device (Recounts Watches)

/-- The looks at status registers in the course of an operation, in order. -/
def looks : Operation → Device → List Look
  | handleInterrupt => Device.interruptLooks
  | runDeferred => Device.deferredLooks
  | runFor microseconds => Device.runLooks microseconds
  | _ => fun _ => []

/-- What every operation but reading the counters does to them. -/
theorem recounts (operation : Operation) (unread : ∀ channel, operation ≠ .counters channel)
    (device : Device) :
    Recounts (∀ slotWidth, operation ≠ .negotiate slotWidth) device (operation.looks device)
      (operation.perform device) := by
  have beside {armed : Prop} {firmware : FirmwareSource} {notified : Bool} {bus : Bus} :
      Recounts armed device []
        { device with firmware := firmware, notified := notified, bus := bus } :=
    .watched (.of_same rfl rfl rfl rfl)
  have asked {armed : Prop} {α : Type} {next : Payload → Request α} (same : ∀ payload middle,
      (next payload).leaves middle = middle) :
      Recounts armed device [] ((Request.loadedPayload >>= next).leaves device) :=
    Request.recounts_with_payload (fun payload middle _ => Request.watches_same (same _ _)) device
  cases operation with
  | load tries => exact Request.recounts_load tries device
  | probe => exact Request.recounts_load device.config.loadTries device
  | profileNames => exact asked fun _ _ => rfl
  | selectProfile index =>
      refine Request.recounts_with_payload (fun payload middle _ => ?_) device
      rw [Request.leaves_get_bind]
      cases (middle.selection payload).choose index with
      | ok chosen => exact .of_same rfl rfl rfl rfl
      | error error => exact .refl middle
  | capabilities => exact .watched (Request.watches_of_payload fun _ => .refl device)
  | channelAllowed channel => exact .watched (Request.watches_of_payload fun _ => .refl device)
  | power mask target => exact Request.recounts_power mask target device
  | handleInterrupt =>
      rw [perform, Request.leaves_handleInterrupt]
      exact .watched (Device.watches_handleInterrupt device)
  | counters channel => exact absurd rfl (unread channel)
  | takeErrors => exact .watched (.of_same rfl rfl rfl rfl)
  | runDeferred => exact .watched (Device.watches_runDeferred device)
  | controls => exact asked fun _ _ => rfl
  | getControl id =>
      refine Request.recounts_with_payload (fun payload middle _ => ?_) device
      rw [Request.leaves_get_bind]
      cases middle.values[id]? <;> exact .refl middle
  | putControl id value => exact Request.recounts_putControl id value device
  | putControlNamed name value => exact Request.recounts_putControlNamed name value device
  | applySetting setting variant => exact Request.recounts_applySetting setting variant device
  | setFraming framing =>
      exact Request.recounts_bind (Request.recounts_ensureReady device) fun _ middle _ =>
        .of_same rfl rfl rfl rfl
  | negotiate slotWidth =>
      exact Request.recounts_negotiate (fun other => other slotWidth rfl) slotWidth device
  | algorithm => exact .watched (Request.watches_of_payload fun _ => .refl device)
  | notify => exact beside
  | runFor microseconds => exact .watched (Device.watches_runFor microseconds device)
  | wait microseconds => exact .watched (Device.watches_wait microseconds device)
  | disturb change => exact beside
  | supply firmware => exact beside

end Operation

end AmpControl
