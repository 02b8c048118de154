import AmpControl.Proofs.Device.Encounter
import AmpControl.Proofs.Tuning.Trimming

/-!
# Devices with trimmed payloads

A device is trimmed together with its payload and the images that are supplied to it. All work asks
a payload for the interrupt tables in use and for tables that are never trimmed, so it does to the
trimmed device what it does to the device: trimming before and after the work is the same.
-/

namespace AmpControl

open Tuning (AudioInterface InterruptTable Payload Phase Script Timing trimImage)

/-- The source of the trimmed images. -/
def FirmwareSource.trim (revision : UInt32) (source : FirmwareSource) : FirmwareSource :=
  { source with
    queued := source.queued.map (Option.map (trimImage revision))
    fallback := source.fallback.map (trimImage revision) }

/-- The device with the trimmed payload and trimmed images. -/
def Device.trim (device : Device) : Device :=
  { device with
    payload := device.payload.map Payload.trim
    firmware := device.firmware.trim device.config.revision }

/-! ## What is kept of a device -/

namespace Device

@[simp] theorem config_trim (device : Device) : device.trim.config = device.config := rfl

@[simp] theorem loadState_trim (device : Device) : device.trim.loadState = device.loadState := rfl

@[simp] theorem values_trim (device : Device) : device.trim.values = device.values := rfl

@[simp] theorem deferred_trim (device : Device) : device.trim.deferred = device.deferred := rfl

@[simp] theorem lockedOut_trim (device : Device) : device.trim.lockedOut = device.lockedOut := rfl

@[simp] theorem framing_trim (device : Device) : device.trim.framing = device.framing := rfl

@[simp] theorem clock_trim (device : Device) : device.trim.clock = device.clock := rfl

@[simp] theorem channel?_trim (device : Device) : device.trim.channel? = device.channel? := rfl

@[simp] theorem power_trim (device : Device) : device.trim.power = device.power := rfl

@[simp] theorem unmasked_trim (device : Device) : device.trim.unmasked = device.unmasked := rfl

@[simp] theorem waiting_trim (device : Device) : device.trim.waiting = device.waiting := rfl

@[simp] theorem maskOf_trim (device : Device) : device.trim.maskOf = device.maskOf := rfl

end Device

/-! ## Work in parts -/

/-- What is done to a device and to the trimmed device comes to the same. -/
def Trims {α : Type} (step trimmed : Device → Device × α) : Prop :=
  ∀ device, trimmed device.trim = ((step device).1.trim, (step device).2)

namespace Work

variable {work trimmed : Work}

theorem trims_idle : Trims idle idle := fun _ => rfl

theorem trims_silent {change : Device → Device}
    (commutes : ∀ device, change device.trim = (change device).trim) :
    Trims (silent change) (silent change) :=
  fun device => Prod.ext (commutes device) rfl

theorem trims_reading {choose chosen : Device → Work}
    (trims : ∀ device, Trims (choose device) (chosen device.trim)) :
    Trims (reading choose) (reading chosen) :=
  fun device => trims device device

theorem latchFault_trim (fault : Option TransportFault) (device : Device) :
    device.trim.latchFault fault = (device.latchFault fault).trim := by
  unfold Device.latchFault
  split
  · split <;> rfl
  · rfl

theorem part_trim (trims : Trims work trimmed) (device : Device) (held : Option TransportFault) :
    trimmed.part (device.trim, held) =
      ((work.part (device, held)).1.trim, (work.part (device, held)).2) := by
  simp only [part, trims device, latchFault_trim]

theorem trims_inOrder {parts trimmedParts : List Work}
    (trims : List.Forall₂ Trims parts trimmedParts) :
    Trims (inOrder parts) (inOrder trimmedParts) := by
  have all (state : Device × Option TransportFault) :
      trimmedParts.foldl (fun state work => work.part state) (state.1.trim, state.2) =
        ((parts.foldl (fun state work => work.part state) state).1.trim,
          (parts.foldl (fun state work => work.part state) state).2) := by
    induction trims generalizing state with
    | nil => rfl
    | cons first others ih =>
        rw [List.foldl_cons, List.foldl_cons, part_trim first]
        exact ih _
  exact fun device => all (device, none)

theorem trims_map {α : Type} {items : List α} {work trimmed : α → Work}
    (trims : ∀ item, Trims (work item) (trimmed item)) :
    List.Forall₂ Trims (items.map work) (items.map trimmed) :=
  List.forall₂_map_left_iff.mpr (List.forall₂_map_right_iff.mpr
    (List.forall₂_same.mpr fun item _ => trims item))

theorem trims_each (channels : List UInt8) {work trimmed : UInt8 → Work}
    (trims : ∀ channel, Trims (work channel) (trimmed channel)) :
    Trims (each channels work) (each channels trimmed) :=
  trims_inOrder (trims_map trims)

end Work

namespace Device

open Work (trims_each trims_idle trims_inOrder trims_map trims_reading trims_silent)

/-! ## Scripts -/

theorem trims_run (channel : UInt8) (role : Role) (script : Script) :
    Trims (run channel role script) (run channel role script) := fun _ => rfl

theorem trims_replay (payload : Payload) (channel : UInt8) (timing : Timing) :
    Trims (replay payload channel timing) (replay payload.trim channel timing) := by
  intro device
  rw [replay_eq, replay_eq]
  rfl

theorem profile?_trim (payload : Payload) (device : Device) (channel : UInt8) :
    (device.trim.selection payload.trim).profile? channel =
      (device.selection payload).profile? channel := by
  simp only [Selection.profile?, selection, Payload.channel?_trim]
  cases payload.channel? channel <;> rfl

theorem capabilities_trim (payload : Payload) (device : Device) :
    (device.trim.selection payload.trim).capabilities =
      (device.selection payload).capabilities := by
  rw [Selection.capabilities, profile?_trim, Selection.capabilities]

theorem channelMask_trim (payload : Payload) (device : Device) :
    (device.trim.selection payload.trim).channelMask = (device.selection payload).channelMask := by
  rw [Selection.channelMask, profile?_trim, Selection.channelMask]
  rfl

theorem trims_applyProfile (payload : Payload) (phase : Phase) (channel : UInt8) :
    Trims (applyProfile payload phase channel) (applyProfile payload.trim phase channel) := by
  intro device
  simp only [applyProfile, profile?_trim]
  cases (device.selection payload).profile? channel <;> rfl

theorem trims_maskInterrupts (payload : Payload) (channel : UInt8) :
    Trims (maskInterrupts payload channel) (maskInterrupts payload.trim channel) := by
  intro device
  simp only [maskInterrupts, Payload.interrupts?_trim]
  cases payload.interrupts? channel <;> rfl

theorem trims_clearInterrupts (payload : Payload) (channel : UInt8) :
    Trims (clearInterrupts payload channel) (clearInterrupts payload.trim channel) := by
  rw [clearInterrupts, clearInterrupts, Payload.interrupts?_trim]
  cases payload.interrupts? channel with
  | none => exact trims_idle
  | some table => exact trims_run _ _ _

theorem trims_unmaskInterrupts (payload : Payload) (channel : UInt8) :
    Trims (unmaskInterrupts payload channel) (unmaskInterrupts payload.trim channel) := by
  rw [unmaskInterrupts, unmaskInterrupts, Payload.interrupts?_trim]
  cases payload.interrupts? channel with
  | none => exact trims_idle
  | some table =>
      refine trims_inOrder (.cons (trims_run _ _ _) (.cons (trims_silent fun _ => rfl) .nil))

theorem slotInUse?_trim (payload : Payload) (device : Device) (channel : UInt8) :
    device.trim.slotInUse? payload.trim channel = device.slotInUse? payload channel := by
  simp only [slotInUse?, Payload.channel?_trim]
  cases payload.channel? channel <;> rfl

theorem trims_armSense (payload : Payload) (channel : UInt8) :
    Trims (armSense payload channel) (armSense payload.trim channel) := by
  intro device
  simp only [armSense, slotInUse?_trim]
  cases device.slotInUse? payload channel <;> rfl

theorem trims_softReset (payload : Payload) (channel : UInt8) :
    Trims (softReset payload channel) (softReset payload.trim channel) := by
  rw [softReset, softReset, Payload.channel?_trim]
  cases payload.channel? channel with
  | none => exact trims_idle
  | some tables => exact trims_run _ _ _

theorem trims_applyFallbacks (channel : UInt8) (audioInterface : Option AudioInterface) :
    Trims (applyFallbacks channel audioInterface) (applyFallbacks channel audioInterface) := by
  unfold applyFallbacks
  cases audioInterface with
  | none => exact trims_idle
  | some tables => exact trims_inOrder (trims_map fun _ => trims_run _ _ _)

theorem trims_initialise (payload : Payload) (channel : UInt8) :
    Trims (initialise payload channel) (initialise payload.trim channel) := by
  rw [initialise, initialise, Payload.channel?_trim]
  cases payload.channel? channel with
  | none => exact trims_idle
  | some tables =>
      exact trims_inOrder
        (.cons (trims_run _ _ _)
        (.cons (trims_applyFallbacks _ _)
        (.cons (trims_armSense _ _)
        (.cons (trims_replay _ _ _) .nil))))

/-! ## Power transitions -/

theorem trims_rearmSense (payload : Payload) (channel : UInt8) :
    Trims (rearmSense payload channel) (rearmSense payload.trim channel) := by
  refine trims_reading fun device => ?_
  rw [capabilities_trim]
  split
  · exact trims_inOrder (.cons (trims_clearInterrupts _ _) (.cons (trims_armSense _ _) .nil))
  · exact trims_idle

theorem trims_powerUp (payload : Payload) (channel : UInt8) :
    Trims (powerUp payload channel) (powerUp payload.trim channel) := by
  rw [powerUp, powerUp, Payload.channel?_trim]
  cases payload.channel? channel with
  | none => exact trims_idle
  | some tables =>
      exact trims_inOrder
        (.cons (trims_silent fun _ => rfl)
        (.cons (trims_maskInterrupts _ _)
        (.cons (trims_rearmSense _ _)
        (.cons (trims_applyProfile _ _ _)
        (.cons (trims_replay _ _ _)
        (.cons (trims_run _ _ _)
        (.cons (trims_applyProfile _ _ _)
        (.cons (trims_silent fun _ => rfl) .nil))))))))

theorem trims_powerDown (payload : Payload) (channel : UInt8) :
    Trims (powerDown payload channel) (powerDown payload.trim channel) := by
  rw [powerDown, powerDown, Payload.channel?_trim]
  cases payload.channel? channel with
  | none => exact trims_idle
  | some tables =>
      exact trims_inOrder
        (.cons (trims_maskInterrupts _ _)
        (.cons (trims_silent fun _ => rfl)
        (.cons (trims_applyProfile _ _ _)
        (.cons (trims_run _ _ _)
        (.cons (trims_applyProfile _ _ _)
        (.cons (trims_silent fun _ => rfl) .nil))))))

theorem trims_mute (payload : Payload) (channel : UInt8) :
    Trims (mute payload channel) (mute payload.trim channel) := by
  rw [mute, mute, Payload.channel?_trim]
  cases payload.channel? channel with
  | none => exact trims_idle
  | some tables =>
      exact trims_inOrder
        (.cons (trims_maskInterrupts _ _)
        (.cons (trims_silent fun _ => rfl)
        (.cons (trims_run _ _ _)
        (.cons (trims_silent fun _ => rfl) .nil))))

theorem trims_transition (payload : Payload) (target : Power) (channel : UInt8) :
    Trims (transition payload target channel) (transition payload.trim target channel) := by
  refine trims_reading fun device => ?_
  rw [power_trim]
  split
  · exact trims_idle
  · exact trims_idle
  · exact trims_idle
  · exact trims_idle
  · exact trims_powerUp _ _
  · exact trims_powerDown _ _
  · exact trims_mute _ _

theorem trims_restore (payload : Payload) (former : Power) (channel : UInt8) :
    Trims (restore payload former channel) (restore payload.trim former channel) := by
  cases former with
  | shutdown => exact trims_idle
  | active => exact trims_powerUp _ _
  | mute => exact trims_inOrder (.cons (trims_powerUp _ _) (.cons (trims_mute _ _) .nil))

/-! ## Restarts -/

theorem trims_resumeInterrupts (payload : Payload) (channel : UInt8) :
    Trims (resumeInterrupts payload channel) (resumeInterrupts payload.trim channel) := by
  refine trims_reading fun device => ?_
  rw [power_trim, waiting_trim]
  split
  · exact trims_unmaskInterrupts _ _
  · exact trims_idle

theorem trims_pulseReset : Trims pulseReset pulseReset := fun _ => rfl

/-- The parts of several rows of work, one row for each item. -/
theorem trims_flatMap {α : Type} {items : List α} {parts trimmed : α → List Work}
    (trims : ∀ item, List.Forall₂ Trims (parts item) (trimmed item)) :
    List.Forall₂ Trims (items.flatMap parts) (items.flatMap trimmed) := by
  induction items with
  | nil => exact .nil
  | cons first others ih => exact List.rel_append (trims first) ih

theorem trims_restartAll (payload : Payload) :
    Trims (restartAll payload) (restartAll payload.trim) := by
  refine trims_reading fun device => trims_inOrder ?_
  refine List.rel_append (List.rel_append (List.rel_append ?_ ?_) ?_) ?_
  · exact .cons trims_pulseReset .nil
  · exact trims_flatMap fun channel =>
      .cons (trims_silent fun _ => rfl) (.cons (trims_initialise _ channel) .nil)
  · exact trims_map fun channel => trims_restore _ _ channel
  · exact trims_map fun channel => trims_restore _ _ channel

theorem trims_restartAndResume (payload : Payload) (channel : UInt8) :
    Trims (restartAndResume payload channel) (restartAndResume payload.trim channel) := by
  intro device
  unfold restartAndResume
  rw [trims_restartAll]
  cases restartAll payload device with
  | mk restarted fault =>
      cases fault with
      | none => exact trims_resumeInterrupts payload channel restarted
      | some fault => rfl

theorem trims_restartChannel (payload : Payload) (channel : UInt8) :
    Trims (restartChannel payload channel) (restartChannel payload.trim channel) :=
  trims_reading fun device => trims_inOrder
    (.cons (trims_softReset _ _)
    (.cons (trims_initialise _ _)
    (.cons (trims_restore _ (device.power channel) _) .nil)))

theorem lockOut_trim (payload : Payload) (channels : List UInt8) (device : Device) :
    device.trim.lockOut payload.trim channels = (device.lockOut payload channels).trim := by
  refine List.foldl_hom Device.trim fun held channel => ?_
  rw [trims_powerDown]
  rfl

theorem escalate_trim (payload : Payload) (device : Device) :
    device.trim.escalate payload.trim = (device.escalate payload).trim := by
  have failing : device.trim.allFailing payload.trim = device.allFailing payload := rfl
  have begun : device.trim.beginRestart = device.beginRestart.trim := rfl
  unfold escalate
  rw [failing, begun, trims_restartAll, lockOut_trim]
  split
  · rfl
  · exact (apply_ite Device.trim ..).symm

/-! ## Recovery passes -/

theorem trims_poll (table : InterruptTable) (channel : UInt8) (powered : Bool) :
    Trims (poll table channel powered) (poll table channel powered) := fun _ => rfl

theorem trims_checkPower (payload : Payload) (channel : UInt8) :
    Trims (checkPower payload channel) (checkPower payload.trim channel) := by
  intro device
  rw [checkPower, checkPower, Payload.channel?_trim]
  cases payload.channel? channel <;> rfl

namespace Pass

/-- The pass over the trimmed device. -/
def trim (pass : Pass) : Pass := { pass with device := pass.device.trim }

theorem perform_trim {work trimmed : Work} (trims : Trims work trimmed) (pass : Pass) :
    pass.trim.perform trimmed = (pass.perform work).trim := by
  have parts := Work.part_trim trims pass.device pass.fault
  unfold perform
  exact congrArg (fun state : Device × Option TransportFault =>
    { pass with device := state.1, fault := state.2 }) parts

theorem reported_trim {work trimmed : Work} (trims : Trims work trimmed)
    (change : RecoveryReport → RecoveryReport) (pass : Pass) :
    (pass.trim.reporting change).perform trimmed = ((pass.reporting change).perform work).trim :=
  perform_trim trims (pass.reporting change)

theorem faulted_trim (device : Device) (fault : TransportFault) (pass : Pass) :
    ({ pass.trim with device := device.trim } : Pass).perform (fun device => (device, some fault)) =
      (({ pass with device := device } : Pass).perform fun device => (device, some fault)).trim :=
  perform_trim (fun _ => rfl) { pass with device := device }

theorem apply_trim (payload : Payload) (channel : UInt8) (remedy : Remedy) (pass : Pass) :
    pass.trim.apply payload.trim channel remedy = (pass.apply payload channel remedy).trim := by
  cases remedy with
  | leave => rfl
  | resume => exact reported_trim (trims_resumeInterrupts _ _) _ pass
  | shutDown => exact reported_trim (trims_powerDown _ _) _ pass
  | softReset => exact perform_trim (trims_restartChannel _ _) (pass.noteReset channel)
  | hardReset =>
      rw [apply_hardReset, apply_hardReset]
      exact perform_trim (trims_restartAndResume _ _) (pass.noteReset channel)
  | checkPower =>
      unfold apply
      have checks : checkPower payload.trim channel pass.trim.device = _ :=
        trims_checkPower payload channel pass.device
      rw [checks]
      rcases checkPower payload channel pass.device with ⟨checked, fault | _ | _⟩
      · exact faulted_trim checked fault pass
      · exact reported_trim (trims_powerUp _ _) _ { pass with device := checked }
      · exact perform_trim (trims_resumeInterrupts _ _) { pass with device := checked }

theorem debounce_trim (start : Nat) (channel : UInt8) (pass : Pass) :
    pass.trim.debounce start channel =
      ((pass.debounce start channel).1.trim, (pass.debounce start channel).2) := by
  have same : pass.trim.device.channel? = pass.device.channel? := channel?_trim pass.device
  unfold debounce
  rw [same]
  cases pass.device.channel? channel <;> rfl

theorem skipStuck_trim (table : InterruptTable) (channel : UInt8) (pass : Pass) :
    pass.trim.skipStuck table channel = (pass.skipStuck table channel).trim := rfl

theorem recover_trim (payload : Payload) (table : InterruptTable) (channel : UInt8)
    (reading : Reading) (pass : Pass) :
    pass.trim.recover payload.trim table channel reading =
      (pass.recover payload table channel reading).trim := by
  have settled : pass.trim.settled table channel = (pass.settled table channel).trim :=
    congrArg (silently (Device.wait (Bus.milliseconds table.settleTime.toNat)))
      (perform_trim (trims_run channel .clear table.clear) (pass.silently
        (Device.count fun stats => { stats with recoveries := Stats.increment stats.recoveries })))
  have remedy : pass.trim.remedy table channel reading = pass.remedy table channel reading := by
    rw [Pass.remedy, settled, Pass.remedy]
    rfl
  rw [recover_eq, recover_eq, settled, remedy]
  exact apply_trim payload channel _ ((pass.settled table channel).silently
    (Device.record (.recovered channel (pass.remedy table channel reading))))

theorem judge_trim (payload : Payload) (table : InterruptTable) (start : Nat) (channel : UInt8)
    (reading : Reading) (pass : Pass) :
    pass.trim.judge payload.trim table start channel reading =
      (pass.judge payload table start channel reading).trim := by
  unfold judge
  rw [debounce_trim]
  rcases pass.debounce start channel with ⟨noted, _ | _⟩
  · exact recover_trim payload table channel reading noted
  · exact skipStuck_trim table channel noted

theorem visit_trim (payload : Payload) (start : Nat) (channel : UInt8) (pass : Pass) :
    pass.trim.visit payload.trim start channel = (pass.visit payload start channel).trim := by
  unfold visit
  rw [Payload.interrupts?_trim]
  cases payload.interrupts? channel with
  | none => rfl
  | some table =>
      have polls : pass.trim.device.poll table channel (pass.trim.device.power channel = .active) =
          _ := trims_poll table channel (pass.device.power channel = .active) pass.device
      simp only [polls]
      rcases pass.device.poll table channel (pass.device.power channel = .active) with
        ⟨polled, fault | reading⟩
      · exact faulted_trim polled fault pass
      · cases fires : reading.any with
        | false => simp only [fires]; rfl
        | true =>
            simp only [fires, not_true_eq_false, if_false]
            exact judge_trim payload table start channel reading
              (({ pass with device := polled } : Pass).reporting (RecoveryReport.detect channel))

theorem trims_unmaskAgain (payload : Payload) (channel : UInt8) :
    Trims (unmaskAgain payload channel) (unmaskAgain payload.trim channel) := by
  refine trims_reading fun device => ?_
  rw [waiting_trim, unmasked_trim]
  split
  · exact trims_idle
  · exact trims_unmaskInterrupts _ _

theorem finish_trim (payload : Payload) (start : Nat) (pass : Pass) :
    pass.trim.finish payload.trim start =
      ((pass.finish payload start).1.trim, (pass.finish payload start).2) := by
  obtain ⟨device, report, fault⟩ := pass
  unfold finish
  simp only [trim, escalate_trim, ← apply_ite Device.trim]
  generalize (if fault.isSome = true then device.escalate payload else device) = ended
  rfl

end Pass

theorem trims_maskForSurvey (payload : Payload) (channel : UInt8) :
    Trims (maskForSurvey payload channel) (maskForSurvey payload.trim channel) := by
  rw [maskForSurvey, maskForSurvey, Payload.interrupts?_trim]
  cases payload.interrupts? channel with
  | none => exact trims_idle
  | some table =>
      exact trims_inOrder (.cons (trims_run _ _ _) (.cons (trims_silent fun _ => rfl) .nil))

theorem maskedPass_trim (payload : Payload) (device : Device) :
    device.trim.maskedPass payload.trim = (device.maskedPass payload).trim :=
  Pass.perform_trim (trims_each _ fun channel => trims_maskForSurvey payload channel)
    ⟨device, RecoveryReport.nothing, none⟩

theorem visitedPass_trim (payload : Payload) (device : Device) :
    device.trim.visitedPass payload.trim = (device.visitedPass payload).trim := by
  unfold visitedPass
  rw [maskedPass_trim]
  exact List.foldl_hom Pass.trim fun pass channel => Pass.visit_trim payload _ channel pass

theorem trims_survey (payload : Payload) : Trims (survey payload) (survey payload.trim) := by
  intro device
  have quiet : device.trim.quietChannels payload.trim = device.quietChannels payload := by
    rw [quietChannels, visitedPass_trim, quietChannels]
    rfl
  have unmasked := Pass.perform_trim (trims_each (device.quietChannels payload)
    fun channel => Pass.trims_unmaskAgain payload channel) (device.visitedPass payload)
  rw [survey_eq, survey_eq, quiet, visitedPass_trim, maskedPass_trim, unmasked]
  exact Pass.finish_trim payload _ _

/-! ## Workers -/

theorem ready?_trim (device : Device) : device.trim.ready? = device.ready?.map Payload.trim := by
  unfold ready?
  rw [loadState_trim]
  split <;> rfl

theorem trims_handleInterrupt : Trims handleInterrupt handleInterrupt := by
  intro device
  unfold handleInterrupt
  rw [ready?_trim]
  cases device.ready? with
  | none => rfl
  | some payload =>
      simp only [Option.map_some, Payload.header_trim, trims_survey payload device]
      split <;> rfl

theorem trims_pollAfterPowerUp (payload : Payload) (channel : UInt8) :
    Trims (pollAfterPowerUp payload channel) (pollAfterPowerUp payload.trim channel) := by
  intro device
  unfold pollAfterPowerUp
  rw [Payload.interrupts?_trim]
  cases payload.interrupts? channel with
  | none => rfl
  | some table =>
      simp only [trims_poll table channel true device]
      rcases device.poll table channel true with ⟨polled, fault | reading⟩ <;> rfl

theorem finishPowerUp_trim (payload : Payload) (channel : UInt8) (device : Device) :
    device.trim.finishPowerUp payload.trim channel =
      (device.finishPowerUp payload channel).trim := by
  have works : Trims (Work.inOrder [pollAfterPowerUp payload channel,
      clearInterrupts payload channel, unmaskInterrupts payload channel,
      replay payload channel .afterPowerUp]) (Work.inOrder [pollAfterPowerUp payload.trim channel,
      clearInterrupts payload.trim channel, unmaskInterrupts payload.trim channel,
      replay payload.trim channel .afterPowerUp]) :=
    trims_inOrder
      (.cons (trims_pollAfterPowerUp _ _)
      (.cons (trims_clearInterrupts _ _)
      (.cons (trims_unmaskInterrupts _ _)
      (.cons (trims_replay _ _ _) .nil))))
  unfold finishPowerUp
  rw [works device]
  rcases Work.inOrder _ device with ⟨worked, _ | fault⟩ <;> rfl

theorem trims_deferredTurn : Trims deferredTurn deferredTurn := by
  intro device
  unfold deferredTurn
  rw [deferred_trim, clock_trim]
  rcases device.deferred.takeDue device.clock with _ | ⟨⟨channel, generation⟩, left⟩
  · rfl
  · have taken : ({ device.trim with deferred := left } : Device) =
        ({ device with deferred := left } : Device).trim := rfl
    simp only [taken, ready?_trim]
    generalize ({ device with deferred := left } : Device) = taken
    cases taken.ready? with
    | none => rfl
    | some payload =>
        simp only [Option.map_some, power_trim, finishPowerUp_trim]
        split <;> rfl

theorem trims_deferredTurns (bound ran : Nat) :
    Trims (deferredTurns bound ran) (deferredTurns bound ran) := by
  intro device
  induction bound generalizing ran device with
  | zero => rfl
  | succ bound ih =>
      unfold deferredTurns
      rw [trims_deferredTurn]
      rcases device.deferredTurn with ⟨after, _ | _ | _ | _⟩
      · rfl
      · rfl
      · exact ih ran after
      · exact ih (ran + 1) after

theorem deferredUntil_trim (bound ending : Nat) (device : Device) :
    deferredUntil bound ending device.trim = (deferredUntil bound ending device).trim := by
  induction bound generalizing device with
  | zero => rfl
  | succ bound ih =>
      unfold deferredUntil
      rw [deferred_trim]
      cases device.deferred.nextDue? with
      | none => rfl
      | some due =>
          have ran : (device.trim.waitUntil due).runDeferred.1 =
              (device.waitUntil due).runDeferred.1.trim :=
            congrArg Prod.fst (trims_deferredTurns _ 0 (device.waitUntil due))
          simp only [ran, ih]
          split <;> rfl

/-- Deferred work up to a time. -/
theorem waitUntil_trim (ending : Nat) (device : Device) :
    (deferredUntil deferredPauses ending device.trim).waitUntil ending =
      ((deferredUntil deferredPauses ending device).waitUntil ending).trim := by
  rw [deferredUntil_trim]
  rfl

theorem runFor_trim (microseconds : Nat) (device : Device) :
    device.trim.runFor microseconds = (device.runFor microseconds).trim := by
  let ending := device.clock + microseconds
  let passTime := device.clock + Bus.milliseconds device.config.debounceDelay.toNat
  let begun : Device := { device with notified := false }
  have passes : ((deferredUntil deferredPauses passTime begun.trim).waitUntil
      passTime).handleInterrupt.1 = ((deferredUntil deferredPauses passTime begun).waitUntil
      passTime).handleInterrupt.1.trim := by
    rw [waitUntil_trim, trims_handleInterrupt]
  simp only [runFor]
  refine .trans ?_ (waitUntil_trim ending _)
  rw [apply_ite Device.trim]
  refine congrArg (fun held => (deferredUntil deferredPauses ending held).waitUntil ending) ?_
  exact if_congr Iff.rfl passes rfl

end Device

end AmpControl
