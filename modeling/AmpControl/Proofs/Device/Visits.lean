import AmpControl.Proofs.Device.Confinement
import AmpControl.Proofs.Device.Escalation

/-!
# Visits concern their channels

Unless it resets the hardware, a visit of a recovery pass concerns the channel that it visits: it
calls no other channel, leaves their states and deferred work as they are, and reports nothing of
them. It meets no fault where none of its calls is refused.
-/

namespace AmpControl

open Bus (Attempt Makes)
open Tuning (InterruptTable Payload)

namespace Device

variable {payload : Payload} {touched : UInt8 → Prop} {before middle after device : Device}
  {fault : Option TransportFault} {channel : UInt8}

theorem bus_latchFault (fault : Option TransportFault) (device : Device) :
    (device.latchFault fault).bus = device.bus := by
  rw [latchFault_eq]

/-- Neither refused calls nor recoveries by hardware resets are forgotten. -/
theorem Accounts.grows {added : List Event} {excused : Attempt → Prop}
    (accounts : Accounts added excused touched before after) :
    before.bus.refusals ≤ after.bus.refusals ∧ before.hardRecoveries ≤ after.hardRecoveries := by
  obtain ⟨calls, made, _⟩ := accounts.calls
  rw [Bus.refusals_of_calls made, hardRecoveries_eq after, accounts.milestones, List.countP_append,
    ← hardRecoveries_eq]
  exact ⟨Nat.le_add_left _ _, Nat.le_add_left _ _⟩

/-- The fault that was met may be left out of account. -/
theorem Confined.mild (confined : Confined touched before after fault) :
    Confined touched before after none :=
  { confined with blamed := fun failed => absurd rfl failed }

/-- Looking at a channel and taking notes. -/
theorem Confined.of_look (beside : Beside before after)
    (channels : after.channels = before.channels) (deferred : after.deferred = before.deferred)
    (calls : Makes (Attempt.Addresses touched) before.bus after.bus) :
    Confined touched before after none :=
  .of_calls beside channels deferred calls fun failed => absurd rfl failed

theorem confined_count (change : Stats → Stats) (device : Device) :
    Confined touched device (device.count change) none := .of_look .of_parts rfl rfl (.refl _)

theorem confined_record (event : Event) (device : Device) :
    Confined touched device (device.record event) none := .of_look .of_parts rfl rfl (.refl _)

namespace Pass

variable {first second third pass : Pass} {table : InterruptTable} {start : Nat}

/-- A part of a pass that concerns touched channels only. -/
structure Confines (touched : UInt8 → Prop) (first second : Pass) : Prop where
  confined : Confined touched first.device second.device none
  blamed : second.device.bus.refusals = first.device.bus.refusals → first.fault = none →
    second.fault = none
  told : ∀ channel < 8, ¬touched channel →
    Channel.within second.report.detected channel = Channel.within first.report.detected channel

namespace Confines

theorem refl (pass : Pass) : Confines touched pass pass :=
  ⟨.refl pass.device, fun _ clean => clean, fun _ _ _ => rfl⟩

theorem trans (early : Confines touched first second) (late : Confines touched second third) :
    Confines touched first third where
  confined := early.confined.trans late.confined
  blamed := by
    intro accepted clean
    have before := early.confined.calls.refusals
    have after := late.confined.calls.refusals
    exact late.blamed (by omega) (early.blamed (by omega) clean)
  told := fun channel small free =>
    (late.told channel small free).trans (early.told channel small free)

/-- A part that meets no fault and reports no detection. -/
theorem of_device (confined : Confined touched first.device second.device none)
    (fault : second.fault = first.fault)
    (report : second.report.detected = first.report.detected) : Confines touched first second :=
  ⟨confined, fun _ clean => fault.trans clean, fun _ _ _ => by rw [report]⟩

end Confines

theorem confines_silently {change : Device → Device}
    (confined : Confined touched pass.device (change pass.device) none) :
    Confines touched pass (pass.silently change) := .of_device confined rfl rfl

theorem confines_reporting {change : RecoveryReport → RecoveryReport}
    (kept : (change pass.report).detected = pass.report.detected) :
    Confines touched pass (pass.reporting change) := .of_device (.refl pass.device) rfl kept

/-- Work that meets a fault only where a call is refused. -/
theorem confines_work {work : Work}
    (confined : Confined touched pass.device (work pass.device).1 (work pass.device).2) :
    Confines touched pass (pass.perform work) := by
  refine ⟨(confined.latched _).mild, fun accepted clean => ?_, fun _ _ _ => rfl⟩
  have calls : (work.leaves pass.device).bus.refusals = pass.device.bus.refusals := accepted
  rw [Work.leaves, bus_latchFault] at calls
  have met : (work pass.device).2 = none := by
    by_contra failed
    exact absurd calls (Nat.ne_of_gt (confined.blamed failed))
  exact Bus.join_eq_none.mpr ⟨clean, met⟩

theorem confines_perform {work : Work} (on : work.On touched) (pass : Pass) :
    Confines touched pass (pass.perform work) := confines_work (on.confined pass.device)

/-- A fault that came with refused calls is taken into the pass. -/
theorem confines_faulted {device : Device} {fault : TransportFault}
    (confined : Confined touched pass.device device (some fault)) :
    Confines touched pass
      ({ pass with device := device }.perform fun device => (device, some fault)) := by
  have worked : Confines touched pass (pass.perform fun _ => (device, some fault)) :=
    confines_work confined
  exact worked

/-! ## Recovery -/

theorem confined_checkPower (here : touched channel) (device : Device) :
    Confined touched device (checkPower payload channel device).1
      (Bus.faultIn (checkPower payload channel device).2) := by
  unfold checkPower
  cases payload.channel? channel with
  | none => exact .refl device
  | some tables =>
      refine .of_calls .of_parts rfl rfl
        (Confined.addresses here (Bus.makes_verify channel tables.power.check device.bus)) ?_
      intro failed
      cases answer : (device.bus.verify channel tables.power.check).2 with
      | ok agrees =>
          rw [answer] at failed
          exact absurd rfl failed
      | error fault => exact Bus.refusals_verify answer

theorem confines_checkPower (here : touched channel) (pass : Pass) :
    Confines touched pass (pass.apply payload channel .checkPower) := by
  have checked : Confined touched pass.device (checkPower payload channel pass.device).1 _ :=
    confined_checkPower here pass.device
  unfold apply
  cases check : checkPower payload channel pass.device with
  | mk after result =>
      rw [check] at checked
      have looked : Confines touched pass { pass with device := after } :=
        .of_device checked.mild rfl rfl
      cases result with
      | error fault => exact confines_faulted checked
      | ok agrees =>
          cases agrees with
          | true => exact looked.trans (confines_perform (Work.on_resumeInterrupts here) _)
          | false =>
              exact (looked.trans (confines_reporting rfl)).trans
                (confines_perform (Work.on_powerUp here) _)

/-- Of all remedies only a hardware reset reaches other channels. -/
theorem confines_apply (here : touched channel) {remedy : Remedy} (mild : remedy ≠ .hardReset)
    (pass : Pass) : Confines touched pass (pass.apply payload channel remedy) := by
  have counted : Confines touched pass (pass.noteReset channel) :=
    (confines_reporting rfl).trans (confines_silently (confined_count _ _))
  cases remedy with
  | hardReset => exact absurd rfl mild
  | leave => exact .refl pass
  | resume =>
      exact (confines_reporting rfl).trans (confines_perform (Work.on_resumeInterrupts here) _)
  | softReset => exact counted.trans (confines_perform (Work.on_restartChannel here) _)
  | checkPower => exact confines_checkPower here pass
  | shutDown =>
      exact (confines_reporting rfl).trans (confines_perform (Work.on_powerDown here) _)

theorem confines_recover (here : touched channel) (table : InterruptTable) (reading : Reading)
    (mild : pass.remedy table channel reading ≠ .hardReset) :
    Confines touched pass (pass.recover payload table channel reading) := by
  have counted : Confines touched pass (pass.silently (Device.count fun stats =>
      { stats with recoveries := Stats.increment stats.recoveries })) :=
    confines_silently (confined_count _ pass.device)
  have settled : Confines touched pass (pass.settled table channel) :=
    (counted.trans (confines_perform (.run here .clear table.clear) _)).trans
      (confines_silently (.of_look .of_parts rfl rfl (Bus.makes_wait _ _ _)))
  have recorded : Confines touched pass ((pass.settled table channel).silently
      (Device.record (.recovered channel (pass.remedy table channel reading)))) :=
    settled.trans (confines_silently (confined_record _ _))
  rw [recover_eq]
  exact recorded.trans (confines_apply here mild _)

theorem confines_skipStuck (here : touched channel) (table : InterruptTable) (pass : Pass) :
    Confines touched pass (pass.skipStuck table channel) := by
  have latched (held : Device) :
      Confined touched held (held.latch .stuckInterrupt channel) none :=
    .of_look ⟨frame_latch held (by decide) channel, rfl, rfl, rfl⟩ rfl rfl (.refl _)
  have dumped (held : Device) : Confined touched held
      { held with bus := (held.bus.readAll channel table.dump).1 } none :=
    .of_look .of_parts rfl rfl (Confined.addresses here (Bus.makes_readAll channel table.dump _))
  exact .of_device
    ((((confined_count _ _).trans (latched _)).trans (confined_record _ _)).trans (dumped _))
    rfl rfl

/-- A channel is recovered by resetting the hardware, and the history tells so. -/
theorem hardRecoveries_recover (table : InterruptTable) (reading : Reading) (pass : Pass)
    (hard : pass.remedy table channel reading = .hardReset) :
    (pass.recover payload table channel reading).device.hardRecoveries =
      pass.device.hardRecoveries + 1 := by
  have goes : Goes _ _ pass (pass.recover payload table channel reading) :=
    goes_recover table reading pass
  rw [hard] at goes
  rw [hardRecoveries_eq, goes.works.milestones, List.countP_append, ← hardRecoveries_eq,
    Nat.add_comm]
  rfl

theorem confined_poll (here : touched channel) (table : InterruptTable) (powered : Bool)
    (device : Device) :
    Confined touched device (device.poll table channel powered).1
      (Bus.faultIn (device.poll table channel powered).2) := by
  let counters := ((device.channel? channel).map (·.counters)).getD []
  let polled := table.classify channel powered counters device.bus
  have looked : Confined touched device { device with bus := polled.bus }
      (Bus.faultIn (polled.result channel)) := by
    refine .of_calls .of_parts rfl rfl
      (Confined.addresses here (table.makes_classify channel powered counters device.bus)) ?_
    intro failed
    by_contra accepted
    have fewer := (table.makes_classify channel powered counters device.bus).refusals
    have clean := table.result_of_clean channel powered counters device.bus
      (Nat.le_antisymm (Nat.le_of_not_lt accepted) fewer)
    have result : polled.result channel = .ok polled.reading := clean
    rw [result] at failed
    exact failed rfl
  have noted := looked.trans (confined_onChannel here
    (fun state => { state with counters := polled.counters }) _)
  have whole : TransportFault.join (Bus.faultIn (polled.result channel)) none =
      Bus.faultIn (polled.result channel) := by
    cases Bus.faultIn (polled.result channel) <;> rfl
  exact whole ▸ noted

/-- What is done about a detection concerns its channel, unless the hardware is reset. -/
theorem confines_judge (here : touched channel) (table : InterruptTable) (start : Nat)
    (reading : Reading) (pass : Pass)
    (spared : (pass.judge payload table start channel reading).device.hardRecoveries =
      pass.device.hardRecoveries) :
    Confines touched pass (pass.judge payload table start channel reading) := by
  have noted : Confines touched pass (pass.debounce start channel).1 ∧
      (pass.debounce start channel).1.device.hardRecoveries = pass.device.hardRecoveries := by
    unfold debounce
    cases pass.device.channel? channel with
    | none => exact ⟨.refl pass, rfl⟩
    | some state => exact ⟨confines_silently (confined_onChannel here _ pass.device), rfl⟩
  obtain ⟨noted, recoveries⟩ := noted
  unfold judge at spared ⊢
  cases debounced : pass.debounce start channel with
  | mk held verdict =>
      rw [debounced] at noted recoveries
      simp only [debounced] at spared ⊢
      cases verdict with
      | stuck => exact noted.trans (confines_skipStuck here table held)
      | act =>
          refine noted.trans (confines_recover here table reading fun hard => ?_)
          have more : (held.recover payload table channel reading).device.hardRecoveries = _ :=
            hardRecoveries_recover table reading held hard
          have same : held.device.hardRecoveries = pass.device.hardRecoveries := recoveries
          simp only at spared
          omega

/-- A visit that does not reset the hardware concerns the channel that it visits. -/
theorem confines_visit (here : touched channel) (small : channel < 8) (start : Nat) (pass : Pass)
    (spared : (pass.visit payload start channel).device.hardRecoveries =
      pass.device.hardRecoveries) :
    Confines touched pass (pass.visit payload start channel) := by
  have visit := visit_spec payload start channel pass
  generalize pass.visit payload start channel = after at visit spared ⊢
  have polls (table : InterruptTable) : Confined touched pass.device _ _ :=
    confined_poll here table (pass.device.power channel = .active) pass.device
  cases visit with
  | unwatched => exact .refl pass
  | @unread table polled fault tabled poll =>
      have looked := polls table
      rw [poll] at looked
      exact confines_faulted looked
  | @quiet table polled reading tabled poll =>
      have looked := polls table
      rw [poll] at looked
      exact .of_device looked rfl rfl
  | @fired table polled reading tabled poll =>
      have looked := polls table
      rw [poll] at looked
      have told : Confines touched pass
          (({ pass with device := polled } : Pass).reporting (RecoveryReport.detect channel)) := by
        refine ⟨looked.mild, fun _ clean => clean, fun other below free => ?_⟩
        have apart : other ≠ channel := by
          rintro rfl
          exact free here
        change Channel.within (pass.report.detected ||| Channel.bit channel) other = _
        rw [Channel.within_or, Channel.within_bit small, decide_eq_false apart, Bool.or_false]
      have recoveries : polled.hardRecoveries = pass.device.hardRecoveries := by
        have same := congrArg (fun outcome => outcome.1.hardRecoveries) poll
        exact same.symm
      exact told.trans (confines_judge here table start reading _ (spared.trans recoveries.symm))

theorem Proceeds.grows (proceeds : Proceeds payload first second) :
    first.device.bus.refusals ≤ second.device.bus.refusals ∧
      first.device.hardRecoveries ≤ second.device.hardRecoveries := by
  obtain ⟨added, _, _, goes⟩ := proceeds.goes
  exact goes.works.toAccounts.grows

/-- Visits that do not reset the hardware concern the channels that they visit. -/
theorem confines_visits {channels : List UInt8} (here : ∀ channel ∈ channels, touched channel)
    (sound : pass.device.Sound payload)
    (declared : ∀ channel ∈ channels, channel < payload.channelCount) (start : Nat)
    (spared : (pass.visits payload start channels).device.hardRecoveries =
      pass.device.hardRecoveries) :
    Confines touched pass (pass.visits payload start channels) := by
  induction channels generalizing pass with
  | nil => exact .refl pass
  | cons channel others ih =>
      obtain ⟨hereFirst, hereOthers⟩ := List.forall_mem_cons.mp here
      obtain ⟨declaredFirst, declaredOthers⟩ := List.forall_mem_cons.mp declared
      have first : Proceeds payload pass (pass.visit payload start channel) :=
        proceeds_visit sound declaredFirst start
      have rest : Proceeds payload (pass.visit payload start channel)
          (pass.visits payload start (channel :: others)) :=
        proceeds_visits first.safe.sound declaredOthers start
      have early := first.grows
      have late := rest.grows
      have sparedFirst : (pass.visit payload start channel).device.hardRecoveries =
          pass.device.hardRecoveries := by omega
      exact (confines_visit hereFirst (sound.shaped.lt_eight declaredFirst) start pass
        sparedFirst).trans (ih hereOthers first.safe.sound declaredOthers
          (spared.trans sparedFirst.symm))

end Pass

end Device

end AmpControl
