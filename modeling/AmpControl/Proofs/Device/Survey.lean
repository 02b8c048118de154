import AmpControl.Proofs.Device.Restart

/-!
# Recovery passes

A pass visits the channels one after the other. Of each channel it reports one outcome at most, and
only a channel that it reports as shut down is not in the power state that it had before, whatever
was reset or restarted on the way.
-/

namespace AmpControl

open Tuning (InterruptTable Payload Timing)

namespace RecoveryReport

/-- What a report can say of a channel on which something fired. -/
inductive Outcome where
  | stuck
  | clockOnly
  | reset
  | repowered
  | shutDown
  deriving DecidableEq, Repr

/-- The channels of which a report says something. -/
def maskOf (report : RecoveryReport) : Outcome → UInt8
  | .stuck => report.stuck
  | .clockOnly => report.clockOnly
  | .reset => report.reset
  | .repowered => report.repowered
  | .shutDown => report.shutDown

/-- All that a report says, as masks. -/
def outcomes (report : RecoveryReport) : List UInt8 :=
  [Outcome.stuck, .clockOnly, .reset, .repowered, .shutDown].map report.maskOf

/-- Reports that something fired on a channel. -/
def detect (channel : UInt8) (report : RecoveryReport) : RecoveryReport :=
  { report with detected := report.detected ||| Channel.bit channel }

/-- Reports what came of it; nothing is reported of a channel that is left as it is. -/
def mark (outcome : Option Outcome) (channel : UInt8) (report : RecoveryReport) : RecoveryReport :=
  let bit := Channel.bit channel
  match outcome with
  | none => report
  | some .stuck => { report with stuck := report.stuck ||| bit }
  | some .clockOnly => { report with clockOnly := report.clockOnly ||| bit }
  | some .reset => { report with reset := report.reset ||| bit }
  | some .repowered => { report with repowered := report.repowered ||| bit }
  | some .shutDown => { report with shutDown := report.shutDown ||| bit }

theorem detected_mark (report : RecoveryReport) (outcome : Option Outcome) (channel : UInt8) :
    (report.mark outcome channel).detected = report.detected := by
  cases outcome with
  | none => rfl
  | some outcome => cases outcome <;> rfl

theorem maskOf_mark (report : RecoveryReport) (outcome : Option Outcome) (channel : UInt8)
    (other : Outcome) :
    (report.mark outcome channel).maskOf other =
      if outcome = some other then report.maskOf other ||| Channel.bit channel
      else report.maskOf other := by
  cases outcome with
  | none => rfl
  | some outcome => cases outcome <;> cases other <;> rfl

/--
A report tells of every channel what was found on it: nothing, or something with or without an
outcome.
-/
structure Tells (found : UInt8 → Option (Option Outcome)) (report : RecoveryReport) : Prop where
  detected : ∀ channel < 8, Channel.within report.detected channel = (found channel).isSome
  outcome : ∀ outcome, ∀ channel < 8,
    Channel.within (report.maskOf outcome) channel = decide (found channel = some (some outcome))

theorem tells_nothing : nothing.Tells fun _ => none := by
  constructor
  · intro channel _
    simp [nothing]
  · intro outcome channel _
    cases outcome <;> simp [nothing, maskOf]

namespace Tells

variable {found : UInt8 → Option (Option Outcome)} {report : RecoveryReport}

/-- A channel of which nothing was told yet. -/
theorem add (tells : report.Tells found) {channel : UInt8} (small : channel < 8)
    (new : found channel = none) (outcome : Option Outcome) :
    ((report.detect channel).mark outcome channel).Tells
      (Function.update found channel (some outcome)) := by
  constructor
  · intro other below
    rw [detected_mark, detect, Channel.within_or, Channel.within_bit small, tells.detected _ below]
    by_cases same : other = channel
    · simp [same]
    · simp [same]
  · intro reported other below
    have before := tells.outcome reported other below
    have alone : ((report.detect channel).maskOf reported) = report.maskOf reported := by
      cases reported <;> rfl
    rw [maskOf_mark, alone]
    by_cases same : other = channel
    · rw [same, new] at before
      rw [same, Function.update_self]
      by_cases this : outcome = some reported
      · simp [this, Channel.within_bit small]
      · simp [this, before]
    · rw [Function.update_of_ne same, ← before]
      split <;> simp [Channel.within_bit small, same]

/-- No channel has two outcomes. -/
theorem disjoint (tells : report.Tells found) :
    report.outcomes.Pairwise fun first second => first &&& second = 0 := by
  rw [outcomes, List.pairwise_map]
  have distinct : [Outcome.stuck, .clockOnly, .reset, .repowered, .shutDown].Nodup := by decide
  refine distinct.imp fun {first second} apart => ?_
  rw [Channel.and_eq_zero_iff]
  intro channel held
  have small := Channel.small_of_within held
  rw [tells.outcome first channel small, decide_eq_true_eq] at held
  rw [tells.outcome second channel small, held]
  exact decide_eq_false fun same => apart (Option.some.inj (Option.some.inj same))

/-- Every channel with an outcome was detected. -/
theorem detected_of_outcome (tells : report.Tells found) :
    ∀ mask ∈ report.outcomes, mask &&& ~~~report.detected = 0 := by
  intro mask member
  obtain ⟨outcome, _, rfl⟩ := List.mem_map.mp member
  rw [Channel.and_eq_zero_iff]
  intro channel held
  have small := Channel.small_of_within held
  rw [tells.outcome outcome channel small, decide_eq_true_eq] at held
  rw [Channel.within_not _ small, tells.detected channel small, held]
  rfl

end Tells

end RecoveryReport

namespace Reading

/-- Only a channel that plays is to be checked. -/
theorem power_of_checkPower {reading : Reading} {power : Power}
    (checks : reading.remedy power = .checkPower) : power = .active := by
  unfold remedy at checks
  split at checks
  · cases checks
  split at checks
  · split at checks <;> cases checks
  split at checks
  · split at checks
    · assumption
    · cases checks
  · split at checks <;> cases checks

end Reading

namespace Device

variable {payload : Payload} {device : Device} {channel : UInt8}

/-- After a reset that was asked for, a channel that plays goes on at once if nothing went wrong. -/
def restartAndResume (payload : Payload) (channel : UInt8) : Work := fun device =>
  match restartAll payload device with
  | (restarted, none) => resumeInterrupts payload channel restarted
  | failed => failed

theorem restartAndResume_spec (sound : device.Sound payload)
    (declared : channel < payload.channelCount) :
    Safe payload device (restartAndResume payload channel device).1 ∧
      (restartAndResume payload channel device).1.power = device.power := by
  obtain ⟨safe, moved⟩ := restartAll_spec sound
  have power := power_of_standing_anew moved
  unfold restartAndResume
  cases restart : restartAll payload device with
  | mk restarted fault =>
      rw [restart] at safe power
      cases fault with
      | some fault => exact ⟨safe, power⟩
      | none =>
          obtain ⟨resumed, same⟩ := safe_resumeInterrupts safe.sound declared
          exact ⟨safe.trans resumed, same.trans power⟩

theorem quiet_checkPower :
    Steps payload (fun _ _ => False) device (checkPower payload channel device).1 ∧
      (checkPower payload channel device).1.standing = device.standing := by
  unfold checkPower
  cases payload.channel? channel with
  | none => exact ⟨.refl, rfl⟩
  | some tables => exact ⟨.single (.drove _), rfl⟩

namespace Pass

variable {before middle after pass : Pass} {outcome : Option RecoveryReport.Outcome}

/--
A part of a pass is safe, reports an outcome on a channel, and shuts this channel down if that is
the outcome; otherwise every channel stays in its power state.
-/
structure Does (payload : Payload) (outcome : Option RecoveryReport.Outcome) (channel : UInt8)
    (before after : Pass) : Prop where
  safe : Safe payload before.device after.device
  report : after.report = before.report.mark outcome channel
  power : after.device.power =
    if outcome = some .shutDown then Function.update before.device.power channel .shutdown
    else before.device.power

namespace Does

/-- A part that only looks or takes notes. -/
theorem of_quiet (sound : before.device.Sound payload)
    (steps : Steps payload (fun _ _ => False) before.device after.device)
    (same : after.device.standing = before.device.standing)
    (unsaid : after.report = before.report) :
    Does payload none channel before after :=
  ⟨safe_of_quiet sound steps same, unsaid, power_of_standing_eq same⟩

theorem trans (first : Does payload none channel before middle)
    (second : Does payload outcome channel middle after) :
    Does payload outcome channel before after := by
  refine ⟨first.safe.trans second.safe, ?_, ?_⟩
  · rw [second.report, first.report]
    rfl
  · rw [second.power, first.power]
    rfl

/-- A safe part that leaves every channel in its power state. -/
theorem of_safe {work : Work} (change : RecoveryReport → RecoveryReport)
    (safe : Safe payload pass.device (work pass.device).1)
    (same : (work pass.device).1.power = pass.device.power) (other : outcome ≠ some .shutDown)
    (reports : change pass.report = pass.report.mark outcome channel) :
    Does payload outcome channel pass ((pass.reporting change).perform work) := by
  refine ⟨safe_leaves safe, reports, ?_⟩
  rw [if_neg other, ← same]
  exact power_leaves work pass.device

end Does

theorem does_noteReset (sound : pass.device.Sound payload) {work : Work}
    (safe : ∀ held : Device, held.Sound payload → Safe payload held (work held).1 ∧
      (work held).1.power = held.power) :
    Does payload (some .reset) channel pass ((pass.noteReset channel).perform work) := by
  have counted : Safe payload pass.device (pass.noteReset channel).device :=
    safe_of_quiet sound (Relation.ReflTransGen.single (Step.counted fun stats =>
      { stats with resets := Stats.increment stats.resets })) rfl
  obtain ⟨worked, same⟩ := safe (pass.noteReset channel).device counted.sound
  refine ⟨counted.trans (safe_leaves worked), rfl, ?_⟩
  rw [if_neg (by simp)]
  exact (power_leaves work (pass.noteReset channel).device).trans same

theorem does_faulted (sound : pass.device.Sound payload) (fault : TransportFault) :
    Does payload none channel pass (pass.perform fun device => (device, some fault)) :=
  .of_quiet sound (Relation.ReflTransGen.single (Step.latched (some fault)))
    (standing_latchFault _ _) rfl

theorem does_shutDown (sound : pass.device.Sound payload)
    (declared : channel < payload.channelCount) :
    Does payload (some .shutDown) channel pass (pass.apply payload channel .shutDown) := by
  refine ⟨safe_leaves (safe_powerDown sound declared), rfl, ?_⟩
  have moved := (sets_powerDown declared pass.device sound.toFits).2
  rw [if_pos rfl]
  funext other
  change (((powerDown payload channel).leaves pass.device).standing other).power = _
  rw [Work.leaves, standing_latchFault, moved]
  by_cases same : other = channel
  · rw [same, Function.update_self, Function.update_self]
    rfl
  · rw [Function.update_of_ne same, Function.update_of_ne same]
    rfl

/-- A channel that should play is powered up if it is found without power. -/
theorem does_checkPower (sound : pass.device.Sound payload)
    (declared : channel < payload.channelCount) (playing : pass.device.power channel = .active) :
    ∃ outcome, Does payload outcome channel pass (pass.apply payload channel .checkPower) := by
  have looked : Does payload none channel pass
      { pass with device := (checkPower payload channel pass.device).1 } :=
    .of_quiet sound quiet_checkPower.1 quiet_checkPower.2 rfl
  unfold apply
  cases check : checkPower payload channel pass.device with
  | mk checked result =>
      rw [check] at looked
      have sound := looked.safe.sound
      cases result with
      | error fault => exact ⟨none, looked.trans (does_faulted sound fault)⟩
      | ok powered =>
          cases powered with
          | true =>
              obtain ⟨safe, same⟩ := safe_resumeInterrupts sound declared
              exact ⟨none, looked.trans (.of_safe id safe same (by simp) rfl)⟩
          | false =>
              have still : checked.power channel = .active :=
                (congrFun looked.power channel).trans playing
              have safe := safe_powerUp sound declared (sound.unlocked (by simp [still]))
              have moved := (sets_powerUp declared checked sound.toFits).2
              have same := power_of_moved moved still.symm
              exact ⟨some .repowered, looked.trans (.of_safe _ safe same (by simp) rfl)⟩

theorem apply_hardReset (payload : Payload) (channel : UInt8) (pass : Pass) :
    pass.apply payload channel .hardReset =
      (pass.noteReset channel).perform (restartAndResume payload channel) := rfl

/-- What is done about a channel, and the outcome that is reported. -/
theorem does_apply (sound : pass.device.Sound payload) (declared : channel < payload.channelCount)
    {remedy : Remedy} (playing : remedy = .checkPower → pass.device.power channel = .active) :
    ∃ outcome, Does payload outcome channel pass (pass.apply payload channel remedy) := by
  cases remedy with
  | leave => exact ⟨none, .of_quiet sound (.refl) rfl rfl⟩
  | resume =>
      obtain ⟨safe, same⟩ := safe_resumeInterrupts sound declared
      exact ⟨some .clockOnly, .of_safe _ safe same (by simp) rfl⟩
  | hardReset =>
      rw [apply_hardReset]
      exact ⟨some .reset, does_noteReset sound fun held soundHeld =>
        restartAndResume_spec soundHeld declared⟩
  | softReset =>
      exact ⟨some .reset, does_noteReset sound fun held soundHeld =>
        restartChannel_spec soundHeld declared⟩
  | shutDown => exact ⟨some .shutDown, does_shutDown sound declared⟩
  | checkPower => exact does_checkPower sound declared (playing rfl)

theorem does_debounce (sound : pass.device.Sound payload) (start : Nat) :
    Does payload none channel pass (pass.debounce start channel).1 := by
  unfold debounce
  cases pass.device.channel? channel with
  | none => exact .of_quiet sound (.refl) rfl rfl
  | some state =>
      exact .of_quiet sound (.single (.changed _ _))
        (standing_onChannel_of_same _ _ (fun _ => rfl) fun _ => rfl) rfl

theorem does_skipStuck (sound : pass.device.Sound payload) (table : InterruptTable) :
    Does payload (some .stuck) channel pass (pass.skipStuck table channel) := by
  have steps : Steps payload (fun _ _ => False) pass.device
      (pass.skipStuck table channel).device :=
    .tail (.tail (.tail (.single (.counted _)) (.reported (by simp) channel))
      (.remarked (.stuck channel) trivial)) (.drove _)
  have same : (pass.skipStuck table channel).device.standing = pass.device.standing :=
    standing_eq_of_parts
      (by simp only [skipStuck, silently, reporting, record, latch, count])
      (by simp only [skipStuck, silently, reporting, record, latch, count])
  refine ⟨safe_of_quiet sound steps same, rfl, ?_⟩
  rw [if_neg (by simp)]
  exact power_of_standing_eq same

/-- The pass once what fired on a channel was cleared and has settled. -/
def settled (table : InterruptTable) (channel : UInt8) (pass : Pass) : Pass :=
  ((pass.silently (Device.count fun stats =>
    { stats with recoveries := Stats.increment stats.recoveries })).perform
      (run channel .clear table.clear)).silently
      (Device.wait (Bus.milliseconds table.settleTime.toNat))

/-- What is to be done about a channel once it has settled. -/
def remedy (table : InterruptTable) (channel : UInt8) (reading : Reading) (pass : Pass) : Remedy :=
  reading.remedy ((pass.settled table channel).device.power channel)

theorem recover_eq (payload : Payload) (table : InterruptTable) (channel : UInt8)
    (reading : Reading) (pass : Pass) :
    pass.recover payload table channel reading =
      ((pass.settled table channel).silently
        (Device.record (.recovered channel (pass.remedy table channel reading)))).apply
          payload channel (pass.remedy table channel reading) := rfl

theorem does_settled (sound : pass.device.Sound payload) (table : InterruptTable) :
    Does payload none channel pass (pass.settled table channel) := by
  have counted : Steps payload (fun _ _ => False) pass.device (pass.device.count fun stats =>
      { stats with recoveries := Stats.increment stats.recoveries }) := .single (.counted _)
  have cleared (held : Device) : Steps payload (fun _ _ => False) held
      ((run channel .clear table.clear).leaves held) :=
    steps_leaves (steps_run (by trivial) (by simp) table.clear)
  exact .of_quiet sound (.tail (counted.trans (cleared _)) (.drove _)) (standing_latchFault _ _) rfl

theorem does_recover (sound : pass.device.Sound payload) (declared : channel < payload.channelCount)
    (table : InterruptTable) (reading : Reading) :
    ∃ outcome, Does payload outcome channel pass
      (pass.recover payload table channel reading) := by
  have settled : Does payload none channel pass (pass.settled table channel) :=
    does_settled sound table
  have recorded : Does payload none channel (pass.settled table channel)
      ((pass.settled table channel).silently
        (Device.record (.recovered channel (pass.remedy table channel reading)))) :=
    .of_quiet settled.safe.sound (.single (.remarked (.recovered channel _) trivial)) rfl rfl
  have checks : pass.remedy table channel reading = .checkPower →
      (pass.settled table channel).device.power channel = .active := Reading.power_of_checkPower
  rw [recover_eq]
  obtain ⟨outcome, applied⟩ := does_apply recorded.safe.sound declared checks
  exact ⟨outcome, settled.trans (recorded.trans applied)⟩

/-- What is done about a channel on which something fired. -/
def judge (payload : Payload) (table : InterruptTable) (start : Nat) (channel : UInt8)
    (reading : Reading) (pass : Pass) : Pass :=
  let (noted, verdict) := pass.debounce start channel
  match verdict with
  | .stuck => noted.skipStuck table channel
  | .act => noted.recover payload table channel reading

theorem does_judge (sound : pass.device.Sound payload) (declared : channel < payload.channelCount)
    (table : InterruptTable) (start : Nat) (reading : Reading) :
    ∃ outcome, Does payload outcome channel pass
      (pass.judge payload table start channel reading) := by
  have noted : Does payload none channel pass (pass.debounce start channel).1 :=
    does_debounce sound start
  unfold judge
  cases debounced : pass.debounce start channel with
  | mk held verdict =>
      rw [debounced] at noted
      cases verdict with
      | stuck => exact ⟨_, noted.trans (does_skipStuck noted.safe.sound table)⟩
      | act =>
          obtain ⟨outcome, recovered⟩ := does_recover noted.safe.sound declared table reading
          exact ⟨outcome, noted.trans recovered⟩

/-- A visit to a channel finds nothing, or comes to an outcome once the detection is reported. -/
theorem does_visit (sound : pass.device.Sound payload) (declared : channel < payload.channelCount)
    (start : Nat) :
    Does payload none channel pass (pass.visit payload start channel) ∨
      ∃ outcome, Does payload outcome channel
        (pass.reporting (RecoveryReport.detect channel)) (pass.visit payload start channel) := by
  unfold visit
  cases payload.interrupts? channel with
  | none => exact .inl (.of_quiet sound (.refl) rfl rfl)
  | some table =>
      have polled : Does payload none channel pass
          { pass with device := (pass.device.poll table channel
            (pass.device.power channel = .active)).1 } :=
        .of_quiet sound (steps_poll _ _ _) (standing_poll _ _ _ _) rfl
      simp only
      cases poll : pass.device.poll table channel (pass.device.power channel = .active) with
      | mk after result =>
          rw [poll] at polled
          cases result with
          | error fault => exact .inl (polled.trans (does_faulted polled.safe.sound fault))
          | ok reading =>
              simp only
              by_cases fired : ¬reading.any = true
              · rw [if_pos fired]
                exact .inl polled
              · rw [if_neg fired]
                have read : Does payload none channel
                    (pass.reporting (RecoveryReport.detect channel))
                    ((Pass.mk after pass.report pass.fault).reporting
                      (RecoveryReport.detect channel)) := ⟨polled.safe, rfl, polled.power⟩
                obtain ⟨outcome, judged⟩ := does_judge read.safe.sound declared table start reading
                exact .inr ⟨outcome, read.trans judged⟩

/-! ## A whole pass -/

/--
A pass that began with a device and found something on channels: its report tells what, and every
channel that was not shut down is in the power state that it had.
-/
structure Traces (payload : Payload) (origin : Device)
    (found : UInt8 → Option (Option RecoveryReport.Outcome)) (pass : Pass) : Prop where
  safe : Safe payload origin pass.device
  tells : pass.report.Tells found
  power : ∀ channel, pass.device.power channel =
    if found channel = some (some .shutDown) then .shutdown else origin.power channel

variable {origin : Device} {found : UInt8 → Option (Option RecoveryReport.Outcome)}

theorem Traces.visit (traces : pass.Traces payload origin found)
    (declared : channel < payload.channelCount) (new : found channel = none) (start : Nat) :
    ∃ told, (pass.visit payload start channel).Traces payload origin
      (Function.update found channel told) := by
  have sound := traces.safe.sound
  rcases does_visit sound declared start with quiet | ⟨outcome, does⟩
  · refine ⟨none, traces.safe.trans quiet.safe, ?_, ?_⟩
    · rw [← new, Function.update_eq_self, quiet.report]
      exact traces.tells
    · rw [← new, Function.update_eq_self, quiet.power]
      exact traces.power
  · refine ⟨some outcome, traces.safe.trans does.safe, ?_, ?_⟩
    · rw [does.report]
      exact traces.tells.add (sound.shaped.lt_eight declared) new outcome
    · intro other
      rw [does.power]
      by_cases same : other = channel
      · have before := traces.power channel
        rw [new] at before
        rw [same, Function.update_self]
        by_cases down : outcome = some .shutDown
        · simp [down]
        · rw [if_neg down, if_neg (by simpa using down)]
          exact before
      · rw [Function.update_of_ne same, ← traces.power other]
        by_cases down : outcome = some .shutDown
        · rw [if_pos down, Function.update_of_ne same]
          rfl
        · rw [if_neg down]
          rfl

theorem Traces.visit_foldl {channels : List UInt8} (traces : pass.Traces payload origin found)
    (distinct : channels.Nodup) (declared : ∀ channel ∈ channels, channel < payload.channelCount)
    (new : ∀ channel ∈ channels, found channel = none) (start : Nat) :
    ∃ told, (channels.foldl (fun pass channel => pass.visit payload start channel) pass).Traces
      payload origin told := by
  induction channels generalizing pass found with
  | nil => exact ⟨found, traces⟩
  | cons first others ih =>
      obtain ⟨apart, distinctOthers⟩ := List.nodup_cons.mp distinct
      obtain ⟨told, visited⟩ := traces.visit (declared first List.mem_cons_self)
        (new first List.mem_cons_self) start
      refine ih visited distinctOthers
        (fun channel member => declared channel (List.mem_cons_of_mem _ member)) ?_
      intro channel member
      rw [Function.update_of_ne fun same : channel = first => apart (same ▸ member)]
      exact new channel (List.mem_cons_of_mem _ member)

end Pass

/-- A loop of safe work that leaves every channel in its power state. -/
theorem safe_each {work : UInt8 → Work} {channels : List UInt8}
    (each : ∀ channel ∈ channels, ∀ held : Device, held.Sound payload →
      held.power = device.power →
      Safe payload held (work channel held).1 ∧ (work channel held).1.power = held.power)
    (sound : device.Sound payload) :
    Safe payload device (Work.each channels work device).1 ∧
      (Work.each channels work device).1.power = device.power := by
  refine Work.keeps_inOrder
    (fun held => Safe payload device held ∧ held.power = device.power) ?_ ⟨Safe.refl sound, rfl⟩
  intro part member held sofar
  obtain ⟨channel, listed, rfl⟩ := List.mem_map.mp member
  obtain ⟨safe, same⟩ := each channel listed held sofar.1.sound sofar.2
  refine ⟨sofar.1.trans (safe_leaves safe), ?_⟩
  rw [power_leaves, same, sofar.2]

/-- A channel that plays may be unmasked again. -/
theorem safe_unmaskAgain (sound : device.Sound payload) (declared : channel < payload.channelCount)
    (playing : device.power channel = .active) :
    Safe payload device (Pass.unmaskAgain payload channel device).1 ∧
      (Pass.unmaskAgain payload channel device).1.power = device.power := by
  rw [Pass.unmaskAgain, Work.reading_apply]
  by_cases done : device.waiting channel = true ∨ device.unmasked channel = true
  · rw [if_pos done]
    exact ⟨Safe.refl sound, rfl⟩
  · rw [if_neg done]
    exact safe_unmaskInterrupts sound declared playing
      (Bool.eq_false_of_not_eq_true fun waits => done (.inl waits))

/-- The pass over a device once the interrupts of every channel are masked. -/
def maskedPass (payload : Payload) (device : Device) : Pass :=
  (Pass.mk device RecoveryReport.nothing none).perform
    (Work.each payload.allChannels (maskForSurvey payload))

/-- The pass once every channel is visited. -/
def visitedPass (payload : Payload) (device : Device) : Pass :=
  payload.allChannels.foldl
    (fun pass channel => pass.visit payload (device.maskedPass payload).device.clock channel)
    (device.maskedPass payload)

/-- The channels that are unmasked again at the end of a pass. -/
def quietChannels (payload : Payload) (device : Device) : List UInt8 :=
  Channel.among (Channel.mask (payload.allChannels.filter device.unmasked) &&&
    ~~~(device.visitedPass payload).report.detected) payload.channelCount

theorem survey_eq (payload : Payload) (device : Device) :
    device.survey payload =
      ((device.visitedPass payload).perform
        (Work.each (device.quietChannels payload) (Pass.unmaskAgain payload))).finish payload
        (device.maskedPass payload).device.clock := rfl

/-- Visiting every channel finds something or nothing on each of them. -/
theorem visitedPass_traces (sound : device.Sound payload) :
    ∃ found, (device.visitedPass payload).Traces payload device found := by
  have declared : ∀ channel ∈ payload.allChannels, channel < payload.channelCount :=
    fun channel member => Payload.mem_allChannels.mp member
  obtain ⟨safe, same⟩ : _ ∧ _ := safe_each (fun channel member held soundHeld _ =>
    safe_maskForSurvey soundHeld (declared channel member)) sound
  have masked : (device.maskedPass payload).Traces payload device fun _ => none := by
    refine ⟨safe_leaves safe, RecoveryReport.tells_nothing, fun channel => ?_⟩
    rw [if_neg (by simp), ← same]
    exact congrFun (power_leaves _ device) channel
  exact masked.visit_foldl (Channel.nodup_upTo _) declared (fun _ _ => rfl) _

/-- A channel that is unmasked again played before the pass, and still does. -/
theorem playing_of_quiet (sound : device.Sound payload)
    {found : UInt8 → Option (Option RecoveryReport.Outcome)}
    (traces : (device.visitedPass payload).Traces payload device found)
    (quiet : channel ∈ device.quietChannels payload) :
    channel < payload.channelCount ∧
      (device.visitedPass payload).device.power channel = .active := by
  obtain ⟨declared, chosen⟩ := Channel.mem_among.mp quiet
  have small := sound.shaped.lt_eight declared
  rw [Channel.within_and, Channel.within_not _ small, traces.tells.detected _ small,
    Channel.within_mask, Bool.and_eq_true, decide_eq_true_eq] at chosen
  · obtain ⟨listed, unfound⟩ := chosen
    have fired : device.unmasked channel = true := (List.mem_filter.mp listed).2
    have new : found channel = none := by simpa using unfound
    refine ⟨declared, ?_⟩
    rw [traces.power, new, if_neg (by simp)]
    exact ((sound.allowed channel).unmasked fired).1
  · intro other member
    exact sound.shaped.lt_eight (Payload.mem_allChannels.mp (List.mem_filter.mp member).1)

/-- At its end a pass restarts the device or locks channels out, if it must. -/
theorem Pass.finish_spec (pass : Pass) (sound : pass.device.Sound payload) (start : Nat) :
    Leads payload pass.device (pass.finish payload start).1 ∧
      if (pass.finish payload start).1.lockedOut = pass.device.lockedOut then
        (pass.finish payload start).1.power = pass.device.power
      else ∀ channel, (pass.finish payload start).1.power channel = .shutdown := by
  have noted {ended : Device} (soundEnded : ended.Sound payload) :
      Safe payload ended (ended.record (.surveyed start pass.report)) :=
    safe_of_quiet soundEnded (.single (.remarked (.surveyed start pass.report) trivial)) rfl
  unfold finish
  by_cases failed : pass.fault.isSome = true
  · rw [if_pos failed]
    obtain ⟨leads, outcome⟩ := escalate_spec sound
    exact ⟨leads.trans (noted leads.sound).leads, outcome⟩
  · rw [if_neg failed]
    exact ⟨(noted sound).leads, (if_pos rfl).mpr rfl⟩

/-- What a recovery pass leaves behind, and what it reports. -/
theorem survey_spec (sound : device.Sound payload) :
    ∃ found : UInt8 → Option (Option RecoveryReport.Outcome),
      Leads payload device (device.survey payload).1 ∧
      (device.survey payload).2.Tells found ∧
      if (device.survey payload).1.lockedOut = device.lockedOut then
        ∀ channel, (device.survey payload).1.power channel =
          if found channel = some (some .shutDown) then .shutdown else device.power channel
      else ∀ channel, (device.survey payload).1.power channel = .shutdown := by
  obtain ⟨found, traces⟩ := visitedPass_traces sound
  have playing {channel : UInt8} (member : channel ∈ device.quietChannels payload) :=
    playing_of_quiet sound traces member
  obtain ⟨resumed, same⟩ : _ ∧ _ := safe_each (fun channel member held soundHeld samePower =>
    safe_unmaskAgain soundHeld (playing member).1 (samePower ▸ (playing member).2))
    traces.safe.sound
  have safe := traces.safe.trans (safe_leaves resumed)
  have power (channel : UInt8) : ((Work.each (device.quietChannels payload)
      (Pass.unmaskAgain payload)).leaves (device.visitedPass payload).device).power channel =
      if found channel = some (some .shutDown) then .shutdown else device.power channel := by
    rw [← traces.power, ← same, power_leaves]
  obtain ⟨leads, outcome⟩ := Pass.finish_spec ((device.visitedPass payload).perform
    (Work.each (device.quietChannels payload) (Pass.unmaskAgain payload))) safe.sound
    (device.maskedPass payload).device.clock
  refine ⟨found, ?_, traces.tells, ?_⟩
  · exact safe.leads.trans leads
  · rw [survey_eq]
    have unlocked : ((device.visitedPass payload).perform (Work.each
        (device.quietChannels payload) (Pass.unmaskAgain payload))).device.lockedOut =
          device.lockedOut := safe.frame.lockedOut
    rw [unlocked] at outcome
    split at outcome
    · rename_i kept
      rw [if_pos kept]
      intro channel
      rw [outcome]
      exact power channel
    · rename_i changed
      rw [if_neg changed]
      exact outcome

end Device

end AmpControl
