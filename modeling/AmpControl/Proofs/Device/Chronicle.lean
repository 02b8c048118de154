import AmpControl.Proofs.Device.Escalation
import AmpControl.Proofs.Device.PassLog

/-!
# The chronicle of recovery passes

A recovery pass judges what it finds on a channel by the storm window that earlier passes left
there. Nothing else touches this window but a reset of the hardware, so what the log tells of a
channel is what its windows say as long as the hardware is not reset.
-/

namespace AmpControl

open Tuning (Payload)
open Bus (Attempt)

namespace Device

variable {payload : Payload} {device before middle after : Device} {channel other : UInt8}
  {added : List Event} {excused : Attempt → Prop} {touched : UInt8 → Prop}

/-- What the history tells of the recovery passes since the payload was put in place. -/
def passLog (device : Device) : PassLog := .ofHistory device.history

theorem passLog_of_milestones (grown : after.milestones = added ++ before.milestones) :
    after.passLog = PassLog.addAll added before.passLog := by
  have told (device : Device) : device.passLog = PassLog.addAll device.milestones .empty :=
    (PassLog.addAll_filter device.history .empty).symm
  rw [told, grown, PassLog.addAll_append, ← told]

/--
Nothing that the log tells of a channel changed, and neither did its storm window, unless the
hardware was reset.
-/
structure Calm (channel : UInt8) (before after : Device) : Prop where
  config : after.config = before.config
  clock : before.clock ≤ after.clock
  passes : after.passLog.passes = before.passLog.passes
  wasReset : after.passLog.wasReset = false → before.passLog.wasReset = false
  storm : after.passLog.wasReset = false → after.storm? channel = before.storm? channel
  recovered : channel ∈ after.passLog.recovered ↔ channel ∈ before.passLog.recovered

namespace Calm

theorem refl (device : Device) : Calm channel device device :=
  ⟨rfl, le_rfl, rfl, id, fun _ => rfl, .rfl⟩

theorem trans (first : Calm channel before middle) (second : Calm channel middle after) :
    Calm channel before after where
  config := second.config.trans first.config
  clock := first.clock.trans second.clock
  passes := second.passes.trans first.passes
  wasReset := fun unreset => first.wasReset (second.wasReset unreset)
  storm := fun unreset =>
    (second.storm unreset).trans (first.storm (second.wasReset unreset))
  recovered := second.recovered.trans first.recovered

end Calm

/-- What a pass does on its way is calm for a channel that it neither touches nor recovers. -/
theorem Accounts.calm_of_pass (accounts : Accounts added excused touched before after)
    (ofPass : ∀ event ∈ added, event.isOfPass = true)
    (apart : touched channel → .hardReset ∈ added)
    (unsaid : ∀ remedy, .recovered channel remedy ∉ added) : Calm channel before after := by
  have log := passLog_of_milestones accounts.milestones
  refine ⟨accounts.config, accounts.clock, ?_, fun unreset => ?_, fun unreset => ?_, ?_⟩
  · rw [log, PassLog.passes_addAll ofPass]
  · rw [log, PassLog.wasReset_addAll ofPass] at unreset
    exact unreset.1
  · rw [log, PassLog.wasReset_addAll ofPass] at unreset
    exact accounts.storm channel fun reached => unreset.2 (apart reached)
  · rw [log, PassLog.mem_recovered_addAll ofPass]
    exact or_iff_right fun ⟨remedy, member⟩ => unsaid remedy member

/-- What passes no milestone and touches no storm window is calm. -/
theorem Accounts.calm (accounts : Accounts [] excused (fun _ => False) before after) :
    Calm channel before after :=
  accounts.calm_of_pass (by simp) False.elim (by simp)

/-- Escalation is calm: where it touches storm windows it resets the hardware. -/
theorem calm_escalate (payload : Payload) (channel : UInt8) (device : Device) :
    Calm channel device (device.escalate payload) := by
  have outcome := escalation payload device
  generalize device.escalate payload = after at outcome ⊢
  cases outcome with
  | spared => exact .refl device
  | restarted =>
      have begun : Calm channel device device.beginRestart :=
        ⟨rfl, le_rfl, rfl, id, fun _ => rfl, .rfl⟩
      refine begun.trans ((works_restarted payload device).calm_of_pass ?_ ?_ ?_)
      · intro event member
        rw [List.mem_singleton.mp member]
        rfl
      · exact fun _ => List.mem_singleton.mpr rfl
      · exact fun remedy member => by cases List.mem_singleton.mp member
  | lockedOut =>
      have accounts : Accounts [] (fun _ => True) (fun _ => False) device
          (device.lockOut payload (device.free payload)) := accounts_lockOut _ _
      exact accounts.calm

namespace Pass

variable {before middle after pass : Pass} {start : Nat}

/-- A part of a pass that is calm for a channel and reports nothing of it. -/
structure Spares (channel : UInt8) (before after : Pass) : Prop extends
    Calm channel before.device after.device where
  detected : Channel.within after.report.detected channel =
    Channel.within before.report.detected channel
  stuck : Channel.within after.report.stuck channel = Channel.within before.report.stuck channel

theorem Spares.refl (pass : Pass) : Spares channel pass pass := ⟨.refl pass.device, rfl, rfl⟩

theorem Spares.trans (first : Spares channel before middle) (second : Spares channel middle after) :
    Spares channel before after :=
  ⟨first.toCalm.trans second.toCalm, second.detected.trans first.detected,
    second.stuck.trans first.stuck⟩

theorem spares_plain {work : Work} (plain : work.Plain) (pass : Pass) :
    Spares channel pass (pass.perform work) := by
  have goes : Goes [] (fun _ => False) pass (pass.perform work) := goes_plain plain pass
  exact ⟨goes.works.calm, rfl, rfl⟩

theorem hardReset_mem_remedy {remedy : Remedy} :
    .hardReset ∈ remedy.milestones ++ [.recovered channel remedy] ↔ remedy = .hardReset := by
  cases remedy <;> simp [Remedy.milestones]

theorem recovered_mem_remedy {remedy told : Remedy} :
    .recovered other told ∈ remedy.milestones ++ [.recovered channel remedy] ↔
      other = channel ∧ told = remedy := by
  cases remedy <;> simp [Remedy.milestones]

/-- An encounter with one channel spares the others. -/
theorem Encounter.spares (encounter : Encounter start other before after) (small : other < 8)
    (apart : channel ≠ other) : Spares channel before after := by
  cases encounter with
  | quiet goes report =>
      refine ⟨goes.works.calm, ?_, ?_⟩ <;> rw [report]
  | stuck debounce held verdict noted goes report =>
      have calm := goes.works.calm_of_pass (by simp [Event.isOfPass])
        (fun same => absurd same apart) (by simp)
      refine ⟨calm, ?_, ?_⟩
      all_goals
        rw [report]
        simp [RecoveryReport.mark, RecoveryReport.detect, Channel.within_bit small, apart]
  | recovered debounce held verdict remedy noted goes detected stuck =>
      refine ⟨goes.works.calm_of_pass (isOfPass_remedy other remedy) ?_ ?_, ?_, by rw [stuck]⟩
      · exact fun reached => hardReset_mem_remedy.mpr (reached.resolve_left apart)
      · exact fun told member => apart (recovered_mem_remedy.mp member).1
      · rw [detected, Channel.within_or, Channel.within_bit small, decide_eq_false apart,
          Bool.or_false]

/-! ## What a pass tells of a channel -/

/-- What the history tells of the pass if it ends as it is. -/
def toRecord (start : Nat) (pass : Pass) : PassRecord :=
  ⟨start, pass.report, pass.device.passLog.recovered⟩

/-- The storm window of a channel; a channel that is not there has none open. -/
def stormOf (channel : UInt8) (pass : Pass) : Debounce :=
  (pass.device.storm? channel).getD .fresh

/-- If the pass ended now, the log would tell of the channel what its storm windows say. -/
def Told (start : Nat) (channel : UInt8) (pass : Pass) : Prop :=
  pass.device.passLog.wasReset = false →
    Judged pass.device.config channel (pass.toRecord start :: pass.device.passLog.passes)
      (pass.stormOf channel)

/-- The pass did not find anything on the channel yet, and the log so far tells of it truly. -/
structure Awaits (channel : UInt8) (pass : Pass) : Prop where
  judged : pass.device.passLog.wasReset = false →
    Judged pass.device.config channel pass.device.passLog.passes (pass.stormOf channel)
  undetected : Channel.within pass.report.detected channel = false
  unstuck : Channel.within pass.report.stuck channel = false
  unrecovered : channel ∉ pass.device.passLog.recovered

theorem Awaits.told (awaits : Awaits channel pass) (start : Nat) : Told start channel pass :=
  fun unreset => .silent (awaits.judged unreset) awaits.undetected

theorem Spares.stormOf (spares : Spares channel before after)
    (unreset : after.device.passLog.wasReset = false) :
    after.stormOf channel = before.stormOf channel := by
  rw [Pass.stormOf, spares.storm unreset, Pass.stormOf]

theorem Spares.awaits (spares : Spares channel before after) (awaits : Awaits channel before) :
    Awaits channel after where
  judged := fun unreset => by
    rw [spares.config, spares.passes, spares.stormOf unreset]
    exact awaits.judged (spares.wasReset unreset)
  undetected := spares.detected.trans awaits.undetected
  unstuck := spares.stuck.trans awaits.unstuck
  unrecovered := fun member => awaits.unrecovered (spares.recovered.mp member)

theorem Spares.follows (spares : Spares channel before after) {verdict : Verdict}
    (follows : (before.toRecord start).Follows channel verdict) :
    (after.toRecord start).Follows channel verdict := by
  cases verdict with
  | act => exact ⟨spares.recovered.mpr follows.1, spares.stuck.trans follows.2⟩
  | stuck =>
      exact ⟨fun member => follows.1 (spares.recovered.mp member), spares.stuck.trans follows.2⟩

theorem Spares.told (spares : Spares channel before after) (told : Told start channel before) :
    Told start channel after := by
  intro unreset
  have judged := told (spares.wasReset unreset)
  rw [spares.config, spares.passes, spares.stormOf unreset]
  generalize before.stormOf channel = debounce at judged ⊢
  cases judged with
  | silent earlier silent => exact .silent earlier (spares.detected.trans silent)
  | loud earlier loud follows =>
      exact .loud earlier (spares.detected.trans loud) (spares.follows follows)

theorem Goes.mem_recovered (goes : Goes added touched before after)
    (ofPass : ∀ event ∈ added, event.isOfPass = true) :
    channel ∈ after.device.passLog.recovered ↔
      (∃ remedy, .recovered channel remedy ∈ added) ∨
        channel ∈ before.device.passLog.recovered := by
  rw [passLog_of_milestones goes.works.milestones, PassLog.mem_recovered_addAll ofPass]

/-- A detection that is taken into the storm window and followed as it is judged is told. -/
theorem Awaits.detected {debounce : Debounce} (awaits : Awaits channel before)
    (goes : Goes added touched before after) (ofPass : ∀ event ∈ added, event.isOfPass = true)
    (held : before.device.storm? channel = some debounce)
    (noted : .hardReset ∉ added → after.device.storm? channel =
      some (before.device.config.detect start debounce).1)
    (loud : Channel.within after.report.detected channel = true)
    (follows : (after.toRecord start).Follows channel
      (before.device.config.detect start debounce).2) : Told start channel after := by
  intro unreset
  have log := passLog_of_milestones goes.works.milestones
  obtain ⟨unresetBefore, gentle⟩ := (PassLog.wasReset_addAll ofPass _).mp (log ▸ unreset)
  have judged := awaits.judged unresetBefore
  rw [stormOf, held, Option.getD_some] at judged
  rw [stormOf, noted gentle, Option.getD_some, goes.works.config, log, PassLog.passes_addAll ofPass]
  exact .loud judged loud follows

/-- What comes of an encounter is told by the storm window that the channel had. -/
theorem Encounter.told (encounter : Encounter start channel before after) (small : channel < 8)
    (awaits : Awaits channel before) : Told start channel after := by
  cases encounter with
  | quiet goes report =>
      have spares : Spares channel before after := by
        refine ⟨goes.works.calm, ?_, ?_⟩ <;> rw [report]
      exact spares.told (awaits.told start)
  | stuck debounce held verdict noted goes report =>
      have ofPass : ∀ event ∈ [Event.stuck channel], event.isOfPass = true := by
        simp [Event.isOfPass]
      have reported : Channel.within after.report.detected channel = true ∧
          Channel.within after.report.stuck channel = true := by
        rw [report]
        simp [RecoveryReport.mark, RecoveryReport.detect, Channel.within_bit small]
      have unrecovered : channel ∉ after.device.passLog.recovered := by
        rw [goes.mem_recovered ofPass]
        simpa using awaits.unrecovered
      refine awaits.detected goes ofPass held (fun _ => noted) reported.1 ?_
      rw [verdict]
      exact ⟨unrecovered, reported.2⟩
  | recovered debounce held verdict remedy noted goes detected stuck =>
      have ofPass := isOfPass_remedy channel remedy
      have reported : Channel.within after.report.detected channel = true := by
        rw [detected, Channel.within_or, Channel.within_bit small, decide_eq_true rfl,
          Bool.or_true]
      have unstuck : Channel.within after.report.stuck channel = false := by
        rw [stuck]
        exact awaits.unstuck
      refine awaits.detected goes ofPass held (fun gentle => noted fun reset => ?_) reported ?_
      · exact gentle (hardReset_mem_remedy.mpr reset)
      · rw [verdict]
        refine ⟨(goes.mem_recovered ofPass).mpr (.inl ⟨remedy, ?_⟩), unstuck⟩
        exact recovered_mem_remedy.mpr ⟨rfl, rfl⟩

/-- Visits to other channels spare a channel. -/
theorem spares_visits {channels : List UInt8} (sound : pass.device.Sound payload)
    (declared : ∀ other ∈ channels, other < payload.channelCount) (apart : channel ∉ channels)
    (start : Nat) : Spares channel pass (pass.visits payload start channels) := by
  induction channels generalizing pass with
  | nil => exact .refl pass
  | cons first others ih =>
      have here := declared first List.mem_cons_self
      have visited : Proceeds payload pass (pass.visit payload start first) :=
        proceeds_visit sound here start
      obtain ⟨debounce, held⟩ := storm?_of_declared sound here
      have encounter : Encounter start first pass (pass.visit payload start first) :=
        encounter_visit held (sound.shaped.lt_eight here) start
      refine (encounter.spares (sound.shaped.lt_eight here) ?_).trans
        (ih visited.safe.sound ?_ ?_)
      · exact fun same => apart (same ▸ List.mem_cons_self)
      · exact fun other member => declared other (List.mem_cons_of_mem _ member)
      · exact fun member => apart (List.mem_cons_of_mem _ member)

end Pass

/-! ## A whole pass -/

theorem spares_maskedPass (payload : Payload) (channel : UInt8) (device : Device) :
    Pass.Spares channel (.begun device) (device.maskedPass payload) :=
  Pass.spares_plain (Work.plain_each fun _ => plain_maskForSurvey) _

/-- Up to the visit to a channel a pass spares it. -/
theorem spares_passBefore (sound : device.Sound payload) (channel : UInt8) :
    Pass.Spares channel (.begun device) (device.passBefore payload channel) :=
  (spares_maskedPass payload channel device).trans
    (Pass.spares_visits (proceeds_maskedPass sound).safe.sound (fun _ => declared_of_before)
      (Channel.not_mem_before channel _) _)

theorem told_visitedPass (sound : device.Sound payload)
    (awaits : Pass.Awaits channel (.begun device)) :
    (device.visitedPass payload).Told (device.maskedPass payload).device.clock channel := by
  by_cases declared : channel < payload.channelCount
  · obtain ⟨later, late, allLater, split⟩ := visitedPass_split device declared
    have before := proceeds_passBefore sound channel
    have waited : Pass.Awaits channel (device.passBefore payload channel) :=
      (spares_passBefore sound channel).awaits awaits
    obtain ⟨debounce, held⟩ := storm?_of_declared before.safe.sound declared
    have small := sound.shaped.lt_eight declared
    have encounter : Pass.Encounter (device.maskedPass payload).device.clock channel
        (device.passBefore payload channel) ((device.passBefore payload channel).visit payload
          (device.maskedPass payload).device.clock channel) := Pass.encounter_visit held small _
    have visited := before.trans (Pass.proceeds_visit before.safe.sound declared
      (device.maskedPass payload).device.clock)
    rw [split]
    exact (Pass.spares_visits visited.safe.sound allLater late _).told
      (encounter.told small waited)
  · have spares : Pass.Spares channel (device.maskedPass payload) (device.visitedPass payload) :=
      Pass.spares_visits (proceeds_maskedPass sound).safe.sound
        (fun _ member => Payload.mem_allChannels.mp member)
        (fun member => declared (Payload.mem_allChannels.mp member)) _
    exact spares.told (((spares_maskedPass payload channel device).awaits awaits).told _)

/-- What the log tells of every channel is what its storm windows say, and passes are in order. -/
structure Chronicled (device : Device) : Prop where
  judged : device.passLog.wasReset = false → ∀ channel,
    Judged device.config channel device.passLog.passes ((device.storm? channel).getD .fresh)
  ended : ∀ channel, channel ∉ device.passLog.recovered
  past : ∀ pass ∈ device.passLog.passes, pass.start ≤ device.clock
  ordered : device.passLog.passes.Pairwise fun later earlier => earlier.start ≤ later.start

theorem Chronicled.calm (chronicled : before.Chronicled)
    (calm : ∀ channel, Calm channel before after) : after.Chronicled where
  judged := by
    intro unreset channel
    rw [(calm channel).config, (calm channel).passes, (calm channel).storm unreset]
    exact chronicled.judged ((calm channel).wasReset unreset) channel
  ended := fun channel member => chronicled.ended channel ((calm channel).recovered.mp member)
  past := by
    rw [(calm 0).passes]
    exact fun pass member => (chronicled.past pass member).trans (calm 0).clock
  ordered := by
    rw [(calm 0).passes]
    exact chronicled.ordered

/-- Nothing is told as long as there were no passes. -/
theorem chronicled_of_empty (log : device.passLog = .empty)
    (fresh : ∀ channel, (device.storm? channel).getD .fresh = .fresh) : device.Chronicled where
  judged := by
    intro _ channel
    rw [log, fresh]
    exact .nothing
  ended := by
    intro channel
    rw [log]
    exact List.not_mem_nil
  past := by
    rw [log]
    exact fun _ member => absurd member List.not_mem_nil
  ordered := by
    rw [log]
    exact .nil

theorem Chronicled.awaits (chronicled : device.Chronicled) (channel : UInt8) :
    Pass.Awaits channel (.begun device) where
  judged := fun unreset => chronicled.judged unreset channel
  undetected := Channel.within_zero channel
  unstuck := Channel.within_zero channel
  unrecovered := chronicled.ended channel

/-- A pass adds itself to the log. -/
theorem passLog_survey (payload : Payload) (device : Device) :
    (device.survey payload).1.passLog =
      ⟨⟨(device.maskedPass payload).device.clock, (device.surveyedPass payload).report,
        (device.endedPass payload).passLog.recovered⟩ :: (device.endedPass payload).passLog.passes,
        [], (device.endedPass payload).passLog.wasReset⟩ := by
  rw [fst_survey]
  rfl

theorem spares_endedPass (payload : Payload) (channel : UInt8) (device : Device) :
    Pass.Spares channel (device.surveyedPass payload)
      { device.surveyedPass payload with device := device.endedPass payload } := by
  refine ⟨?_, rfl, rfl⟩
  unfold endedPass
  split
  · exact calm_escalate payload channel _
  · exact .refl _

/-- What a pass does before it ends leaves the passes of the log alone. -/
theorem Pass.Proceeds.passes {before after : Pass} (proceeds : before.Proceeds payload after) :
    after.device.passLog.passes = before.device.passLog.passes := by
  obtain ⟨added, ofPass, _, goes⟩ := proceeds.goes
  rw [passLog_of_milestones goes.works.milestones, PassLog.passes_addAll ofPass]

theorem Pass.Proceeds.clock {before after : Pass} (proceeds : before.Proceeds payload after) :
    before.device.clock ≤ after.device.clock := by
  obtain ⟨added, _, _, goes⟩ := proceeds.goes
  exact goes.works.clock

/-- Every recovery pass goes on with the chronicle. -/
theorem chronicled_survey (sound : device.Sound payload) (chronicled : device.Chronicled) :
    (device.survey payload).1.Chronicled := by
  have masked := proceeds_maskedPass sound
  have surveyed := proceeds_surveyedPass sound
  have told (channel : UInt8) : Pass.Told (device.maskedPass payload).device.clock channel
      { device.surveyedPass payload with device := device.endedPass payload } := by
    have resumed : Pass.Spares channel (device.visitedPass payload) (device.surveyedPass payload) :=
      Pass.spares_plain (Work.plain_each fun _ => plain_unmaskAgain) _
    exact (resumed.trans (spares_endedPass payload channel device)).told
      (told_visitedPass sound (chronicled.awaits channel))
  have ended := spares_endedPass payload 0 device
  have begun : device.clock ≤ (device.maskedPass payload).device.clock := masked.clock
  have passes : (device.endedPass payload).passLog.passes = device.passLog.passes :=
    ended.passes.trans (surveyed.passes.trans masked.passes)
  have log := passLog_survey payload device
  rw [passes] at log
  have earlier (pass : PassRecord) (member : pass ∈ device.passLog.passes) :
      pass.start ≤ (device.maskedPass payload).device.clock :=
    (chronicled.past pass member).trans begun
  constructor
  · intro unreset channel
    rw [log] at unreset ⊢
    have judged := told channel unreset
    simp only [Pass.toRecord, passes] at judged
    exact judged
  · intro channel
    rw [log]
    exact List.not_mem_nil
  · intro pass member
    have lasted : (device.maskedPass payload).device.clock ≤ (device.survey payload).1.clock :=
      surveyed.clock.trans ended.clock
    rw [log] at member
    rcases List.mem_cons.mp member with rfl | old
    · exact lasted
    · exact (earlier pass old).trans lasted
  · rw [log]
    exact .cons earlier chronicled.ordered

end Device

end AmpControl
