import AmpControl.Proofs.Device.Encounter
import AmpControl.Proofs.Interrupt.Debounce

/-!
# Escalation

When every channel has a latched transport error the device is restarted, which is counted and
forgets these errors; once the restarts are used up, every channel is shut down for good instead.
-/

namespace AmpControl

open Tuning (Payload)
open Bus (Attempt)

namespace Device

variable {payload : Payload} {device before after : Device} {channel : UInt8}
  {excused : Attempt → Prop} {touched : UInt8 → Prop}

/-- All channels are failing if each of them is. -/
theorem allFailing_iff (shaped : payload.Shaped) (device : Device) :
    device.allFailing payload = true ↔
      ∀ channel < payload.channelCount, device.failing channel = true := by
  have some_channel : payload.channelCount ≠ 0 := by
    intro none
    have length := shaped.toNat_channelCount
    rw [none, shaped.declared] at length
    exact absurd shaped.some_channel (by rw [← length]; exact Nat.lt_irrefl 0)
  rw [allFailing, Bool.and_eq_true, bne_iff_ne, beq_iff_eq]
  constructor
  · rintro ⟨_, covered⟩ channel declared
    have small := shaped.lt_eight declared
    have held := congrArg (Channel.within · channel) covered
    simp only [Channel.within_and, Channel.within_all _ small, decide_eq_true declared,
      Bool.and_true] at held
    exact held
  · intro failing
    refine ⟨some_channel, Channel.mask_ext fun channel small => ?_⟩
    rw [Channel.within_and, Channel.within_all _ small]
    by_cases declared : channel < payload.channelCount
    · rw [decide_eq_true declared, Bool.and_true]
      exact failing channel declared
    · rw [decide_eq_false declared, Bool.and_false]

/-! ## Locking out -/

theorem accounts_lockDown (device : Device) (channel : UInt8) :
    Accounts [] (fun _ => True) touched device (device.lockDown payload channel) := by
  have down : Accounts [] (fun _ => True) touched device (powerDown payload channel device).1 :=
    ((plain_powerDown device).toAccounts.mono fun _ _ => trivial).widen
      fun _ impossible => impossible.elim
  have latched : Accounts [] (fun _ => True) touched (powerDown payload channel device).1
      (device.lockDown payload channel) := by
    refine .of_still rfl rfl rfl rfl rfl rfl (fun other held => ?_) fun _ _ => rfl
    exact failing_latch held
  exact down.trans latched

theorem accounts_lockOut (channels : List UInt8) (device : Device) :
    Accounts [] (fun _ => True) touched device (device.lockOut payload channels) := by
  rw [lockOut_eq_foldl]
  induction channels generalizing device with
  | nil => exact (Works.refl device).toAccounts
  | cons first others ih => exact (accounts_lockDown device first).trans (ih _)

/-- Locking out the channels that are not locked yet locks all of them. -/
theorem locked_lockOut (sound : device.Sound payload) (declared : channel < payload.channelCount) :
    (device.lockOut payload (device.free payload)).locked channel = true ∧
      (device.lockOut payload (device.free payload)).power channel = .shutdown := by
  obtain ⟨leads, locks⟩ := lockOut_spec sound fun other member =>
    ((mem_free sound.shaped).mp member).1
  have locked : (device.lockOut payload (device.free payload)).locked channel = true := by
    rw [locks]
    cases held : device.locked channel with
    | true => exact .inl rfl
    | false => exact .inr ((mem_free sound.shaped).mpr ⟨declared, held⟩)
  exact ⟨locked, (leads.sound.allowed channel).locked locked⟩

/-! ## The decision -/

/-- What escalation comes to. -/
inductive Escalation (payload : Payload) (before : Device) : Device → Prop where
  | spared (working : before.allFailing payload = false) : Escalation payload before before
  | restarted (failing : before.allFailing payload = true)
      (left : before.restarts < before.config.maxRestarts) :
      Escalation payload before (restartAll payload before.beginRestart).1
  | lockedOut (failing : before.allFailing payload = true)
      (spent : ¬before.restarts < before.config.maxRestarts) :
      Escalation payload before (before.lockOut payload (before.free payload))

theorem escalation (payload : Payload) (before : Device) :
    Escalation payload before (before.escalate payload) := by
  unfold escalate
  cases failing : before.allFailing payload with
  | false => exact .spared failing
  | true =>
      by_cases left : before.restarts < before.config.maxRestarts
      · rw [if_neg (by simp), if_pos left]
        exact .restarted failing left
      · rw [if_neg (by simp), if_neg left]
        exact .lockedOut failing left

/-- No restart is left, and every channel has a latched transport error. -/
structure Exhausted (payload : Payload) (device : Device) : Prop where
  spent : device.restarts = device.config.maxRestarts
  failing : ∀ channel < payload.channelCount, device.failing channel = true

/-- A restart begins by counting, and makes one pulse of the reset line. -/
theorem works_restarted (payload : Payload) (device : Device) :
    Works [.hardReset] (fun _ => True) (fun _ => True) device.beginRestart
      (restartAll payload device.beginRestart).1 :=
  (works_restartAll payload device.beginRestart).mono fun _ _ => trivial

/-- Channels are locked out only when no restart is left and all of them are failing. -/
theorem exhausted_escalate (shaped : payload.Shaped)
    (bounded : device.restarts ≤ device.config.maxRestarts)
    (changed : (device.escalate payload).lockedOut ≠ device.lockedOut) :
    Exhausted payload (device.escalate payload) := by
  have outcome := escalation payload device
  generalize device.escalate payload = after at outcome changed ⊢
  cases outcome with
  | spared => exact absurd rfl changed
  | restarted => exact absurd (works_restarted payload device).lockedOut changed
  | lockedOut failing spent =>
      have accounts : Accounts [] (fun _ => True) (fun _ => False) device
          (device.lockOut payload (device.free payload)) := accounts_lockOut _ _
      constructor
      · rw [accounts.restarts, accounts.config]
        exact UInt32.le_antisymm bounded (UInt32.not_lt.mp spent)
      · intro channel declared
        exact accounts.failing channel ((allFailing_iff shaped device).mp failing channel declared)

/-! ## The budget -/

/-- A number below another has room for one more. -/
theorem toNat_increment {amount limit : UInt32} (left : amount < limit) :
    (Stats.increment amount).toNat = amount.toNat + 1 := by
  have bound := limit.toNat_lt_size
  have below := UInt32.lt_iff_toNat_lt.mp left
  rw [Stats.increment, toNat_ofNatClamp]
  omega

end Device

/-- A channel was recovered by resetting the hardware. -/
def Event.isHardRecovery : Event → Bool
  | .recovered _ .hardReset => true
  | _ => false

namespace Device

/-- How often a channel was recovered by resetting the hardware. -/
def hardRecoveries (device : Device) : Nat := device.history.countP Event.isHardRecovery

theorem hardRecoveries_eq (device : Device) :
    device.hardRecoveries = device.milestones.countP Event.isHardRecovery := by
  rw [hardRecoveries, milestones, List.countP_filter]
  refine List.countP_congr fun event _ => ?_
  cases event <;> simp [Event.isHardRecovery, Event.isMilestone]

/--
Restarts are counted, never taken back and never more than allowed, and the reset line is pulsed
once for each of them and for each recovery that resets the hardware.
-/
structure Spends (before after : Device) : Prop where
  config : after.config = before.config
  grows : before.restarts ≤ after.restarts
  counted : before.restarts = before.stats.restarts → after.restarts = after.stats.restarts
  bounded : before.restarts ≤ before.config.maxRestarts → after.restarts ≤ after.config.maxRestarts
  resets : after.resetCalls + (before.restarts.toNat + before.hardRecoveries) =
    before.resetCalls + (after.restarts.toNat + after.hardRecoveries)

theorem Spends.trans (first : Spends before device) (second : Spends device after) :
    Spends before after where
  config := second.config.trans first.config
  grows := UInt32.le_trans first.grows second.grows
  counted := fun same => second.counted (first.counted same)
  bounded := fun within => second.bounded (first.bounded within)
  resets := by
    have early := first.resets
    have late := second.resets
    omega

/-- Milestones of which as many are hardware resets as are recoveries that ask for one. -/
def Balanced (added : List Event) : Prop :=
  added.count .hardReset = added.countP Event.isHardRecovery

theorem Accounts.spends {added : List Event}
    (accounts : Accounts added excused touched before after) (balanced : Balanced added) :
    Spends before after where
  config := accounts.config
  grows := by rw [accounts.restarts]; exact UInt32.le_refl _
  counted := fun same => by rw [accounts.restarts, accounts.counted, same]
  bounded := fun within => by rwa [accounts.restarts, accounts.config]
  resets := by
    have pulses := accounts.resets
    have recoveries : after.hardRecoveries =
        added.countP Event.isHardRecovery + before.hardRecoveries := by
      rw [hardRecoveries_eq, hardRecoveries_eq, accounts.milestones, List.countP_append]
    rw [Balanced] at balanced
    rw [accounts.restarts]
    omega

/-- An escalation restarts at most once, and only while a restart is left. -/
theorem spends_escalate (payload : Payload) (device : Device) :
    Spends device (device.escalate payload) := by
  have outcome := escalation payload device
  generalize device.escalate payload = after at outcome ⊢
  cases outcome with
  | spared =>
      have still : Works [] (fun _ => True) (fun _ => False) device device := .refl device
      exact still.spends rfl
  | lockedOut failing spent =>
      have accounts : Accounts [] (fun _ => True) (fun _ => False) device
          (device.lockOut payload (device.free payload)) := accounts_lockOut _ _
      exact accounts.spends rfl
  | restarted failing left =>
      have works := works_restarted payload device
      have counted : (restartAll payload device.beginRestart).1.restarts =
          Stats.increment device.restarts := works.restarts
      have more := toNat_increment left
      have most := UInt32.lt_iff_toNat_lt.mp left
      have recoveries : (restartAll payload device.beginRestart).1.hardRecoveries =
          device.hardRecoveries := by
        rw [hardRecoveries_eq, works.milestones, hardRecoveries_eq]
        rfl
      have pulses : (restartAll payload device.beginRestart).1.resetCalls =
          1 + device.resetCalls := works.resets
      constructor
      · exact works.config
      · rw [counted, UInt32.le_iff_toNat_le, more]
        omega
      · intro same
        rw [counted, works.counted, same]
        rfl
      · intro _
        rw [counted, works.config, UInt32.le_iff_toNat_le, more]
        exact most
      · rw [counted, recoveries, pulses, more]
        omega

/-! ## Whole passes -/

variable {payload : Payload} {device : Device} {channel : UInt8}

/-- The storm window of a declared channel is there. -/
theorem storm?_of_declared (sound : device.Sound payload)
    (declared : channel < payload.channelCount) :
    ∃ debounce, device.storm? channel = some debounce := by
  obtain ⟨state, held⟩ := sound.state declared
  exact ⟨state.debounce, by rw [storm?, held]; rfl⟩

/-- The pass before anything is done. -/
def Pass.begun (device : Device) : Pass := ⟨device, .nothing, none⟩

/-- Visits channels, one after the other. -/
def Pass.visits (payload : Payload) (start : Nat) (channels : List UInt8) (pass : Pass) : Pass :=
  channels.foldl (fun pass channel => pass.visit payload start channel) pass

/-- The pass once those of its channels are visited that come before a channel. -/
def passBefore (payload : Payload) (channel : UInt8) (device : Device) : Pass :=
  (device.maskedPass payload).visits payload (device.maskedPass payload).device.clock
    (Channel.before channel payload.allChannels)

theorem declared_of_before {other : UInt8}
    (member : other ∈ Channel.before channel payload.allChannels) : other < payload.channelCount :=
  Payload.mem_allChannels.mp ((List.takeWhile_sublist _).subset member)

/-- A pass visits a declared channel after some others and before the rest of them. -/
theorem visitedPass_split (device : Device) (declared : channel < payload.channelCount) :
    ∃ later : List UInt8, channel ∉ later ∧ (∀ other ∈ later, other < payload.channelCount) ∧
      device.visitedPass payload = ((device.passBefore payload channel).visit payload
        (device.maskedPass payload).device.clock channel).visits payload
          (device.maskedPass payload).device.clock later := by
  obtain ⟨later, split, late⟩ := Channel.upTo_split declared
  refine ⟨later, late, fun other member => ?_, ?_⟩
  · have all : other ∈ Channel.upTo payload.channelCount := by
      rw [split]
      exact List.mem_append_right _ (List.mem_cons_of_mem _ member)
    exact Channel.mem_upTo.mp all
  · rw [visitedPass, Payload.allChannels, split, List.foldl_append, List.foldl_cons]
    rfl

/-- The pass once the channels on which nothing fired are unmasked again. -/
def surveyedPass (payload : Payload) (device : Device) : Pass :=
  (device.visitedPass payload).perform
    (Work.each (device.quietChannels payload) (Pass.unmaskAgain payload))

namespace Pass

variable {before middle after pass : Pass}

/--
A safe part of a pass, with as many hardware resets as recoveries that ask for one, and with nothing
that goes beyond the pass.
-/
structure Proceeds (payload : Payload) (before after : Pass) : Prop where
  safe : Safe payload before.device after.device
  goes : ∃ added, (∀ event ∈ added, event.isOfPass = true) ∧ Balanced added ∧
    Goes added (fun _ => True) before after

namespace Proceeds

theorem trans (first : Proceeds payload before middle) (second : Proceeds payload middle after) :
    Proceeds payload before after := by
  refine ⟨first.safe.trans second.safe, ?_⟩
  obtain ⟨early, earlyOfPass, evenEarly, goesEarly⟩ := first.goes
  obtain ⟨late, lateOfPass, evenLate, goesLate⟩ := second.goes
  refine ⟨late ++ early, fun event member => ?_, ?_, goesEarly.trans goesLate⟩
  · rcases List.mem_append.mp member with isLate | isEarly
    · exact lateOfPass event isLate
    · exact earlyOfPass event isEarly
  · rw [Balanced, List.count_append, List.countP_append, evenEarly, evenLate]

theorem spends (proceeds : Proceeds payload before after) : Spends before.device after.device := by
  obtain ⟨added, _, even, goes⟩ := proceeds.goes
  exact goes.works.spends even

end Proceeds

theorem proceeds_plain {work : Work} (safe : Safe payload pass.device (work pass.device).1)
    (plain : work.Plain) : Proceeds payload pass (pass.perform work) :=
  ⟨safe_leaves safe, [], fun _ member => absurd member List.not_mem_nil, rfl, goes_plain plain pass⟩

/-- An encounter is safe to go on with, whatever it comes to. -/
theorem Encounter.proceeds {start : Nat} (encounter : Encounter start channel before after)
    (safe : Safe payload before.device after.device) : Proceeds payload before after := by
  refine ⟨safe, ?_⟩
  cases encounter with
  | quiet goes => exact ⟨[], fun _ member => absurd member List.not_mem_nil, rfl, goes.free⟩
  | stuck debounce held verdict noted goes =>
      exact ⟨[.stuck channel], by simp [Event.isOfPass], rfl, goes.widen fun _ _ => trivial⟩
  | recovered debounce held verdict remedy noted goes =>
      refine ⟨_, isOfPass_remedy channel remedy, ?_, goes.widen fun _ _ => trivial⟩
      cases remedy <;> rfl

theorem proceeds_visit (sound : pass.device.Sound payload)
    (declared : channel < payload.channelCount) (start : Nat) :
    Proceeds payload pass (pass.visit payload start channel) := by
  obtain ⟨debounce, held⟩ := storm?_of_declared sound declared
  have safe : Safe payload pass.device (pass.visit payload start channel).device := by
    rcases does_visit sound declared start with quiet | ⟨_, does⟩
    · exact quiet.safe
    · exact does.safe
  have encounter : Encounter start channel pass (pass.visit payload start channel) :=
    encounter_visit held (sound.shaped.lt_eight declared) start
  exact encounter.proceeds safe

theorem proceeds_visits {channels : List UInt8} (sound : pass.device.Sound payload)
    (declared : ∀ channel ∈ channels, channel < payload.channelCount) (start : Nat) :
    Proceeds payload pass (pass.visits payload start channels) := by
  induction channels generalizing pass with
  | nil =>
      exact ⟨.refl sound, [], fun _ member => absurd member List.not_mem_nil, rfl, .refl pass⟩
  | cons first others ih =>
      have visited : Proceeds payload pass (pass.visit payload start first) :=
        proceeds_visit sound (declared first List.mem_cons_self) start
      exact visited.trans (ih visited.safe.sound fun channel member =>
        declared channel (List.mem_cons_of_mem _ member))

end Pass

theorem proceeds_maskedPass (sound : device.Sound payload) :
    (Pass.begun device).Proceeds payload (device.maskedPass payload) := by
  obtain ⟨safe, _⟩ : _ ∧ _ := safe_each (fun channel member held soundHeld _ =>
    safe_maskForSurvey soundHeld (Payload.mem_allChannels.mp member)) sound
  exact Pass.proceeds_plain safe (Work.plain_each fun _ => plain_maskForSurvey)

theorem proceeds_passBefore (sound : device.Sound payload) (channel : UInt8) :
    (Pass.begun device).Proceeds payload (device.passBefore payload channel) := by
  have masked := proceeds_maskedPass sound
  exact masked.trans (Pass.proceeds_visits masked.safe.sound (fun _ => declared_of_before) _)

theorem proceeds_visitedPass (sound : device.Sound payload) :
    (device.maskedPass payload).Proceeds payload (device.visitedPass payload) :=
  Pass.proceeds_visits (proceeds_maskedPass sound).safe.sound
    (fun _ member => Payload.mem_allChannels.mp member) _

/-- Unmasking the quiet channels again. -/
theorem proceeds_unmasked (sound : device.Sound payload) :
    (device.visitedPass payload).Proceeds payload (device.surveyedPass payload) := by
  obtain ⟨found, traces⟩ := visitedPass_traces sound
  obtain ⟨safe, _⟩ : _ ∧ _ := safe_each (fun channel member held soundHeld samePower =>
    safe_unmaskAgain soundHeld (playing_of_quiet sound traces member).1
      (samePower ▸ (playing_of_quiet sound traces member).2))
        (proceeds_visitedPass sound).safe.sound
  exact Pass.proceeds_plain safe (Work.plain_each fun _ => plain_unmaskAgain)

theorem proceeds_surveyedPass (sound : device.Sound payload) :
    (device.maskedPass payload).Proceeds payload (device.surveyedPass payload) :=
  (proceeds_visitedPass sound).trans (proceeds_unmasked sound)

/-- A pass up to its end, which may be an escalation. -/
theorem proceeds_unended (sound : device.Sound payload) :
    (Pass.begun device).Proceeds payload (device.surveyedPass payload) :=
  (proceeds_maskedPass sound).trans (proceeds_surveyedPass sound)

/-- A pass ends with an escalation if it met a fault. -/
def endedPass (payload : Payload) (device : Device) : Device :=
  if (device.surveyedPass payload).fault.isSome then
    (device.surveyedPass payload).device.escalate payload
  else (device.surveyedPass payload).device

theorem fst_survey (payload : Payload) (device : Device) :
    (device.survey payload).1 = (device.endedPass payload).record
      (.surveyed (device.maskedPass payload).device.clock
        (device.surveyedPass payload).report) := rfl

/-- A whole pass restarts the device at most once, in the end. -/
theorem spends_survey (sound : device.Sound payload) : Spends device (device.survey payload).1 := by
  have surveyed := (proceeds_unended sound).spends
  have ended : Spends device (device.endedPass payload) := by
    unfold endedPass
    split
    · exact surveyed.trans (spends_escalate payload _)
    · exact surveyed
  have told : Works [.surveyed (device.maskedPass payload).device.clock
      (device.surveyedPass payload).report] (fun _ => True) (fun _ => False)
      (device.endedPass payload) (device.survey payload).1 :=
    works_milestone rfl (by simp) _
  exact ended.trans (told.spends rfl)

/-- A pass locks channels out only when no restart is left and all channels are failing. -/
theorem exhausted_survey (sound : device.Sound payload)
    (bounded : device.restarts ≤ device.config.maxRestarts)
    (changed : (device.survey payload).1.lockedOut ≠ device.lockedOut) :
    Exhausted payload (device.survey payload).1 := by
  have surveyed := proceeds_unended sound
  have same : (device.surveyedPass payload).device.lockedOut = device.lockedOut :=
    surveyed.safe.frame.lockedOut
  have ended : Exhausted payload (device.endedPass payload) := by
    rw [fst_survey] at changed
    unfold endedPass at changed ⊢
    split at changed
    · rename_i met
      rw [if_pos met]
      exact exhausted_escalate sound.shaped (surveyed.spends.bounded bounded)
        fun still => changed (still.trans same)
    · exact absurd same changed
  exact ⟨ended.spent, ended.failing⟩

/-! ## Answers to refused calls -/

variable {before middle after : Device} {excused : Attempt → Prop}

/--
What answers to every channel failing: the device was restarted by one more hardware reset, or no
restart was left and all channels are shut down for good.
-/
inductive Answered (payload : Payload) (before after : Device) : Prop where
  | restarted (counted : after.restarts.toNat = before.restarts.toNat + 1)
      (pulsed : before.resetCalls < after.resetCalls)
  | lockedOut (spent : before.restarts = before.config.maxRestarts)
      (locked : ∀ channel < payload.channelCount,
        after.locked channel = true ∧ after.power channel = .shutdown)

/-- Refused calls, but for excused ones, are answered unless some channel is not failing. -/
def Answers (payload : Payload) (excused : Attempt → Prop) (before after : Device) : Prop :=
  ∃ calls, after.bus.transport.attempts = calls ++ before.bus.transport.attempts ∧
    ((∃ attempt ∈ calls, attempt.accepted = false ∧ ¬excused attempt) →
      Answered payload before after ∨
        ∃ channel < payload.channelCount, after.failing channel = false)

/-- An escalation answers whatever it was called for. -/
theorem answered_escalate (sound : device.Sound payload)
    (bounded : device.restarts ≤ device.config.maxRestarts) :
    Answered payload device (device.escalate payload) ∨
      ∃ channel < payload.channelCount, (device.escalate payload).failing channel = false := by
  have outcome := escalation payload device
  generalize device.escalate payload = after at outcome ⊢
  cases outcome with
  | spared working =>
      refine .inr ?_
      by_contra all
      have failing : device.allFailing payload = true :=
        (allFailing_iff sound.shaped device).mpr fun channel declared =>
          Bool.eq_true_of_not_eq_false fun working => all ⟨channel, declared, working⟩
      exact Bool.false_ne_true (working.symm.trans failing)
  | restarted failing left =>
      have works := works_restarted payload device
      have pulses : (restartAll payload device.beginRestart).1.resetCalls =
          1 + device.resetCalls := works.resets
      refine .inl (.restarted ?_ (by omega))
      rw [works.restarts]
      exact toNat_increment left
  | lockedOut failing spent =>
      refine .inl (.lockedOut (UInt32.le_antisymm bounded (UInt32.not_lt.mp spent)) ?_)
      exact fun channel declared => locked_lockOut sound declared

/-- Calls are only added by an escalation. -/
theorem calls_escalate (payload : Payload) (device : Device) :
    ∃ calls, (device.escalate payload).bus.transport.attempts =
      calls ++ device.bus.transport.attempts := by
  have outcome := escalation payload device
  generalize device.escalate payload = after at outcome ⊢
  cases outcome with
  | spared => exact ⟨[], rfl⟩
  | restarted =>
      obtain ⟨calls, grown, _⟩ := (works_restarted payload device).calls
      exact ⟨calls, grown⟩
  | lockedOut =>
      have accounts : Accounts [] (fun _ => True) (fun _ => False) device
          (device.lockOut payload (device.free payload)) := accounts_lockOut _ _
      obtain ⟨calls, grown, _⟩ := accounts.calls
      exact ⟨calls, grown⟩

/-- Restarts and pulses of the reset line before count as well. -/
theorem Answered.of_spent (answered : Answered payload middle after)
    (restarts : middle.restarts = before.restarts) (config : middle.config = before.config)
    (pulsed : before.resetCalls ≤ middle.resetCalls) : Answered payload before after := by
  cases answered with
  | restarted counted more => exact .restarted (by rw [counted, restarts]) (pulsed.trans_lt more)
  | lockedOut spent locked => exact .lockedOut (by rw [← restarts, spent, config]) locked

/-- Work that ends with an escalation if it met a fault answers every refused call. -/
theorem Accounts.answers {added : List Event} {touched : UInt8 → Prop} {faulty : Prop}
    (accounts : Accounts added (fun attempt => faulty ∨ excused attempt) touched before middle)
    (sound : middle.Sound payload) (bounded : before.restarts ≤ before.config.maxRestarts)
    (clean : ¬faulty → after = middle) (met : faulty → after = middle.escalate payload) :
    Answers payload excused before after := by
  obtain ⟨calls, grown, fair⟩ := accounts.calls
  by_cases fault : faulty
  · obtain ⟨more, grownAgain⟩ := calls_escalate payload middle
    have stillBounded : middle.restarts ≤ middle.config.maxRestarts := by
      rw [accounts.restarts, accounts.config]
      exact bounded
    have pulsed : before.resetCalls ≤ middle.resetCalls := by
      rw [accounts.resets]
      exact Nat.le_add_left _ _
    refine ⟨more ++ calls, ?_, fun _ => ?_⟩
    · rw [met fault, grownAgain, grown, List.append_assoc]
    · rw [met fault]
      exact (answered_escalate sound stillBounded).imp_left fun answered =>
        answered.of_spent accounts.restarts accounts.config pulsed
  · refine ⟨calls, by rw [clean fault, grown], ?_⟩
    rintro ⟨attempt, member, refused, unexcused⟩
    have accepted := (fair attempt member).resolve_right fun excuse =>
      excuse.elim fault unexcused
    exact absurd (refused.symm.trans accepted) Bool.false_ne_true

/-- A remark in the history takes nothing back. -/
theorem Answers.record (answers : Answers payload excused before after) (event : Event) :
    Answers payload excused before (after.record event) := by
  obtain ⟨calls, grown, answered⟩ := answers
  refine ⟨calls, grown, fun refused => (answered refused).imp_left ?_⟩
  rintro (⟨counted, pulsed⟩ | ⟨spent, locked⟩)
  · exact .restarted counted pulsed
  · exact .lockedOut spent locked

/-- A recovery pass answers every refused call, but for looks at the registers of stuck channels. -/
theorem answers_survey (sound : device.Sound payload)
    (bounded : device.restarts ≤ device.config.maxRestarts) :
    Answers payload (fun attempt => ∃ channel, attempt.call.channel? = some channel ∧
      Channel.within (device.survey payload).2.stuck channel = true) device
      (device.survey payload).1 := by
  have surveyed := proceeds_unended sound
  obtain ⟨added, _, _, goes⟩ := surveyed.goes
  rw [fst_survey]
  refine .record (goes.works.answers surveyed.safe.sound bounded (fun clean => ?_) fun met => ?_) _
  · rw [endedPass, if_neg (by simpa using clean)]
  · rw [endedPass, if_pos (by simpa [Option.isSome_iff_ne_none] using met)]

end Device

end AmpControl
