import AmpControl.Proofs.Device.Account
import AmpControl.Proofs.Device.Survey

/-!
# Encounters

A recovery pass meets each channel once. Where nothing is found it goes on; a detection is judged by
the storm window of the channel, and the channel is left alone or cleared and recovered. Of what a
pass does only a hardware reset reaches the storm windows of other channels. A pass that meets no
fault had no calls refused but those that look at the registers of a stuck channel.
-/

namespace AmpControl

open Tuning (InterruptTable Payload)
open Bus (Attempt)

/-- Takes a detection in, by the limit and the window of a configuration. -/
def Config.detect (config : Config) (start : Nat) (debounce : Debounce) : Debounce × Verdict :=
  debounce.detect start config.stormLimit (Bus.milliseconds config.stormWindow.toNat)

/-- Something that a pass does on its way. -/
def Event.isOfPass : Event → Bool
  | .hardReset | .stuck _ | .recovered _ _ => true
  | _ => false

/-- The milestones that a remedy passes: only resetting the hardware is one. -/
def Remedy.milestones : Remedy → List Event
  | .hardReset => [.hardReset]
  | .resume | .softReset | .checkPower | .shutDown | .leave => []

theorem isOfPass_remedy (channel : UInt8) (remedy : Remedy) :
    ∀ event ∈ remedy.milestones ++ [.recovered channel remedy], event.isOfPass = true := by
  intro event member
  rcases List.mem_append.mp member with reset | recovered
  · cases remedy with
    | hardReset => rw [List.mem_singleton.mp reset]; rfl
    | _ => exact absurd reset List.not_mem_nil
  · rw [List.mem_singleton.mp recovered]
    rfl

namespace Device

variable {payload : Payload} {device : Device} {channel : UInt8} {debounce : Debounce}
  {excused : Attempt → Prop}

theorem storm?_note (held : device.storm? channel = some debounce) (noted : Debounce) :
    (device.onChannel channel fun state => { state with debounce := noted }).storm? channel =
      some noted := by
  obtain ⟨state, found, _⟩ := Option.map_eq_some_iff.mp held
  rw [storm?, channel?_onChannel, if_pos rfl, found]
  rfl

theorem works_note (device : Device) (channel : UInt8) (noted : Debounce) :
    Works [] excused (· = channel) device
      (device.onChannel channel fun state => { state with debounce := noted }) :=
  .of_still rfl rfl rfl rfl rfl rfl rfl (fun _ held => held) fun other apart => by
    rw [storm?, channel?_onChannel, if_neg apart, storm?]

theorem works_restartAndResume (payload : Payload) (channel : UInt8) (device : Device) :
    Works [.hardReset] (fun _ => (restartAndResume payload channel device).2 ≠ none)
      (fun _ => True) device (restartAndResume payload channel device).1 := by
  have restarts := works_restartAll payload device
  unfold restartAndResume
  cases restart : restartAll payload device with
  | mk restarted fault =>
      rw [restart] at restarts
      cases fault with
      | some fault => exact restarts
      | none =>
          have resumed : Works [] (fun _ => (resumeInterrupts payload channel restarted).2 ≠ none)
              (fun _ => True) restarted (resumeInterrupts payload channel restarted).1 :=
            (plain_resumeInterrupts restarted).widen fun _ impossible => impossible.elim
          exact (restarts.mono fun _ failed => absurd rfl failed).trans resumed

namespace Pass

/-- A call may be refused if the pass met a fault, or if it went to a stuck channel. -/
def Excuses (pass : Pass) (attempt : Attempt) : Prop :=
  pass.fault ≠ none ∨ ∃ channel, attempt.call.channel? = some channel ∧
    Channel.within pass.report.stuck channel = true

/--
A part of a pass that passed the told milestones and may have touched some storm windows. Faults and
stuck channels are not forgotten.
-/
structure Goes (added : List Event) (touched : UInt8 → Prop) (before after : Pass) : Prop where
  works : Works added after.Excuses touched before.device after.device
  fault : after.fault = none → before.fault = none
  stuck : ∀ channel, Channel.within before.report.stuck channel = true →
    Channel.within after.report.stuck channel = true

variable {before middle after pass : Pass} {added early late : List Event}
  {touched wider : UInt8 → Prop}

namespace Goes

theorem refl (pass : Pass) : Goes [] touched pass pass :=
  ⟨.refl pass.device, id, fun _ held => held⟩

theorem trans (first : Goes early touched before middle) (second : Goes late touched middle after) :
    Goes (late ++ early) touched before after := by
  refine ⟨(first.works.mono fun attempt excused => ?_).trans second.works,
    fun clean => first.fault (second.fault clean),
    fun channel held => second.stuck channel (first.stuck channel held)⟩
  rcases excused with failed | ⟨channel, addressed, stuck⟩
  · exact .inl fun clean => failed (second.fault clean)
  · exact .inr ⟨channel, addressed, second.stuck channel stuck⟩

/-- A first part without milestones. -/
theorem after_look (look : Goes [] touched before middle) (goes : Goes added touched middle after) :
    Goes added touched before after :=
  List.append_nil added ▸ look.trans goes

theorem widen (goes : Goes added touched before after)
    (more : ∀ channel, touched channel → wider channel) : Goes added wider before after :=
  ⟨goes.works.widen more, goes.fault, goes.stuck⟩

/-- A part that touches nothing goes well with whatever others touch. -/
theorem free (goes : Goes added (fun _ => False) before after) :
    Goes added touched before after :=
  goes.widen fun _ impossible => impossible.elim

end Goes

theorem goes_perform {work : Work}
    (works : Works added (fun _ => (work pass.device).2 ≠ none) touched pass.device
      (work pass.device).1) : Goes added touched pass (pass.perform work) := by
  refine ⟨(works.mono fun attempt failed => .inl fun clean => ?_).trans (works_latchFault _ _),
    fun clean => (Bus.join_eq_none.mp clean).1, fun _ held => held⟩
  exact failed (Bus.join_eq_none.mp clean).2

theorem goes_plain {work : Work} (plain : work.Plain) (pass : Pass) :
    Goes [] touched pass (pass.perform work) :=
  (goes_perform (plain pass.device)).free

theorem goes_silently {change : Device → Device}
    (works : Works added (fun _ => False) touched pass.device (change pass.device)) :
    Goes added touched pass (pass.silently change) :=
  ⟨works.mono fun _ impossible => impossible.elim, id, fun _ held => held⟩

theorem goes_reporting {change : RecoveryReport → RecoveryReport}
    (kept : (change pass.report).stuck = pass.report.stuck) :
    Goes [] touched pass (pass.reporting change) :=
  ⟨.refl pass.device, id, fun _ held => kept ▸ held⟩

/-- Once a fault is met every call may have been refused. -/
theorem goes_faulted {device : Device} (fault : TransportFault)
    (works : Works added (fun _ => True) touched pass.device device) :
    Goes added touched pass
      ({ pass with device := device }.perform fun device => (device, some fault)) := by
  have met : TransportFault.join pass.fault (some fault) ≠ none := fun clean =>
    absurd (Bus.join_eq_none.mp clean).2 (Option.some_ne_none fault)
  refine ⟨?_, fun clean => absurd clean met, fun _ held => held⟩
  have latched : Works added (fun _ => TransportFault.join pass.fault (some fault) ≠ none) touched
      pass.device (device.latchFault (some fault)) :=
    (works.mono fun _ _ => met).trans (works_latchFault device (some fault))
  exact latched.mono fun _ failed => .inl failed

/-! ## Remedies -/

theorem goes_checkPower (pass : Pass) :
    Goes [] touched pass (pass.apply payload channel .checkPower) := by
  have checks : Works []
      (fun _ => ¬∃ agrees, (checkPower payload channel pass.device).2 = .ok agrees) touched
      pass.device _ := works_checkPower channel pass.device
  unfold apply
  cases check : checkPower payload channel pass.device with
  | mk checked result =>
      rw [check] at checks
      cases result with
      | error fault => exact goes_faulted fault (checks.mono fun _ _ => trivial)
      | ok agrees =>
          have answered : Goes [] touched pass { pass with device := checked } :=
            ⟨checks.mono fun _ refused => absurd ⟨agrees, rfl⟩ refused, id, fun _ held => held⟩
          cases agrees with
          | true => exact answered.trans (goes_plain plain_resumeInterrupts _)
          | false =>
              exact (answered.trans (goes_reporting rfl)).trans (goes_plain plain_powerUp _)

theorem goes_noteReset (pass : Pass) : Goes [] touched pass (pass.noteReset channel) :=
  ⟨works_count (fun stats => { stats with resets := Stats.increment stats.resets }) (fun _ => rfl)
    pass.device, id, fun _ held => held⟩

/-- Reporting on a channel and then doing plain work on it. -/
theorem goes_reported {change : RecoveryReport → RecoveryReport} {work : Work}
    (kept : (change pass.report).stuck = pass.report.stuck) (plain : work.Plain) :
    Goes [] touched pass ((pass.reporting change).perform work) :=
  (goes_reporting kept).trans (goes_plain plain _)

/-- Only resetting the hardware passes a milestone and touches storm windows. -/
theorem goes_apply (remedy : Remedy) (pass : Pass) :
    Goes remedy.milestones (fun _ => remedy = .hardReset) pass
      (pass.apply payload channel remedy) := by
  cases remedy with
  | leave => exact .refl pass
  | resume => exact goes_reported rfl plain_resumeInterrupts
  | softReset => exact (goes_noteReset pass).trans (goes_plain plain_restartChannel _)
  | checkPower => exact goes_checkPower pass
  | shutDown => exact goes_reported rfl plain_powerDown
  | hardReset =>
      rw [apply_hardReset]
      have restarted : Goes [.hardReset] (fun _ => True) (pass.noteReset channel)
          ((pass.noteReset channel).perform (restartAndResume payload channel)) :=
        goes_perform (works_restartAndResume payload channel _)
      exact (goes_noteReset pass).trans (restarted.widen fun _ _ => rfl)

/-- What is done about a channel is not reported as a detection or as stuck. -/
theorem report_apply (remedy : Remedy) (pass : Pass) :
    (pass.apply payload channel remedy).report.detected = pass.report.detected ∧
      (pass.apply payload channel remedy).report.stuck = pass.report.stuck := by
  cases remedy with
  | checkPower =>
      unfold apply
      cases checkPower payload channel pass.device with
      | mk checked result =>
          cases result with
          | error fault => exact ⟨rfl, rfl⟩
          | ok agrees => cases agrees <;> exact ⟨rfl, rfl⟩
  | _ => exact ⟨rfl, rfl⟩

/-! ## Visits -/

/-- What a visit to a channel comes to, by what the poll finds. -/
inductive Visit (payload : Payload) (start : Nat) (channel : UInt8) (pass : Pass) :
    Pass → Prop where
  | unwatched (untabled : payload.interrupts? channel = none) :
      Visit payload start channel pass pass
  | unread {table : InterruptTable} {polled : Device} {fault : TransportFault}
      (tabled : payload.interrupts? channel = some table)
      (poll : pass.device.poll table channel (pass.device.power channel = .active) =
        (polled, .error fault)) :
      Visit payload start channel pass
        ({ pass with device := polled }.perform fun device => (device, some fault))
  | quiet {table : InterruptTable} {polled : Device} {reading : Reading}
      (tabled : payload.interrupts? channel = some table)
      (poll : pass.device.poll table channel (pass.device.power channel = .active) =
        (polled, .ok reading))
      (silent : reading.any = false) :
      Visit payload start channel pass { pass with device := polled }
  | fired {table : InterruptTable} {polled : Device} {reading : Reading}
      (tabled : payload.interrupts? channel = some table)
      (poll : pass.device.poll table channel (pass.device.power channel = .active) =
        (polled, .ok reading))
      (loud : reading.any = true) :
      Visit payload start channel pass
        (({ pass with device := polled }.reporting (RecoveryReport.detect channel)).judge payload
          table start channel reading)

theorem visit_spec (payload : Payload) (start : Nat) (channel : UInt8) (pass : Pass) :
    Visit payload start channel pass (pass.visit payload start channel) := by
  unfold visit
  cases tabled : payload.interrupts? channel with
  | none => exact .unwatched tabled
  | some table =>
      simp only
      cases poll : pass.device.poll table channel (pass.device.power channel = .active) with
      | mk polled result =>
          cases result with
          | error fault => exact .unread tabled poll
          | ok reading =>
              simp only
              cases any : reading.any with
              | false => exact .quiet tabled poll any
              | true => exact .fired tabled poll any

/-! ## Detections -/

theorem debounce_eq {state : ChannelState} (held : pass.device.channel? channel = some state)
    (start : Nat) :
    pass.debounce start channel =
      (pass.silently (Device.onChannel channel fun found =>
        { found with debounce := (pass.device.config.detect start state.debounce).1 }),
        (pass.device.config.detect start state.debounce).2) := by
  simp only [debounce, held, Config.detect]

theorem stuck_skipStuck (table : InterruptTable) (small : channel < 8) (pass : Pass) :
    Channel.within (pass.skipStuck table channel).report.stuck channel = true := by
  change Channel.within (pass.report.stuck ||| Channel.bit channel) channel = true
  rw [Channel.within_or, Channel.within_bit small, decide_eq_true rfl, Bool.or_true]

/-- A stuck channel is left alone; calls to it may be refused from now on. -/
theorem goes_skipStuck (table : InterruptTable) (small : channel < 8) (pass : Pass) :
    Goes [.stuck channel] touched pass (pass.skipStuck table channel) := by
  have reported := stuck_skipStuck table small pass
  refine ⟨?_, id, fun other held => ?_⟩
  · refine .trans (.trans (.trans (works_count (fun stats =>
      { stats with stuckDetections := Stats.increment stats.stuckDetections }) (fun _ => rfl)
      pass.device) (works_latch _ .stuckInterrupt channel))
      (works_milestone rfl (by simp) _)) (works_calls (Bus.makes_readAll channel table.dump _) ?_)
    intro attempt serves
    exact ⟨serves.drives.1, .inr (.inr ⟨channel, serves.1, reported⟩)⟩
  · change Channel.within (pass.report.stuck ||| Channel.bit channel) other = true
    rw [Channel.within_or, held, Bool.true_or]

theorem goes_recover (table : InterruptTable) (reading : Reading) (pass : Pass) :
    Goes ((pass.remedy table channel reading).milestones ++
        [.recovered channel (pass.remedy table channel reading)])
      (fun _ => pass.remedy table channel reading = .hardReset) pass
      (pass.recover payload table channel reading) := by
  have counted : Goes [] (fun _ => pass.remedy table channel reading = .hardReset) pass
      (pass.silently (Device.count fun stats =>
        { stats with recoveries := Stats.increment stats.recoveries })) :=
    goes_silently (works_count (fun stats =>
      { stats with recoveries := Stats.increment stats.recoveries }) (fun _ => rfl) pass.device)
  have settled : Goes [] _ pass (pass.settled table channel) :=
    (counted.trans (goes_plain (plain_run channel .clear table.clear) _)).trans
      (goes_silently (works_wait _ _))
  have recorded : Goes [.recovered channel (pass.remedy table channel reading)] _ pass
      ((pass.settled table channel).silently
        (Device.record (.recovered channel (pass.remedy table channel reading)))) :=
    settled.trans (goes_silently (works_milestone rfl (by simp) _))
  rw [recover_eq]
  exact recorded.trans (goes_apply _ _)

theorem report_recover (table : InterruptTable) (reading : Reading) (pass : Pass) :
    (pass.recover payload table channel reading).report.detected = pass.report.detected ∧
      (pass.recover payload table channel reading).report.stuck = pass.report.stuck := by
  rw [recover_eq]
  exact report_apply _ _

/--
What a pass comes to on a channel: nothing is detected, or the detection is judged by the storm
window of the channel, and the channel is stuck or recovered.
-/
inductive Encounter (start : Nat) (channel : UInt8) (before after : Pass) : Prop where
  | quiet (goes : Goes [] (fun _ => False) before after) (report : after.report = before.report)
  | stuck (debounce : Debounce) (held : before.device.storm? channel = some debounce)
      (verdict : (before.device.config.detect start debounce).2 = .stuck)
      (noted : after.device.storm? channel =
        some (before.device.config.detect start debounce).1)
      (goes : Goes [.stuck channel] (· = channel) before after)
      (report : after.report = (before.report.detect channel).mark (some .stuck) channel)
  | recovered (debounce : Debounce) (held : before.device.storm? channel = some debounce)
      (verdict : (before.device.config.detect start debounce).2 = .act) (remedy : Remedy)
      (noted : remedy ≠ .hardReset → after.device.storm? channel =
        some (before.device.config.detect start debounce).1)
      (goes : Goes (remedy.milestones ++ [.recovered channel remedy])
        (fun other => other = channel ∨ remedy = .hardReset) before after)
      (detected : after.report.detected = before.report.detected ||| Channel.bit channel)
      (stuck : after.report.stuck = before.report.stuck)

variable {start : Nat} {table : InterruptTable} {reading : Reading} {debounce : Debounce}

/-- The pass once a detection on a channel is taken into its storm window. -/
def taken (start : Nat) (channel : UInt8) (debounce : Debounce) (pass : Pass) : Pass :=
  (pass.reporting (RecoveryReport.detect channel)).silently
    (Device.onChannel channel fun found =>
      { found with debounce := (pass.device.config.detect start debounce).1 })

theorem goes_taken (start : Nat) (debounce : Debounce) (pass : Pass) :
    Goes [] (· = channel) pass (pass.taken start channel debounce) :=
  ⟨works_note pass.device channel _, id, fun _ held => held⟩

theorem judge_eq (held : pass.device.storm? channel = some debounce) (start : Nat)
    (table : InterruptTable) (reading : Reading) :
    (pass.reporting (RecoveryReport.detect channel)).judge payload table start channel reading =
      match (pass.device.config.detect start debounce).2 with
      | .stuck => (pass.taken start channel debounce).skipStuck table channel
      | .act => (pass.taken start channel debounce).recover payload table channel reading := by
  obtain ⟨state, found, rfl⟩ := Option.map_eq_some_iff.mp held
  have here : (pass.reporting (RecoveryReport.detect channel)).device.channel? channel =
      some state := found
  rw [judge, debounce_eq here]
  rfl

theorem encounter_judge (held : pass.device.storm? channel = some debounce) (small : channel < 8)
    (start : Nat) (table : InterruptTable) (reading : Reading) :
    Encounter start channel pass
      ((pass.reporting (RecoveryReport.detect channel)).judge payload table start channel
        reading) := by
  have noted : (pass.taken start channel debounce).device.storm? channel =
      some (pass.device.config.detect start debounce).1 := storm?_note held _
  rw [judge_eq held]
  cases verdict : (pass.device.config.detect start debounce).2 with
  | stuck =>
      have skipped : Goes [.stuck channel] (fun _ => False) (pass.taken start channel debounce)
          ((pass.taken start channel debounce).skipStuck table channel) :=
        goes_skipStuck table small _
      have goes := (goes_taken start debounce pass).trans skipped.free
      refine .stuck debounce held verdict ?_ goes rfl
      exact (skipped.works.storm channel not_false).trans noted
  | act =>
      have recovered : Goes _ _ (pass.taken start channel debounce)
          ((pass.taken start channel debounce).recover payload table channel reading) :=
        goes_recover table reading _
      generalize (pass.taken start channel debounce).remedy table channel reading = remedy
        at recovered
      obtain ⟨detected, stuck⟩ : _ ∧ _ := report_recover table reading
        (pass.taken start channel debounce)
      refine .recovered debounce held verdict remedy (fun other => ?_) ?_ detected stuck
      · exact (recovered.works.storm channel fun reset => other reset).trans noted
      · exact ((goes_taken start debounce pass).widen fun _ => .inl).after_look
          (recovered.widen fun _ => .inr)

/-- What only looks comes before an encounter without changing it. -/
theorem Encounter.after_look (look : Goes [] (fun _ => False) before middle)
    (unsaid : middle.report = before.report) (encounter : Encounter start channel middle after) :
    Encounter start channel before after := by
  have storm := look.works.storm channel not_false
  have config := look.works.config
  cases encounter with
  | quiet goes report => exact .quiet (look.trans goes) (report.trans unsaid)
  | stuck debounce held verdict noted goes report =>
      rw [storm] at held
      rw [config] at verdict noted
      rw [unsaid] at report
      exact .stuck debounce held verdict noted (look.free.trans goes) report
  | recovered debounce held verdict remedy noted goes detected stuck =>
      rw [storm] at held
      rw [config] at verdict noted
      rw [unsaid] at detected stuck
      exact .recovered debounce held verdict remedy noted (look.free.after_look goes) detected stuck

/-- A poll that found something out. -/
theorem goes_polled {powered : Bool} {polled : Device}
    (poll : pass.device.poll table channel powered = (polled, .ok reading)) :
    Goes [] touched pass { pass with device := polled } := by
  have looked : Works [] _ touched pass.device _ := works_poll table channel powered pass.device
  rw [poll] at looked
  exact ⟨looked.mono fun _ refused => absurd ⟨reading, rfl⟩ refused, id, fun _ held => held⟩

theorem encounter_visit (held : pass.device.storm? channel = some debounce) (small : channel < 8)
    (start : Nat) : Encounter start channel pass (pass.visit payload start channel) := by
  have visit := visit_spec payload start channel pass
  generalize pass.visit payload start channel = after at visit ⊢
  cases visit with
  | unwatched => exact .quiet (.refl pass) rfl
  | @unread table polled fault tabled poll =>
      have looked : Works [] _ (fun _ => False) pass.device _ :=
        works_poll table channel (pass.device.power channel = .active) pass.device
      rw [poll] at looked
      exact .quiet (goes_faulted fault (looked.mono fun _ _ => trivial)) rfl
  | @quiet table polled reading tabled poll =>
      exact .quiet (goes_polled poll) rfl
  | @fired table polled reading tabled poll =>
      have looked : Goes [] (fun _ => False) pass { pass with device := polled } :=
        goes_polled poll
      have still : polled.storm? channel = some debounce :=
        (looked.works.storm channel not_false).trans held
      exact .after_look looked rfl (encounter_judge still small start table reading)

end Pass

end Device

end AmpControl
