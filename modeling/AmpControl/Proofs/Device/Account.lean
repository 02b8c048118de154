import AmpControl.Proofs.Bus.Calls
import AmpControl.Proofs.Device.Restart

/-!
# What work costs

Work takes time and makes calls. Unless it says so by a milestone in the history, it pulses no
reset line, decides nothing about a channel on which something fired, and leaves the storm window of
every channel alone; how often the device was restarted and which channels are locked out does not
change at all. Work that meets no fault had none of its calls refused.
-/

namespace AmpControl

open Tuning (AudioInterface InterruptTable Payload Phase Script Timing)
open Bus (Attempt Makes)

/-- Installations, hardware resets, and what recovery passes say of themselves. -/
def Event.isMilestone : Event → Bool
  | .installed | .hardReset | .stuck _ | .recovered _ _ | .surveyed _ _ => true
  | .ran _ _ _ _ _ | .poweringUp _ | .dispatched _ _ => false

namespace Device

/-- The milestones of the history, the latest first. -/
def milestones (device : Device) : List Event := device.history.filter Event.isMilestone

/-- How often the reset line was pulsed, whether or not it moved. -/
def resetCalls (device : Device) : Nat :=
  device.bus.transport.attempts.countP fun attempt => attempt.call = .reset

/-- A transport error of a channel is latched. -/
def failing (device : Device) (channel : UInt8) : Bool :=
  Channel.within (device.errors.channels .transport) channel

/-- The storm window of a channel, if it is there. -/
def storm? (device : Device) (channel : UInt8) : Option Debounce :=
  (device.channel? channel).map (·.debounce)

/--
Nothing but the told milestones was passed between two devices, the latest first, and every hardware
reset among them is one pulse of the reset line. No latched transport error is forgotten, only calls
that are excused were refused, and only the storm windows of `touched` channels may have changed.
-/
structure Accounts (added : List Event) (excused : Attempt → Prop) (touched : UInt8 → Prop)
    (before after : Device) : Prop where
  config : after.config = before.config
  restarts : after.restarts = before.restarts
  counted : after.stats.restarts = before.stats.restarts
  clock : before.clock ≤ after.clock
  milestones : after.milestones = added ++ before.milestones
  resets : after.resetCalls = added.count .hardReset + before.resetCalls
  failing : ∀ channel, before.failing channel = true → after.failing channel = true
  storm : ∀ channel, ¬touched channel → after.storm? channel = before.storm? channel
  calls : ∃ calls, after.bus.transport.attempts = calls ++ before.bus.transport.attempts ∧
    ∀ attempt ∈ calls, attempt.accepted = true ∨ excused attempt

/-- Work that locks no channel out. -/
structure Works (added : List Event) (excused : Attempt → Prop) (touched : UInt8 → Prop)
    (before after : Device) : Prop extends Accounts added excused touched before after where
  lockedOut : after.lockedOut = before.lockedOut

variable {payload : Payload} {added late early : List Event} {excused weaker : Attempt → Prop}
  {touched wider : UInt8 → Prop} {before middle after device : Device} {channel : UInt8}

namespace Accounts

theorem trans (first : Accounts early excused touched before middle)
    (second : Accounts late excused touched middle after) :
    Accounts (late ++ early) excused touched before after where
  config := second.config.trans first.config
  restarts := second.restarts.trans first.restarts
  counted := second.counted.trans first.counted
  clock := first.clock.trans second.clock
  milestones := by rw [second.milestones, first.milestones, List.append_assoc]
  resets := by rw [second.resets, first.resets, List.count_append, Nat.add_assoc]
  failing := fun channel held => second.failing channel (first.failing channel held)
  storm := fun channel kept => (second.storm channel kept).trans (first.storm channel kept)
  calls := by
    obtain ⟨firstCalls, grown, firstFine⟩ := first.calls
    obtain ⟨secondCalls, grownAgain, secondFine⟩ := second.calls
    refine ⟨secondCalls ++ firstCalls, ?_, fun attempt member => ?_⟩
    · rw [grownAgain, grown, List.append_assoc]
    · rcases List.mem_append.mp member with isLate | isEarly
      · exact secondFine attempt isLate
      · exact firstFine attempt isEarly

theorem mono (accounts : Accounts added excused touched before after)
    (weaken : ∀ attempt, excused attempt → weaker attempt) :
    Accounts added weaker touched before after := by
  obtain ⟨calls, grown, fine⟩ := accounts.calls
  exact { accounts with calls := ⟨calls, grown, fun attempt member =>
    (fine attempt member).imp_right (weaken attempt)⟩ }

theorem widen (accounts : Accounts added excused touched before after)
    (more : ∀ channel, touched channel → wider channel) :
    Accounts added excused wider before after :=
  { accounts with storm := fun channel kept =>
      accounts.storm channel fun narrow => kept (more channel narrow) }

/-- A change that makes no calls. -/
theorem of_still (bus : after.bus = before.bus) (config : after.config = before.config)
    (restarts : after.restarts = before.restarts)
    (counted : after.stats.restarts = before.stats.restarts)
    (milestones : after.milestones = added ++ before.milestones)
    (noReset : added.count .hardReset = 0)
    (failing : ∀ channel, before.failing channel = true → after.failing channel = true)
    (storm : ∀ channel, ¬touched channel → after.storm? channel = before.storm? channel) :
    Accounts added excused touched before after := by
  refine ⟨config, restarts, counted, ?_, milestones, ?_, failing, storm, [], ?_,
    fun _ member => absurd member List.not_mem_nil⟩
  · rw [Device.clock, Device.clock, bus]
  · rw [resetCalls, bus, noReset, Nat.zero_add, resetCalls]
  · rw [bus, List.nil_append]

end Accounts

namespace Works

theorem refl (device : Device) : Works [] excused touched device device :=
  ⟨.of_still rfl rfl rfl rfl rfl rfl (fun _ held => held) fun _ _ => rfl, rfl⟩

theorem trans (first : Works early excused touched before middle)
    (second : Works late excused touched middle after) :
    Works (late ++ early) excused touched before after :=
  ⟨first.toAccounts.trans second.toAccounts, second.lockedOut.trans first.lockedOut⟩

theorem mono (works : Works added excused touched before after)
    (weaken : ∀ attempt, excused attempt → weaker attempt) :
    Works added weaker touched before after :=
  ⟨works.toAccounts.mono weaken, works.lockedOut⟩

theorem widen (works : Works added excused touched before after)
    (more : ∀ channel, touched channel → wider channel) :
    Works added excused wider before after :=
  ⟨works.toAccounts.widen more, works.lockedOut⟩

/-- A change of nothing that costs anything. -/
theorem of_still (bus : after.bus = before.bus) (config : after.config = before.config)
    (restarts : after.restarts = before.restarts)
    (counted : after.stats.restarts = before.stats.restarts)
    (lockedOut : after.lockedOut = before.lockedOut)
    (milestones : after.milestones = added ++ before.milestones)
    (noReset : added.count .hardReset = 0)
    (failing : ∀ channel, before.failing channel = true → after.failing channel = true)
    (storm : ∀ channel, ¬touched channel → after.storm? channel = before.storm? channel) :
    Works added excused touched before after :=
  ⟨.of_still bus config restarts counted milestones noReset failing storm, lockedOut⟩

end Works

/-! ## Single changes -/

theorem works_record (event : Event) (minor : event.isMilestone = false) (device : Device) :
    Works [] excused touched device (device.record event) :=
  .of_still rfl rfl rfl rfl rfl
    (by rw [milestones, record, List.filter_cons, minor]; rfl) rfl (fun _ held => held)
    fun _ _ => rfl

/-- A milestone other than a hardware reset. -/
theorem works_milestone {event : Event} (major : event.isMilestone = true)
    (other : event ≠ .hardReset) (device : Device) :
    Works [event] excused touched device (device.record event) :=
  .of_still rfl rfl rfl rfl rfl
    (by rw [milestones, record, List.filter_cons, major]; rfl)
    (List.count_eq_zero.mpr (by simpa using other.symm)) (fun _ held => held) fun _ _ => rfl

theorem storm?_onChannel (device : Device) (channel : UInt8)
    {change : ChannelState → ChannelState}
    (kept : ∀ state, (change state).debounce = state.debounce) :
    (device.onChannel channel change).storm? = device.storm? := by
  funext other
  rw [storm?, storm?, channel?_onChannel]
  split
  · rw [Option.map_map]
    exact Option.map_congr fun state _ => kept state
  · rfl

theorem works_onChannel (device : Device) (channel : UInt8)
    {change : ChannelState → ChannelState}
    (kept : ∀ state, (change state).debounce = state.debounce) :
    Works [] excused touched device (device.onChannel channel change) :=
  .of_still rfl rfl rfl rfl rfl rfl rfl (fun _ held => held) fun other _ =>
    congrFun (storm?_onChannel device channel kept) other

theorem works_cancelDeferred (device : Device) (channel : UInt8) :
    Works [] excused touched device (device.cancelDeferred channel) :=
  .of_still rfl rfl rfl rfl rfl rfl rfl (fun _ held => held) fun _ _ => rfl

theorem works_scheduleDeferred (device : Device) (channel : UInt8) :
    Works [] excused touched device (device.scheduleDeferred channel) :=
  .of_still rfl rfl rfl rfl rfl rfl rfl (fun _ held => held) fun _ _ => rfl

theorem works_count (change : Stats → Stats)
    (kept : ∀ stats, (change stats).restarts = stats.restarts) (device : Device) :
    Works [] excused touched device (device.count change) :=
  .of_still rfl rfl rfl (kept _) rfl rfl rfl (fun _ held => held) fun _ _ => rfl

/-- Latching an error forgets no other. -/
theorem failing_latch {errorClass : ErrorClass} {latched : UInt8}
    (held : device.failing channel = true) :
    (device.latch errorClass latched).failing channel = true := by
  have small := Channel.small_of_within held
  have kept := ErrorCode.within_channels_set device.errors errorClass .transport latched small
  rw [failing, latch, kept]
  exact Bool.or_eq_true_iff.mpr (.inl held)

theorem works_latch (device : Device) (errorClass : ErrorClass) (channel : UInt8) :
    Works [] excused touched device (device.latch errorClass channel) :=
  .of_still rfl rfl rfl rfl rfl rfl rfl (fun _ held => failing_latch held) fun _ _ => rfl

theorem works_latchFault (device : Device) (fault : Option TransportFault) :
    Works [] excused touched device (device.latchFault fault) := by
  unfold latchFault
  split
  · split
    · exact .refl device
    · exact works_latch device .transport _
  · exact .refl device

/-- Calls on the bus, none of them a reset, of which only excused ones were refused. -/
theorem works_calls {property : Attempt → Prop} {bus : Bus}
    (makes : Makes property device.bus bus)
    (fair : ∀ attempt, property attempt →
      attempt.call ≠ .reset ∧ (attempt.accepted = true ∨ excused attempt)) :
    Works [] excused touched device { device with bus := bus } := by
  obtain ⟨clock, calls, grown, holds⟩ := makes
  refine ⟨⟨rfl, rfl, rfl, clock, rfl, ?_, fun _ held => held, fun _ _ => rfl, calls, grown,
    fun attempt member => (fair attempt (holds attempt member)).2⟩, rfl⟩
  have plain : calls.countP (fun attempt => decide (attempt.call = .reset)) = 0 := by
    rw [List.countP_eq_zero]
    intro attempt member
    simpa using (fair attempt (holds attempt member)).1
  rw [resetCalls, grown, List.countP_append, plain]
  rfl

/-- Something on the bus in which a call may only be refused if it does not go well. -/
theorem works_bus {well : Prop} {bus : Bus} (makes : Makes (Attempt.Drives well) device.bus bus) :
    Works [] (fun _ => ¬well) touched device { device with bus := bus } := by
  refine works_calls makes fun attempt drives => ⟨drives.1, ?_⟩
  by_cases fine : well
  · exact .inl (drives.2 fine)
  · exact .inr fine

theorem works_wait (microseconds : Nat) (device : Device) :
    Works [] excused touched device (device.wait microseconds) := by
  have waited : Makes (Attempt.Drives True) device.bus (device.bus.wait microseconds) :=
    Bus.makes_wait _ microseconds device.bus
  exact (works_bus waited).mono fun _ impossible => absurd trivial impossible

/-! ## Plain work -/

end Device

namespace Work

open Device (Works)

/--
Work that passes no milestones and touches no storm window, and that meets a fault where a call is
refused.
-/
def Plain (work : Work) : Prop :=
  ∀ device, Works [] (fun _ => (work device).2 ≠ none) (fun _ => False) device (work device).1

theorem Plain.leaves {work : Work} (plain : work.Plain) (device : Device) :
    Works [] (fun _ => (work device).2 ≠ none) (fun _ => False) device (work.leaves device) :=
  (plain device).trans (Device.works_latchFault _ _)

theorem plain_idle : Plain idle := fun device => Works.refl device

theorem plain_silent {change : Device → Device}
    (works : ∀ device, Works [] (fun _ => False) (fun _ => False) device (change device)) :
    Plain (silent change) := fun device => (works device).mono fun _ impossible => impossible.elim

theorem plain_reading {choose : Device → Work} (plain : ∀ device, Plain (choose device)) :
    Plain (reading choose) := fun device => plain device device

theorem plain_inOrder {parts : List Work} (plain : ∀ part ∈ parts, Plain part) :
    Plain (inOrder parts) := by
  intro device
  refine keeps_parts
    (fun after held => Works [] (fun _ => held ≠ none) (fun _ => False) device after)
    (fun part member middle held works => ?_) (Works.refl device)
  refine (works.mono fun _ failed clean => ?_).trans
    (((plain part member).leaves middle).mono fun _ failed clean => ?_)
  · exact failed (Bus.join_eq_none.mp clean).1
  · exact failed (Bus.join_eq_none.mp clean).2

theorem plain_each {channels : List UInt8} {work : UInt8 → Work}
    (plain : ∀ channel, Plain (work channel)) : Plain (each channels work) := by
  refine plain_inOrder fun part member => ?_
  obtain ⟨channel, _, rfl⟩ := List.mem_map.mp member
  exact plain channel

end Work

namespace Device

open Work (Plain plain_idle plain_silent plain_reading plain_inOrder)

variable {payload : Payload} {device : Device} {channel : UInt8}

theorem plain_run (channel : UInt8) (role : Role) (script : Script) :
    Plain (run channel role script) := fun device =>
  (works_record (.ran channel role (device.power channel) (device.waiting channel)
    (device.locked channel)) rfl device).trans
    (works_bus ((Bus.makes_execute channel script _).mono fun _ serves => serves.drives))

/-- Sending control values is no milestone. -/
theorem works_replayEvents (channel : UInt8) (timing : Timing) (device : Device) :
    Works [] (fun _ => False) touched device { device with
      history := replayEvents payload device channel timing ++ device.history } := by
  refine .of_still rfl rfl rfl rfl rfl ?_ rfl (fun _ held => held) fun _ _ => rfl
  have minor : (replayEvents payload device channel timing).filter Event.isMilestone = [] := by
    rw [List.filter_eq_nil_iff]
    intro event member
    obtain ⟨id, control, index, _, _, _, _, rfl⟩ := mem_replayEvents.mp member
    exact Bool.false_ne_true
  rw [milestones, List.filter_append, minor]
  rfl

theorem plain_replay (channel : UInt8) (timing : Timing) :
    Plain (replay payload channel timing) := by
  intro device
  rw [replay_eq]
  exact ((works_replayEvents channel timing device).mono fun _ impossible => impossible.elim).trans
    (works_bus (Bus.makes_writes _ none _))

theorem plain_applyProfile (phase : Phase) : Plain (applyProfile payload phase channel) := by
  intro device
  unfold applyProfile
  cases (device.selection payload).profile? channel with
  | none => exact .refl device
  | some profile => exact plain_run _ _ _ device

theorem plain_setUnmasked (channel : UInt8) (unmasked : Bool) :
    Plain (Work.silent (setUnmasked channel unmasked)) :=
  plain_silent fun device => works_onChannel device channel fun _ => rfl

theorem plain_setPower (power : Power) : Plain (Work.silent (setPower channel power)) :=
  plain_silent fun device => works_onChannel device channel fun _ => rfl

theorem plain_cancelDeferred : Plain (Work.silent (cancelDeferred channel)) :=
  plain_silent fun device => works_cancelDeferred device channel

theorem plain_maskInterrupts : Plain (maskInterrupts payload channel) := by
  intro device
  have noted := plain_setUnmasked channel false device
  unfold maskInterrupts
  cases payload.interrupts? channel with
  | none => exact noted
  | some table =>
      exact (noted.mono fun _ failed => absurd rfl failed).trans (plain_run _ _ _ _)

theorem plain_clearInterrupts : Plain (clearInterrupts payload channel) := by
  unfold clearInterrupts
  cases payload.interrupts? channel with
  | none => exact plain_idle
  | some table => exact plain_run _ _ _

theorem plain_unmaskInterrupts : Plain (unmaskInterrupts payload channel) := by
  unfold unmaskInterrupts
  cases payload.interrupts? channel with
  | none => exact plain_idle
  | some table =>
      refine plain_inOrder fun part member => ?_
      rcases List.mem_pair.mp member with rfl | rfl
      · exact plain_run _ _ _
      · exact plain_setUnmasked channel true

theorem plain_armSense : Plain (armSense payload channel) := by
  intro device
  unfold armSense
  cases device.slotInUse? payload channel with
  | none => exact .refl device
  | some config => exact plain_run _ _ _ device

theorem plain_softReset : Plain (softReset payload channel) := by
  unfold softReset
  cases payload.channel? channel with
  | none => exact plain_idle
  | some tables => exact plain_run _ _ _

theorem plain_applyFallbacks (audioInterface : Option AudioInterface) :
    Plain (applyFallbacks channel audioInterface) := by
  unfold applyFallbacks
  cases audioInterface with
  | none => exact plain_idle
  | some tables =>
      refine plain_inOrder fun part member => ?_
      obtain ⟨⟨setting, script⟩, _, rfl⟩ := List.mem_map.mp member
      exact plain_run _ _ _

theorem plain_initialise : Plain (initialise payload channel) := by
  unfold initialise
  cases payload.channel? channel with
  | none => exact plain_idle
  | some tables =>
      refine plain_inOrder fun part member => ?_
      simp only [List.mem_cons, List.not_mem_nil, or_false] at member
      rcases member with rfl | rfl | rfl | rfl
      · exact plain_run _ _ _
      · exact plain_applyFallbacks _
      · exact plain_armSense
      · exact plain_replay _ _

/-! ## Power transitions -/

theorem plain_rearmSense : Plain (rearmSense payload channel) := by
  refine plain_reading fun device => ?_
  split
  · refine plain_inOrder fun part member => ?_
    rcases List.mem_pair.mp member with rfl | rfl
    · exact plain_clearInterrupts
    · exact plain_armSense
  · exact plain_idle

theorem plain_endPowerUp : Plain (endPowerUp channel) := by
  refine plain_silent fun device => ?_
  have powered : Works [] (fun _ => False) (fun _ => False) device
      (device.setPower channel .active) :=
    works_onChannel device channel fun _ => rfl
  exact powered.trans (works_scheduleDeferred _ channel)

theorem plain_powerUp : Plain (powerUp payload channel) := by
  unfold powerUp
  cases payload.channel? channel with
  | none => exact plain_idle
  | some tables =>
      refine plain_inOrder fun part member => ?_
      simp only [List.mem_cons, List.not_mem_nil, or_false] at member
      rcases member with rfl | rfl | rfl | rfl | rfl | rfl | rfl | rfl
      · exact plain_silent fun device => works_record (.poweringUp channel) rfl device
      · exact plain_maskInterrupts
      · exact plain_rearmSense
      · exact plain_applyProfile _
      · exact plain_replay _ _
      · exact plain_run _ _ _
      · exact plain_applyProfile _
      · exact plain_endPowerUp

theorem plain_powerDown : Plain (powerDown payload channel) := by
  unfold powerDown
  cases payload.channel? channel with
  | none => exact plain_idle
  | some tables =>
      refine plain_inOrder fun part member => ?_
      simp only [List.mem_cons, List.not_mem_nil, or_false] at member
      rcases member with rfl | rfl | rfl | rfl | rfl | rfl
      · exact plain_maskInterrupts
      · exact plain_cancelDeferred
      · exact plain_applyProfile _
      · exact plain_run _ _ _
      · exact plain_applyProfile _
      · exact plain_setPower _

theorem plain_mute : Plain (mute payload channel) := by
  unfold mute
  cases payload.channel? channel with
  | none => exact plain_idle
  | some tables =>
      refine plain_inOrder fun part member => ?_
      simp only [List.mem_cons, List.not_mem_nil, or_false] at member
      rcases member with rfl | rfl | rfl | rfl
      · exact plain_maskInterrupts
      · exact plain_cancelDeferred
      · exact plain_run _ _ _
      · exact plain_setPower _

theorem plain_transition (target : Power) : Plain (transition payload target channel) := by
  intro device
  obtain ⟨same, _⟩ | ⟨_, _, up⟩ | ⟨_, down⟩ | ⟨_, _, muted⟩ :=
    transition_cases payload target channel device
  · rw [same]
    exact .refl device
  · rw [up]
    exact plain_powerUp device
  · rw [down]
    exact plain_powerDown device
  · rw [muted]
    exact plain_mute device

theorem plain_restore (former : Power) : Plain (restore payload former channel) := by
  cases former with
  | shutdown => exact plain_idle
  | active => exact plain_powerUp
  | mute =>
      refine plain_inOrder fun part member => ?_
      rcases List.mem_pair.mp member with rfl | rfl
      · exact plain_powerUp
      · exact plain_mute

/-! ## Recovery -/

theorem plain_resumeInterrupts : Plain (resumeInterrupts payload channel) := by
  refine plain_reading fun device => ?_
  split
  · exact plain_unmaskInterrupts
  · exact plain_idle

theorem plain_restartChannel : Plain (restartChannel payload channel) := by
  refine plain_reading fun device => plain_inOrder fun part member => ?_
  simp only [List.mem_cons, List.not_mem_nil, or_false] at member
  rcases member with rfl | rfl | rfl
  · exact plain_softReset
  · exact plain_initialise
  · exact plain_restore _

theorem plain_maskForSurvey : Plain (maskForSurvey payload channel) := by
  unfold maskForSurvey
  cases payload.interrupts? channel with
  | none => exact plain_idle
  | some table =>
      refine plain_inOrder fun part member => ?_
      rcases List.mem_pair.mp member with rfl | rfl
      · exact plain_run _ _ _
      · exact plain_setUnmasked channel false

theorem plain_unmaskAgain : Plain (Pass.unmaskAgain payload channel) := by
  refine plain_reading fun device => ?_
  split
  · exact plain_idle
  · exact plain_unmaskInterrupts

theorem works_poll (table : InterruptTable) (channel : UInt8) (powered : Bool) (device : Device) :
    Works [] (fun _ => ¬∃ reading, (device.poll table channel powered).2 = .ok reading) touched
      device (device.poll table channel powered).1 := by
  unfold poll
  generalize ((device.channel? channel).map (·.counters)).getD [] = counters
  have classified : Works [] _ touched device _ :=
    works_bus ((table.makes_classify channel powered counters device.bus).mono
      fun _ serves => serves.drives)
  refine classified.trans (works_onChannel _ channel ?_)
  exact fun _ => rfl

theorem plain_pollAfterPowerUp : Plain (pollAfterPowerUp payload channel) := by
  intro device
  unfold pollAfterPowerUp
  cases payload.interrupts? channel with
  | none => exact .refl device
  | some table =>
      have polled : Works [] _ (fun _ => False) device _ := works_poll table channel true device
      cases outcome : device.poll table channel true with
      | mk after result =>
          rw [outcome] at polled
          simp only [outcome]
          cases result with
          | ok reading => exact polled.mono fun _ refused => absurd ⟨reading, rfl⟩ refused
          | error fault => exact polled.mono fun _ _ => by simp

theorem works_checkPower (channel : UInt8) (device : Device) :
    Works [] (fun _ => ¬∃ agrees, (checkPower payload channel device).2 = .ok agrees) touched
      device (checkPower payload channel device).1 := by
  unfold checkPower
  cases payload.channel? channel with
  | none => exact .refl device
  | some tables =>
      exact works_bus ((Bus.makes_verify channel tables.power.check device.bus).mono
        fun _ serves => serves.drives)

/-! ## Restarts -/

/-- The pulse of the reset line is the one call and the one milestone. -/
theorem works_pulseReset (device : Device) :
    Works [.hardReset] (fun _ => (pulseReset device).2 ≠ none) touched device
      (pulseReset device).1 := by
  have grown : (pulseReset device).1.bus.transport.attempts =
      [⟨.reset, device.bus.reset.2⟩] ++ device.bus.transport.attempts :=
    Bus.attempts_attempt .reset device.bus
  refine ⟨⟨rfl, rfl, rfl, le_rfl, rfl, ?_, fun _ held => held, fun _ _ => rfl, _, grown,
    fun attempt member => ?_⟩, rfl⟩
  · rw [resetCalls, grown, List.countP_append]
    rfl
  · rw [List.mem_singleton.mp member]
    cases moved : device.bus.reset.2 with
    | true => exact .inl rfl
    | false =>
        refine .inr ?_
        simp [pulseReset, onBus, record, moved, Bus.faultOf]

/-- What a hardware reset does to a channel may touch its storm window. -/
theorem works_afterHardReset (channel : UInt8) (device : Device) :
    Works [] excused (fun _ => True) device (device.afterHardReset channel) :=
  .of_still rfl rfl rfl rfl rfl rfl rfl (fun _ held => held) fun _ kept => absurd trivial kept

/-- What a restart does after the pulse of the reset line. -/
def restartParts (payload : Payload) (device : Device) : List Work :=
  (payload.allChannels.flatMap fun channel =>
    [Work.silent (Device.afterHardReset channel), initialise payload channel]) ++
    (device.inPower payload .active).map (restore payload .active) ++
    (device.inPower payload .mute).map (restore payload .mute)

theorem restartAll_eq (payload : Payload) (device : Device) :
    restartAll payload device = (device.restartParts payload).foldl
      (fun state work => work.part state) (pulseReset.leaves device, (pulseReset device).2) := rfl

/-- A restart pulses the reset line once, and may touch all storm windows. -/
theorem works_restartAll (payload : Payload) (device : Device) :
    Works [.hardReset] (fun _ => (restartAll payload device).2 ≠ none) (fun _ => True) device
      (restartAll payload device).1 := by
  have pulsed : Works [.hardReset] (fun _ => (pulseReset device).2 ≠ none) (fun _ => True) device
      (pulseReset.leaves device) := (works_pulseReset device).trans (works_latchFault _ _)
  rw [restartAll_eq]
  refine Work.keeps_parts
    (fun after held => Works [.hardReset] (fun _ => held ≠ none) (fun _ => True) device after)
    (fun part member middle held works => ?_) pulsed
  have sofar : Works [.hardReset]
      (fun _ => TransportFault.join held (part middle).2 ≠ none) (fun _ => True) device middle :=
    works.mono fun _ failed clean => failed (Bus.join_eq_none.mp clean).1
  have plainly (plain : Plain part) : Works [.hardReset]
      (fun _ => TransportFault.join held (part middle).2 ≠ none) (fun _ => True) device
      (part.leaves middle) := by
    refine sofar.trans (((plain.leaves middle).mono fun _ failed clean => ?_).widen
      fun _ impossible => impossible.elim)
    exact failed (Bus.join_eq_none.mp clean).2
  simp only [restartParts, List.mem_append, List.mem_flatMap, List.mem_map] at member
  rcases member with (⟨channel, _, resets⟩ | ⟨channel, _, rfl⟩) | ⟨channel, _, rfl⟩
  · rcases List.mem_pair.mp resets with rfl | rfl
    · exact sofar.trans (works_afterHardReset channel middle)
    · exact plainly plain_initialise
  · exact plainly (plain_restore .active)
  · exact plainly (plain_restore .mute)

end Device

end AmpControl
