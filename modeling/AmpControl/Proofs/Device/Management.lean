import AmpControl.Proofs.Device.Composition
import AmpControl.Proofs.Device.Conduct

/-!
# Work within a payload

Whatever a device does with a payload, it resets the hardware or calls channels that the payload
declares. The payload stays in its place meanwhile, with the stored values, the active profile and
the number of counters of every channel.
-/

namespace AmpControl

open Tuning (InterruptTable Payload)
open Bus (Attempt Makes)

/-- A reset, or a call to a channel that a payload declares. -/
def Bus.Attempt.Within (payload : Payload) (attempt : Attempt) : Prop :=
  attempt.call = .reset ∨ ∃ channel < payload.channelCount, attempt.call.channel? = some channel

namespace Device

/-- How many counters each channel has. -/
def counterCounts (device : Device) : List Nat :=
  device.channels.map fun state => state.counters.length

/-- What was done with a payload. -/
structure Manages (payload : Payload) (before after : Device) : Prop where
  calls : Makes (Attempt.Within payload) before.bus after.bus
  inPlace : after.payload = before.payload
  values : after.values = before.values
  activeProfile : after.activeProfile = before.activeProfile
  counterCounts : after.counterCounts = before.counterCounts

variable {payload : Payload} {before middle after device : Device} {channel : UInt8}

namespace Manages

theorem refl (device : Device) : Manages payload device device := ⟨.refl _, rfl, rfl, rfl, rfl⟩

theorem trans (first : Manages payload before middle) (second : Manages payload middle after) :
    Manages payload before after where
  calls := first.calls.trans second.calls
  inPlace := second.inPlace.trans first.inPlace
  values := second.values.trans first.values
  activeProfile := second.activeProfile.trans first.activeProfile
  counterCounts := second.counterCounts.trans first.counterCounts

/-- Something that is beside all that matters here. -/
theorem of_same (bus : after.bus = before.bus) (inPlace : after.payload = before.payload)
    (values : after.values = before.values)
    (activeProfile : after.activeProfile = before.activeProfile)
    (channels : after.channels = before.channels) : Manages payload before after :=
  ⟨bus ▸ .refl _, inPlace, values, activeProfile,
    congrArg (List.map fun state : ChannelState => state.counters.length) channels⟩

/-- Something that was done for a channel. -/
theorem of_serves {bus : Bus} {well : Prop} (declared : channel < payload.channelCount)
    (makes : Makes (Attempt.Serves channel well) device.bus bus) :
    Manages payload device { device with bus := bus } :=
  ⟨makes.mono fun _ serves => .inr ⟨channel, declared, serves.1⟩, rfl, rfl, rfl, rfl⟩

end Manages

theorem manages_latchFault (fault : Option TransportFault) (device : Device) :
    Manages payload device (device.latchFault fault) := by
  rw [latchFault_eq]
  exact .of_same rfl rfl rfl rfl rfl

theorem manages_record (event : Event) (device : Device) :
    Manages payload device (device.record event) := .of_same rfl rfl rfl rfl rfl

theorem manages_count (change : Stats → Stats) (device : Device) :
    Manages payload device (device.count change) := .of_same rfl rfl rfl rfl rfl

theorem manages_latch (errorClass : ErrorClass) (channel : UInt8) (device : Device) :
    Manages payload device (device.latch errorClass channel) := .of_same rfl rfl rfl rfl rfl

theorem manages_wait (microseconds : Nat) (device : Device) :
    Manages payload device (device.wait microseconds) :=
  ⟨Bus.makes_wait _ _ _, rfl, rfl, rfl, rfl⟩

theorem counterCounts_onChannel (channel : UInt8) {change : ChannelState → ChannelState}
    (device : Device)
    (same : ∀ state, device.channel? channel = some state →
      (change state).counters.length = state.counters.length) :
    (device.onChannel channel change).counterCounts = device.counterCounts := by
  unfold Device.counterCounts onChannel
  refine List.ext_getElem? fun place => ?_
  simp only [List.getElem?_map, List.getElem?_modify]
  by_cases here : channel.toNat = place
  · subst here
    simp only [if_true]
    cases found : device.channels[channel.toNat]? with
    | none => rfl
    | some state => exact congrArg some (same state found)
  · simp only [if_neg here]
    cases device.channels[place]? <;> rfl

theorem manages_onChannel (channel : UInt8) {change : ChannelState → ChannelState}
    (same : ∀ state, (change state).counters.length = state.counters.length) (device : Device) :
    Manages payload device (device.onChannel channel change) :=
  ⟨.refl _, rfl, rfl, rfl, counterCounts_onChannel channel device fun state _ => same state⟩

theorem manages_updates {change : Device → Device} (updates : Updates channel change)
    (device : Device) : Manages payload device (change device) := by
  cases updates with
  | began => exact .of_same rfl rfl rfl rfl rfl
  | unmasked unmasked => exact manages_onChannel channel (fun _ => by rfl) device
  | powered power => exact manages_onChannel channel (fun _ => by rfl) device
  | cancelled => exact .of_same rfl rfl rfl rfl rfl
  | scheduled => exact .of_same rfl rfl rfl rfl rfl

end Device

/-! ## Work -/

namespace Work

/-- Work with a payload. -/
def Manages (payload : Payload) (work : Work) : Prop :=
  ∀ device, Device.Manages payload device (work device).1

variable {payload : Payload} {work : Work}

theorem Manages.leaves (manages : work.Manages payload) (device : Device) :
    Device.Manages payload device (work.leaves device) :=
  (manages device).trans (Device.manages_latchFault _ _)

theorem manages_inOrder {parts : List Work} (manages : ∀ part ∈ parts, part.Manages payload) :
    (inOrder parts).Manages payload := fun device =>
  keeps_inOrder (Device.Manages payload device)
    (fun part member middle sofar => sofar.trans ((manages part member).leaves middle))
    (.refl device)

/-- Work that is made of primitives for channels of a payload. -/
theorem On.manages (on : On (· < payload.channelCount) work) : work.Manages payload := by
  induction on with
  | idle => exact Device.Manages.refl
  | @run channel declared role script =>
      intro device
      have ran := Bus.makes_execute channel script device.bus
      exact (Device.manages_record _ device).trans (.of_serves declared ran)
  | @replay channel declared controls timing =>
      intro device
      have sent := (Bus.errand_replay controls.controls device.values channel timing
        device.bus).makes
      have recorded : Device.Manages payload device { device with
          history := Device.replayEvents controls device channel timing ++ device.history } :=
        .of_same rfl rfl rfl rfl rfl
      rw [Device.replay_eq]
      exact recorded.trans (.of_serves declared sent)
  | updating declared updates on ih =>
      exact fun device => (Device.manages_updates updates device).trans (ih _)
  | reading on ih => exact fun device => ih device device
  | inOrder on ih => exact manages_inOrder ih

/-- Work that is made of primitives for one channel of a payload. -/
theorem manages_of_on {channel : UInt8} (declared : channel < payload.channelCount)
    (on : ∀ {touched : UInt8 → Prop}, touched channel → On touched work) : work.Manages payload :=
  (@on (· < payload.channelCount) declared).manages

end Work

namespace Device

open Work (manages_of_on)

variable {payload : Payload} {device : Device} {channel : UInt8}

/-! ## Restarts -/

theorem manages_pulseReset : Work.Manages payload pulseReset := by
  intro device
  refine ⟨⟨le_rfl, [⟨.reset, (device.bus.attempt .reset).2⟩], ?_, ?_⟩, rfl, rfl, rfl, rfl⟩
  · exact Bus.attempts_attempt .reset device.bus
  · intro attempt member
    rw [List.mem_singleton.mp member]
    exact .inl rfl

theorem manages_afterHardReset (channel : UInt8) :
    Work.Manages payload (Work.silent (afterHardReset channel)) := by
  intro device
  have cancelled : Manages payload device (device.cancelDeferred channel) :=
    .of_same rfl rfl rfl rfl rfl
  exact cancelled.trans (manages_onChannel channel (fun _ => by rfl) _)

theorem manages_restartAll (payload : Payload) : (restartAll payload).Manages payload := by
  intro device
  refine Work.manages_inOrder (fun part member => ?_) device
  simp only [List.mem_append, List.mem_singleton, List.mem_flatMap, List.mem_map] at member
  rcases member with ((rfl | ⟨channel, listed, resets⟩) | ⟨channel, chosen, rfl⟩) |
    ⟨channel, chosen, rfl⟩
  · exact manages_pulseReset
  · rcases List.mem_pair.mp resets with rfl | rfl
    · exact manages_afterHardReset channel
    · exact manages_of_on (Payload.mem_allChannels.mp listed) Work.on_initialise
  · exact manages_of_on (Channel.mem_among.mp chosen).1 fun here => Work.on_restore here .active
  · exact manages_of_on (Channel.mem_among.mp chosen).1 fun here => Work.on_restore here .mute

theorem manages_lockOut {channels : List UInt8}
    (declared : ∀ channel ∈ channels, channel < payload.channelCount) (device : Device) :
    Manages payload device (device.lockOut payload channels) := by
  rw [lockOut_eq_foldl]
  refine List.foldlRecOn (motive := Manages payload device) channels _ (.refl device) ?_
  intro held sofar channel member
  have down : Manages payload held (powerDown payload channel held).1 :=
    manages_of_on (declared channel member) Work.on_powerDown held
  have locked : Manages payload (powerDown payload channel held).1
      (held.lockDown payload channel) := .of_same rfl rfl rfl rfl rfl
  exact (sofar.trans down).trans locked

theorem manages_escalate (device : Device) : Manages payload device (device.escalate payload) := by
  have outcome := escalation payload device
  generalize device.escalate payload = after at outcome ⊢
  cases outcome with
  | spared => exact .refl device
  | restarted =>
      have begun : Manages payload device device.beginRestart := .of_same rfl rfl rfl rfl rfl
      exact begun.trans (manages_restartAll payload _)
  | lockedOut => exact manages_lockOut (fun channel free => (Channel.mem_among.mp free).1) device

/-! ## Polls -/

theorem length_counters_visitAll (channel : UInt8) (sources : List (Tuning.Source × Nat))
    (poll : Poll) :
    (Poll.visitAll channel sources poll).counters.length = poll.counters.length := by
  induction sources generalizing poll with
  | nil => rfl
  | cons entry others ih =>
      obtain ⟨source, index⟩ := entry
      have same : (poll.status channel source.status).1.counters = poll.counters := by
        unfold Poll.status
        split <;> rfl
      rw [Poll.visitAll, ih]
      unfold Poll.visit
      generalize poll.status channel source.status = found at same ⊢
      obtain ⟨after, held⟩ := found
      cases held with
      | none => exact congrArg List.length same
      | some value =>
          simp only
          split
          · exact congrArg List.length same
          · exact (List.length_modify ..).trans (congrArg List.length same)

/-- The counters are taken out for a poll and put back after it, also where it failed. -/
theorem manages_poll (declared : channel < payload.channelCount) (table : InterruptTable)
    (powered : Bool) (device : Device) :
    Manages payload device (device.poll table channel powered).1 := by
  unfold poll
  have looked := (table.errand_classify channel powered
    (((device.channel? channel).map (·.counters)).getD []) device.bus).makes
  refine (Manages.of_serves declared looked).trans ⟨.refl _, rfl, rfl, rfl, ?_⟩
  refine counterCounts_onChannel channel _ fun state found => ?_
  have found : device.channel? channel = some state := found
  rw [found]
  exact length_counters_visitAll channel _ _

/-! ## Recovery passes -/

theorem manages_restartAndResume (declared : channel < payload.channelCount) :
    (restartAndResume payload channel).Manages payload := by
  intro device
  have restarts := manages_restartAll payload device
  unfold restartAndResume
  cases restart : restartAll payload device with
  | mk restarted fault =>
      rw [restart] at restarts
      cases fault with
      | none => exact restarts.trans (manages_of_on declared Work.on_resumeInterrupts restarted)
      | some fault => exact restarts

theorem manages_checkPower (declared : channel < payload.channelCount) (device : Device) :
    Manages payload device (checkPower payload channel device).1 := by
  unfold checkPower
  cases payload.channel? channel with
  | none => exact .refl device
  | some tables =>
      exact .of_serves declared (Bus.makes_verify channel tables.power.check device.bus)

namespace Pass

variable {pass : Pass} {table : InterruptTable} {reading : Reading}

/-- A part of a pass with a payload. -/
def Manages (payload : Payload) (before after : Pass) : Prop :=
  Device.Manages payload before.device after.device

theorem manages_perform {work : Work} (manages : work.Manages payload) (pass : Pass) :
    Manages payload pass (pass.perform work) := manages.leaves pass.device

theorem manages_noteReset (pass : Pass) : Manages payload pass (pass.noteReset channel) :=
  manages_count (fun stats => { stats with resets := Stats.increment stats.resets }) pass.device

/-- The fault of something that came to no answer is met by the pass. -/
theorem manages_faulted {device : Device} (manages : Device.Manages payload pass.device device)
    (fault : TransportFault) :
    Manages payload pass
      ({ pass with device := device }.perform fun device => (device, some fault)) :=
  manages.trans (manages_latchFault (some fault) device)

theorem manages_apply (declared : channel < payload.channelCount) (remedy : Remedy) (pass : Pass) :
    Manages payload pass (pass.apply payload channel remedy) := by
  cases remedy with
  | leave => exact Device.Manages.refl _
  | resume => exact manages_perform (manages_of_on declared Work.on_resumeInterrupts) _
  | shutDown => exact manages_perform (manages_of_on declared Work.on_powerDown) _
  | softReset =>
      exact (manages_noteReset pass).trans
        (manages_perform (manages_of_on declared Work.on_restartChannel) _)
  | hardReset =>
      rw [apply_hardReset]
      exact (manages_noteReset pass).trans (manages_perform (manages_restartAndResume declared) _)
  | checkPower =>
      have looked := manages_checkPower declared pass.device
      unfold apply
      cases check : checkPower payload channel pass.device with
      | mk checked result =>
          rw [check] at looked
          cases result with
          | error fault => exact manages_faulted looked fault
          | ok powered =>
              cases powered with
              | true =>
                  exact looked.trans
                    ((manages_of_on declared Work.on_resumeInterrupts).leaves checked)
              | false =>
                  exact looked.trans ((manages_of_on declared Work.on_powerUp).leaves checked)

theorem manages_recover (declared : channel < payload.channelCount) (pass : Pass) :
    Manages payload pass (pass.recover payload table channel reading) := by
  have clears : (run channel .clear table.clear).Manages payload :=
    manages_of_on declared fun here => .run here _ _
  have settled : Manages payload pass (pass.settled table channel) :=
    ((manages_count _ pass.device).trans (clears.leaves _)).trans (manages_wait _ _)
  have recorded : Manages payload (pass.settled table channel)
      ((pass.settled table channel).silently
        (Device.record (.recovered channel (pass.remedy table channel reading)))) :=
    manages_record _ _
  rw [recover_eq]
  exact (settled.trans recorded).trans (manages_apply declared _ _)

/-- The registers of a stuck channel are looked at. -/
theorem manages_skipStuck (declared : channel < payload.channelCount) (pass : Pass) :
    Manages payload pass (pass.skipStuck table channel) := by
  have looked := Bus.makes_readAll channel table.dump pass.device.bus
  have noted : Device.Manages payload pass.device
      (((pass.device.count fun stats => { stats with
        stuckDetections := Stats.increment stats.stuckDetections }).latch
          .stuckInterrupt channel).record (.stuck channel)) :=
    ((manages_count _ _).trans (manages_latch _ _ _)).trans (manages_record _ _)
  exact noted.trans (.of_serves declared looked)

theorem manages_judge (declared : channel < payload.channelCount) (start : Nat) (reading : Reading)
    (pass : Pass) : Manages payload pass (pass.judge payload table start channel reading) := by
  have noted : Manages payload pass (pass.debounce start channel).1 := by
    unfold debounce
    cases pass.device.channel? channel with
    | none => exact Device.Manages.refl _
    | some state => exact manages_onChannel channel (fun _ => by rfl) pass.device
  unfold judge
  cases debounced : pass.debounce start channel with
  | mk held verdict =>
      rw [debounced] at noted
      cases verdict with
      | act => exact noted.trans (manages_recover declared held)
      | stuck => exact noted.trans (manages_skipStuck declared held)

theorem manages_visit (declared : channel < payload.channelCount) (start : Nat) (pass : Pass) :
    Manages payload pass (pass.visit payload start channel) := by
  have polls (table : InterruptTable) := manages_poll declared table
    (pass.device.power channel = .active) pass.device
  have visit := visit_spec payload start channel pass
  generalize pass.visit payload start channel = after at visit ⊢
  cases visit with
  | unwatched => exact Device.Manages.refl _
  | @unread table polled fault tabled poll =>
      have looked := polls table
      rw [poll] at looked
      exact manages_faulted looked fault
  | @quiet table polled reading tabled poll =>
      have looked := polls table
      rwa [poll] at looked
  | @fired table polled reading tabled poll =>
      have looked := polls table
      rw [poll] at looked
      exact looked.trans (manages_judge declared start reading
        (({ pass with device := polled } : Pass).reporting (RecoveryReport.detect channel)))

end Pass

theorem manages_each {channels : List UInt8} {work : UInt8 → Work}
    (manages : ∀ channel ∈ channels, (work channel).Manages payload) :
    (Work.each channels work).Manages payload := by
  refine Work.manages_inOrder fun part member => ?_
  obtain ⟨channel, listed, rfl⟩ := List.mem_map.mp member
  exact manages channel listed

theorem manages_survey (device : Device) : Manages payload device (device.survey payload).1 := by
  have masked : Manages payload device (device.maskedPass payload).device :=
    (manages_each fun channel listed => manages_of_on (Payload.mem_allChannels.mp listed)
      Work.on_maskForSurvey).leaves device
  have visited : Manages payload device (device.visitedPass payload).device :=
    List.foldlRecOn (motive := fun pass : Pass => Manages payload device pass.device)
      payload.allChannels _ masked fun pass sofar channel listed =>
        sofar.trans (Pass.manages_visit (Payload.mem_allChannels.mp listed) _ pass)
  have unmasked : Manages payload device (device.surveyedPass payload).device :=
    visited.trans ((manages_each fun channel chosen => manages_of_on (Channel.mem_among.mp chosen).1
      Work.on_unmaskAgain).leaves _)
  rw [survey_eq]
  unfold Pass.finish
  refine .trans ?_ (manages_record _ _)
  split
  · exact unmasked.trans (manages_escalate _)
  · exact unmasked

/-! ## Deferred work -/

theorem manages_finishPowerUp (declared : channel < payload.channelCount) (device : Device) :
    Manages payload device (device.finishPowerUp payload channel) := by
  have polls : (pollAfterPowerUp payload channel).Manages payload := by
    intro held
    unfold pollAfterPowerUp
    cases payload.interrupts? channel with
    | none => exact .refl held
    | some table =>
        have polled := manages_poll declared table true held
        cases outcome : held.poll table channel true with
        | mk after result =>
            rw [outcome] at polled
            simp only [outcome]
            cases result <;> exact polled
  have worked : Manages payload device (Work.inOrder [pollAfterPowerUp payload channel,
      clearInterrupts payload channel, unmaskInterrupts payload channel,
      replay payload channel .afterPowerUp] device).1 := by
    refine Work.manages_inOrder (fun part member => ?_) device
    simp only [List.mem_cons, List.not_mem_nil, or_false] at member
    rcases member with rfl | rfl | rfl | rfl
    · exact polls
    · exact manages_of_on declared Work.on_clearInterrupts
    · exact manages_of_on declared Work.on_unmaskInterrupts
    · exact manages_of_on declared fun here => .replay here _ _
  unfold finishPowerUp
  generalize Work.inOrder _ device = outcome at worked ⊢
  obtain ⟨after, fault⟩ := outcome
  have counted := worked.trans (manages_count (fun stats =>
    { stats with deferredRuns := Stats.increment stats.deferredRuns }) after)
  cases fault with
  | none => exact counted
  | some fault => exact counted.trans (manages_latch .transport channel _)

end Device

end AmpControl
