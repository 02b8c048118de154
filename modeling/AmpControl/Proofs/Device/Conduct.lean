import AmpControl.Device.Loading
import AmpControl.Proofs.Bus.Errand
import AmpControl.Proofs.Device.Escalation
import AmpControl.Proofs.Device.Worker

/-!
# Conduct

Whatever a device does once a payload is in place is made of a few deeds: changes that no call comes
of, waiting, errands for a channel, looks at the registers of a stuck channel, pulses of the reset
line, and the beginning of a restart. A deed may meet a fault, which is latched before the next
deed, or returned by the last one. So what deeds keep is kept by all work, by recovery passes and
by the workers.
-/

namespace AmpControl

open Tuning (AudioInterface Control InterruptTable Payload Phase Script Timing)
open Bus (Carries Errand faultIn)

namespace Device

/-- Nothing was called, and nothing that was noted is forgotten. -/
structure Quiet (before after : Device) : Prop where
  bus : after.bus = before.bus
  payload : after.payload = before.payload
  restarts : after.restarts = before.restarts
  cachedWrites : after.cachedWrites = before.cachedWrites
  failing : ∀ channel, before.failing channel = true → after.failing channel = true
  history : ∃ added, after.history = added ++ before.history

/--
What a device does between two states while a payload is in its place, and the fault that is not
latched yet. Where every fault was latched any fault may be told.
-/
inductive Conduct (place : Option Payload) :
    Device → Device → Option TransportFault → Prop where
  | idle {device : Device} (fault : Option TransportFault) : Conduct place device device fault
  | quiet {before after : Device} (quiet : Quiet before after) : Conduct place before after none
  | waited {device : Device} (microseconds : Nat) :
      Conduct place device (device.wait microseconds) none
  | errand {device : Device} {channel : UInt8} {bus : Bus} {fault : Option TransportFault}
      (small : channel < 8) (errand : Errand channel device.bus bus fault) :
      Conduct place device { device with bus := bus } fault
  /-- The registers of a stuck channel are looked at; what cannot be read is left out. -/
  | looked {device : Device} {payload : Payload} {channel : UInt8} {table : InterruptTable}
      (inPlace : place = some payload) (tabled : payload.interrupts? channel = some table) :
      Conduct place device
        { device.record (.stuck channel) with
          bus := (device.bus.readAll channel table.dump).1 } none
  | pulsed (device : Device) : Conduct place device (pulseReset device).1 (pulseReset device).2
  | restarted {device : Device} (left : device.restarts < device.config.maxRestarts) :
      Conduct place device device.beginRestart none
  | latched {before after : Device} {met : Option TransportFault}
      (conduct : Conduct place before after met) :
      Conduct place before (after.latchFault met) none
  | trans {before middle after : Device} {fault : Option TransportFault}
      (first : Conduct place before middle none) (second : Conduct place middle after fault) :
      Conduct place before after fault

variable {place : Option Payload} {payload : Payload} {device before after : Device}
  {channel : UInt8} {fault : Option TransportFault}

/-- Where every fault was latched any fault may be told. -/
theorem Conduct.telling (conduct : Conduct place before after none)
    (fault : Option TransportFault) : Conduct place before after fault :=
  conduct.trans (.idle fault)

/-! ## Quiet changes -/

theorem Quiet.of_same (bus : after.bus = before.bus) (payload : after.payload = before.payload)
    (restarts : after.restarts = before.restarts)
    (cachedWrites : after.cachedWrites = before.cachedWrites)
    (errors : after.errors = before.errors) (history : after.history = before.history) :
    Quiet before after :=
  ⟨bus, payload, restarts, cachedWrites, fun channel held => by rwa [Device.failing, errors], [],
    history⟩

theorem quiet_record (event : Event) (device : Device) : Quiet device (device.record event) :=
  ⟨rfl, rfl, rfl, rfl, fun _ held => held, [event], rfl⟩

theorem quiet_latch (errorClass : ErrorClass) (latched : UInt8) (device : Device) :
    Quiet device (device.latch errorClass latched) :=
  ⟨rfl, rfl, rfl, rfl, fun _ held => failing_latch held, [], rfl⟩

theorem quiet_latchFault (fault : Option TransportFault) (device : Device) :
    Quiet device (device.latchFault fault) := by
  unfold latchFault
  split
  · split
    · exact .of_same rfl rfl rfl rfl rfl rfl
    · exact quiet_latch .transport _ device
  · exact .of_same rfl rfl rfl rfl rfl rfl

theorem quiet_count (change : Stats → Stats) (device : Device) :
    Quiet device (device.count change) := .of_same rfl rfl rfl rfl rfl rfl

theorem quiet_onChannel (channel : UInt8) (change : ChannelState → ChannelState)
    (device : Device) : Quiet device (device.onChannel channel change) :=
  .of_same rfl rfl rfl rfl rfl rfl

theorem quiet_cancelDeferred (channel : UInt8) (device : Device) :
    Quiet device (device.cancelDeferred channel) := .of_same rfl rfl rfl rfl rfl rfl

theorem quiet_endPowerUp (channel : UInt8) (device : Device) :
    Quiet device ((device.setPower channel .active).scheduleDeferred channel) :=
  .of_same rfl rfl rfl rfl rfl rfl

theorem quiet_afterHardReset (channel : UInt8) (device : Device) :
    Quiet device (device.afterHardReset channel) := .of_same rfl rfl rfl rfl rfl rfl

/-! ## What all deeds keep -/

/-- What the bus remembers is told by the calls that were made. -/
theorem Conduct.carries (conduct : Conduct place before after fault) :
    Carries before.bus after.bus := by
  induction conduct with
  | idle fault => exact .refl _
  | quiet quiet => exact quiet.bus ▸ .refl _
  | waited microseconds => exact Bus.carries_wait microseconds _
  | errand small errand => exact errand.carries
  | looked inPlace tabled => exact Bus.carries_readAll _ _ _
  | pulsed device => exact Bus.carries_reset device.bus
  | restarted left => exact .refl _
  | latched conduct ih => rwa [(quiet_latchFault _ _).bus]
  | trans first second early late => exact early.trans late

theorem Conduct.keeps_payload (conduct : Conduct place before after fault) :
    after.payload = before.payload := by
  induction conduct with
  | quiet quiet => exact quiet.payload
  | latched conduct ih => exact (quiet_latchFault _ _).payload.trans ih
  | trans first second early late => exact late.trans early
  | _ => rfl

theorem Conduct.keeps_cachedWrites (conduct : Conduct place before after fault) :
    after.cachedWrites = before.cachedWrites := by
  induction conduct with
  | quiet quiet => exact quiet.cachedWrites
  | latched conduct ih => exact (quiet_latchFault _ _).cachedWrites.trans ih
  | trans first second early late => exact late.trans early
  | _ => rfl

/-- Restarts are never taken back. -/
theorem Conduct.restarts (conduct : Conduct place before after fault) :
    before.restarts ≤ after.restarts := by
  induction conduct with
  | quiet quiet => exact quiet.restarts ▸ UInt32.le_refl _
  | @restarted device left =>
      have counted := toNat_increment left
      refine UInt32.le_iff_toNat_le.mpr ?_
      change device.restarts.toNat ≤ (Stats.increment device.restarts).toNat
      omega
  | latched conduct ih => rwa [(quiet_latchFault _ _).restarts]
  | trans first second early late => exact UInt32.le_trans early late
  | _ => exact UInt32.le_refl _

end Device

/-! ## Work -/

namespace Work

open Device (Conduct Quiet)

/-- Work that is made of deeds and returns the fault of the last of them. -/
def Conducted (place : Option Payload) (work : Work) : Prop :=
  ∀ device, Conduct place device (work device).1 (work device).2

/-- Work that has latched every fault that it met. -/
def Settles (place : Option Payload) (work : Work) : Prop :=
  ∀ device, Conduct place device (work device).1 none

variable {place : Option Payload} {work : Work}

theorem Settles.conducted (settles : Settles place work) : Conducted place work :=
  fun device => (settles device).telling _

theorem Conducted.leaves (conducted : Conducted place work) (device : Device) :
    Conduct place device (work.leaves device) none := (conducted device).latched

theorem settles_idle : Settles place idle := fun _ => .idle none

theorem settles_silent {change : Device → Device} (quiet : ∀ device, Quiet device (change device)) :
    Settles place (silent change) := fun device => .quiet (quiet device)

theorem settles_reading {choose : Device → Work}
    (settles : ∀ device, Settles place (choose device)) : Settles place (reading choose) :=
  fun device => settles device device

theorem settles_inOrder {parts : List Work} (conducted : ∀ part ∈ parts, Conducted place part) :
    Settles place (inOrder parts) := fun device =>
  keeps_inOrder (fun after => Conduct place device after none)
    (fun part member middle sofar => sofar.trans ((conducted part member).leaves middle))
    (.idle none)

theorem settles_each {channels : List UInt8} {work : UInt8 → Work}
    (conducted : ∀ channel ∈ channels, Conducted place (work channel)) :
    Settles place (each channels work) := by
  refine settles_inOrder fun part member => ?_
  obtain ⟨channel, listed, rfl⟩ := List.mem_map.mp member
  exact conducted channel listed

end Work

namespace Device

open Work (Conducted Settles settles_idle settles_silent settles_reading settles_inOrder)

variable {place : Option Payload} {payload : Payload} {device : Device} {channel : UInt8}

theorem conducted_run (small : channel < 8) (role : Role) (script : Script) :
    Conducted place (run channel role script) := fun device =>
  .trans (.quiet (quiet_record _ device)) (.errand small (Bus.errand_execute channel script _))

theorem conducted_replay (small : channel < 8) (timing : Timing) :
    Conducted place (replay payload channel timing) := by
  intro device
  have noted : Quiet device { device with
      history := replayEvents payload device channel timing ++ device.history } :=
    ⟨rfl, rfl, rfl, rfl, fun _ held => held, _, rfl⟩
  rw [replay_eq]
  exact .trans (.quiet noted) (.errand small (Bus.errand_replay _ _ channel timing _))

theorem conduct_poll (small : channel < 8) (table : InterruptTable) (powered : Bool)
    (device : Device) :
    Conduct place device (device.poll table channel powered).1
      (faultIn (device.poll table channel powered).2) :=
  .trans (.quiet (quiet_onChannel channel _ device)) (.errand small (table.errand_classify ..))

theorem conducted_applyProfile (small : channel < 8) (phase : Phase) :
    Conducted place (applyProfile payload phase channel) := by
  intro device
  unfold applyProfile
  cases (device.selection payload).profile? channel with
  | none => exact .idle none
  | some profile => exact conducted_run small _ _ device

theorem settles_setUnmasked (unmasked : Bool) :
    Settles place (Work.silent (setUnmasked channel unmasked)) :=
  settles_silent (quiet_onChannel channel _)

theorem settles_setPower (power : Power) : Settles place (Work.silent (setPower channel power)) :=
  settles_silent (quiet_onChannel channel _)

theorem settles_cancelDeferred : Settles place (Work.silent (cancelDeferred channel)) :=
  settles_silent (quiet_cancelDeferred channel)

theorem conducted_maskInterrupts (small : channel < 8) :
    Conducted place (maskInterrupts payload channel) := by
  intro device
  have noted : Conduct place device (device.setUnmasked channel false) none :=
    .quiet (quiet_onChannel channel _ device)
  unfold maskInterrupts
  cases payload.interrupts? channel with
  | none => exact noted
  | some table => exact noted.trans (conducted_run small _ _ _)

theorem conducted_clearInterrupts (small : channel < 8) :
    Conducted place (clearInterrupts payload channel) := by
  unfold clearInterrupts
  cases payload.interrupts? channel with
  | none => exact settles_idle.conducted
  | some table => exact conducted_run small _ _

theorem settles_unmaskInterrupts (small : channel < 8) :
    Settles place (unmaskInterrupts payload channel) := by
  unfold unmaskInterrupts
  cases payload.interrupts? channel with
  | none => exact settles_idle
  | some table =>
      refine settles_inOrder fun part member => ?_
      rcases List.mem_pair.mp member with rfl | rfl
      · exact conducted_run small _ _
      · exact (settles_setUnmasked true).conducted

theorem conducted_armSense (small : channel < 8) : Conducted place (armSense payload channel) := by
  intro device
  unfold armSense
  cases device.slotInUse? payload channel with
  | none => exact .idle none
  | some config => exact conducted_run small _ _ device

theorem conducted_softReset (small : channel < 8) :
    Conducted place (softReset payload channel) := by
  unfold softReset
  cases payload.channel? channel with
  | none => exact settles_idle.conducted
  | some tables => exact conducted_run small _ _

theorem settles_applyFallbacks (small : channel < 8) (audioInterface : Option AudioInterface) :
    Settles place (applyFallbacks channel audioInterface) := by
  unfold applyFallbacks
  cases audioInterface with
  | none => exact settles_idle
  | some tables =>
      refine settles_inOrder fun part member => ?_
      obtain ⟨⟨setting, script⟩, _, rfl⟩ := List.mem_map.mp member
      exact conducted_run small _ _

theorem settles_initialise (small : channel < 8) : Settles place (initialise payload channel) := by
  unfold initialise
  cases payload.channel? channel with
  | none => exact settles_idle
  | some tables =>
      refine settles_inOrder fun part member => ?_
      simp only [List.mem_cons, List.not_mem_nil, or_false] at member
      rcases member with rfl | rfl | rfl | rfl
      · exact conducted_run small _ _
      · exact (settles_applyFallbacks small _).conducted
      · exact conducted_armSense small
      · exact conducted_replay small _

/-! ## Power transitions -/

theorem settles_rearmSense (small : channel < 8) : Settles place (rearmSense payload channel) := by
  refine settles_reading fun device => ?_
  split
  · refine settles_inOrder fun part member => ?_
    rcases List.mem_pair.mp member with rfl | rfl
    · exact conducted_clearInterrupts small
    · exact conducted_armSense small
  · exact settles_idle

theorem settles_powerUp (small : channel < 8) : Settles place (powerUp payload channel) := by
  unfold powerUp
  cases payload.channel? channel with
  | none => exact settles_idle
  | some tables =>
      refine settles_inOrder fun part member => ?_
      simp only [List.mem_cons, List.not_mem_nil, or_false] at member
      rcases member with rfl | rfl | rfl | rfl | rfl | rfl | rfl | rfl
      · exact (settles_silent (quiet_record (.poweringUp channel))).conducted
      · exact conducted_maskInterrupts small
      · exact (settles_rearmSense small).conducted
      · exact conducted_applyProfile small _
      · exact conducted_replay small _
      · exact conducted_run small _ _
      · exact conducted_applyProfile small _
      · exact (settles_silent (quiet_endPowerUp channel)).conducted

theorem settles_powerDown (small : channel < 8) : Settles place (powerDown payload channel) := by
  unfold powerDown
  cases payload.channel? channel with
  | none => exact settles_idle
  | some tables =>
      refine settles_inOrder fun part member => ?_
      simp only [List.mem_cons, List.not_mem_nil, or_false] at member
      rcases member with rfl | rfl | rfl | rfl | rfl | rfl
      · exact conducted_maskInterrupts small
      · exact settles_cancelDeferred.conducted
      · exact conducted_applyProfile small _
      · exact conducted_run small _ _
      · exact conducted_applyProfile small _
      · exact (settles_setPower _).conducted

theorem settles_mute (small : channel < 8) : Settles place (mute payload channel) := by
  unfold mute
  cases payload.channel? channel with
  | none => exact settles_idle
  | some tables =>
      refine settles_inOrder fun part member => ?_
      simp only [List.mem_cons, List.not_mem_nil, or_false] at member
      rcases member with rfl | rfl | rfl | rfl
      · exact conducted_maskInterrupts small
      · exact settles_cancelDeferred.conducted
      · exact conducted_run small _ _
      · exact (settles_setPower _).conducted

theorem settles_transition (small : channel < 8) (target : Power) :
    Settles place (transition payload target channel) := by
  intro device
  obtain ⟨same, _⟩ | ⟨_, _, up⟩ | ⟨_, down⟩ | ⟨_, _, muted⟩ :=
    transition_cases payload target channel device
  · rw [same]
    exact .idle none
  · rw [up]
    exact settles_powerUp small device
  · rw [down]
    exact settles_powerDown small device
  · rw [muted]
    exact settles_mute small device

theorem settles_restore (small : channel < 8) (former : Power) :
    Settles place (restore payload former channel) := by
  cases former with
  | shutdown => exact settles_idle
  | active => exact settles_powerUp small
  | mute =>
      refine settles_inOrder fun part member => ?_
      rcases List.mem_pair.mp member with rfl | rfl
      · exact (settles_powerUp small).conducted
      · exact (settles_mute small).conducted

/-! ## Restarts -/

theorem small_of_listed (shaped : payload.Shaped) (listed : channel ∈ payload.allChannels) :
    channel < 8 := shaped.lt_eight (Payload.mem_allChannels.mp listed)

theorem settles_initialiseAll (shaped : payload.Shaped) :
    Settles place (initialiseAll payload) := by
  refine settles_inOrder fun part member => ?_
  obtain ⟨channel, listed, parts⟩ := List.mem_flatMap.mp member
  have small := small_of_listed shaped listed
  rcases List.mem_pair.mp parts with rfl | rfl
  · exact conducted_softReset small
  · exact (settles_initialise small).conducted

theorem settles_restartAll (shaped : payload.Shaped) : Settles place (restartAll payload) := by
  refine settles_reading fun device => settles_inOrder fun part member => ?_
  have small_of_among {other mask : UInt8}
      (chosen : other ∈ Channel.among mask payload.channelCount) : other < 8 :=
    shaped.lt_eight (Channel.mem_among.mp chosen).1
  simp only [List.mem_append, List.mem_singleton, List.mem_flatMap, List.mem_map] at member
  rcases member with ((rfl | ⟨channel, listed, resets⟩) | ⟨channel, chosen, rfl⟩) |
    ⟨channel, chosen, rfl⟩
  · exact fun device => .pulsed device
  · rcases List.mem_pair.mp resets with rfl | rfl
    · exact (settles_silent (quiet_afterHardReset channel)).conducted
    · exact (settles_initialise (small_of_listed shaped listed)).conducted
  · exact (settles_restore (small_of_among chosen) .active).conducted
  · exact (settles_restore (small_of_among chosen) .mute).conducted

theorem conduct_lockOut (shaped : payload.Shaped) {channels : List UInt8}
    (declared : ∀ channel ∈ channels, channel < payload.channelCount) (device : Device) :
    Conduct place device (device.lockOut payload channels) none := by
  rw [lockOut_eq_foldl]
  refine List.foldlRecOn (motive := fun held : Device => Conduct place device held none) channels _
    (.idle none) fun held sofar channel member => sofar.trans ?_
  have down : Conduct place held (powerDown payload channel held).1 none :=
    settles_powerDown (shaped.lt_eight (declared channel member)) held
  have locked : Quiet (powerDown payload channel held).1 (held.lockDown payload channel) :=
    ⟨rfl, rfl, rfl, rfl, fun _ failed => failing_latch failed, [], rfl⟩
  exact down.trans (.quiet locked)

theorem conduct_escalate (shaped : payload.Shaped) (device : Device) :
    Conduct place device (device.escalate payload) none := by
  have outcome := escalation payload device
  generalize device.escalate payload = after at outcome ⊢
  cases outcome with
  | spared => exact .idle none
  | restarted failing left => exact .trans (.restarted left) (settles_restartAll shaped _)
  | lockedOut =>
      exact conduct_lockOut shaped (fun channel free => (Channel.mem_among.mp free).1) device

/-! ## Recovery passes -/

theorem settles_resumeInterrupts (small : channel < 8) :
    Settles place (resumeInterrupts payload channel) := by
  refine settles_reading fun device => ?_
  split
  · exact settles_unmaskInterrupts small
  · exact settles_idle

theorem settles_restartAndResume (shaped : payload.Shaped) (small : channel < 8) :
    Settles place (restartAndResume payload channel) := by
  intro device
  have restarts : Conduct place device (restartAll payload device).1 none :=
    settles_restartAll shaped device
  unfold restartAndResume
  cases restart : restartAll payload device with
  | mk restarted fault =>
      rw [restart] at restarts
      cases fault with
      | none => exact restarts.trans (settles_resumeInterrupts small restarted)
      | some fault => exact restarts

theorem settles_restartChannel (small : channel < 8) :
    Settles place (restartChannel payload channel) := by
  refine settles_reading fun device => settles_inOrder fun part member => ?_
  simp only [List.mem_cons, List.not_mem_nil, or_false] at member
  rcases member with rfl | rfl | rfl
  · exact conducted_softReset small
  · exact (settles_initialise small).conducted
  · exact (settles_restore small _).conducted

theorem settles_maskForSurvey (small : channel < 8) :
    Settles place (maskForSurvey payload channel) := by
  unfold maskForSurvey
  cases payload.interrupts? channel with
  | none => exact settles_idle
  | some table =>
      refine settles_inOrder fun part member => ?_
      rcases List.mem_pair.mp member with rfl | rfl
      · exact conducted_run small _ _
      · exact (settles_setUnmasked false).conducted

theorem settles_unmaskAgain (small : channel < 8) :
    Settles place (Pass.unmaskAgain payload channel) := by
  refine settles_reading fun device => ?_
  split
  · exact settles_idle
  · exact settles_unmaskInterrupts small

namespace Pass

variable {before after pass : Pass} {table : InterruptTable} {reading : Reading}

/-- What a pass does between two of its states. -/
def Conduct (place : Option Payload) (before after : Pass) : Prop :=
  Device.Conduct place before.device after.device none

theorem conduct_perform {work : Work} (conducted : Conducted place work) (pass : Pass) :
    Conduct place pass (pass.perform work) := conducted.leaves pass.device

theorem conduct_silently {change : Device → Device} (quiet : ∀ device, Quiet device (change device))
    (pass : Pass) : Conduct place pass (pass.silently change) := .quiet (quiet pass.device)

theorem conduct_noteReset (pass : Pass) : Conduct place pass (pass.noteReset channel) :=
  conduct_silently (quiet_count _) (pass.reporting _)

/-- The fault of something that came to no answer is met by the pass. -/
theorem conduct_faulted {device : Device} {fault : TransportFault}
    (conduct : Device.Conduct place pass.device device (some fault)) :
    Conduct place pass
      ({ pass with device := device }.perform fun device => (device, some fault)) :=
  conduct.latched

theorem conduct_checkPower (small : channel < 8) (pass : Pass) :
    Conduct place pass (pass.apply payload channel .checkPower) := by
  have checks : Device.Conduct place pass.device (checkPower payload channel pass.device).1
      (faultIn (checkPower payload channel pass.device).2) := by
    unfold checkPower
    cases payload.channel? channel with
    | none => exact .idle none
    | some tables => exact .errand small (Bus.errand_verify channel tables.power.check _)
  unfold apply
  cases check : checkPower payload channel pass.device with
  | mk checked result =>
      rw [check] at checks
      cases result with
      | error fault => exact conduct_faulted checks
      | ok agrees =>
          cases agrees with
          | true => exact checks.trans ((settles_resumeInterrupts small).conducted.leaves checked)
          | false => exact checks.trans ((settles_powerUp small).conducted.leaves checked)

theorem conduct_apply (shaped : payload.Shaped) (small : channel < 8) (remedy : Remedy)
    (pass : Pass) : Conduct place pass (pass.apply payload channel remedy) := by
  cases remedy with
  | leave => exact .idle none
  | resume => exact conduct_perform (settles_resumeInterrupts small).conducted _
  | softReset =>
      exact (conduct_noteReset pass).trans
        (conduct_perform (settles_restartChannel small).conducted _)
  | checkPower => exact conduct_checkPower small pass
  | shutDown => exact conduct_perform (settles_powerDown small).conducted _
  | hardReset =>
      rw [apply_hardReset]
      exact (conduct_noteReset pass).trans
        (conduct_perform (settles_restartAndResume shaped small).conducted _)

theorem conduct_skipStuck (tabled : payload.interrupts? channel = some table) (pass : Pass) :
    Conduct (some payload) pass (pass.skipStuck table channel) :=
  .trans (.quiet (quiet_count _ pass.device))
    (.trans (.quiet (quiet_latch .stuckInterrupt channel _)) (.looked rfl tabled))

theorem conduct_recover (shaped : payload.Shaped) (small : channel < 8) (pass : Pass) :
    Conduct place pass (pass.recover payload table channel reading) := by
  have settled : Conduct place pass (pass.settled table channel) :=
    .trans (.trans (.quiet (quiet_count _ pass.device))
      ((conducted_run small .clear table.clear).leaves _)) (.waited _)
  have recorded : Conduct place (pass.settled table channel)
      ((pass.settled table channel).silently
        (Device.record (.recovered channel (pass.remedy table channel reading)))) :=
    conduct_silently (quiet_record _) _
  rw [recover_eq]
  exact (settled.trans recorded).trans (conduct_apply shaped small _ _)

theorem conduct_judge (shaped : payload.Shaped) (small : channel < 8)
    (tabled : payload.interrupts? channel = some table) (start : Nat) (reading : Reading)
    (pass : Pass) :
    Conduct (some payload) pass (pass.judge payload table start channel reading) := by
  have noted : Conduct (some payload) pass (pass.debounce start channel).1 := by
    unfold debounce
    cases pass.device.channel? channel with
    | none => exact .idle none
    | some state => exact .quiet (quiet_onChannel channel _ _)
  unfold judge
  cases debounced : pass.debounce start channel with
  | mk held verdict =>
      rw [debounced] at noted
      cases verdict with
      | stuck => exact noted.trans (conduct_skipStuck tabled held)
      | act => exact noted.trans (conduct_recover shaped small held)

theorem conduct_visit (shaped : payload.Shaped) (small : channel < 8) (start : Nat) (pass : Pass) :
    Conduct (some payload) pass (pass.visit payload start channel) := by
  have polls (table : InterruptTable) : Device.Conduct (some payload) pass.device _ _ :=
    conduct_poll small table (pass.device.power channel = .active) pass.device
  have visit := visit_spec payload start channel pass
  generalize pass.visit payload start channel = after at visit ⊢
  cases visit with
  | unwatched => exact .idle none
  | @unread table polled fault tabled poll =>
      have looked := polls table
      rw [poll] at looked
      exact conduct_faulted looked
  | @quiet table polled reading tabled poll =>
      have looked := polls table
      rw [poll] at looked
      exact looked
  | @fired table polled reading tabled poll =>
      have looked := polls table
      rw [poll] at looked
      exact looked.trans (conduct_judge shaped small tabled start reading
        (({ pass with device := polled } : Pass).reporting (RecoveryReport.detect channel)))

end Pass

theorem conduct_survey (shaped : payload.Shaped) (device : Device) :
    Conduct (some payload) device (device.survey payload).1 none := by
  have masked : Conduct (some payload) device (device.maskedPass payload).device none :=
    (Work.settles_each fun channel listed =>
      (settles_maskForSurvey (small_of_listed shaped listed)).conducted).conducted.leaves device
  have visited : Conduct (some payload) device (device.visitedPass payload).device none :=
    List.foldlRecOn (motive := fun pass : Pass => Conduct (some payload) device pass.device none)
      payload.allChannels _ masked fun pass sofar channel listed =>
        sofar.trans (Pass.conduct_visit shaped (small_of_listed shaped listed) _ pass)
  have unmasked : Conduct (some payload) device (device.surveyedPass payload).device none :=
    visited.trans ((Work.settles_each fun channel chosen => (settles_unmaskAgain
      (shaped.lt_eight (Channel.mem_among.mp chosen).1)).conducted).conducted.leaves _)
  rw [survey_eq]
  unfold Pass.finish
  refine .trans ?_ (.quiet (quiet_record _ _))
  split
  · exact unmasked.trans (conduct_escalate shaped _)
  · exact unmasked

/-! ## Workers -/

theorem conduct_finishPowerUp (small : channel < 8) (device : Device) :
    Conduct place device (device.finishPowerUp payload channel) none := by
  have polls : Conducted place (pollAfterPowerUp payload channel) := by
    intro held
    unfold pollAfterPowerUp
    cases payload.interrupts? channel with
    | none => exact .idle none
    | some table =>
        have polled : Conduct place held _ _ := conduct_poll small table true held
        cases outcome : held.poll table channel true with
        | mk after result =>
            rw [outcome] at polled
            simp only [outcome]
            cases result <;> exact polled
  have worked : Conduct place device (Work.inOrder [pollAfterPowerUp payload channel,
      clearInterrupts payload channel, unmaskInterrupts payload channel,
      replay payload channel .afterPowerUp] device).1 none := by
    refine settles_inOrder (fun part member => ?_) device
    simp only [List.mem_cons, List.not_mem_nil, or_false] at member
    rcases member with rfl | rfl | rfl | rfl
    · exact polls
    · exact conducted_clearInterrupts small
    · exact (settles_unmaskInterrupts small).conducted
    · exact conducted_replay small _
  unfold finishPowerUp
  generalize Work.inOrder _ device = outcome at worked ⊢
  obtain ⟨after, fault⟩ := outcome
  have counted := worked.trans (.quiet (quiet_count (fun stats =>
    { stats with deferredRuns := Stats.increment stats.deferredRuns }) after))
  cases fault with
  | none => exact counted
  | some fault => exact counted.trans (.quiet (quiet_latch .transport channel _))

/-- Work only waits for channels that there can be. -/
theorem small_of_waiting {queue : DeferredQueue} {item : DeferredItem}
    (waits : queue.item? channel = some item) : channel < 8 := by
  have inside : channel.toNat < Tuning.maxChannels := by
    by_contra outside
    rw [DeferredQueue.item?, Vector.getElem?_eq_none (Nat.le_of_not_lt outside)] at waits
    cases waits
  exact UInt8.lt_iff_toNat_lt.mpr (Nat.lt_trans inside (by decide))

theorem conduct_deferredTurn (device : Device) :
    Conduct place device device.deferredTurn.1 none := by
  cases due : device.deferred.takeDue device.clock with
  | none =>
      rw [deferredTurn, due]
      exact .idle none
  | some entry =>
      obtain ⟨⟨channel, generation⟩, left⟩ := entry
      obtain ⟨_, instant, _, item⟩ := DeferredQueue.takeDue_eq_some due
      have taken : Conduct place device (device.cancelDeferred channel) none :=
        .quiet (quiet_cancelDeferred channel device)
      rw [deferredTurn_of_due due]
      split
      · exact taken.trans (.quiet (.of_same rfl rfl rfl rfl rfl rfl))
      · split
        · exact taken.trans (conduct_finishPowerUp (small_of_waiting item) _)
        · exact taken

theorem conduct_deferredTurns (bound ran : Nat) (device : Device) :
    Conduct place device (deferredTurns bound ran device).1 none := by
  induction bound generalizing ran device with
  | zero => exact .idle none
  | succ bound ih =>
      have first : Conduct place device device.deferredTurn.1 none := conduct_deferredTurn device
      unfold deferredTurns
      cases turn : device.deferredTurn with
      | mk after outcome =>
          rw [turn] at first
          cases outcome with
          | idle => exact first
          | dropped => exact first
          | skipped => exact first.trans (ih ran after)
          | ran => exact first.trans (ih (ran + 1) after)

theorem conduct_deferredUntil (bound ending : Nat) (device : Device) :
    Conduct place device (deferredUntil bound ending device) none := by
  induction bound generalizing device with
  | zero => exact .idle none
  | succ bound ih =>
      unfold deferredUntil
      cases device.deferred.nextDue? with
      | none => exact .idle none
      | some due =>
          simp only
          by_cases early : due ≤ ending
          · rw [if_pos early]
            exact .trans (.waited _) ((conduct_deferredTurns _ _ _).trans (ih _))
          · rw [if_neg early]
            exact .idle none

end Device

end AmpControl
