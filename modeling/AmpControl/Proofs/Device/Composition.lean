import AmpControl.Device.Loading
import AmpControl.Device.Recovery
import AmpControl.Proofs.Device.Work

/-!
# What work on channels is made of

Initialisations and power transitions are made of scripts, of control values that are sent, and of
updates of the state of the channel, each of them for the channel that the work is on. What is shown
for these primitives and for their composition holds of all such work.
-/

namespace AmpControl

open Tuning (AudioInterface Payload Phase Script Timing)

namespace Device

/-- What is kept of a channel is updated. -/
inductive Updates (channel : UInt8) : (Device → Device) → Prop where
  | began : Updates channel (record (.poweringUp channel))
  | unmasked (unmasked : Bool) : Updates channel (setUnmasked channel unmasked)
  | powered (power : Power) : Updates channel (setPower channel power)
  | cancelled : Updates channel (cancelDeferred channel)
  | scheduled : Updates channel (scheduleDeferred channel)

end Device

namespace Work

open Device (Updates)

/-- Work that is made of primitives for channels of a set. -/
inductive On (touched : UInt8 → Prop) : Work → Prop where
  | idle : On touched idle
  | run {channel : UInt8} (here : touched channel) (role : Role) (script : Script) :
      On touched (Device.run channel role script)
  | replay {channel : UInt8} (here : touched channel) (payload : Payload) (timing : Timing) :
      On touched (Device.replay payload channel timing)
  | updating {channel : UInt8} {change : Device → Device} {work : Work} (here : touched channel)
      (updates : Updates channel change) (on : On touched work) :
      On touched fun device => work (change device)
  | reading {choose : Device → Work} (on : ∀ device, On touched (choose device)) :
      On touched (reading choose)
  | inOrder {parts : List Work} (on : ∀ part ∈ parts, On touched part) :
      On touched (inOrder parts)

variable {touched : UInt8 → Prop} {payload : Payload} {channel : UInt8}

theorem on_silent {change : Device → Device} (here : touched channel)
    (updates : Updates channel change) : On touched (silent change) := by
  have noted : On touched fun device => idle (change device) := .updating here updates .idle
  exact noted

theorem on_each {channels : List UInt8} {work : UInt8 → Work}
    (on : ∀ channel ∈ channels, On touched (work channel)) : On touched (each channels work) := by
  apply On.inOrder
  intro part member
  obtain ⟨channel, listed, rfl⟩ := List.mem_map.mp member
  exact on channel listed

/-! ## Scripts -/

/-- The script of the active profile is looked up before it is carried out. -/
theorem applyProfile_eq_reading (payload : Payload) (phase : Phase) (channel : UInt8) :
    Device.applyProfile payload phase channel = reading fun device =>
      ((device.selection payload).profile? channel).elim Work.idle fun profile =>
        Device.run channel (.profile phase) (profile.script phase) := by
  funext device
  rw [Device.applyProfile, reading_apply]
  cases (device.selection payload).profile? channel <;> rfl

theorem on_applyProfile (here : touched channel) (phase : Phase) :
    On touched (Device.applyProfile payload phase channel) := by
  rw [applyProfile_eq_reading]
  apply On.reading
  intro device
  cases (device.selection payload).profile? channel with
  | none => exact .idle
  | some profile => exact .run here _ _

/-- The slot configuration in use is looked up before its script is carried out. -/
theorem armSense_eq_reading (payload : Payload) (channel : UInt8) :
    Device.armSense payload channel = reading fun device =>
      (device.slotInUse? payload channel).elim Work.idle fun config =>
        Device.run channel .slot config.script := by
  funext device
  rw [Device.armSense, reading_apply]
  cases device.slotInUse? payload channel <;> rfl

theorem on_armSense (here : touched channel) : On touched (Device.armSense payload channel) := by
  rw [armSense_eq_reading]
  apply On.reading
  intro device
  cases device.slotInUse? payload channel with
  | none => exact .idle
  | some config => exact .run here _ _

theorem on_maskInterrupts (here : touched channel) :
    On touched (Device.maskInterrupts payload channel) := by
  unfold Device.maskInterrupts
  cases payload.interrupts? channel with
  | none => exact on_silent here (.unmasked false)
  | some table => exact .updating here (.unmasked false) (.run here _ _)

theorem on_clearInterrupts (here : touched channel) :
    On touched (Device.clearInterrupts payload channel) := by
  unfold Device.clearInterrupts
  cases payload.interrupts? channel with
  | none => exact .idle
  | some table => exact .run here _ _

theorem on_unmaskInterrupts (here : touched channel) :
    On touched (Device.unmaskInterrupts payload channel) := by
  unfold Device.unmaskInterrupts
  cases payload.interrupts? channel with
  | none => exact .idle
  | some table =>
      apply On.inOrder
      intro part member
      simp only [List.mem_cons, List.not_mem_nil, or_false] at member
      rcases member with rfl | rfl
      · exact .run here _ _
      · exact on_silent here (.unmasked true)

theorem on_softReset (here : touched channel) : On touched (Device.softReset payload channel) := by
  unfold Device.softReset
  cases payload.channel? channel with
  | none => exact .idle
  | some tables => exact .run here _ _

theorem on_applyFallbacks (here : touched channel) (audioInterface : Option AudioInterface) :
    On touched (Device.applyFallbacks channel audioInterface) := by
  unfold Device.applyFallbacks
  cases audioInterface with
  | none => exact .idle
  | some tables =>
      apply On.inOrder
      intro part member
      obtain ⟨⟨setting, script⟩, _, rfl⟩ := List.mem_map.mp member
      exact .run here _ _

theorem on_initialise (here : touched channel) :
    On touched (Device.initialise payload channel) := by
  unfold Device.initialise
  cases payload.channel? channel with
  | none => exact .idle
  | some tables =>
      apply On.inOrder
      intro part member
      simp only [List.mem_cons, List.not_mem_nil, or_false] at member
      rcases member with rfl | rfl | rfl | rfl
      · exact .run here _ _
      · exact on_applyFallbacks here _
      · exact on_armSense here
      · exact .replay here _ _

theorem on_rearmSense (here : touched channel) :
    On touched (Device.rearmSense payload channel) := by
  apply On.reading
  intro device
  split
  · apply On.inOrder
    intro part member
    simp only [List.mem_cons, List.not_mem_nil, or_false] at member
    rcases member with rfl | rfl
    · exact on_clearInterrupts here
    · exact on_armSense here
  · exact .idle

/-! ## Power transitions -/

theorem on_endPowerUp (here : touched channel) : On touched (Device.endPowerUp channel) := by
  have noted : On touched fun device =>
      silent (Device.scheduleDeferred channel) (device.setPower channel .active) :=
    .updating here (.powered .active) (on_silent here .scheduled)
  exact noted

theorem on_powerUp (here : touched channel) : On touched (Device.powerUp payload channel) := by
  unfold Device.powerUp
  cases payload.channel? channel with
  | none => exact .idle
  | some tables =>
      apply On.inOrder
      intro part member
      simp only [List.mem_cons, List.not_mem_nil, or_false] at member
      rcases member with rfl | rfl | rfl | rfl | rfl | rfl | rfl | rfl
      · exact on_silent here .began
      · exact on_maskInterrupts here
      · exact on_rearmSense here
      · exact on_applyProfile here _
      · exact .replay here _ _
      · exact .run here _ _
      · exact on_applyProfile here _
      · exact on_endPowerUp here

theorem on_powerDown (here : touched channel) : On touched (Device.powerDown payload channel) := by
  unfold Device.powerDown
  cases payload.channel? channel with
  | none => exact .idle
  | some tables =>
      apply On.inOrder
      intro part member
      simp only [List.mem_cons, List.not_mem_nil, or_false] at member
      rcases member with rfl | rfl | rfl | rfl | rfl | rfl
      · exact on_maskInterrupts here
      · exact on_silent here .cancelled
      · exact on_applyProfile here _
      · exact .run here _ _
      · exact on_applyProfile here _
      · exact on_silent here (.powered .shutdown)

theorem on_mute (here : touched channel) : On touched (Device.mute payload channel) := by
  unfold Device.mute
  cases payload.channel? channel with
  | none => exact .idle
  | some tables =>
      apply On.inOrder
      intro part member
      simp only [List.mem_cons, List.not_mem_nil, or_false] at member
      rcases member with rfl | rfl | rfl | rfl
      · exact on_maskInterrupts here
      · exact on_silent here .cancelled
      · exact .run here _ _
      · exact on_silent here (.powered .mute)

theorem on_transition (here : touched channel) (target : Power) :
    On touched (Device.transition payload target channel) := by
  apply On.reading
  intro device
  split
  all_goals first
    | exact .idle
    | exact on_powerUp here
    | exact on_powerDown here
    | exact on_mute here

theorem on_restore (here : touched channel) (former : Power) :
    On touched (Device.restore payload former channel) := by
  cases former with
  | shutdown => exact .idle
  | active => exact on_powerUp here
  | mute =>
      apply On.inOrder
      intro part member
      simp only [List.mem_cons, List.not_mem_nil, or_false] at member
      rcases member with rfl | rfl
      · exact on_powerUp here
      · exact on_mute here

theorem on_restartChannel (here : touched channel) :
    On touched (Device.restartChannel payload channel) := by
  apply On.reading
  intro device
  apply On.inOrder
  intro part member
  simp only [List.mem_cons, List.not_mem_nil, or_false] at member
  rcases member with rfl | rfl | rfl
  · exact on_softReset here
  · exact on_initialise here
  · exact on_restore here _

/-- All channels of a payload are reset and initialised. -/
theorem on_initialiseAll (payload : Payload)
    (here : ∀ channel ∈ payload.allChannels, touched channel) :
    On touched (Device.initialiseAll payload) := by
  apply On.inOrder
  intro part member
  obtain ⟨channel, listed, parts⟩ := List.mem_flatMap.mp member
  simp only [List.mem_cons, List.not_mem_nil, or_false] at parts
  rcases parts with rfl | rfl
  · exact on_softReset (here channel listed)
  · exact on_initialise (here channel listed)

/-! ## Recovery passes -/

theorem on_resumeInterrupts (here : touched channel) :
    On touched (Device.resumeInterrupts payload channel) := by
  apply On.reading
  intro device
  split
  · exact on_unmaskInterrupts here
  · exact .idle

theorem on_unmaskAgain (here : touched channel) :
    On touched (Device.Pass.unmaskAgain payload channel) := by
  apply On.reading
  intro device
  split
  · exact .idle
  · exact on_unmaskInterrupts here

theorem on_maskForSurvey (here : touched channel) :
    On touched (Device.maskForSurvey payload channel) := by
  unfold Device.maskForSurvey
  cases payload.interrupts? channel with
  | none => exact .idle
  | some table =>
      apply On.inOrder
      intro part member
      simp only [List.mem_cons, List.not_mem_nil, or_false] at member
      rcases member with rfl | rfl
      · exact .run here _ _
      · exact on_silent here (.unmasked false)

end Work

end AmpControl
