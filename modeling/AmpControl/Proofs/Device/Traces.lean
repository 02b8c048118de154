import AmpControl.Proofs.Control.Accesses
import AmpControl.Proofs.Device.Quiescence

/-!
# Traces of power transitions

A power transition is put together from interrupt tables, slot configurations, profiles, stored
control values and core scripts, each of which a channel may lack. As long as no call is refused it
accesses the registers of its channel exactly as these say, one after the other, and what is absent
adds nothing. What is accessed depends on the settings of the device only, which work on channels
does not change.
-/

namespace AmpControl

open Bus (Call)
open Tuning (Control Payload Phase Profile Script SlotKey Timing)

/-- What decides, beside its payload, on the scripts and values that a device makes use of. -/
structure Settings where
  values : List Int
  activeProfile : Nat
  slot : Option SlotKey

namespace Device

def settings (device : Device) : Settings := ⟨device.values, device.activeProfile, device.slot⟩

/-! ## What is to be accessed -/

/-- The accesses that clearing the interrupts of a channel makes. -/
def clearAccesses (payload : Payload) (channel : UInt8) : List Call :=
  (payload.interrupts? channel).elim [] fun table => table.clear.accesses channel

/-- The accesses of the slot configuration in use. -/
def slotAccesses (payload : Payload) (device : Device) (channel : UInt8) : List Call :=
  (device.slotInUse? payload channel).elim [] fun config => config.script.accesses channel

/-- Interrupts are cleared and sense data is armed again if the copy of channel 0 says so. -/
def rearmAccesses (payload : Payload) (device : Device) (channel : UInt8) : List Call :=
  if (device.selection payload).capabilities &&& Profile.rearmBit ≠ 0 then
    clearAccesses payload channel ++ slotAccesses payload device channel
  else []

/-- The accesses of the channel's own copy of the active profile. -/
def profileAccesses (payload : Payload) (device : Device) (phase : Phase) (channel : UInt8) :
    List Call :=
  ((device.selection payload).profile? channel).elim [] fun profile =>
    (profile.script phase).accesses channel

/-- The accesses of the stored control values of a channel and a timing. -/
def controlAccesses (payload : Payload) (device : Device) (timing : Timing) (channel : UInt8) :
    List Call :=
  Control.replayAccesses payload.controls device.values channel timing

/-- The accesses of one of the core scripts of a channel. -/
def coreAccesses (payload : Payload) (core : Tuning.PowerScripts → Script) (channel : UInt8) :
    List Call :=
  (payload.channel? channel).elim [] fun tables => (core tables.power).accesses channel

def powerUpAccesses (payload : Payload) (device : Device) (channel : UInt8) : List Call :=
  maskAccesses payload channel ++ rearmAccesses payload device channel ++
    profileAccesses payload device .beforePowerUp channel ++
    controlAccesses payload device .beforePowerUp channel ++
    coreAccesses payload (·.powerUp) channel ++
    profileAccesses payload device .afterPowerUp channel

def powerDownAccesses (payload : Payload) (device : Device) (channel : UInt8) : List Call :=
  maskAccesses payload channel ++ profileAccesses payload device .beforePowerDown channel ++
    coreAccesses payload (·.powerDown) channel ++
    profileAccesses payload device .afterPowerDown channel

def muteAccesses (payload : Payload) (channel : UInt8) : List Call :=
  maskAccesses payload channel ++ coreAccesses payload (·.mute) channel

/-- The accesses that bring a channel from where it is to a power state. -/
def transitionAccesses (payload : Payload) (device : Device) (target : Power) (channel : UInt8) :
    List Call :=
  match device.power channel, target with
  | .shutdown, .active | .mute, .active => powerUpAccesses payload device channel
  | .active, .shutdown | .mute, .shutdown => powerDownAccesses payload device channel
  | .active, .mute => muteAccesses payload channel
  | .active, .active | .shutdown, .shutdown | .mute, .mute | .shutdown, .mute => []

/-- The accesses of the deferred work of a channel that was powered up. -/
def finishAccesses (payload : Payload) (device : Device) (channel : UInt8) : List Call :=
  pollAccesses payload channel true ++ clearAccesses payload channel ++
    unmaskAccesses payload channel true ++ controlAccesses payload device .afterPowerUp channel

variable {payload : Payload} {device before after : Device} {channel : UInt8}

theorem selection_of_settings (same : before.settings = after.settings) :
    before.selection payload = after.selection payload :=
  congrArg (Selection.mk payload) (congrArg Settings.activeProfile same)

theorem slotAccesses_of_settings (same : before.settings = after.settings) :
    slotAccesses payload before channel = slotAccesses payload after channel := by
  have slot : before.slot = after.slot := congrArg Settings.slot same
  rw [slotAccesses, slotAccesses, slotInUse?, slotInUse?, slot]

theorem rearmAccesses_of_settings (same : before.settings = after.settings) :
    rearmAccesses payload before channel = rearmAccesses payload after channel := by
  rw [rearmAccesses, rearmAccesses, selection_of_settings same, slotAccesses_of_settings same]

theorem profileAccesses_of_settings (same : before.settings = after.settings) (phase : Phase) :
    profileAccesses payload before phase channel = profileAccesses payload after phase channel := by
  rw [profileAccesses, profileAccesses, selection_of_settings same]

theorem controlAccesses_of_settings (same : before.settings = after.settings) (timing : Timing) :
    controlAccesses payload before timing channel =
      controlAccesses payload after timing channel := by
  have values : before.values = after.values := congrArg Settings.values same
  rw [controlAccesses, controlAccesses, values]

/-- What a transition accesses is told by the power of its channel and by the settings. -/
theorem transitionAccesses_of_settings (power : before.power channel = after.power channel)
    (same : before.settings = after.settings) (target : Power) :
    transitionAccesses payload before target channel =
      transitionAccesses payload after target channel := by
  simp only [transitionAccesses, power, powerUpAccesses, powerDownAccesses,
    rearmAccesses_of_settings same, profileAccesses_of_settings same,
    controlAccesses_of_settings same]

theorem settings_latchFault (fault : Option TransportFault) (device : Device) :
    (device.latchFault fault).settings = device.settings := by
  rw [latchFault_eq]
  rfl

end Device

namespace Work

open Device (Updates)

variable {channel : UInt8} {work first : Work} {others : List Work} {touched : UInt8 → Prop}
  {made head rest : Device → List Call}

/-- Work on channels changes no settings. -/
theorem On.settings (on : On touched work) (device : Device) :
    (work device).1.settings = device.settings := by
  induction on generalizing device with
  | idle => rfl
  | run here role script => rfl
  | replay here payload timing =>
      rw [Device.replay_eq]
      rfl
  | @updating channel change work here updates on ih =>
      have same : (change device).settings = device.settings := by cases updates <;> rfl
      exact (ih (change device)).trans same
  | reading on ih => exact ih device device
  | inOrder on ih =>
      apply keeps_inOrder fun held => held.settings = device.settings
      · intro part member held same
        rw [leaves, Device.settings_latchFault, ih part member held, same]
      · rfl

/--
Work accesses the registers of a channel as told by the settings that it starts from and keeps, as
long as no call is refused.
-/
structure Traces (channel : UInt8) (work : Work) (made : Device → List Call) : Prop where
  settings : ∀ device, (work device).1.settings = device.settings
  refusals : ∀ device, device.bus.refusals ≤ (work device).1.bus.refusals
  decided : ∀ first second : Device, first.settings = second.settings → made first = made second
  accesses : ∀ device, (work device).1.bus.refusals = device.bus.refusals →
    (work device).1.bus.accesses channel = device.bus.accesses channel ++ made device

theorem traces_of_on (on : ∀ {touched : UInt8 → Prop}, touched channel → On touched work)
    (decided : ∀ first second : Device, first.settings = second.settings →
      made first = made second)
    (accesses : ∀ device, (work device).1.bus.refusals = device.bus.refusals →
      (work device).1.bus.accesses channel = device.bus.accesses channel ++ made device) :
    Traces channel work made :=
  have anywhere : On (fun _ => True) work := on trivial
  ⟨anywhere.settings, fun device => (anywhere.confined device).calls.refusals, decided, accesses⟩

theorem traces_silent {change : Device → Device} (updates : Updates channel change) :
    Traces channel (silent change) fun _ => [] := by
  refine traces_of_on (fun here => on_silent here updates) (fun _ _ _ => rfl) fun device _ => ?_
  rw [List.append_nil]
  cases updates <;> rfl

theorem traces_idle (channel : UInt8) : Traces channel idle fun _ => [] :=
  traces_of_on (fun _ => .idle) (fun _ _ _ => rfl) fun _ _ => (List.append_nil _).symm

theorem traces_run (channel : UInt8) (role : Role) (script : Script) :
    Traces channel (Device.run channel role script) fun _ => script.accesses channel :=
  traces_of_on (fun here => .run here role script) (fun _ _ _ => rfl)
    fun _ clean => Bus.accesses_execute clean

theorem traces_nil (channel : UInt8) : Traces channel (inOrder []) fun _ => [] :=
  traces_idle channel

/-- Parts in order make their accesses one after the other. -/
theorem traces_cons (early : Traces channel first head)
    (late : Traces channel (inOrder others) rest) :
    Traces channel (inOrder (first :: others)) fun device => head device ++ rest device := by
  have settings (device : Device) : (first.leaves device).settings = device.settings := by
    rw [leaves, Device.settings_latchFault, early.settings]
  have refusals (device : Device) :
      (first.leaves device).bus.refusals = (first device).1.bus.refusals :=
    Device.refusals_leaves first device
  constructor
  · intro device
    rw [fst_inOrder_cons, late.settings, settings]
  · intro device
    rw [fst_inOrder_cons]
    refine le_trans (early.refusals device) ?_
    rw [← refusals]
    exact late.refusals _
  · intro one other same
    rw [early.decided one other same, late.decided one other same]
  · intro device clean
    rw [fst_inOrder_cons] at clean ⊢
    have begun := early.refusals device
    have ended := late.refusals (first.leaves device)
    rw [refusals] at ended
    have cleanFirst : (first device).1.bus.refusals = device.bus.refusals := by omega
    have cleanRest : (inOrder others (first.leaves device)).1.bus.refusals =
        (first.leaves device).bus.refusals := by
      rw [refusals]
      omega
    have made : (first.leaves device).bus.accesses channel =
        device.bus.accesses channel ++ head device := by
      rw [leaves, Device.bus_latchFault, early.accesses device cleanFirst]
    rw [late.accesses _ cleanRest, made, List.append_assoc,
      late.decided _ device (settings device)]

/-- Two ways to write down the same accesses. -/
theorem Traces.congr (traces : Traces channel work head) (same : ∀ device, head device =
    rest device) : Traces channel work rest := (funext same : head = rest) ▸ traces

end Work

namespace Device

open Work (Traces traces_cons traces_idle traces_nil traces_of_on traces_run traces_silent)

variable {payload : Payload} {device : Device} {channel : UInt8}

/-! ## Parts of transitions -/

theorem traces_replay (payload : Payload) (channel : UInt8) (timing : Timing) :
    Traces channel (replay payload channel timing) fun device =>
      controlAccesses payload device timing channel := by
  refine traces_of_on (fun here => .replay here payload timing)
    (fun _ _ same => controlAccesses_of_settings same timing) fun device clean => ?_
  rw [replay_eq] at clean ⊢
  exact Bus.accesses_replay clean

theorem traces_maskInterrupts (payload : Payload) (channel : UInt8) :
    Traces channel (maskInterrupts payload channel) fun _ => maskAccesses payload channel := by
  refine traces_of_on Work.on_maskInterrupts (fun _ _ _ => rfl) fun device clean => ?_
  unfold maskInterrupts maskAccesses at *
  cases tabled : payload.interrupts? channel with
  | none => exact (List.append_nil _).symm
  | some table =>
      rw [tabled] at clean
      exact Bus.accesses_execute clean

theorem traces_clearInterrupts (payload : Payload) (channel : UInt8) :
    Traces channel (clearInterrupts payload channel) fun _ => clearAccesses payload channel := by
  unfold clearInterrupts clearAccesses
  cases payload.interrupts? channel with
  | none => exact traces_idle channel
  | some table => exact traces_run channel _ _

theorem traces_unmaskInterrupts (payload : Payload) (channel : UInt8) :
    Traces channel (unmaskInterrupts payload channel) fun _ =>
      unmaskAccesses payload channel true := by
  unfold unmaskInterrupts unmaskAccesses
  cases payload.interrupts? channel with
  | none => exact traces_idle channel
  | some table =>
      refine (traces_cons (traces_run channel _ _)
        (traces_cons (traces_silent (.unmasked true)) (traces_nil channel))).congr fun device => ?_
      exact List.append_nil _

theorem traces_armSense (payload : Payload) (channel : UInt8) :
    Traces channel (armSense payload channel) fun device =>
      slotAccesses payload device channel := by
  refine traces_of_on Work.on_armSense (fun _ _ => slotAccesses_of_settings) fun device clean => ?_
  unfold armSense slotAccesses at *
  cases chosen : device.slotInUse? payload channel with
  | none => exact (List.append_nil _).symm
  | some config =>
      simp only [chosen] at clean
      exact Bus.accesses_execute clean

theorem traces_rearmSense (payload : Payload) (channel : UInt8) :
    Traces channel (rearmSense payload channel) fun device =>
      rearmAccesses payload device channel := by
  have armed := traces_cons (traces_clearInterrupts payload channel)
    (traces_cons (traces_armSense payload channel) (traces_nil channel))
  refine traces_of_on Work.on_rearmSense (fun _ _ => rearmAccesses_of_settings)
    fun device clean => ?_
  rw [rearmSense, Work.reading_apply] at clean ⊢
  unfold rearmAccesses
  split at clean
  · rename_i asked
    rw [if_pos asked, if_pos asked, armed.accesses device clean, List.append_nil]
  · rename_i unasked
    rw [if_neg unasked, if_neg unasked]
    exact (List.append_nil _).symm

theorem traces_applyProfile (payload : Payload) (phase : Phase) (channel : UInt8) :
    Traces channel (applyProfile payload phase channel) fun device =>
      profileAccesses payload device phase channel := by
  refine traces_of_on (fun here => Work.on_applyProfile here phase)
    (fun _ _ same => profileAccesses_of_settings same phase) fun device clean => ?_
  unfold applyProfile profileAccesses at *
  cases chosen : (device.selection payload).profile? channel with
  | none => exact (List.append_nil _).symm
  | some profile =>
      simp only [chosen] at clean
      exact Bus.accesses_execute clean

/-! ## Transitions -/

theorem traces_powerUp (payload : Payload) (channel : UInt8)
    (declared : (payload.channel? channel).isSome = true) :
    Traces channel (powerUp payload channel) fun device =>
      powerUpAccesses payload device channel := by
  obtain ⟨tables, found⟩ := Option.isSome_iff_exists.mp declared
  have ending : Traces channel (endPowerUp channel) fun _ => [] :=
    traces_of_on Work.on_endPowerUp (fun _ _ _ => rfl) fun _ _ => (List.append_nil _).symm
  have core : coreAccesses payload (·.powerUp) channel =
      tables.power.powerUp.accesses channel := by
    rw [coreAccesses, found]
    rfl
  unfold powerUp
  rw [found]
  refine (traces_cons (traces_silent .began) <|
    traces_cons (traces_maskInterrupts payload channel) <|
    traces_cons (traces_rearmSense payload channel) <|
    traces_cons (traces_applyProfile payload .beforePowerUp channel) <|
    traces_cons (traces_replay payload channel .beforePowerUp) <|
    traces_cons (traces_run channel .powerUp tables.power.powerUp) <|
    traces_cons (traces_applyProfile payload .afterPowerUp channel) <|
    traces_cons ending (traces_nil channel)).congr fun device => ?_
  simp only [powerUpAccesses, core, List.nil_append, List.append_nil, List.append_assoc]

theorem traces_powerDown (payload : Payload) (channel : UInt8)
    (declared : (payload.channel? channel).isSome = true) :
    Traces channel (powerDown payload channel) fun device =>
      powerDownAccesses payload device channel := by
  obtain ⟨tables, found⟩ := Option.isSome_iff_exists.mp declared
  have core : coreAccesses payload (·.powerDown) channel =
      tables.power.powerDown.accesses channel := by
    rw [coreAccesses, found]
    rfl
  unfold powerDown
  rw [found]
  refine (traces_cons (traces_maskInterrupts payload channel) <|
    traces_cons (traces_silent .cancelled) <|
    traces_cons (traces_applyProfile payload .beforePowerDown channel) <|
    traces_cons (traces_run channel .powerDown tables.power.powerDown) <|
    traces_cons (traces_applyProfile payload .afterPowerDown channel) <|
    traces_cons (traces_silent (.powered .shutdown)) (traces_nil channel)).congr fun device => ?_
  simp only [powerDownAccesses, core, List.nil_append, List.append_nil, List.append_assoc]

theorem traces_mute (payload : Payload) (channel : UInt8)
    (declared : (payload.channel? channel).isSome = true) :
    Traces channel (mute payload channel) fun _ => muteAccesses payload channel := by
  obtain ⟨tables, found⟩ := Option.isSome_iff_exists.mp declared
  have core : coreAccesses payload (·.mute) channel = tables.power.mute.accesses channel := by
    rw [coreAccesses, found]
    rfl
  unfold mute
  rw [found]
  refine (traces_cons (traces_maskInterrupts payload channel) <|
    traces_cons (traces_silent .cancelled) <|
    traces_cons (traces_run channel .mute tables.power.mute) <|
    traces_cons (traces_silent (.powered .mute)) (traces_nil channel)).congr fun device => ?_
  simp only [muteAccesses, core, List.nil_append, List.append_nil]

/-- A transition makes its accesses, none where the channel stays as it is. -/
theorem accesses_transition (target : Power) (declared : (payload.channel? channel).isSome = true)
    (clean : (transition payload target channel device).1.bus.refusals = device.bus.refusals) :
    (transition payload target channel device).1.bus.accesses channel =
      device.bus.accesses channel ++ transitionAccesses payload device target channel := by
  rw [transition, Work.reading_apply] at clean ⊢
  unfold transitionAccesses
  cases current : device.power channel <;> cases target <;> simp only [current] at clean ⊢
  all_goals first
    | exact (traces_idle channel).accesses device clean
    | exact (traces_powerUp payload channel declared).accesses device clean
    | exact (traces_powerDown payload channel declared).accesses device clean
    | exact (traces_mute payload channel declared).accesses device clean

/-- A power-up ends with scheduling the deferred work of the channel. -/
theorem item_powerUp (declared : (payload.channel? channel).isSome = true)
    (small : channel.toNat < Tuning.maxChannels) (device : Device) :
    ∃ generation, (powerUp payload channel device).1.deferred.item? channel =
      some ⟨min ((powerUp payload channel device).1.clock +
        Bus.milliseconds device.config.postPowerUpDelay.toNat) lastInstant, generation⟩ := by
  obtain ⟨tables, found⟩ := Option.isSome_iff_exists.mp declared
  obtain ⟨ready, ends⟩ : ∃ ready : Device, (powerUp payload channel device).1 =
      (ready.setPower channel .active).scheduleDeferred channel := by
    rw [fst_powerUp found]
    simp only [Work.fst_inOrder_cons, Work.fst_inOrder_nil]
    exact ⟨_, rfl⟩
  have config : ready.config = device.config := by
    have kept : (powerUp payload channel device).1.config = device.config :=
      (plain_powerUp device).config
    rwa [ends] at kept
  refine ⟨ready.deferred.nextGeneration, ?_⟩
  rw [ends, ← config]
  exact (DeferredQueue.item?_schedule _ small _ channel).trans (if_pos rfl)

/-- Work that takes a channel out of waiting leaves no deferred work for it. -/
theorem Sets.item {standing : Standing} {work : Work}
    (sets : Sets payload channel (fun _ => standing) work) (fits : device.Fits payload)
    (free : standing.waiting = false) : (work device).1.deferred.item? channel = none := by
  have moved := congrFun (sets device fits).2 channel
  rw [Function.update_self] at moved
  have idle : (work device).1.waiting channel = false :=
    (congrArg Standing.waiting moved).trans free
  rwa [waiting, DeferredQueue.isPending, Option.isSome_eq_false_iff, Option.isNone_iff_eq_none]
    at idle

end Device

end AmpControl
