import AmpControl.Proofs.Device.Attempts
import AmpControl.Proofs.Device.Management
import AmpControl.Proofs.Run.Move

/-!
# The shape of a payload's state

A payload brings a state of its shape when it is put in place: a state for each channel with a
counter for each interrupt source, a value for each control, and an active profile. Control writes,
recovery passes and the workers keep this shape, and all that they call is declared by the payload.
-/

namespace AmpControl

open Bus (Attempt Makes)
open Tuning (Control Payload)

namespace Device

variable {payload : Payload} {device before middle after : Device} {channel : UInt8}

/-! ## The shape of the state -/

/-- The interrupt sources of a channel that are in use. -/
def sourceCount (payload : Payload) (channel : UInt8) : Nat :=
  ((payload.interrupts? channel).map (·.sources.length)).getD 0

/-- The state of a device has the shape of a payload. -/
structure Fitted (payload : Payload) (device : Device) : Prop where
  shaped : payload.Shaped
  counterCounts : device.counterCounts = payload.allChannels.map (sourceCount payload)
  length_values : device.values.length = payload.controls.length
  values : ∀ (id : Nat) (control : Control) (value : Int), payload.controls[id]? = some control →
    device.values[id]? = some value → value = control.initial ∨ (control.index? value).isSome = true
  profile : device.activeProfile < payload.profiles.length ∨
    payload.profiles = [] ∧ device.activeProfile = 0

/-- The state fits the payload in place, if there is one. -/
def Fitting (device : Device) : Prop :=
  ∀ payload, device.payload = some payload → Fitted payload device

theorem Fitted.of_same (fitted : Fitted payload before)
    (counterCounts : after.counterCounts = before.counterCounts)
    (values : after.values = before.values)
    (activeProfile : after.activeProfile = before.activeProfile) : Fitted payload after where
  shaped := fitted.shaped
  counterCounts := counterCounts.trans fitted.counterCounts
  length_values := values ▸ fitted.length_values
  values := values ▸ fitted.values
  profile := activeProfile ▸ fitted.profile

/-- A channel that is not shut down is declared. -/
theorem Fitted.declared (fitted : Fitted payload device)
    (powered : device.power channel ≠ .shutdown) : channel < payload.channelCount := by
  have length : device.channels.length = payload.channelCount.toNat := by
    have same := congrArg List.length fitted.counterCounts
    rwa [Device.counterCounts, List.length_map, List.length_map, Payload.allChannels,
      Channel.length_upTo] at same
  cases held : device.channel? channel with
  | none => exact absurd (by rw [power, held]; rfl) powered
  | some state =>
      obtain ⟨inside, _⟩ := List.getElem?_eq_some_iff.mp held
      exact UInt8.lt_iff_toNat_lt.mpr (length ▸ inside)

/-- Every declared channel has a state, with a counter for each source. -/
theorem Fitted.state (fitted : Fitted payload device) (declared : channel < payload.channelCount) :
    ∃ state, device.channel? channel = some state ∧
      state.counters.length = sourceCount payload channel := by
  have inside := UInt8.lt_iff_toNat_lt.mp declared
  have there : payload.allChannels[channel.toNat]? = some channel := by
    simp [Payload.allChannels, Channel.upTo, inside]
  have here := congrArg (·[channel.toNat]?) fitted.counterCounts
  simp only [Device.counterCounts, List.getElem?_map, there, Option.map_some] at here
  exact Option.map_eq_some_iff.mp here

/-- A payload that is put in place brings a state of its shape. -/
theorem fitted_adopt (shaped : payload.Shaped) (device : Device) :
    Fitted payload (device.adopt payload) where
  shaped := shaped
  counterCounts := by
    rw [Device.counterCounts, adopt, List.map_map]
    refine List.map_congr_left fun channel _ => ?_
    exact List.length_replicate
  length_values := List.length_map _
  values id control value found held := by
    have initial : (Control.initials payload.controls)[id]? = some value := held
    rw [Control.initials, List.getElem?_map, found] at initial
    exact .inl (Option.some.inj initial).symm
  profile := by
    change (if device.activeProfile < payload.profiles.length then device.activeProfile else 0) <
      _ ∨ _ ∧ (if device.activeProfile < payload.profiles.length then device.activeProfile else 0) = 0
    by_cases inside : device.activeProfile < payload.profiles.length
    · rw [if_pos inside]
      exact .inl inside
    · rw [if_neg inside]
      cases profiles : payload.profiles with
      | nil => exact .inr ⟨rfl, rfl⟩
      | cons first others => exact .inl (Nat.succ_pos _)

theorem fitting_adopt (shaped : payload.Shaped) (device : Device) :
    (device.adopt payload).Fitting := by
  intro held inPlace
  obtain rfl : payload = held := Option.some.inj inPlace
  exact fitted_adopt shaped device

/-- An accepted write stores a value that its control accepts. -/
theorem Fitted.set {id : Nat} {value : Int} {playing : UInt8} {write : Control.Write}
    (fitted : Fitted payload device)
    (accepted : Control.accept payload.controls id value playing = .ok write) :
    Fitted payload { device with values := device.values.set id value } where
  shaped := fitted.shaped
  counterCounts := fitted.counterCounts
  length_values := List.length_set.trans fitted.length_values
  profile := fitted.profile
  values other control held found stored := by
    obtain ⟨_, named, index, _⟩ := Control.accept_eq_ok accepted
    have stored : (device.values.set id value)[other]? = some held := stored
    rw [List.getElem?_set] at stored
    by_cases here : id = other
    · subst here
      rw [if_pos rfl] at stored
      split at stored
      · obtain rfl := Option.some.inj stored
        obtain rfl := Option.some.inj (named.symm.trans found)
        exact .inr (by rw [index]; rfl)
      · cases stored
    · rw [if_neg here] at stored
      exact fitted.values other control held found stored

/-! ## What is done with the payload in place -/

/-- What is done with the payload in place, if there is one. -/
structure Operates (before after : Device) : Prop where
  inPlace : after.payload = before.payload
  calls : Makes (fun attempt => ∃ payload, before.payload = some payload ∧ attempt.Within payload)
    before.bus after.bus
  fitting : before.Fitting → after.Fitting

namespace Operates

theorem refl (device : Device) : Operates device device := ⟨rfl, .refl _, id⟩

theorem trans (first : Operates before middle) (second : Operates middle after) :
    Operates before after where
  inPlace := second.inPlace.trans first.inPlace
  calls := first.calls.trans (first.inPlace ▸ second.calls)
  fitting fits := second.fitting (first.fitting fits)

theorem of_manages (inPlace : before.payload = some payload)
    (manages : Manages payload before after) : Operates before after where
  inPlace := manages.inPlace
  calls := manages.calls.mono fun _ within => ⟨payload, inPlace, within⟩
  fitting fits held there := by
    have fitted := fits held (manages.inPlace ▸ there)
    exact fitted.of_same manages.counterCounts manages.values manages.activeProfile

/-- Something that is beside all that matters here. -/
theorem of_same (bus : after.bus = before.bus) (inPlace : after.payload = before.payload)
    (values : after.values = before.values)
    (activeProfile : after.activeProfile = before.activeProfile)
    (counterCounts : after.counterCounts = before.counterCounts) : Operates before after :=
  ⟨inPlace, bus ▸ .refl _, fun fits held there =>
    (fits held (inPlace ▸ there)).of_same counterCounts values activeProfile⟩

end Operates

theorem operates_wait (microseconds : Nat) (device : Device) :
    Operates device (device.wait microseconds) :=
  ⟨rfl, Bus.makes_wait _ _ _, fun fits held there => (fits held there).of_same rfl rfl rfl⟩

/-! ## Control writes -/

/-- The value of an accepted write is stored, and sent to a channel that the payload declares. -/
theorem operates_written {id : Nat} {value : Int} {playing : UInt8} {write : Control.Write}
    (fits : device.Fitting) (inPlace : device.payload = some payload)
    (accepted : Control.accept payload.controls id value playing = .ok write) :
    Operates device { device with values := device.values.set id value } ∧
      ∀ held : Device, held.payload = some payload →
        Operates held { held with bus := (write.carryOut held.bus).1 } := by
  constructor
  · refine ⟨rfl, .refl _, fun _ other there => ?_⟩
    obtain rfl := Option.some.inj (inPlace.symm.trans there)
    exact (fits payload inPlace).set accepted
  · intro held there
    obtain ⟨_, found, _, _⟩ := Control.accept_eq_ok accepted
    have shaped := (fits payload inPlace).shaped
    have declared := shaped.control_declared (List.mem_of_getElem? found)
    exact .of_manages there (.of_serves declared (Bus.makes_write write held.bus))

theorem operates_writtenLate (fits : device.Fitting) (inPlace : device.payload = some payload)
    (entry : String × Int) : Operates device (device.writtenLate payload entry) := by
  unfold writtenLate
  cases accepted : Control.acceptNamed payload.controls entry.1 entry.2 0 with
  | error error => exact .refl device
  | ok write =>
      obtain ⟨id, accepted⟩ := Control.acceptNamed_eq_ok accepted
      obtain ⟨stored, sent⟩ := operates_written fits inPlace accepted
      obtain ⟨rfl, _⟩ := Control.accept_eq_ok accepted
      simp only [written]
      cases write.outcome with
      | deferred => exact stored
      | applied =>
          have recorded : Operates { device with values := device.values.set write.id entry.2 }
              (({ device with values := device.values.set write.id entry.2 } : Device).record
                (.dispatched write.id write.index)) := .of_same rfl rfl rfl rfl rfl
          exact (stored.trans recorded).trans (sent _ inPlace)

theorem operates_makeCachedWrites (fits : device.Fitting)
    (inPlace : device.payload = some payload) :
    Operates device (device.makeCachedWrites payload) := by
  rw [makeCachedWrites_eq]
  refine List.foldlRecOn (motive := Operates device) device.cachedWrites _
    (.of_same rfl rfl rfl rfl rfl) fun held sofar entry _ => sofar.trans ?_
  exact operates_writtenLate (sofar.fitting fits) (sofar.inPlace.trans inPlace) entry

/-! ## Loading -/

/-- Images may be asked for, and time may pass. -/
structure Asks (before after : Device) : Prop where
  attempts : after.bus.transport.attempts = before.bus.transport.attempts
  inPlace : after.payload = before.payload
  channels : after.channels = before.channels
  values : after.values = before.values
  activeProfile : after.activeProfile = before.activeProfile

/-- Nothing is called, and a payload may take the place of the one before. -/
inductive Readies (before : Device) : Device → Prop where
  | unchanged {after : Device} (asks : Asks before after) : Readies before after
  | adopted {asked : Device} {payload : Payload} (asks : Asks before asked)
      (shaped : payload.Shaped) : Readies before (asked.adopt payload)

/-- What an operation comes to, unless it is a change of the transport from outside. -/
def Undergoes (before after : Device) : Prop :=
  ∃ middle, Readies before middle ∧ Operates middle after

theorem Asks.refl (device : Device) : Asks device device := ⟨rfl, rfl, rfl, rfl, rfl⟩

theorem Asks.trans (first : Asks before middle) (second : Asks middle after) :
    Asks before after where
  attempts := second.attempts.trans first.attempts
  inPlace := second.inPlace.trans first.inPlace
  channels := second.channels.trans first.channels
  values := second.values.trans first.values
  activeProfile := second.activeProfile.trans first.activeProfile

theorem Readies.attempts (readies : Readies before after) :
    after.bus.transport.attempts = before.bus.transport.attempts := by
  cases readies with
  | unchanged asks => exact asks.attempts
  | adopted asks shaped => exact asks.attempts

theorem Readies.fitting (readies : Readies before after) (fits : before.Fitting) :
    after.Fitting := by
  cases readies with
  | unchanged asks =>
      intro payload inPlace
      have fitted := fits payload (asks.inPlace ▸ inPlace)
      refine fitted.of_same ?_ asks.values asks.activeProfile
      rw [Device.counterCounts, Device.counterCounts, asks.channels]
  | adopted asks shaped => exact fitting_adopt shaped _

theorem Undergoes.of_operates (operates : Operates before after) : Undergoes before after :=
  ⟨before, .unchanged (.refl before), operates⟩

theorem Undergoes.after_asking (asks : Asks before middle)
    (undergoes : Undergoes middle after) : Undergoes before after := by
  obtain ⟨ready, readies, operates⟩ := undergoes
  refine ⟨ready, ?_, operates⟩
  cases readies with
  | unchanged later => exact .unchanged (asks.trans later)
  | adopted later shaped => exact .adopted (asks.trans later) shaped

theorem Undergoes.tail (undergoes : Undergoes before middle) (operates : Operates middle after) :
    Undergoes before after := by
  obtain ⟨ready, readies, proceeded⟩ := undergoes
  exact ⟨ready, readies, proceeded.trans operates⟩

theorem Undergoes.fitting (undergoes : Undergoes before after) (fits : before.Fitting) :
    after.Fitting := by
  obtain ⟨ready, readies, operates⟩ := undergoes
  exact operates.fitting (readies.fitting fits)

/-- A payload is put in place before any channel is initialised. -/
theorem undergoes_install (shaped : payload.Shaped) (device : Device) :
    Undergoes device (device.install payload) := by
  refine ⟨device.adopt payload, .adopted (.refl device) shaped, ?_⟩
  have prepared : Operates (device.adopt payload)
      (initialiseAll payload (device.adopt payload)).1 :=
    .of_manages rfl ((Work.on_initialiseAll payload fun channel listed =>
      Payload.mem_allChannels.mp listed).manages _)
  have inPlace := prepared.inPlace
  have fits := prepared.fitting (fitting_adopt shaped device)
  rw [install_eq]
  generalize (initialiseAll payload (device.adopt payload)).1 = initialised
    at prepared inPlace fits ⊢
  have caughtUp := operates_makeCachedWrites fits inPlace
  have readied : Operates (initialised.makeCachedWrites payload)
      (readied (initialised.makeCachedWrites payload)) := .of_same rfl rfl rfl rfl rfl
  exact (prepared.trans caughtUp).trans readied

theorem undergoes_attempt (tries : Nat) (last : Tuning.ImageError) (device : Device) :
    Undergoes device (attempt tries last device).1 := by
  induction tries generalizing last device with
  | zero => exact .of_operates (.of_same rfl rfl rfl rfl rfl)
  | succ tries ih =>
      unfold attempt
      have fetched : Asks device device.fetch.1 := ⟨rfl, rfl, rfl, rfl, rfl⟩
      cases outcome : device.fetch with
      | mk asked answer =>
          rw [outcome] at fetched
          cases answer with
          | ok payload =>
              have shaped : payload.Shaped := shaped_fetch (congrArg Prod.snd outcome)
              exact .after_asking fetched (undergoes_install shaped asked)
          | error error =>
              simp only
              by_cases again : error.isRetryable = true
              · rw [if_pos again]
                refine .after_asking fetched (.after_asking ?_ (ih error _))
                split
                · exact .refl asked
                · exact ⟨rfl, rfl, rfl, rfl, rfl⟩
              · rw [if_neg again]
                exact .after_asking fetched (.of_operates (.of_same rfl rfl rfl rfl rfl))

theorem undergoes_load (tries : UInt32) (device : Device) :
    Undergoes device (device.load tries).1 := by
  have begun : Asks device { device with loadState := .loading } := ⟨rfl, rfl, rfl, rfl, rfl⟩
  exact .after_asking begun (undergoes_attempt _ _ _)

/-! ## Workers -/

/-- Deferred work is done only for a channel that plays, which the payload declares. -/
theorem operates_deferredTurn (fits : device.Fitting) :
    Operates device device.deferredTurn.1 := by
  cases due : device.deferred.takeDue device.clock with
  | none =>
      rw [deferredTurn, due]
      exact .refl device
  | some entry =>
      obtain ⟨⟨channel, generation⟩, left⟩ := entry
      have taken : Operates device (device.cancelDeferred channel) := .of_same rfl rfl rfl rfl rfl
      rw [deferredTurn_of_due due]
      split
      · exact taken.trans (.of_same rfl rfl rfl rfl rfl)
      · rename_i payload ready
        have inPlace := (ready?_eq_some ready).2
        have fitted := taken.fitting fits payload inPlace
        split
        · rename_i playing
          have declared := fitted.declared (by rw [playing]; simp)
          exact taken.trans (.of_manages inPlace (manages_finishPowerUp declared _))
        · exact taken

theorem operates_deferredTurns (bound ran : Nat) (fits : device.Fitting) :
    Operates device (deferredTurns bound ran device).1 := by
  induction bound generalizing ran device with
  | zero => exact .refl device
  | succ bound ih =>
      have first := operates_deferredTurn fits
      unfold deferredTurns
      cases turn : device.deferredTurn with
      | mk after outcome =>
          rw [turn] at first
          cases outcome with
          | idle => exact first
          | dropped => exact first
          | skipped => exact first.trans (ih ran (first.fitting fits))
          | ran => exact first.trans (ih (ran + 1) (first.fitting fits))

theorem operates_runDeferred (fits : device.Fitting) : Operates device device.runDeferred.1 :=
  operates_deferredTurns _ _ fits

theorem operates_deferredUntil (bound ending : Nat) (fits : device.Fitting) :
    Operates device (deferredUntil bound ending device) := by
  induction bound generalizing device with
  | zero => exact .refl device
  | succ bound ih =>
      unfold deferredUntil
      cases device.deferred.nextDue? with
      | none => exact .refl device
      | some due =>
          simp only
          by_cases early : due ≤ ending
          · rw [if_pos early]
            have waited := operates_wait (due - device.clock) device
            have worked := waited.trans (operates_runDeferred (waited.fitting fits))
            exact worked.trans (ih (worked.fitting fits))
          · rw [if_neg early]
            exact .refl device

/-- Deferred work up to a time. -/
theorem operates_until (bound ending : Nat) (fits : device.Fitting) :
    Operates device ((deferredUntil bound ending device).waitUntil ending) :=
  (operates_deferredUntil bound ending fits).trans (operates_wait _ _)

theorem operates_handleInterrupt (device : Device) : Operates device device.handleInterrupt.1 := by
  obtain same | ⟨payload, ready, surveyed⟩ := device.handleInterrupt_cases
  · rw [same]
    exact .refl device
  · rw [surveyed]
    exact .of_manages (ready?_eq_some ready).2 (manages_survey device)

theorem operates_runFor (microseconds : Nat) (fits : device.Fitting) :
    Operates device (device.runFor microseconds) := by
  have begun : Operates device { device with notified := false } := .of_same rfl rfl rfl rfl rfl
  have begunFits := begun.fitting fits
  simp only [runFor]
  split
  · have paused := begun.trans (operates_until deferredPauses
      (device.clock + Bus.milliseconds device.config.debounceDelay.toNat) begunFits)
    have recovered := paused.trans (operates_handleInterrupt _)
    exact recovered.trans (operates_until _ _ (recovered.fitting fits))
  · exact begun.trans (operates_until _ _ begunFits)

end Device

end AmpControl
