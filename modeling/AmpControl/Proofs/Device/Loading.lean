import AmpControl.Device.Request
import AmpControl.Proofs.Device.Restart

/-!
# Stored values and installations

A write that is accepted is sent whenever the stored value is to be on the hardware, so storing it
leaves everything in force. An installation starts with all channels shut down, initialises each of
them, and makes the writes that waited for a payload.
-/

namespace AmpControl.Device

open Tuning (Control Payload Timing)

variable {payload : Payload} {device : Device} {channel : UInt8}

/-! ## Writes -/

/-- Stores the value of an accepted write, and sends it if it is to be sent now. -/
def written (write : Control.Write) (value : Int) (device : Device) : Device :=
  let stored := { device with values := device.values.set write.id value }
  match write.outcome with
  | .applied => (onBus write.carryOut (stored.record (.dispatched write.id write.index))).1
  | .deferred => stored

/-- What a write changes is stored values and the history; it lets the channels stand. -/
theorem written_aside (write : Control.Write) (value : Int) (device : Device) :
    (device.written write value).payload = device.payload ∧
      (device.written write value).loadState = device.loadState ∧
      (device.written write value).channels = device.channels ∧
      (device.written write value).errors = device.errors ∧
      (device.written write value).lockedOut = device.lockedOut ∧
      (device.written write value).standing = device.standing ∧
      (device.written write value).values = device.values.set write.id value := by
  unfold written
  cases write.outcome <;> exact ⟨rfl, rfl, rfl, rfl, rfl, rfl, rfl⟩

theorem history_written (write : Control.Write) (value : Int) (device : Device) :
    (device.written write value).history =
      if write.outcome = .applied then .dispatched write.id write.index :: device.history
      else device.history := by
  unfold written
  cases write.outcome <;> rfl

theorem advances_written (write : Control.Write) (value : Int) (device : Device) :
    Advances device (device.written write value) := by
  obtain ⟨_, _, _, _, lockedOut, _, _⟩ := written_aside write value device
  refine ⟨fun channel held => by rwa [locked, lockedOut], ?_⟩
  by_cases applied : write.outcome = .applied
  · exact .one ((history_written write value device).trans (if_pos applied)) ⟨trivial, trivial⟩
  · exact .same ((history_written write value device).trans (if_neg applied))

/-- A control is sent with the value that is stored for it, unless the value is not due yet. -/
theorem delivered_written {id : Nat} {value : Int} {playing : UInt8} {write : Control.Write}
    {timing : Timing} (accepted : Control.accept payload.controls id value playing = .ok write)
    (due : timing = .anytime ∨ Channel.within playing channel = true)
    (delivered : device.Delivered payload channel timing) :
    (device.written write value).Delivered payload channel timing := by
  obtain ⟨rfl, found, index, applied⟩ := Control.accept_eq_ok accepted
  obtain ⟨_, _, _, _, _, _, values⟩ := written_aside write value device
  refine ⟨(advances_written write value device).marked delivered.marked, ?_⟩
  intro other control wantedIndex foundOther onChannel onTiming wanted
  rw [values] at wanted
  rw [history_written]
  by_cases same : other = write.id
  · subst same
    obtain rfl : write.control = control := Option.some.inj (found.symm.trans foundOther)
    have sent : write.index = wantedIndex :=
      Option.some.inj (index.symm.trans (Control.wanted?_set_self found wanted))
    rw [if_pos (applied.mpr (by rwa [onTiming, onChannel])), ← sent]
    exact .sent delivered.marked
  · rw [Control.wanted?_set_of_ne _ _ same] at wanted
    have before := delivered.sent other control wantedIndex foundOther onChannel onTiming wanted
    split
    · refine before.cons not_false fun sent dispatched => ?_
      cases dispatched
      exact absurd rfl same
    · exact before

/-- A write that is accepted while at least the channels that play count as playing. -/
theorem leads_written {id : Nat} {value : Int} {playing : UInt8} {write : Control.Write}
    (sound : device.Sound payload)
    (accepted : Control.accept payload.controls id value playing = .ok write)
    (aware : ∀ channel < payload.channelCount, device.power channel = .active →
      Channel.within playing channel = true) :
    Leads payload device (device.written write value) := by
  obtain ⟨samePayload, sameState, sameChannels, sameErrors, sameLocked, same, _⟩ :=
    written_aside write value device
  refine ⟨sameState, advances_written write value device, ⟨⟨sound.shaped, ?_, ?_⟩, ⟨?_, ?_⟩⟩, ?_⟩
  · exact samePayload.trans sound.inPlace
  · rw [sameChannels]
    exact sound.length_channels
  · intro channel
    rw [same, locked, sameLocked]
    exact sound.allowed channel
  · rw [sameErrors, sameLocked]
    exact sound.recorded
  · intro channel held declared timing due
    rw [same] at due
    refine delivered_written accepted ?_ (held declared timing due)
    cases timing with
    | anytime => exact .inl rfl
    | beforePowerUp => exact .inr (aware channel declared due)
    | afterPowerUp => exact .inr (aware channel declared due.1)

/-! ## Installations -/

theorem standing_adopt (payload : Payload) (device : Device) (channel : UInt8) :
    (device.adopt payload).standing channel = .off := by
  have free : (device.adopt payload).waiting channel = false :=
    DeferredQueue.isPending_cancelAll _ _
  cases held : (device.adopt payload).channel? channel with
  | none => simp [standing, power, unmasked, held, free, Standing.off]
  | some state =>
      rw [standing_of_channel? held, free]
      obtain ⟨other, _, rfl⟩ := List.mem_map.mp (List.mem_of_getElem? held)
      rfl

/-- A payload that takes its place finds every channel shut down. -/
theorem adopt_spec (shaped : payload.Shaped) (steady : device.Steady) :
    (device.adopt payload).Sound payload ∧ Advances device (device.adopt payload) := by
  refine ⟨⟨⟨shaped, rfl, ?_⟩, ⟨?_, steady.recorded⟩⟩, ⟨fun _ held => held, ?_⟩⟩
  · simp only [adopt, Payload.allChannels, List.length_map, Channel.length_upTo,
      shaped.toNat_channelCount]
  · intro channel
    rw [standing_adopt]
    exact Standing.allowed_off _
  · exact .one rfl ⟨trivial, trivial⟩

/-- After its initialisation every channel is shut down, and in force. -/
theorem initialiseAll_spec (sound : device.Sound payload)
    (down : ∀ channel, device.power channel = .shutdown) :
    Safe payload device (initialiseAll payload device).1 ∧
      (∀ channel, (initialiseAll payload device).1.power channel = .shutdown) ∧
      ∀ channel, (initialiseAll payload device).1.InForce payload channel := by
  have declared : ∀ channel ∈ payload.allChannels, channel < payload.channelCount :=
    fun channel member => Payload.mem_allChannels.mp member
  rw [initialiseAll, Work.fst_inOrder_flatMap]
  obtain ⟨safe, still, renewed⟩ : _ ∧ _ ∧ _ := safe_foldl_renewing
    (fun held => ∀ channel, held.power channel = .shutdown)
    (fun channel member held soundHeld downHeld => by
      obtain ⟨safe, renewed⟩ :=
        renews_renewed soundHeld (declared channel member) (downHeld channel)
      refine ⟨safe, fun other => ?_, renewed⟩
      have same := (renewed_spec soundHeld.toFits (declared channel member)).1
      exact (congrFun (power_of_standing_eq same) other).trans (downHeld other))
    sound down
  refine ⟨safe, still, fun channel there => ?_⟩
  exact renewed channel (Payload.mem_allChannels.mpr there) there

/-- The control writes that waited for a payload, where no channel plays yet. -/
theorem makeCachedWrites_spec (sound : device.Sound payload)
    (down : ∀ channel, device.power channel = .shutdown) :
    Leads payload device (device.makeCachedWrites payload) := by
  have begun : Safe payload device { device with cachedWrites := [] } :=
    safe_of_aside sound ⟨⟨rfl, rfl, rfl, rfl, rfl, rfl⟩, rfl, rfl⟩
  have start : Leads payload device { device with cachedWrites := [] } ∧
      ∀ channel, ({ device with cachedWrites := [] } : Device).power channel = .shutdown :=
    ⟨begun.leads, down⟩
  refine (List.foldlRecOn (motive := fun held : Device => Leads payload device held ∧
    ∀ channel, held.power channel = .shutdown) device.cachedWrites _ start ?_).1
  rintro held ⟨sofar, still⟩ ⟨name, value⟩ _
  simp only
  cases accepted : Control.acceptNamed payload.controls name value 0 with
  | error error => exact ⟨sofar, still⟩
  | ok write =>
      obtain ⟨id, acceptedId⟩ := Control.acceptNamed_eq_ok accepted
      have next : Leads payload held (held.written write value) :=
        leads_written sofar.sound acceptedId fun channel _ playing =>
          absurd ((still channel).symm.trans playing) (by simp)
      obtain ⟨_, _, _, _, _, same, _⟩ := written_aside write value held
      refine ⟨sofar.trans next, fun channel => ?_⟩
      exact (congrFun (power_of_standing_eq same) channel).trans (still channel)

/-- Counts an installation and makes the device ready for use. -/
def readied (device : Device) : Device :=
  { device.count fun stats => { stats with loads := Stats.increment stats.loads } with
    loadState := .ready }

theorem install_eq (payload : Payload) (device : Device) :
    device.install payload =
      readied ((initialiseAll payload (device.adopt payload)).1.makeCachedWrites payload) := rfl

theorem sound_readied (sound : device.Sound payload) : device.readied.Sound payload :=
  ⟨⟨sound.shaped, sound.inPlace, sound.length_channels⟩, ⟨sound.allowed, sound.recorded⟩⟩

theorem advances_readied {before : Device} (advances : Advances before device) :
    Advances before device.readied := ⟨advances.locked, advances.history⟩

theorem inForce_readied (inForce : device.InForce payload channel) :
    device.readied.InForce payload channel := by
  intro declared timing due
  obtain ⟨marked, sent⟩ := inForce declared timing due
  exact ⟨marked, sent⟩

/-- An installation ends ready, with everything in force. -/
theorem install_spec (shaped : payload.Shaped) (steady : device.Steady) :
    (device.install payload).Sound payload ∧ (device.install payload).loadState = .ready ∧
      Advances device (device.install payload) ∧
      ∀ channel, (device.install payload).InForce payload channel := by
  obtain ⟨sound, adopted⟩ := adopt_spec shaped steady
  have off (channel : UInt8) : (device.adopt payload).power channel = .shutdown :=
    congrArg Standing.power (standing_adopt payload device channel)
  obtain ⟨prepared, down, inForce⟩ := initialiseAll_spec sound off
  have made := makeCachedWrites_spec prepared.sound down
  have advances := (adopted.trans prepared.advances).trans made.advances
  rw [install_eq]
  exact ⟨sound_readied made.sound, rfl, advances_readied advances,
    fun channel => inForce_readied (made.inForce channel (inForce channel))⟩

end AmpControl.Device
