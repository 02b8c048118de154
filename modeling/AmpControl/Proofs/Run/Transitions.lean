import AmpControl.Proofs.Device.Finishing
import AmpControl.Proofs.Run.Power

/-!
# Traces of requests for power

As long as no call is refused, a request for power accesses the registers of each channel that it is
about as the transition of this channel says, and those of no other channel. A channel that is
powered up waits for its deferred work from the end of its own transition on; when the deferred work
is run late enough, this work is done as well.
-/

namespace AmpControl

open Tuning (Payload)

namespace Device

variable {payload : Payload} {target : Power} {device before held : Device} {channel : UInt8}

theorem power_of_state (same : held.channel? channel = before.channel? channel) :
    held.power channel = before.power channel := by
  rw [power, same, power]

/--
The deferred work of a channel after a transition that ended at some time: a power-up schedules it,
any other change of power cancels it, and a channel that stays as it is keeps it.
-/
def appointment (before : Device) (target : Power) (channel : UInt8) (ended : Nat)
    (generation : UInt32) : Option DeferredItem :=
  if target.settled (before.power channel) = before.power channel then
    before.deferred.item? channel
  else if target = .active then
    some ⟨min (ended + Bus.milliseconds before.config.postPowerUpDelay.toNat) lastInstant,
      generation⟩
  else none

theorem item_transition (target : Power) (declared : channel < payload.channelCount)
    (fits : device.Fits payload) (small : channel.toNat < Tuning.maxChannels) :
    ∃ generation, (transition payload target channel device).1.deferred.item? channel =
      device.appointment target channel (transition payload target channel device).1.clock
        generation := by
  have found : (payload.channel? channel).isSome = true :=
    Option.isSome_iff_exists.mpr (fits.shaped.tables declared)
  by_cases there : target.settled (device.power channel) = device.power channel
  · refine ⟨0, ?_⟩
    rw [transition_of_settled there, appointment, if_pos there]
  simp only [appointment, if_neg there]
  rw [transition, Work.reading_apply]
  cases target with
  | active =>
      cases current : device.power channel with
      | active => exact absurd (by rw [current]; rfl) there
      | shutdown | mute => exact item_powerUp found small device
  | shutdown =>
      cases current : device.power channel with
      | shutdown => exact absurd (by rw [current]; rfl) there
      | active | mute => exact ⟨0, (sets_powerDown declared).item fits rfl⟩
  | mute =>
      cases current : device.power channel with
      | shutdown | mute => exact absurd (by rw [current]; rfl) there
      | active => exact ⟨0, (sets_mute declared).item fits rfl⟩

end Device

namespace Request

open Device (Confined Treats appointment transition transitionAccesses)

variable {payload : Payload} {mask channel : UInt8} {target : Power} {device : Device}

theorem nodup_wanted : (wanted payload mask target device).Nodup :=
  (Channel.nodup_upTo _).filter _

theorem on_transitions (channels : List UInt8) :
    Work.On (fun _ => True) (Work.each channels (transition payload target)) :=
  Work.on_each fun _ _ => Work.on_transition trivial target

/-- The transitions of a request none of whose calls is refused meet no fault. -/
theorem fault_of_clean
    (clean : (powered payload mask target device).bus.refusals = device.bus.refusals) :
    (Work.each (wanted payload mask target device) (transition payload target) device).2 =
      none := by
  by_contra met
  have refused := ((on_transitions _).confined device).blamed met
  have grown := (Device.grows_escalate payload (Work.each (wanted payload mask target device)
    (transition payload target) device).1).1
  simp only [powered, if_pos (Option.isSome_iff_ne_none.mpr met)] at clean
  omega

/-- A request that meets no fault is over after the transitions of its channels. -/
theorem powered_of_none (none_met : (Work.each (wanted payload mask target device)
      (transition payload target) device).2 = none) :
    powered payload mask target device =
      (Work.each (wanted payload mask target device) (transition payload target) device).1 := by
  simp only [powered, none_met]
  rfl

/-- The device of a request when the turn of one of its channels comes. -/
def beforeTurn (payload : Payload) (mask : UInt8) (target : Power) (device : Device)
    (channel : UInt8) : Device :=
  (Work.each (Channel.before channel (wanted payload mask target device))
    (transition payload target) device).1

/-- The time at which the transition of one of the channels of a request ends. -/
def turnEnds (payload : Payload) (mask : UInt8) (target : Power) (device : Device)
    (channel : UInt8) : Nat :=
  (transition payload target channel (beforeTurn payload mask target device channel)).1.clock

/--
How a request comes to the transition of one of its channels: other channels are moved before, which
leaves this one and what its transition depends on alone, and other channels are moved afterwards.
-/
structure Turn (payload : Payload) (target : Power) (channel : UInt8)
    (before held after : Device) : Prop where
  begun : Treats channel [] id before held
  settings : held.settings = before.settings
  config : held.config = before.config
  fits : held.Fits payload
  clean : (transition payload target channel held).1.bus.refusals = held.bus.refusals
  ended : Treats channel [] id (transition payload target channel held).1 after

theorem fits_beforeTurn (kept : device.Kept) (ready : device.ready? = some payload)
    (channel : UInt8) : (beforeTurn payload mask target device channel).Fits payload := by
  have early (other : UInt8)
      (member : other ∈ Channel.before channel (wanted payload mask target device)) :=
    unlocked_of_wanted ((List.takeWhile_prefix _).subset member)
  obtain ⟨moves, frame⟩ := moves_transitions ready (fun other member => (early other member).1)
    fun other member => (early other member).2
  exact ((moves.keeps kept).1.of_ready (frame.ready?.trans ready)).1.toFits

theorem turn_of_chosen (kept : device.Kept) (ready : device.ready? = some payload)
    (clean : (powered payload mask target device).bus.refusals = device.bus.refusals)
    (chosen : Chosen payload mask target device channel) :
    Turn payload target channel device (beforeTurn payload mask target device channel)
      (powered payload mask target device) := by
  have on : ∀ (touched : UInt8 → Prop) (other : UInt8), touched other →
      (transition payload target other).On touched := fun _ _ here => Work.on_transition here target
  have fits : (beforeTurn payload mask target device channel).Fits payload :=
    fits_beforeTurn kept ready channel
  have absentEarly := Channel.not_mem_before channel (wanted payload mask target device)
  obtain ⟨later, absent, whole⟩ :=
    Work.each_split (transition payload target) nodup_wanted (mem_wanted.mpr chosen) device
  have ends := (powered_of_none (fault_of_clean clean)).trans whole
  rw [ends] at clean ⊢
  unfold beforeTurn at fits ⊢
  have others := Work.on_each_of_notMem absentEarly on
  have plain : Work.Plain (Work.each (Channel.before channel (wanted payload mask target device))
    (transition payload target)) := Work.plain_each fun _ => Device.plain_transition target
  have begun := others.confined device
  have settings := others.settings device
  have config := (plain device).config
  generalize (Work.each (Channel.before channel (wanted payload mask target device))
    (transition payload target) device).1 = held at *
  have done := (on (· = channel) channel rfl).confined held
  have ended := (Work.on_each_of_notMem absent on).confined
    ((transition payload target channel).leaves held)
  have few := begun.calls.refusals
  have fewOwn := done.calls.refusals
  have fewLater := ended.calls.refusals
  refine ⟨.of_confined begun, settings, config, fits, ?_, ?_⟩
  · rw [Device.refusals_leaves] at fewLater
    omega
  · exact (((Treats.refl _).latched _).after_free (.of_confined ended))

/-- A request moves a channel that it is about as the transition of this channel says. -/
theorem Turn.traced {held after : Device} (turn : Turn payload target channel device held after)
    (declared : channel < payload.channelCount) :
    after.bus.accesses channel =
        device.bus.accesses channel ++ transitionAccesses payload device target channel ∧
      ∃ generation, after.deferred.item? channel =
        device.appointment target channel (transition payload target channel held).1.clock
          generation := by
  have state : held.channel? channel = device.channel? channel :=
    turn.begun.state.trans Option.map_id_apply
  have power := Device.power_of_state state
  have found : (payload.channel? channel).isSome = true :=
    Option.isSome_iff_exists.mpr (turn.fits.shaped.tables declared)
  have sameAccesses : transitionAccesses payload held target channel =
      transitionAccesses payload device target channel :=
    Device.transitionAccesses_of_settings power turn.settings target
  constructor
  · rw [turn.ended.accesses, Device.accesses_transition target found turn.clean,
      turn.begun.accesses, List.append_nil, List.append_nil, sameAccesses]
  · obtain ⟨generation, item⟩ :=
      Device.item_transition target declared turn.fits (turn.fits.toNat_lt declared)
    refine ⟨generation, ?_⟩
    rw [turn.ended.item, item, appointment, appointment, power, turn.config, turn.begun.item]

/-- A request leaves a channel that it is not about alone. -/
theorem treats_of_not_chosen
    (clean : (powered payload mask target device).bus.refusals = device.bus.refusals)
    (other : ¬Chosen payload mask target device channel) :
    Treats channel [] id device (powered payload mask target device) := by
  rw [powered_of_none (fault_of_clean clean)]
  exact Device.treats_each_of_notMem (mt mem_wanted.mp other)
    (fun _ _ here => Work.on_transition here target) device

end Request

namespace Device

open Request (Chosen turnEnds)

/--
In every state in which a payload is ready for use, a request for power none of whose calls is
refused accesses the registers of each channel that it is about exactly as the transition of this
channel says, and those of no other channel. It schedules the deferred work of a channel that it
powers up for when the delay of the configuration is over, which is counted from the end of the
transition of the channel, cancels that of a channel that it moves elsewhere, and leaves that of all
others as it is. To run the deferred work does that of each channel for which it is due, no earlier
and once, and leaves that of the others waiting, as long as no call is refused.
-/
theorem transitions_traced (config : Config) (firmware : FirmwareSource)
    (operations : List Operation) (payload : Payload)
    (ready : (reached config firmware operations).ready? = some payload) :
    let before := reached config firmware operations
    (∀ mask target,
      let after := reached config firmware (operations ++ [.power mask target])
      after.bus.refusals = before.bus.refusals → ∀ channel,
        (Chosen payload mask target before channel →
          after.bus.accesses channel =
            before.bus.accesses channel ++ transitionAccesses payload before target channel ∧
          ∃ generation, after.deferred.item? channel = before.appointment target channel
            (turnEnds payload mask target before channel) generation) ∧
        (¬Chosen payload mask target before channel →
          after.bus.accesses channel = before.bus.accesses channel ∧
          after.deferred.item? channel = before.deferred.item? channel)) ∧
    (let after := reached config firmware (operations ++ [.runDeferred])
     after.bus.refusals = before.bus.refusals →
       ∀ channel, Attended payload channel before after) := by
  intro before
  have kept := kept_reached config firmware operations
  have sound := (kept.of_ready ready).1
  constructor
  · intro mask target after clean channel
    have performed : after = Request.powered payload mask target before :=
      (after_append operations [.power mask target] _).trans
        (Request.leaves_power_of_ready ready mask target)
    rw [performed] at clean ⊢
    constructor
    · intro chosen
      exact (Request.turn_of_chosen kept ready clean chosen).traced
        (Request.declared_of_channelMask chosen.allowed)
    · intro other
      have treats := Request.treats_of_not_chosen clean other
      exact ⟨by rw [treats.accesses, List.append_nil], treats.item⟩
  · intro after clean channel
    have performed : after = before.runDeferred.1 := after_append operations [.runDeferred] _
    rw [performed] at clean ⊢
    have few := DeferredQueue.size_le before.deferred
    exact attended_deferredTurns sound ready (Nat.lt_succ_of_le few) clean channel

/-- A channel that was powered up, and whose deferred work is due. -/
def playingLongEnough : List Operation := [.load 1, .power 1 .active, .wait 10000]

/-- It is shut down with its own accesses, or else its deferred work is done. -/
theorem playing_channel_traced :
    ∃ payload, (reached .standard .small playingLongEnough).ready? = some payload ∧
      (reached .standard .small (playingLongEnough ++ [.power 1 .shutdown])).bus.accesses 0 =
        (reached .standard .small playingLongEnough).bus.accesses 0 ++
          powerDownAccesses payload (reached .standard .small playingLongEnough) 0 ∧
      (reached .standard .small (playingLongEnough ++ [.runDeferred])).bus.accesses 0 =
        (reached .standard .small playingLongEnough).bus.accesses 0 ++
          finishAccesses payload (reached .standard .small playingLongEnough) 0 := by
  have offered : (reached .standard .small playingLongEnough).ready?.map (fun payload =>
      Channel.within
        ((reached .standard .small playingLongEnough).selection payload).channelMask 0) =
      some true := by decide +kernel
  obtain ⟨payload, ready, allowed⟩ := Option.map_eq_some_iff.mp offered
  obtain ⟨moves, runs⟩ := transitions_traced .standard .small playingLongEnough payload ready
  have chosen : Chosen payload 1 .shutdown (reached .standard .small playingLongEnough) 0 :=
    ⟨by decide, allowed, fun powered => absurd rfl powered⟩
  have playing : (reached .standard .small playingLongEnough).power 0 = .active := by
    decide +kernel
  have shut := ((moves 1 .shutdown (by decide +kernel) 0).1 chosen).1
  simp only [transitionAccesses, playing] at shut
  refine ⟨payload, ready, shut, ?_⟩
  have done : (reached .standard .small (playingLongEnough ++ [.runDeferred])).deferred.item? 0 =
      none := by decide +kernel
  have waits : (reached .standard .small playingLongEnough).deferred.item? 0 ≠ none := by
    decide +kernel
  cases runs (by decide +kernel) 0 with
  | free nothing still untouched => exact absurd nothing waits
  | waiting held early still untouched => exact absurd (still.symm.trans done) (Option.some_ne_none _)
  | finished held begun due reached untouched done accesses => rw [accesses, untouched]

end Device

end AmpControl
