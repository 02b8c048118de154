import AmpControl.Proofs.Device.Billing
import AmpControl.Proofs.Run.Power
import AmpControl.Proofs.Run.Reply

/-!
# What a request for power answers

A request for power answers for the calls that were refused while it moved its channels: it fails
exactly if there are any, with their number and the channel of the first. A restart comes later and
does not count. Unless one follows, the channels of these calls are the transport errors that the
request adds to those that were latched before.
-/

namespace AmpControl

open Bus (Attempt Call refusedCalls)
open Tuning (Payload)

namespace Request

variable {device : Device} {payload : Payload}

/-- The answer of a request that moved its channels and met a fault or none. -/
def outcome (payload : Payload) (moved : Device) :
    Option TransportFault → EStateM.Result DeviceError Device Unit
  | none => .ok () moved
  | some fault => .error (.transport fault) (moved.escalate payload)

/-- A request that is not refused answers with the fault of its transitions. -/
theorem power_of_ready (ready : device.ready? = some payload) (mask : UInt8) (target : Power) :
    (∃ channel, power mask target device = .error (.lockedOut channel) device) ∨
      power mask target device = outcome payload
        (Work.each (wanted payload mask target device) (Device.transition payload target) device).1
        (Work.each (wanted payload mask target device) (Device.transition payload target)
          device).2 := by
  rw [power, bind_ok (loadedPayload_of_ready ready), get_bind]
  by_cases refused : selected payload mask device &&& device.lockedOut ≠ 0 ∧ target ≠ .shutdown ∧
      selected payload mask device = selected payload mask device &&& device.lockedOut
  · rw [selected] at refused
    rw [if_pos refused]
    exact .inl ⟨_, rfl⟩
  · refine .inr ?_
    rw [selected] at refused
    rw [if_neg refused]
    cases moves : Work.each (wanted payload mask target device)
        (Device.transition payload target) device with
    | mk moved fault =>
        simp only [wanted, selected] at moves
        simp only [moves]
        cases fault <;> rfl

/-- What is replied and left behind is told by the outcome of the request. -/
theorem reply_of_outcome {mask : UInt8} {target : Power} {moved : Device}
    {fault : Option TransportFault}
    (ended : power mask target device = outcome payload moved fault) :
    (Operation.power mask target).reply device = fault.elim (.ok .done) (.error ∘ .transport) ∧
      (Operation.power mask target).perform device =
        if fault = none then moved else moved.escalate payload := by
  cases fault with
  | none =>
      simp only [Operation.reply, Operation.request, Operation.perform, leaves, Functor.map,
        EStateM.map, ended, outcome]
      exact ⟨rfl, rfl⟩
  | some fault =>
      simp only [Operation.reply, Operation.request, Operation.perform, leaves, Functor.map,
        EStateM.map, ended, outcome]
      exact ⟨rfl, rfl⟩

/-- Moving the channels that a request is about is billed for its refused calls. -/
theorem billed_transitions (payload : Payload) (mask : UInt8) (target : Power) (device : Device) :
    ∃ calls, Device.Billed calls device
      (Work.each (wanted payload mask target device) (Device.transition payload target) device).1
      (Work.each (wanted payload mask target device) (Device.transition payload target)
        device).2 := by
  refine Work.billed_inOrder (fun part member held => ?_) device
  obtain ⟨channel, listed, rfl⟩ := List.mem_map.mp member
  have chosen := mem_wanted.mp listed
  have on : Work.On (· = channel) (Device.transition payload target channel) :=
    Work.on_transition (by rfl) target
  exact on.billed (fun _ here => here ▸ Channel.small_of_within chosen.allowed) held

end Request

namespace Device

variable {payload : Payload} {before after moved : Device}

/-- An escalation that restarts nothing forgets and latches no transport error. -/
theorem failing_escalate (shaped : payload.Shaped)
    (unrestarted : (moved.escalate payload).restarts = moved.restarts) (channel : UInt8) :
    (moved.escalate payload).failing channel = moved.failing channel := by
  have outcome := escalation payload moved
  generalize moved.escalate payload = after at outcome unrestarted ⊢
  cases outcome with
  | spared working => rfl
  | restarted failing left =>
      have counted : (restartAll payload moved.beginRestart).1.restarts =
          Stats.increment moved.restarts := (works_restarted payload moved).restarts
      have more := toNat_increment left
      rw [← counted, unrestarted] at more
      omega
  | lockedOut failing spent =>
      have declared (other : UInt8) (member : other ∈ moved.free payload) :
          other < payload.channelCount := ((mem_free shaped).mp member).1
      exact failing_lockOut (fun other member => shaped.lt_eight (declared other member))
        (fun other member => (allFailing_iff shaped moved).mp failing other (declared other member))
        channel

/--
A request for power accounts for the calls that are refused while its channels are moved, whatever
fails on the bus. Unless all its channels are locked, it succeeds if there are none, and otherwise
it fails with the channel of the first of them and their number, which stays at its largest value.
Unless a restart follows, the transport errors are then those that were latched before and one for
each channel of these calls.
-/
theorem power_accounts_for_failures (config : Config) (firmware : FirmwareSource)
    (operations : List Operation) (payload : Payload)
    (ready : (reached config firmware operations).ready? = some payload) (mask : UInt8)
    (target : Power)
    (heard : ∀ channel, (Operation.power mask target).reply (reached config firmware operations) ≠
      .error (.lockedOut channel)) :
    let before := reached config firmware operations
    let after := reached config firmware (operations ++ [.power mask target])
    let moved := (Work.each (Request.wanted payload mask target before)
      (transition payload target) before).1
    ∃ calls channels, moved.bus.transport.attempts = calls ++ before.bus.transport.attempts ∧
      (refusedCalls calls).map Call.channel? = channels.map some ∧
      ((Operation.power mask target).reply before =
        channels.head?.elim (.ok .done) fun first => .error (.transport
          ⟨first, UInt32.ofNat (min channels.length (UInt32.size - 1))⟩)) ∧
      (after = if channels = [] then moved else moved.escalate payload) ∧
      (after.restarts = before.restarts → after.errors.channels .transport =
        before.errors.channels .transport ||| Channel.mask channels) := by
  intro before after moved
  have shaped := ((kept_reached config firmware operations).of_ready ready).1.shaped
  obtain ⟨calls, billed⟩ := Request.billed_transitions payload mask target before
  obtain ⟨refused, ended⟩ | ended := Request.power_of_ready ready mask target
  · refine absurd ?_ (heard refused)
    simp only [Operation.reply, Operation.request, Functor.map, EStateM.map, ended]
  obtain ⟨replied, left⟩ := Request.reply_of_outcome ended
  obtain ⟨channels, addressed, met, latched⟩ := billed.channels
  rw [met] at replied left
  have ends : after = if channels = [] then moved else moved.escalate payload := by
    have performed : after = (Operation.power mask target).perform before :=
      after_append operations [.power mask target] _
    rw [performed]
    cases channels <;> exact left
  refine ⟨calls, channels, billed.made, addressed, ?_, ends, fun unrestarted => ?_⟩
  · cases channels <;> exact replied
  · have plain : Work.Plain (Work.each (Request.wanted payload mask target before)
        (transition payload target)) := Work.plain_each fun _ => plain_transition target
    have uncounted : moved.restarts = before.restarts := (plain before).restarts
    rw [← latched]
    rw [ends] at unrestarted ⊢
    split at unrestarted
    · rename_i clean
      rw [if_pos clean]
    · rename_i refused
      rw [if_neg refused]
      refine Channel.mask_ext fun channel _ => ?_
      exact failing_escalate shaped (unrestarted.trans uncounted.symm) channel

/-- The second of two channels begins to fail. -/
def neighbourFails : List Operation := [.load 1, .disturb (Bus.Transport.failChannel 1)]

/-- Both channels are powered up, and the refused calls are all those of the second. -/
theorem failing_neighbour_accounted :
    ∃ payload channels,
      (reached .standard (.watching 2 0) neighbourFails).ready? = some payload ∧
      ((Operation.power 3 .active).reply (reached .standard (.watching 2 0) neighbourFails) =
        channels.head?.elim (.ok .done) fun first => .error (.transport
          ⟨first, UInt32.ofNat (min channels.length (UInt32.size - 1))⟩)) ∧
      Channel.mask channels = 2 := by
  have loaded : (reached .standard (.watching 2 0) neighbourFails).ready?.isSome = true := by
    decide +kernel
  obtain ⟨payload, ready⟩ := Option.isSome_iff_exists.mp loaded
  have heard (channel : UInt8) : (Operation.power 3 .active).reply
      (reached .standard (.watching 2 0) neighbourFails) ≠ .error (.lockedOut channel) := by
    have met : (match (Operation.power 3 .active).reply
        (reached .standard (.watching 2 0) neighbourFails) with
      | .error (.transport _) => true
      | _ => false) = true := by decide +kernel
    intro locked
    rw [locked] at met
    cases met
  obtain ⟨_, channels, _, _, replied, _, latched⟩ := power_accounts_for_failures .standard
    (.watching 2 0) neighbourFails payload ready 3 .active heard
  refine ⟨payload, channels, ready, replied, ?_⟩
  have added := latched (by decide +kernel)
  have before : (reached .standard (.watching 2 0) neighbourFails).errors.channels .transport =
      0 := by decide +kernel
  have after : (reached .standard (.watching 2 0)
      (neighbourFails ++ [.power 3 .active])).errors.channels .transport = 2 := by decide +kernel
  rw [before, after, UInt8.zero_or] at added
  exact added.symm

end Device

end AmpControl
