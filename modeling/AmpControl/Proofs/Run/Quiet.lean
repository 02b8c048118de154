import AmpControl.Proofs.Device.Quiescence
import AmpControl.Proofs.Run.Invariant

/-!
# Quiet channels in a run

In a recovery pass in which no call is refused and the hardware is not reset, the channels on which
nothing fires are masked, polled and unmasked again, and nothing else happens to them. A pass in
which nothing fires at all leaves the device as it was.
-/

namespace AmpControl.Device

open Tuning (InterruptTable Payload Source)

variable {payload : Payload} {device : Device} {channel : UInt8} {table : InterruptTable}

/-- A device that is ready and uses interrupts surveys its channels. -/
theorem handleInterrupt_of_supported (ready : device.ready? = some payload)
    (supported : payload.header.interruptsSupported = true) :
    device.handleInterrupt = ((device.survey payload).1, .ok (device.survey payload).2) := by
  rw [handleInterrupt_of_ready ready, if_pos supported]

/-- The accesses to a channel with an interrupt table on which nothing fires. -/
theorem accesses_of_quiet (tabled : payload.interrupts? channel = some table)
    (powered unmasked : Bool) :
    maskAccesses payload channel ++ pollAccesses payload channel powered ++
        unmaskAccesses payload channel unmasked =
      table.mask.accesses channel ++ (table.polledRegisters powered).map (.read channel) ++
        if unmasked then table.unmask.accesses channel else [] := by
  simp only [maskAccesses, pollAccesses, unmaskAccesses, tabled, Option.elim_some]

/--
Recovery leaves healthy channels alone. Take any reachable state in which the payload is ready and
uses interrupts, and a recovery pass in which no call is refused and no channel is recovered by
resetting the hardware. A channel with an interrupt table on which nothing fires is masked, each of
its polled status registers is read once, and it is unmasked if and only if it was unmasked before;
besides selections of banks there is no other call to it. Its state and its deferred work are what
they were before the pass. If nothing fires at all, the pass changes nothing of the device but the
bus and the history, and reports nothing.
-/
theorem quiet_channels_left_alone (config : Config) (firmware : FirmwareSource)
    (operations : List Operation) (payload : Payload)
    (ready : (reached config firmware operations).ready? = some payload)
    (supported : payload.header.interruptsSupported = true)
    (accepted : (reached config firmware operations).handleInterrupt.1.bus.refusals =
      (reached config firmware operations).bus.refusals)
    (spared : (reached config firmware operations).handleInterrupt.1.hardRecoveries =
      (reached config firmware operations).hardRecoveries) :
    let before := reached config firmware operations
    let after := before.handleInterrupt.1
    (∀ channel table, payload.interrupts? channel = some table →
      ¬before.Fires payload channel →
        after.bus.accesses channel = before.bus.accesses channel ++
          (table.mask.accesses channel ++
            (table.polledRegisters (before.power channel = .active)).map (.read channel) ++
            if before.unmasked channel then table.unmask.accesses channel else []) ∧
        after.channel? channel = before.channel? channel ∧
        after.deferred.item? channel = before.deferred.item? channel) ∧
    ((∀ channel, ¬before.Fires payload channel) →
      after = { before with bus := after.bus, history := after.history } ∧
      before.handleInterrupt.2 = .ok .nothing) := by
  have sound := ((kept_reached config firmware operations).of_ready ready).1
  generalize reached config firmware operations = before at ready accepted spared sound ⊢
  intro device after
  have surveyed := before.handleInterrupt_of_supported ready supported
  rw [surveyed] at accepted spared
  have undisturbed : Undisturbed payload before := ⟨accepted, spared⟩
  have ended : after = (before.survey payload).1 := congrArg Prod.fst surveyed
  rw [ended]
  constructor
  · intro channel table tabled quiet
    have declared := sound.shaped.declared_of_interrupts tabled
    have treats := treats_survey undisturbed sound declared quiet
    rw [accesses_of_quiet tabled] at treats
    exact ⟨treats.accesses, treats.state.trans Option.map_id_apply, treats.item⟩
  · intro nothing
    obtain ⟨same, report⟩ := survey_of_nothing undisturbed sound nothing
    refine ⟨same, ?_⟩
    rw [surveyed, report]

/-- Two channels play, and an interrupt source of the first asks to restart it. -/
def restartBesideQuiet : List Operation :=
  [.load 1, .power 3 .active, .runFor 1000000,
    .disturb (Bus.Transport.preset 0 (Register.ofParts 0 0 0x10) 2)]

/-- The second channel is masked, read and unmasked while the first one is restarted. -/
theorem second_left_alone :
    let before := reached .standard (.watching 2 1) restartBesideQuiet
    let after := before.handleInterrupt.1
    before.unmasked 1 = true ∧
      after.bus.accesses 1 = before.bus.accesses 1 ++
        [.write 1 (Register.ofParts 0 0 0x11) 0x00, .read 1 (Register.ofParts 0 0 0x10),
          .write 1 (Register.ofParts 0 0 0x11) 0xFF] ∧
      after.channel? 1 = before.channel? 1 ∧
      after.channel? 0 ≠ before.channel? 0 := by
  have usable : (reached .standard (.watching 2 1) restartBesideQuiet).ready?.map (fun payload =>
      (payload.header.interruptsSupported,
        decide ((reached .standard (.watching 2 1) restartBesideQuiet).Fires payload 1),
        payload.interrupts? 1)) =
      some (true, false, some {
        sources := [⟨"watched", Register.ofParts 0 0 0x10, 0x02, 1, false⟩]
        unmask := Tuning.Script.writing (Register.ofParts 0 0 0x11) 0xFF
        mask := Tuning.Script.writing (Register.ofParts 0 0 0x11) 0x00
        clear := Tuning.Script.writing (Register.ofParts 0 0 0x10) 0x00
        settleTime := 2
        dump := [] }) := by decide +kernel
  obtain ⟨payload, ready, read⟩ := Option.map_eq_some_iff.mp usable
  obtain ⟨supported, fires, tabled⟩ := by simpa only [Prod.mk.injEq] using read
  have unmasked : (reached .standard (.watching 2 1) restartBesideQuiet).unmasked 1 = true := by
    decide +kernel
  have playing : (reached .standard (.watching 2 1) restartBesideQuiet).power 1 = .active := by
    decide +kernel
  obtain ⟨alone, _⟩ := quiet_channels_left_alone .standard (.watching 2 1) restartBesideQuiet
    payload ready supported (by decide +kernel) (by decide +kernel)
  obtain ⟨calls, state, _⟩ := alone 1 _ tabled (of_decide_eq_false fires)
  rw [unmasked, playing] at calls
  exact ⟨unmasked, calls, state, by decide +kernel⟩

end AmpControl.Device
