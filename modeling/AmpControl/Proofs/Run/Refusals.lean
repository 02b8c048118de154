import AmpControl.Proofs.Run.Answers
import AmpControl.Proofs.Run.Restarts
import AmpControl.Proofs.Run.Storms
import AmpControl.Proofs.Run.Undertaking

/-!
# Refused calls in a run

Whatever is asked of a device, a call to a channel that is refused meanwhile is latched as a
transport error of the channel by the time of the answer, as long as the device is not restarted.
Only looks at the registers of a stuck channel may fail without a trace, and the writes that waited
for a payload when they are made at last.
-/

namespace AmpControl

open Tuning (Draft InterruptTable Script)

namespace Device

/-- Every refused call to a channel that was made between two devices is latched. -/
def RefusedLatched (before after : Device) : Prop :=
  ∀ calls, after.bus.transport.attempts = calls ++ before.bus.transport.attempts →
    ∀ attempt ∈ calls, ∀ channel, attempt.accepted = false →
      attempt.call.channel? = some channel → after.failing channel = true

/--
Every refused call to a channel that was made between two devices is latched, but for those that are
left aside: of every event at most the calls of one look, or of the writes that waited.
-/
def RefusedLatchedOrAside (before after : Device) : Prop :=
  ∃ calls noted events aside,
    after.bus.transport.attempts = calls ++ before.bus.transport.attempts ∧
    after.history = events ++ before.history ∧
    calls.Perm (noted ++ aside.flatten) ∧
    List.Forall₂ (LeftAside after.payload before.cachedWrites) events aside ∧
    ∀ attempt ∈ noted, ∀ channel, attempt.accepted = false →
      attempt.call.channel? = some channel → after.failing channel = true

variable {place : Option Tuning.Payload} {payload : Tuning.Payload} {device before after : Device}

theorem Minds.latchedOrAside
    (minds : Minds after.payload before.cachedWrites none before after) :
    RefusedLatchedOrAside before after := by
  obtain ⟨calls, noted, events, aside, notes⟩ := minds.notes
  refine ⟨calls, noted, events, aside, notes.made, notes.passed, notes.split, notes.leftAside, ?_⟩
  intro attempt member channel refused addressed
  rcases notes.known attempt member channel refused addressed with failing | ⟨_, _, impossible, _⟩
  · exact failing
  · cases impossible

/-- Where no channel is found stuck and no writes wait, no calls are left aside. -/
theorem RefusedLatchedOrAside.latched (latched : RefusedLatchedOrAside before after)
    {events : List Event} (passed : after.history = events ++ before.history)
    (calm : ∀ channel, Event.stuck channel ∉ events) (nothing : before.cachedWrites = []) :
    RefusedLatched before after := by
  obtain ⟨calls, noted, events', aside, made, passed', split, leftAside, known⟩ := latched
  obtain rfl : events' = events := List.append_cancel_right (passed'.symm.trans passed)
  have silent : aside.flatten = [] := by
    rw [nothing] at leftAside
    clear made passed passed' split
    induction leftAside with
    | nil => rfl
    | @cons event part others parts here _ ih =>
        have rest := ih fun channel member => calm channel (List.mem_cons_of_mem _ member)
        have empty : part = [] := by
          cases here with
          | nothing => rfl
          | looking => exact absurd List.mem_cons_self (calm _)
          | catchingUp inPlace made => exact List.self_eq_append_left.mp made
        rw [List.flatten_cons, empty, rest]
        rfl
  rw [silent, List.append_nil] at split
  intro calls' made' attempt member
  obtain rfl : calls' = calls := List.append_cancel_right (made'.symm.trans made)
  exact known attempt (split.mem_iff.mp member)

/-! ## Loading -/

theorem Loads.restarts (loads : Loads before after) : before.restarts ≤ after.restarts := by
  cases loads with
  | asked asks => exact (asks none).restarts
  | @installed asked payload asks shaped =>
      rw [(renews_install payload asked).restarts]
      exact (asks none).restarts

theorem Loads.minds (loads : Loads before after) (unrestarted : after.restarts = before.restarts) :
    Minds after.payload before.cachedWrites none before after := by
  cases loads with
  | asked asks => exact (asks _).minds unrestarted
  | @installed asked payload asks shaped =>
      rw [(renews_install payload asked).restarts] at unrestarted
      have installs := minds_install shaped asked
      rw [(asks none).keeps_cachedWrites] at installs
      rw [payload_install shaped]
      exact ((asks _).minds unrestarted).trans installs

/-- Unless the device is restarted, an operation latches the refused calls or leaves them aside. -/
theorem Undertakes.latchedOrAside (undertakes : Undertakes before after)
    (unrestarted : after.restarts = before.restarts) : RefusedLatchedOrAside before after := by
  cases undertakes with
  | @done middle after loads conduct =>
      have early := loads.restarts
      have late := conduct.restarts
      rw [unrestarted] at late
      have still := UInt32.le_antisymm late early
      have loaded := loads.minds still
      rw [← conduct.keeps_payload] at loaded
      exact (loaded.trans (conduct.minds (unrestarted.trans still.symm))).latchedOrAside
  | cached loads writes =>
      have latched := (loads.minds unrestarted).latchedOrAside
      exact latched
  | forgot =>
      exact ⟨[], [], [], [], rfl, rfl, .refl _, .nil,
        fun _ member => absurd member List.not_mem_nil⟩

/--
By the time an operation ends, every call to a channel that was refused meanwhile is latched as a
transport error of the channel, or it was left aside: at most one look for each time a channel was
found stuck, and the writes that waited when a payload was installed. The operation may be any that
does not restart the device and does not meddle with the record of the calls.
-/
theorem refusals_latched (config : Config) (firmware : FirmwareSource)
    (operations : List Operation) (operation : Operation) (keeps : operation.KeepsCalls)
    (unrestarted : (reached config firmware (operations ++ [operation])).restarts =
      (reached config firmware operations).restarts) :
    RefusedLatchedOrAside (reached config firmware operations)
      (reached config firmware (operations ++ [operation])) := by
  have performed : reached config firmware (operations ++ [operation]) =
      operation.perform (reached config firmware operations) :=
    after_append operations [operation] _
  rw [performed] at unrestarted ⊢
  obtain ⟨change, rfl⟩ | undertakes :=
    operation.undertakes (kept_reached config firmware operations)
  · exact ⟨[], [], [], [], keeps _, rfl, .refl _, .nil,
      fun _ member => absurd member List.not_mem_nil⟩
  · exact undertakes.latchedOrAside unrestarted

/-- The write of a control to a channel that fails is latched. -/
theorem refused_write_latched :
    (reached .standard .small onlyChannelFails).failing 0 = false ∧
      (Operation.putControl 0 3).KeepsCalls ∧
      (reached .standard .small (onlyChannelFails ++ [.putControl 0 3])).restarts =
        (reached .standard .small onlyChannelFails).restarts ∧
      (reached .standard .small (onlyChannelFails ++ [.putControl 0 3])).failing 0 = true := by
  have unrestarted : (reached .standard .small (onlyChannelFails ++ [.putControl 0 3])).restarts =
      (reached .standard .small onlyChannelFails).restarts := by decide +kernel
  have latched := refusals_latched .standard .small onlyChannelFails (.putControl 0 3) trivial
    unrestarted
  have passed : (reached .standard .small (onlyChannelFails ++ [.putControl 0 3])).history =
      [.dispatched 0 3] ++ (reached .standard .small onlyChannelFails).history := by decide +kernel
  have made : (reached .standard .small
      (onlyChannelFails ++ [.putControl 0 3])).bus.transport.attempts =
      [⟨.write 0 (Register.ofParts 0 0 0x20) 0x60, false⟩] ++
        (reached .standard .small onlyChannelFails).bus.transport.attempts := by decide +kernel
  have every : RefusedLatched _ _ := latched.latched passed (by simp) (by decide +kernel)
  exact ⟨by decide +kernel, trivial, unrestarted,
    every _ made _ List.mem_cons_self 0 rfl rfl⟩

end Device

/-- One channel with a fault as its interrupt source, and a register to look at when it is stuck. -/
def Tuning.Draft.inspected : Draft :=
  let status := Register.ofParts 0 0 0x10
  let table : InterruptTable := {
    sources := [⟨"fault", status, 0x02, 0, false⟩]
    unmask := Script.writing (Register.ofParts 0 0 0x11) 0xFF
    mask := Script.writing (Register.ofParts 0 0 0x11) 0x00
    clear := Script.writing status 0x00
    settleTime := 2
    dump := [Register.ofParts 0 0 0x12] }
  (Draft.new 1).withInterrupts 0 table

namespace Device

/-- Something fires twice in one storm window, and the register to look at cannot be read. -/
def unreadableDump : List Operation :=
  let fires := Operation.disturb (Bus.Transport.preset 0 (Register.ofParts 0 0 0x10) 2)
  [.load 1, fires, .handleInterrupt, fires,
    .disturb (Bus.Transport.failRegister 0 (Register.ofParts 0 0 0x12))]

/-- A look at the registers of a stuck channel that is refused is not latched. -/
theorem refused_look_not_latched :
    (reached oneAllowed (.new (some Draft.inspected.build))
        (unreadableDump ++ [.handleInterrupt])).restarts =
      (reached oneAllowed (.new (some Draft.inspected.build)) unreadableDump).restarts ∧
    ¬RefusedLatched (reached oneAllowed (.new (some Draft.inspected.build)) unreadableDump)
      (reached oneAllowed (.new (some Draft.inspected.build))
        (unreadableDump ++ [.handleInterrupt])) := by
  refine ⟨by decide +kernel, fun latched => ?_⟩
  have made : (reached oneAllowed (.new (some Draft.inspected.build))
      (unreadableDump ++ [.handleInterrupt])).bus.transport.attempts =
      [⟨.read 0 (Register.ofParts 0 0 0x12), false⟩, ⟨.read 0 (Register.ofParts 0 0 0x10), true⟩,
        ⟨.write 0 (Register.ofParts 0 0 0x11) 0, true⟩] ++
      (reached oneAllowed (.new (some Draft.inspected.build))
        unreadableDump).bus.transport.attempts := by decide +kernel
  exact absurd (latched _ made _ List.mem_cons_self 0 rfl rfl) (by decide +kernel)

end Device

end AmpControl
