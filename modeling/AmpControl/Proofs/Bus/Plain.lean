import AmpControl.Proofs.Bus.Accesses
import AmpControl.Proofs.Bus.Charges
import AmpControl.Proofs.Bus.Ensemble
import Mathlib.Logic.Function.Basic

/-!
# Scripts as they are written

What a script does can be read off its commands. Each command is granted or not by the failures of
the transport alone. The registers are changed by the granted commands in their order, the others
are counted, and every command makes one access to its register, at most behind a selection of the
bank. The remembered bank spares selections and has no other effect, since a selection is refused
only where the access behind it would be refused as well.
-/

namespace AmpControl

open Bus (Attempt Registers Transport)
open Tuning (Command Script)

/-- What registers hold after consecutive ones of them were written. -/
def Register.fill (register : Register) (data : Bytes) (held : Register → UInt32) :
    Register → UInt32 :=
  data.zipIdx.foldl
    (fun held entry => Function.update held (register.advance entry.2) entry.1.toUInt32) held

namespace Tuning.Command

/-- What the registers of a channel hold after a command was carried out on it. -/
def effect (held : Register → UInt32) : Command → Register → UInt32
  | .write register value => Function.update held register value.toUInt32
  | .burst register data => register.fill data held
  | .update register mask value =>
      Function.update held register
        ((held register &&& ~~~mask.toUInt32) ||| (value.toUInt32 &&& mask.toUInt32))
  | .pause _ => held

end Tuning.Command

namespace Bus

/-- The failures of a transport let a command through on a channel. -/
def Transport.grants (transport : Transport) (channel : UInt8) (command : Command) : Bool :=
  match command.register? with
  | some register =>
      !transport.failingChannels.contains channel &&
        !transport.failingRegisters.contains (channel, register)
  | none => true

/--
The calls that one command makes, oldest first: an access behind at most one selection of the bank,
or a selection alone where it is refused. A pause makes none.
-/
inductive Attempted (granted : UInt8 → Command → Bool) (channel : UInt8) :
    Command → List Attempt → Prop where
  | paused (time : UInt16) : Attempted granted channel (.pause time) []
  | accessed {command : Command} {call : Call} (made : command.access? channel = some call) :
      Attempted granted channel command [⟨call, granted channel command⟩]
  | switched {command : Command} {call : Call} {register : Register}
      (made : command.access? channel = some call) (reached : command.register? = some register) :
      Attempted granted channel command
        [⟨.select channel register.bank, true⟩, ⟨call, granted channel command⟩]
  | stopped {command : Command} {register : Register} (refused : granted channel command = false)
      (reached : command.register? = some register) :
      Attempted granted channel command [⟨.select channel register.bank, false⟩]

/-- One command was carried out as it is written. -/
structure Performed (channel : UInt8) (command : Command) (before after : Bus) (done : Bool) :
    Prop where
  granted : done = before.transport.grants channel command
  /-- The failures of the transport are the same as before. -/
  failures : after.transport.grants = before.transport.grants
  registers : after.transport.registers =
    if done then
      Function.update before.transport.registers channel
        (command.effect (before.transport.registers channel))
    else before.transport.registers
  attempts : ∃ calls, Attempted before.transport.grants channel command calls ∧
    after.transport.attempts.reverse = before.transport.attempts.reverse ++ calls
  clock : after.clock = before.clock + pauseOf command

/-- A script was carried out as it is written, and so many of its commands failed. -/
structure AsWritten (channel : UInt8) (script : Script) (before after : Bus) (failed : Nat) :
    Prop where
  counted : failed = script.countP fun command => !before.transport.grants channel command
  /-- The failures of the transport are the same as before. -/
  failures : after.transport.grants = before.transport.grants
  registers : after.transport.registers =
    Function.update before.transport.registers channel
      ((script.filter (before.transport.grants channel)).foldl Command.effect
        (before.transport.registers channel))
  attempts : ∃ groups, List.Forall₂ (Attempted before.transport.grants channel) script groups ∧
    after.transport.attempts.reverse = before.transport.attempts.reverse ++ groups.flatten
  clock : after.clock = before.clock + pauses script

/-- Carries out commands in some way, counting those that fail. -/
def countAll (way : Command → Bus → Bus × Bool) : Script → (failures : Nat) → Bus → Bus × Nat
  | [], failures, bus => (bus, failures)
  | command :: others, failures, bus =>
      let outcome := way command bus
      countAll way others (if outcome.2 then failures else failures + 1) outcome.1

/-- Selects the bank of the register before an access, whether or not it is selected already. -/
def accessAnew (channel : UInt8) (register : Register) (call : Call) (bus : Bus) : Bus × Bool :=
  let selected := bus.attempt (.select channel register.bank)
  if selected.2 then selected.1.attempt call else (selected.1, false)

/-- Carries out one command with its bank selected anew. -/
def carryOutAnew (channel : UInt8) (command : Command) (bus : Bus) : Bus × Bool :=
  match command with
  | .write register value =>
      bus.accessAnew channel register (.write channel register value.toUInt32)
  | .burst register data => bus.accessAnew channel register (.burst channel register data)
  | .update register mask value =>
      bus.accessAnew channel register
        (.update channel register mask.toUInt32 value.toUInt32)
  | .pause time => (bus.wait (milliseconds time.toNat), true)

/-- Carries out a script with the bank selected anew before every access. -/
def executeAnew (channel : UInt8) (script : Script) (bus : Bus) :
    Bus × Option TransportFault :=
  let outcome := countAll (carryOutAnew channel) script 0 bus
  (outcome.1, TransportFault.ofCount channel outcome.2)

variable {channel : UInt8} {command : Command} {call : Call} {register : Register}
  {bus before middle after : Bus} {done : Bool}

/-! ## Calls -/

theorem store_eq_update (registers : Registers) (channel : UInt8) (register : Register)
    (value : UInt32) :
    registers.store channel register value =
      Function.update registers channel (Function.update (registers channel) register value) := by
  funext other held
  by_cases here : other = channel
  · subst here
    by_cases same : held = register
    · subst same
      simp [Registers.store]
    · simp [Registers.store, same]
  · simp [Registers.store, here]

theorem storeAll_eq_update (channel : UInt8) (register : Register) (distance : Nat) (data : Bytes)
    (registers : Registers) :
    Registers.storeAll channel register distance data registers =
      Function.update registers channel
        ((data.zipIdx distance).foldl
          (fun held entry => Function.update held (register.advance entry.2) entry.1.toUInt32)
          (registers channel)) := by
  induction data generalizing distance registers with
  | nil => exact (Function.update_eq_self channel registers).symm
  | cons value others ih =>
      rw [Registers.storeAll, ih, store_eq_update, Function.update_self, Function.update_idem]
      rfl

/-- What a call changes is what its command asks for. -/
theorem apply_of_access (made : command.access? channel = some call) (registers : Registers) :
    registers.apply call =
      Function.update registers channel (command.effect (registers channel)) := by
  cases command with
  | write register value =>
      cases made
      exact store_eq_update registers channel register value.toUInt32
  | burst register data =>
      cases made
      exact storeAll_eq_update channel register 0 data registers
  | update register mask value =>
      cases made
      exact store_eq_update registers channel register _
  | pause time => cases made

theorem refuses_of_access (made : command.access? channel = some call) (transport : Transport) :
    transport.refuses call = !transport.grants channel command := by
  cases command <;> cases made <;>
    simp [Transport.refuses, Transport.grants, Command.register?, Bool.not_and]

theorem snd_attempt (call : Call) (bus : Bus) :
    (bus.attempt call).2 = !bus.transport.refuses call := by
  unfold attempt Transport.attempt
  split
  · rename_i refused
    rw [refused]
    rfl
  · rename_i accepted
    rw [(Bool.not_eq_true _).mp accepted]
    rfl

theorem grants_attempt (call : Call) (bus : Bus) :
    (bus.attempt call).1.transport.grants = bus.transport.grants := by
  unfold attempt Transport.attempt
  split <;> rfl

theorem registers_attempt (call : Call) (bus : Bus) :
    (bus.attempt call).1.transport.registers =
      if (bus.attempt call).2 then bus.transport.registers.apply call
      else bus.transport.registers := by
  rw [snd_attempt]
  unfold attempt Transport.attempt
  cases bus.transport.refuses call <;> rfl

/-! ## Commands -/

/-- An access on its own. -/
theorem performed_attempt (made : command.access? channel = some call) (bus : Bus) :
    Performed channel command bus (bus.attempt call).1 (bus.attempt call).2 where
  granted := by rw [snd_attempt, refuses_of_access made, Bool.not_not]
  failures := grants_attempt call bus
  registers := by rw [registers_attempt, apply_of_access made]
  attempts := by
    refine ⟨_, .accessed made, ?_⟩
    rw [attempts_attempt, List.reverse_cons, snd_attempt, refuses_of_access made, Bool.not_not]
  clock := by
    cases command with
    | pause time => cases made
    | write register value => rfl
    | burst register data => rfl
    | update register mask value => rfl

/--
An access behind a selection of its bank. A selection is refused only where its whole channel fails,
and then the access would have been refused too.
-/
theorem performed_selected (made : command.access? channel = some call)
    (reached : command.register? = some register) {selected : Bus}
    (transport : selected.transport =
      (bus.attempt (.select channel register.bank)).1.transport)
    (clock : selected.clock = bus.clock) {outcome : Bus × Bool}
    (ended : outcome = if (bus.attempt (.select channel register.bank)).2 then
      selected.attempt call else (selected, false)) :
    Performed channel command bus outcome.1 outcome.2 := by
  have grants : selected.transport.grants = bus.transport.grants := by
    rw [transport]
    exact grants_attempt _ bus
  have registers : selected.transport.registers = bus.transport.registers := by
    rw [transport, registers_attempt]
    exact ite_self _
  have attempts : selected.transport.attempts.reverse = bus.transport.attempts.reverse ++
      [⟨.select channel register.bank, (bus.attempt (.select channel register.bank)).2⟩] := by
    rw [transport, attempts_attempt, List.reverse_cons]
  cases accepted : (bus.attempt (.select channel register.bank)).2 with
  | true =>
      rw [accepted] at attempts
      rw [ended, if_pos accepted]
      obtain ⟨granted, failures, changed, ⟨calls, _, made'⟩, later⟩ :=
        performed_attempt made selected
      refine ⟨by rw [granted, grants], failures.trans grants, by rw [changed, registers],
        ⟨_, .switched made reached, ?_⟩, later.trans (by rw [clock])⟩
      rw [attempts_attempt, List.reverse_cons, attempts, snd_attempt, refuses_of_access made,
        Bool.not_not, grants, List.append_assoc]
      rfl
  | false =>
      have failing : bus.transport.grants channel command = false := by
        rw [snd_attempt, Bool.not_eq_false'] at accepted
        simp only [Transport.grants, reached]
        have whole : bus.transport.failingChannels.contains channel = true := accepted
        rw [whole]
        rfl
      rw [accepted] at attempts
      rw [ended, accepted, if_neg Bool.false_ne_true]
      refine ⟨failing.symm, grants, registers, ⟨_, .stopped failing reached, attempts⟩, ?_⟩
      cases command with
      | pause time => cases made
      | write register value => exact clock
      | burst register data => exact clock
      | update register mask value => exact clock

theorem performed_access (made : command.access? channel = some call)
    (reached : command.register? = some register) (bus : Bus) :
    Performed channel command bus (bus.access channel register call).1
      (bus.access channel register call).2 := by
  by_cases known : bus.selected? channel = some register.bank
  · have selected : bus.select channel register.bank = (bus, true) := by rw [select, if_pos known]
    rw [access, selected]
    exact performed_attempt made bus
  · have selected : (bus.select channel register.bank).2 =
        (bus.attempt (.select channel register.bank)).2 := by
      rw [select, if_neg known]
    refine performed_selected made reached (?_ : (bus.select channel register.bank).1.transport = _)
      ?_ ?_
    · rw [select, if_neg known]
      rfl
    · rw [select, if_neg known]
      rfl
    · rw [access, selected]

theorem performed_pause (channel : UInt8) (time : UInt16) (bus : Bus) :
    Performed channel (.pause time) bus (bus.wait (milliseconds time.toNat)) true where
  granted := rfl
  failures := rfl
  registers := (Function.update_eq_self channel bus.transport.registers).symm
  attempts := ⟨[], .paused time, (List.append_nil _).symm⟩
  clock := rfl

theorem performed_carryOut (channel : UInt8) (command : Command) (bus : Bus) :
    Performed channel command bus (bus.carryOut channel command).1
      (bus.carryOut channel command).2 := by
  cases command with
  | write register value => exact performed_access rfl rfl bus
  | burst register data => exact performed_access rfl rfl bus
  | update register mask value => exact performed_access rfl rfl bus
  | pause time => exact performed_pause channel time bus

theorem performed_carryOutAnew (channel : UInt8) (command : Command) (bus : Bus) :
    Performed channel command bus (bus.carryOutAnew channel command).1
      (bus.carryOutAnew channel command).2 := by
  cases command with
  | write register value => exact performed_selected rfl rfl rfl rfl rfl
  | burst register data => exact performed_selected rfl rfl rfl rfl rfl
  | update register mask value => exact performed_selected rfl rfl rfl rfl rfl
  | pause time => exact performed_pause channel time bus

/-! ## Scripts -/

namespace AsWritten

variable {script others : Script} {failed : Nat}

theorem nil (channel : UInt8) (bus : Bus) : AsWritten channel [] bus bus 0 where
  counted := rfl
  failures := rfl
  registers := (Function.update_eq_self channel bus.transport.registers).symm
  attempts := ⟨[], .nil, (List.append_nil _).symm⟩
  clock := rfl

theorem cons (first : Performed channel command before middle done)
    (rest : AsWritten channel others middle after failed) :
    AsWritten channel (command :: others) before after
      (failed + if done then 0 else 1) where
  counted := by
    rw [rest.counted, first.failures, List.countP_cons, ← first.granted]
    cases done <;> rfl
  failures := rest.failures.trans first.failures
  registers := by
    rw [rest.registers, first.failures, first.registers, List.filter_cons, ← first.granted]
    cases done with
    | true => simp only [if_true, Function.update_self, Function.update_idem, List.foldl_cons]
    | false => rfl
  attempts := by
    obtain ⟨calls, attempted, made⟩ := first.attempts
    obtain ⟨groups, attemptedLater, madeLater⟩ := rest.attempts
    rw [first.failures] at attemptedLater
    refine ⟨calls :: groups, .cons attempted attemptedLater, ?_⟩
    rw [madeLater, made, List.append_assoc, List.flatten_cons]
  clock := by
    rw [rest.clock, first.clock, Nat.add_assoc, pauses, pauses, List.map_cons, List.sum_cons]

end AsWritten

theorem asWritten_countAll {way : Command → Bus → Bus × Bool}
    (plain : ∀ command bus, Performed channel command bus (way command bus).1 (way command bus).2)
    (script : Script) (failures : Nat) (bus : Bus) :
    ∃ failed, (countAll way script failures bus).2 = failures + failed ∧
      AsWritten channel script bus (countAll way script failures bus).1 failed := by
  induction script generalizing failures bus with
  | nil => exact ⟨0, rfl, .nil channel bus⟩
  | cons command others ih =>
      obtain ⟨failed, counted, written⟩ := ih
        (if (way command bus).2 then failures else failures + 1) (way command bus).1
      refine ⟨_, ?_, written.cons (plain command bus)⟩
      rw [countAll, counted]
      split <;> omega

theorem carryOutAll_eq_countAll (channel : UInt8) (script : Script) (failures : Nat) (bus : Bus) :
    carryOutAll channel script failures bus = countAll (carryOut channel) script failures bus := by
  induction script generalizing failures bus with
  | nil => rfl
  | cons command others ih => exact ih _ _

theorem asWritten_execute (channel : UInt8) (script : Script) (bus : Bus) :
    ∃ failed, (bus.execute channel script).2 = TransportFault.ofCount channel failed ∧
      AsWritten channel script bus (bus.execute channel script).1 failed := by
  obtain ⟨failed, counted, written⟩ := asWritten_countAll (performed_carryOut channel) script 0 bus
  rw [Nat.zero_add] at counted
  rw [← carryOutAll_eq_countAll] at counted written
  exact ⟨failed, congrArg (TransportFault.ofCount channel) counted, written⟩

theorem asWritten_executeAnew (channel : UInt8) (script : Script) (bus : Bus) :
    ∃ failed, (bus.executeAnew channel script).2 = TransportFault.ofCount channel failed ∧
      AsWritten channel script bus (bus.executeAnew channel script).1 failed := by
  obtain ⟨failed, counted, written⟩ :=
    asWritten_countAll (performed_carryOutAnew channel) script 0 bus
  rw [Nat.zero_add] at counted
  exact ⟨failed, congrArg (TransportFault.ofCount channel) counted, written⟩

/-- What a script leaves in the registers and fails to do depends on no remembered bank. -/
theorem AsWritten.unique {script : Script} {other otherAfter : Bus} {failed otherFailed : Nat}
    (written : AsWritten channel script before after failed)
    (again : AsWritten channel script other otherAfter otherFailed)
    (same : other.transport = before.transport) :
    otherAfter.transport.registers = after.transport.registers ∧ otherFailed = failed := by
  rw [again.registers, again.counted, written.registers, written.counted, same]
  exact ⟨rfl, rfl⟩

/--
A script is carried out as it is written. Each of its commands makes its calls in its place, the
granted ones change the registers in their order, and the others are reported as one fault with
their number, which stays at its largest value. The clock moves on by the pauses. Whatever banks are
remembered, the registers and the fault are those of selecting the bank before every access.
-/
theorem scripts_as_written (channel : UInt8) (script : Script) (bus : Bus)
    (remembered : Vector (Option Bank) Tuning.maxChannels) :
    let granted := bus.transport.grants channel
    let failed := script.countP fun command => !granted command
    let (after, fault) := bus.execute channel script
    let (otherwise, otherFault) := { bus with selected := remembered }.execute channel script
    let (anew, anewFault) := bus.executeAnew channel script
    (∃ groups, List.Forall₂ (Attempted bus.transport.grants channel) script groups ∧
      after.transport.attempts.reverse = bus.transport.attempts.reverse ++ groups.flatten) ∧
    after.transport.registers = Function.update bus.transport.registers channel
      ((script.filter granted).foldl Command.effect (bus.transport.registers channel)) ∧
    (fault = if failed = 0 then none
      else some ⟨channel, UInt32.ofNat (min failed (UInt32.size - 1))⟩) ∧
    after.clock = bus.clock + (script.map pauseOf).sum ∧
    (otherwise.transport.registers = after.transport.registers ∧ otherFault = fault) ∧
    (anew.transport.registers = after.transport.registers ∧ anewFault = fault) := by
  obtain ⟨failed, reported, written⟩ := asWritten_execute channel script bus
  obtain ⟨otherFailed, otherReported, otherWritten⟩ :=
    asWritten_execute channel script { bus with selected := remembered }
  obtain ⟨anewFailed, anewReported, anewWritten⟩ := asWritten_executeAnew channel script bus
  obtain ⟨otherRegisters, rfl⟩ := written.unique otherWritten rfl
  obtain ⟨anewRegisters, rfl⟩ := written.unique anewWritten rfl
  refine ⟨written.attempts, written.registers, ?_, written.clock,
    ⟨otherRegisters, otherReported.trans reported.symm⟩,
    ⟨anewRegisters, anewReported.trans reported.symm⟩⟩
  rw [← TransportFault.ofCount_capped, ← written.counted]
  exact reported

end Bus

end AmpControl
