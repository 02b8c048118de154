import AmpControl.Proofs.Bus.Plain
import AmpControl.Proofs.Bus.Reading

/-!
# Scripts compared with what registers hold

A comparison reads the registers of the commands that ask for a value and changes none. It ends in a
fault that counts the commands whose reads failed, and otherwise tells whether every command is met
by what its register holds. A script that was carried out without a fault is met by what it leaves
behind, if no register is touched by two of its commands.
-/

namespace AmpControl

open Bus (Attempt Transport)
open Tuning (Command Script)

namespace Tuning.Command

/-- The registers that a command changes. -/
def registers : Command → List Register
  | .write register _ | .update register _ _ => [register]
  | .burst register data => (List.range data.length).map register.advance
  | .pause _ => []

/-- Two commands change no register in common. -/
def Apart (first second : Command) : Prop :=
  ∀ register ∈ first.registers, register ∉ second.registers

instance (first second : Command) : Decidable (first.Apart second) :=
  inferInstanceAs (Decidable (∀ register ∈ first.registers, register ∉ second.registers))

/--
A command is met by what the registers of a channel hold: a write by the low byte of its register,
and an update by the bits that its mask selects. Bursts and pauses ask for nothing.
-/
def met (held : Register → UInt32) : Command → Bool
  | .write register value => (held register).toUInt8 == value
  | .update register mask value =>
      held register &&& mask.toUInt32 == value.toUInt32 &&& mask.toUInt32
  | .burst _ _ | .pause _ => true

variable {command : Command} {held : Register → UInt32} {register : Register} {mask value : UInt8}

theorem and_lowByte (word : UInt32) : word &&& 0xFF = word.toUInt8.toUInt32 := by
  apply UInt32.toNat_inj.mp
  rw [UInt32.toNat_and]
  exact Nat.and_two_pow_sub_one_eq_mod _ 8

/-- Changing the bits that a mask selects leaves the new bits there. -/
theorem and_of_merged (word value mask : UInt32) :
    ((word &&& ~~~mask) ||| (value &&& mask)) &&& mask = value &&& mask := by
  apply UInt32.toBitVec_inj.mp
  ext place inside
  simp only [UInt32.toBitVec_and, UInt32.toBitVec_or, UInt32.toBitVec_not, BitVec.getElem_and,
    BitVec.getElem_or, BitVec.getElem_not]
  cases mask.toBitVec[place] <;> simp

/-- What is asked of a register decides whether its command is met. -/
theorem met_of_expectation (asked : Bus.expectation? command = some (register, mask, value))
    (held : Register → UInt32) :
    (held register &&& mask.toUInt32 == (value &&& mask).toUInt32) = command.met held := by
  cases command with
  | write register value =>
      cases asked
      have whole : value &&& 0xFF = value := UInt8.and_neg_one
      rw [whole, met, Bool.eq_iff_iff, beq_iff_eq, beq_iff_eq]
      exact and_lowByte (held register) ▸ UInt8.toUInt32_inj
  | update register mask value =>
      cases asked
      rw [UInt8.toUInt32_and, met]
  | burst register data => cases asked
  | pause time => cases asked

theorem met_of_unasked (unasked : Bus.expectation? command = none) (held : Register → UInt32) :
    command.met held = true := by
  cases command <;> first | rfl | cases unasked

/-- A command is asked about the register that it addresses. -/
theorem register_of_expectation
    (asked : Bus.expectation? command = some (register, mask, value)) :
    command.register? = some register := by
  cases command <;> cases asked <;> rfl

/-! ## What a script leaves behind -/

theorem fill_of_notMem {data : Bytes} {other : Register}
    (outside : other ∉ (List.range data.length).map register.advance) :
    register.fill data held other = held other := by
  suffices general : ∀ distance, (∀ place < data.length, other ≠ register.advance
      (distance + place)) → (data.zipIdx distance).foldl (fun held entry =>
        Function.update held (register.advance entry.2) entry.1.toUInt32) held other =
          held other by
    refine general 0 fun place inside same => outside ?_
    rw [Nat.zero_add] at same
    exact List.mem_map.mpr ⟨place, List.mem_range.mpr inside, same.symm⟩
  clear outside
  induction data generalizing held with
  | nil => exact fun _ _ => rfl
  | cons value others ih =>
      intro distance apart
      rw [List.zipIdx_cons, List.foldl_cons, ih (distance + 1) fun place inside => by
        have later := apart (place + 1) (Nat.succ_lt_succ inside)
        rwa [Nat.add_comm place, ← Nat.add_assoc] at later]
      exact Function.update_of_ne (apart 0 (Nat.succ_pos _)) _ _

/-- A command leaves registers alone that it does not name. -/
theorem effect_of_notMem (outside : register ∉ command.registers) :
    command.effect held register = held register := by
  cases command with
  | write target value =>
      exact Function.update_of_ne (fun same => outside (List.mem_singleton.mpr same)) _ _
  | burst target data => exact fill_of_notMem outside
  | update target mask value =>
      exact Function.update_of_ne (fun same => outside (List.mem_singleton.mpr same)) _ _
  | pause time => rfl

theorem effects_of_notMem {script : Script}
    (outside : ∀ command ∈ script, register ∉ command.registers) :
    script.foldl effect held register = held register := by
  induction script generalizing held with
  | nil => rfl
  | cons command others ih =>
      rw [List.foldl_cons, ih fun later member => outside later (List.mem_cons_of_mem _ member),
        effect_of_notMem (outside command List.mem_cons_self)]

/-- A command is met by what it has just done. -/
theorem met_effect (command : Command) (held : Register → UInt32) :
    command.met (command.effect held) = true := by
  cases command with
  | write register value => simp [met, effect]
  | update register mask value => simp only [met, effect, Function.update_self, and_of_merged,
      beq_self_eq_true]
  | burst register data => rfl
  | pause time => rfl

/-- Whether a command is met depends on the registers that it changes. -/
theorem met_congr {other : Register → UInt32}
    (same : ∀ register ∈ command.registers, other register = held register) :
    command.met other = command.met held := by
  cases command with
  | write register value => rw [met, met, same register List.mem_cons_self]
  | update register mask value => rw [met, met, same register List.mem_cons_self]
  | burst register data => rfl
  | pause time => rfl

/-- Commands that change no register in common are all met in the end. -/
theorem all_met_effects {script : Script} (apart : script.Pairwise Apart)
    (held : Register → UInt32) : script.all (met (script.foldl effect held)) = true := by
  induction script generalizing held with
  | nil => rfl
  | cons command others ih =>
      obtain ⟨here, later⟩ := List.pairwise_cons.mp apart
      rw [List.foldl_cons, List.all_cons, ih later, Bool.and_true,
        met_congr fun register changed => effects_of_notMem fun other member =>
          here other member register changed]
      exact met_effect command held

end Tuning.Command

namespace Bus

variable {channel : UInt8} {command : Command} {script others : Script}
  {before middle after : Bus} {failed : Nat} {agreed : Bool}

/--
The calls that a comparison makes for one command, oldest first: a read of its register behind at
most one selection of the bank, or a selection alone where it is refused. There are none for a
command that asks for nothing.
-/
inductive Inspected (granted : UInt8 → Command → Bool) (channel : UInt8) :
    Command → List Attempt → Prop where
  | passed {command : Command} (unasked : expectation? command = none) :
      Inspected granted channel command []
  | looked {command : Command} {register : Register} {mask value : UInt8}
      (asked : expectation? command = some (register, mask, value)) :
      Inspected granted channel command [⟨.read channel register, granted channel command⟩]
  | switched {command : Command} {register : Register} {mask value : UInt8}
      (asked : expectation? command = some (register, mask, value)) :
      Inspected granted channel command [⟨.select channel register.bank, true⟩,
        ⟨.read channel register, granted channel command⟩]
  | stopped {command : Command} {register : Register} {mask value : UInt8}
      (asked : expectation? command = some (register, mask, value))
      (refused : granted channel command = false) :
      Inspected granted channel command [⟨.select channel register.bank, false⟩]

/-- A script was compared with the registers, and the reads of so many of its commands failed. -/
structure Compared (channel : UInt8) (script : Script) (before after : Bus) (failed : Nat)
    (agreed : Bool) : Prop where
  registers : after.transport.registers = before.transport.registers
  /-- The failures of the transport are the same as before. -/
  refuses : after.transport.refuses = before.transport.refuses
  clock : after.clock = before.clock
  attempts : ∃ groups, List.Forall₂ (Inspected before.transport.grants channel) script groups ∧
    after.transport.attempts.reverse = before.transport.attempts.reverse ++ groups.flatten ∧
    failed = groups.countP anyRefused
  /-- Where every read succeeded, all commands were compared. -/
  agreed : failed = 0 → agreed = script.all (Command.met (before.transport.registers channel))

/-- A command is granted where its register may be read. -/
theorem refuses_read {register : Register} (reached : command.register? = some register)
    (transport : Transport) :
    transport.refuses (.read channel register) = !transport.grants channel command := by
  simp [Transport.refuses, Transport.grants, reached, Bool.not_and]

theorem grants_congr {transport other : Transport} (same : other.refuses = transport.refuses) :
    other.grants = transport.grants := by
  funext channel command
  cases reached : command.register? with
  | none => simp [Transport.grants, reached]
  | some register =>
      have read := congrFun same (.read channel register)
      rw [refuses_read reached, refuses_read reached] at read
      exact Bool.not_inj read

theorem inspected_readCalls {register : Register} {mask value : UInt8}
    (asked : expectation? command = some (register, mask, value)) (transport : Transport)
    (known : Option Bank) :
    Inspected transport.grants channel command
      (readCalls transport.refuses channel known register) := by
  have reading : transport.refuses (.read channel register) = !transport.grants channel command :=
    refuses_read (Command.register_of_expectation asked) transport
  unfold readCalls
  rw [reading, Bool.not_not]
  cases selection : transport.refuses (.select channel register.bank) with
  | true =>
      have refused : transport.grants channel command = false := by
        rw [refuses_read_of_select register selection] at reading
        simpa using reading.symm
      split
      · exact .looked asked
      · exact .stopped asked refused
  | false =>
      split
      · exact .looked asked
      · exact .switched asked

namespace Compared

theorem nil (channel : UInt8) (bus : Bus) : Compared channel [] bus bus 0 true where
  registers := rfl
  refuses := rfl
  clock := rfl
  attempts := ⟨[], .nil, (List.append_nil _).symm, rfl⟩
  agreed _ := rfl

/-- A command that asks for nothing is passed over. -/
theorem pass (unasked : expectation? command = none)
    (rest : Compared channel others before after failed agreed) :
    Compared channel (command :: others) before after failed agreed where
  registers := rest.registers
  refuses := rest.refuses
  clock := rest.clock
  attempts := by
    obtain ⟨groups, inspected, made, counted⟩ := rest.attempts
    exact ⟨[] :: groups, .cons (.passed unasked) inspected, made, counted⟩
  agreed clean := by
    rw [rest.agreed clean, List.all_cons, Command.met_of_unasked unasked, Bool.true_and]

/-- A command that asks for a value has its register read. -/
theorem look {register : Register} {mask value : UInt8}
    (asked : expectation? command = some (register, mask, value))
    (rest : Compared channel others (before.read channel register).1 after failed agreed) :
    Compared channel (command :: others) before after
      (failed + if before.transport.refuses (.read channel register) then 1 else 0)
      (if before.transport.refuses (.read channel register) then agreed
        else command.met (before.transport.registers channel) && agreed) := by
  obtain ⟨registers, refuses, _⟩ := read_eq channel register before
  obtain ⟨groups, inspected, made, counted⟩ := rest.attempts
  rw [grants_congr refuses] at inspected
  refine ⟨rest.registers.trans registers, rest.refuses.trans refuses,
    rest.clock.trans (clock_read channel register before),
    ⟨readCalls before.transport.refuses channel (before.selected? channel) register :: groups,
      .cons (inspected_readCalls asked before.transport _) inspected, ?_, ?_⟩, ?_⟩
  · rw [made, attempts_read, List.append_assoc, List.flatten_cons]
  · rw [counted, List.countP_cons, anyRefused_readCalls]
  · intro clean
    obtain ⟨cleanLater, read⟩ := Nat.add_eq_zero_iff.mp clean
    have accepted : ¬before.transport.refuses (.read channel register) = true := fun refused => by
      rw [if_pos refused] at read
      cases read
    rw [if_neg accepted, rest.agreed cleanLater, registers, List.all_cons]

end Compared

/-! ## Whole scripts -/

theorem compareAll_unasked (unasked : expectation? command = none) (channel : UInt8)
    (failures : Nat) (agrees : Bool) (bus : Bus) :
    compareAll channel (command :: others) failures agrees bus =
      compareAll channel others failures agrees bus := by
  simp only [compareAll, unasked]

theorem compareAll_refused {register : Register} {mask value : UInt8} {bus : Bus}
    (asked : expectation? command = some (register, mask, value))
    (refused : bus.transport.refuses (.read channel register) = true) (failures : Nat)
    (agrees : Bool) :
    compareAll channel (command :: others) failures agrees bus =
      compareAll channel others (failures + 1) agrees (bus.read channel register).1 := by
  have yields := (read_eq channel register bus).2.2
  rw [refused, if_pos rfl] at yields
  have outcome : bus.read channel register = ((bus.read channel register).1, none) :=
    Prod.ext rfl yields
  simp only [compareAll, asked]
  rw [outcome]

theorem compareAll_granted {register : Register} {mask value : UInt8} {bus : Bus}
    (asked : expectation? command = some (register, mask, value))
    (granted : bus.transport.refuses (.read channel register) = false) (failures : Nat)
    (agrees : Bool) :
    compareAll channel (command :: others) failures agrees bus =
      compareAll channel others failures
        (agrees && command.met (bus.transport.registers channel))
        (bus.read channel register).1 := by
  have yields := (read_eq channel register bus).2.2
  rw [granted, if_neg Bool.false_ne_true] at yields
  have outcome : bus.read channel register =
      ((bus.read channel register).1, some (bus.transport.registers channel register)) :=
    Prod.ext rfl yields
  simp only [compareAll, asked, ← Command.met_of_expectation asked]
  rw [outcome]

theorem compared_compareAll (channel : UInt8) (script : Script) (failures : Nat) (agrees : Bool)
    (bus : Bus) :
    ∃ failed agreed,
      (compareAll channel script failures agrees bus).2 = (failures + failed, agrees && agreed) ∧
      Compared channel script bus (compareAll channel script failures agrees bus).1 failed
        agreed := by
  induction script generalizing failures agrees bus with
  | nil => exact ⟨0, true, by rw [compareAll, Bool.and_true, Nat.add_zero], .nil channel bus⟩
  | cons command others ih =>
      cases asked : expectation? command with
      | none =>
          obtain ⟨failed, agreed, ended, compared⟩ := ih failures agrees bus
          rw [compareAll_unasked asked]
          exact ⟨failed, agreed, ended, compared.pass asked⟩
      | some entry =>
          obtain ⟨register, mask, value⟩ := entry
          cases refused : bus.transport.refuses (.read channel register) with
          | true =>
              obtain ⟨failed, agreed, ended, compared⟩ :=
                ih (failures + 1) agrees (bus.read channel register).1
              have looks := compared.look asked
              rw [refused, if_pos rfl, if_pos rfl] at looks
              rw [compareAll_refused asked refused]
              exact ⟨failed + 1, agreed, by rw [ended, Nat.add_right_comm, Nat.add_assoc], looks⟩
          | false =>
              obtain ⟨failed, agreed, ended, compared⟩ := ih failures
                (agrees && command.met (bus.transport.registers channel))
                (bus.read channel register).1
              have looks := compared.look asked
              rw [refused, if_neg Bool.false_ne_true, if_neg Bool.false_ne_true,
                Nat.add_zero] at looks
              rw [compareAll_granted asked refused]
              exact ⟨failed, _, by rw [ended, Bool.and_assoc], looks⟩

theorem Inspected.accepted {granted : UInt8 → Command → Bool} {calls : List Attempt}
    (inspected : Inspected granted channel command calls)
    (fine : granted channel command = true) : anyRefused calls = false := by
  cases inspected with
  | passed unasked => rfl
  | looked asked => simp [anyRefused, fine]
  | switched asked => simp [anyRefused, fine]
  | stopped asked refused => rw [fine] at refused; cases refused

theorem countP_of_granted {granted : UInt8 → Command → Bool} {groups : List (List Attempt)}
    (inspected : List.Forall₂ (Inspected granted channel) script groups)
    (fine : ∀ command ∈ script, granted channel command = true) :
    groups.countP anyRefused = 0 := by
  induction inspected with
  | nil => rfl
  | cons first rest ih =>
      obtain ⟨here, later⟩ := List.forall_mem_cons.mp fine
      rw [List.countP_cons, ih later, first.accepted here]
      rfl

theorem compared_verify (channel : UInt8) (script : Script) (bus : Bus) :
    ∃ failed agreed, (bus.verify channel script).2 = TransportFault.answer channel failed agreed ∧
      Compared channel script bus (bus.verify channel script).1 failed agreed := by
  obtain ⟨failed, agreed, ended, compared⟩ := compared_compareAll channel script 0 true bus
  rw [Nat.zero_add, Bool.true_and] at ended
  have outcome : compareAll channel script 0 true bus =
      ((compareAll channel script 0 true bus).1, failed, agreed) := Prod.ext rfl ended
  refine ⟨failed, agreed, ?_, compared⟩
  rw [verify, outcome]
  exact (TransportFault.answer_eq channel failed agreed).symm

/-- A script that was carried out without a fault had all its commands granted. -/
theorem granted_of_execute (clean : (before.execute channel script).2 = none) :
    ∀ command ∈ script, before.transport.grants channel command = true := by
  obtain ⟨failed, reported, written⟩ := asWritten_execute channel script before
  have none_failed := ofCount_eq_none (reported.symm.trans clean)
  rw [written.counted, List.countP_eq_zero] at none_failed
  intro command member
  simpa using none_failed command member

/-- What was carried out without a fault is met, if no register is changed twice. -/
theorem verify_execute {bus : Bus} (clean : (bus.execute channel script).2 = none)
    (apart : script.Pairwise Command.Apart) :
    ((bus.execute channel script).1.verify channel script).2 = .ok true := by
  have granted := granted_of_execute clean
  obtain ⟨_, _, written⟩ := asWritten_execute channel script bus
  obtain ⟨failed, agreed, answered, compared⟩ :=
    compared_verify channel script (bus.execute channel script).1
  obtain ⟨groups, inspected, _, counted⟩ := compared.attempts
  rw [written.failures] at inspected
  have fine : failed = 0 := counted.trans (countP_of_granted inspected granted)
  have held := congrFun written.registers channel
  rw [Function.update_self, List.filter_eq_self.mpr granted] at held
  rw [answered, TransportFault.answer_eq_ok, compared.agreed fine, held]
  exact ⟨fine, Command.all_met_effects apart _⟩

/--
A comparison changes no register and takes no time. For each command that asks for a value it makes
one read, behind at most one selection of the bank, and for the others no call. If the selection or
the read failed for some commands, the answer is the fault with their number, which stays at its
largest value. Otherwise it tells whether all commands are met. So a script that was carried out
without a fault compares equal, if no register is touched by two of its commands.
-/
theorem comparison_agrees_with_execution (channel : UInt8) (script : Script) (bus : Bus) :
    let (after, answer) := bus.verify channel script
    after.transport.registers = bus.transport.registers ∧
    after.clock = bus.clock ∧
    (∃ groups, List.Forall₂ (Inspected bus.transport.grants channel) script groups ∧
      after.transport.attempts.reverse = bus.transport.attempts.reverse ++ groups.flatten ∧
      answer = TransportFault.answer channel (groups.countP anyRefused)
        (script.all (Command.met (bus.transport.registers channel)))) ∧
    ((bus.execute channel script).2 = none → script.Pairwise Command.Apart →
      ((bus.execute channel script).1.verify channel script).2 = .ok true) := by
  obtain ⟨failed, agreed, answered, compared⟩ := compared_verify channel script bus
  obtain ⟨groups, inspected, made, counted⟩ := compared.attempts
  refine ⟨compared.registers, compared.clock, ⟨groups, inspected, made, ?_⟩, verify_execute⟩
  refine answered.trans ?_
  rw [← counted, TransportFault.answer, TransportFault.answer]
  split
  · rename_i clean
    rw [compared.agreed clean]
  · rfl

/-- Commands of every kind, on registers of two banks. -/
def mixedScript : Script :=
  [.write (Register.ofParts 0 0 1) 0xA5, .pause 2, .update (Register.ofParts 0 1 2) 0x0F 0x33,
    .burst (Register.ofParts 0 1 3) [7, 8, 9], .write (Register.ofParts 0 0 6) 1]

/-- Commands of every kind compare equal once they were carried out. -/
theorem mixedScript_compares_equal :
    (Bus.new.execute 2 mixedScript).2 = none ∧ mixedScript.Pairwise Command.Apart ∧
      ((Bus.new.execute 2 mixedScript).1.verify 2 mixedScript).2 = .ok true := by
  have clean : (Bus.new.execute 2 mixedScript).2 = none := by decide +kernel
  have apart : mixedScript.Pairwise Command.Apart := by decide +kernel
  obtain ⟨_, _, _, equal⟩ := comparison_agrees_with_execution 2 mixedScript Bus.new
  exact ⟨clean, apart, equal clean apart⟩

end Bus
end AmpControl
