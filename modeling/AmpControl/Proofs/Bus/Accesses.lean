import AmpControl.Proofs.Bus.Blame

/-!
# Accesses to the registers of a channel

The accesses of a channel are the calls to its registers, in the order in which they were attempted.
Selections of banks come in between where they are needed and are left out. Where no call is
refused, a script makes the accesses of its commands, a poll reads each status register once, and
what is done on other channels makes none.
-/

namespace AmpControl

open Bus (Attempt Call Makes)
open Tuning (Command InterruptTable Script Source)

/-- The call to a register that a command makes. -/
def Tuning.Command.access? (channel : UInt8) : Command → Option Call
  | .write register value => some (.write channel register value.toUInt32)
  | .burst register data => some (.burst channel register data)
  | .update register mask value => some (.update channel register mask.toUInt32 value.toUInt32)
  | .pause _ => none

/-- The calls to registers that a script makes. -/
def Tuning.Script.accesses (channel : UInt8) (script : Script) : List Call :=
  script.filterMap (Command.access? channel)

/-- The status registers of the sources that are polled, each of them once. -/
def Tuning.InterruptTable.polledRegisters (table : InterruptTable) (powered : Bool) :
    List Register :=
  ((Poll.polled table powered).map fun entry => entry.1.status).eraseDups

namespace Bus

variable {channel : UInt8} {bus before after : Bus} {call : Call} {register : Register}

/-- A call to a register of a channel. -/
def Call.accesses (channel : UInt8) (call : Call) : Bool :=
  call.channel? == some channel && !call.selects channel

/-- The attempted calls to registers of a channel, oldest first. -/
def accesses (channel : UInt8) (bus : Bus) : List Call :=
  (bus.transport.attempts.reverse.map (·.call)).filter (Call.accesses channel)

theorem accesses_of_calls {calls : List Attempt}
    (made : after.transport.attempts = calls ++ before.transport.attempts) :
    after.accesses channel =
      before.accesses channel ++ (calls.reverse.map (·.call)).filter (Call.accesses channel) := by
  rw [accesses, made, List.reverse_append, List.map_append, List.filter_append, accesses]

/-- What is done on other channels makes no access. -/
theorem accesses_of_elsewhere
    (makes : Makes (fun attempt => attempt.call.channel? ≠ some channel) before after) :
    after.accesses channel = before.accesses channel := by
  obtain ⟨calls, made, elsewhere⟩ := makes.calls
  have none : (calls.reverse.map (·.call)).filter (Call.accesses channel) = [] := by
    rw [List.filter_eq_nil_iff]
    intro call member
    obtain ⟨attempt, made, rfl⟩ := List.mem_map.mp member
    have apart := elsewhere attempt (List.mem_reverse.mp made)
    simp [Call.accesses, apart]
  rw [accesses_of_calls made, none, List.append_nil]

theorem accesses_attempt (call : Call) (bus : Bus) :
    (bus.attempt call).1.accesses channel =
      bus.accesses channel ++ [call].filter (Call.accesses channel) := by
  have made : (bus.attempt call).1.transport.attempts =
      [⟨call, (bus.attempt call).2⟩] ++ bus.transport.attempts := attempts_attempt call bus
  exact accesses_of_calls made

theorem accesses_select (bank : Bank) (bus : Bus) :
    (bus.select channel bank).1.accesses channel = bus.accesses channel := by
  have selection : [Call.select channel bank].filter (Call.accesses channel) = [] := by
    simp [Call.accesses, Call.selects]
  unfold select
  split
  · rfl
  · have attempted : (bus.attempt (.select channel bank)).1.accesses channel = _ :=
      accesses_attempt _ bus
    rw [selection, List.append_nil] at attempted
    exact attempted

theorem accesses_access (here : call.accesses channel = true)
    (clean : (bus.access channel register call).1.refusals = bus.refusals) :
    (bus.access channel register call).1.accesses channel = bus.accesses channel ++ [call] := by
  have selected : (bus.select channel register.bank).1.accesses channel = _ :=
    accesses_select register.bank bus
  unfold access at clean ⊢
  cases ready : (bus.select channel register.bank).2 with
  | true =>
      simp only [ready, if_true]
      rw [accesses_attempt, selected, List.filter_cons_of_pos here, List.filter_nil]
  | false =>
      simp only [ready, Bool.false_eq_true, if_false] at clean
      exact absurd clean (Nat.ne_of_gt (refusals_select ready))

theorem accesses_read (clean : (bus.read channel register).1.refusals = bus.refusals) :
    (bus.read channel register).1.accesses channel =
      bus.accesses channel ++ [.read channel register] :=
  accesses_access (by simp [Call.accesses, Call.channel?, Call.selects]) clean

theorem accesses_carryOut {command : Command}
    (clean : (bus.carryOut channel command).1.refusals = bus.refusals) :
    (bus.carryOut channel command).1.accesses channel =
      bus.accesses channel ++ (command.access? channel).toList := by
  have addressed {call : Call} (here : call.channel? = some channel)
      (other : call.selects channel = false) : call.accesses channel = true := by
    simp [Call.accesses, here, other]
  cases command with
  | write register value => exact accesses_access (addressed rfl rfl) clean
  | burst register data => exact accesses_access (addressed rfl rfl) clean
  | update register mask value => exact accesses_access (addressed rfl rfl) clean
  | pause time => exact (List.append_nil _).symm

theorem accesses_carryOutAll {script : Script} {failures : Nat}
    (clean : (carryOutAll channel script failures bus).1.refusals = bus.refusals) :
    (carryOutAll channel script failures bus).1.accesses channel =
      bus.accesses channel ++ script.accesses channel := by
  induction script generalizing failures bus with
  | nil => exact (List.append_nil _).symm
  | cons command others ih =>
      have first := (makes_carryOut channel command bus).refusals
      unfold carryOutAll at clean ⊢
      simp only at clean ⊢
      have rest := (makes_carryOutAll channel others (if (bus.carryOut channel command).2 then
        failures else failures + 1) (bus.carryOut channel command).1).refusals
      have cleanFirst : (bus.carryOut channel command).1.refusals = bus.refusals := by omega
      have made : Script.accesses channel (command :: others) =
          (command.access? channel).toList ++ Script.accesses channel others := by
        rw [Script.accesses, List.filterMap_cons]
        cases command.access? channel <;> rfl
      rw [ih (clean.trans cleanFirst.symm), accesses_carryOut cleanFirst, made, List.append_assoc]

/-- A script makes the accesses of its commands. -/
theorem accesses_execute {script : Script}
    (clean : (bus.execute channel script).1.refusals = bus.refusals) :
    (bus.execute channel script).1.accesses channel =
      bus.accesses channel ++ script.accesses channel :=
  accesses_carryOutAll clean

end Bus

/-! ## Polls -/

namespace Poll

variable {channel : UInt8} {poll : Poll}

/-- The registers among some that a poll has not read yet, each of them once. -/
def unread (poll : Poll) (registers : List Register) : List Register :=
  (registers.filter fun register =>
    (poll.seen.find? fun entry => entry.1 == register).isNone).eraseDups

/-- A register that is looked at is not read again, and no other one ceases to be unread. -/
theorem unread_cons (channel : UInt8) (register : Register) (others : List Register)
    (poll : Poll) :
    poll.unread (register :: others) =
      (if (poll.seen.find? fun entry => entry.1 == register).isNone then [register] else []) ++
        (poll.status channel register).1.unread others := by
  unfold unread status
  cases found : poll.seen.find? fun entry => entry.1 == register with
  | some entry => simp [found]
  | none =>
      have later : (others.filter fun other => ((poll.seen ++
            [(register, (poll.bus.read channel register).2)]).find?
              fun entry => entry.1 == other).isNone) =
          (others.filter fun other => (poll.seen.find? fun entry => entry.1 == other).isNone).filter
            fun other => !(other == register) := by
        rw [List.filter_filter]
        refine List.filter_congr fun other _ => ?_
        rw [List.find?_append]
        cases poll.seen.find? fun entry => entry.1 == other with
        | some entry => simp
        | none =>
            by_cases same : register = other
            · simp [same]
            · simp [same, Ne.symm same]
      simp only [later]
      rw [List.filter_cons_of_pos (by simp [found]), List.eraseDups_cons]
      rfl

/-- A register is read the first time, and not again. -/
theorem accesses_status {register : Register} (others : List Register)
    (clean : (poll.status channel register).1.bus.refusals = poll.bus.refusals) :
    (poll.status channel register).1.bus.accesses channel ++
        ((poll.status channel register).1.unread others).map (.read channel) =
      poll.bus.accesses channel ++ (poll.unread (register :: others)).map (.read channel) := by
  rw [unread_cons channel]
  unfold status at clean ⊢
  cases found : poll.seen.find? fun entry => entry.1 == register with
  | some entry => rfl
  | none =>
      simp only [found] at clean ⊢
      rw [Bus.accesses_read clean, List.append_assoc]
      rfl

theorem seen_visit (channel : UInt8) (index : Nat) (source : Source) (poll : Poll) :
    (poll.visit channel index source).seen = (poll.status channel source.status).1.seen := by
  unfold visit
  cases poll.status channel source.status with
  | mk after held =>
      cases held with
      | none => rfl
      | some value =>
          simp only
          split <;> rfl

theorem unread_visit (channel : UInt8) (index : Nat) (source : Source) (poll : Poll)
    (registers : List Register) :
    (poll.visit channel index source).unread registers =
      (poll.status channel source.status).1.unread registers := by
  rw [unread, unread, seen_visit]

theorem accesses_visitAll {sources : List (Source × Nat)}
    (clean : (visitAll channel sources poll).bus.refusals = poll.bus.refusals) :
    (visitAll channel sources poll).bus.accesses channel = poll.bus.accesses channel ++
      (poll.unread (sources.map fun entry => entry.1.status)).map (.read channel) := by
  induction sources generalizing poll with
  | nil => exact (List.append_nil _).symm
  | cons entry others ih =>
      obtain ⟨source, index⟩ := entry
      obtain ⟨sameBus, _⟩ := bus_visit channel index source poll
      have first := (makes_status channel source.status poll).refusals
      have rest := (makes_visitAll channel others (poll.visit channel index source)).refusals
      unfold visitAll at clean ⊢
      rw [sameBus] at rest
      have cleanFirst : (poll.status channel source.status).1.bus.refusals =
          poll.bus.refusals := by omega
      have read := accesses_status (others.map fun entry => entry.1.status) cleanFirst
      rw [List.map_cons, ← read, ih (by rw [clean, sameBus, cleanFirst]), sameBus, unread_visit]

/-- At the start of a poll every register is unread. -/
theorem unread_start (counters : List Counter) (bus : Bus) (registers : List Register) :
    (start counters bus).unread registers = registers.eraseDups := by
  rw [unread, List.filter_eq_self.mpr]
  intro register _
  rfl

end Poll

/-- A poll reads every status register that it needs, once. -/
theorem Tuning.InterruptTable.accesses_classify (table : InterruptTable) (channel : UInt8)
    (powered : Bool) (counters : List Counter) (bus : Bus)
    (clean : (table.classify channel powered counters bus).bus.refusals = bus.refusals) :
    (table.classify channel powered counters bus).bus.accesses channel =
      bus.accesses channel ++ (table.polledRegisters powered).map (.read channel) := by
  have read : (Poll.visitAll channel (Poll.polled table powered)
      (Poll.start counters bus)).bus.accesses channel = _ := Poll.accesses_visitAll clean
  rw [Poll.unread_start] at read
  exact read

end AmpControl
