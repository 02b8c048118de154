import AmpControl.Proofs.Bus.Cursor

/-!
# Tasks that share the bus

Tasks that use the bus at the same time take turns, and may do so after every single use: after each
command of a script, each register of a comparison, and each call made for itself. Between two uses
anything may begin or cease to fail. However the tasks take turns, a register is accessed only while
its bank is selected, and a bank is selected exactly where this is not known already.
-/

namespace AmpControl.Bus

open Tuning (Command Script maxChannels)

/-- One use of the bus, during which nobody else uses it. -/
inductive Use where
  | read (channel : UInt8) (register : Register)
  | write (channel : UInt8) (register : Register) (value : UInt32)
  | burst (channel : UInt8) (register : Register) (data : Bytes)
  | update (channel : UInt8) (register : Register) (mask value : UInt32)
  | reset
  | forget (channel : UInt8)
  | forgetAll
  | pause (microseconds : Nat)
  deriving DecidableEq, Repr

namespace Use

def carryOut : Use → Bus → Bus
  | read channel register, bus => (bus.read channel register).1
  | write channel register value, bus => (bus.write channel register value).1
  | burst channel register data, bus => (bus.burst channel register data).1
  | update channel register mask value, bus => (bus.update channel register mask value).1
  | reset, bus => bus.reset.1
  | forget channel, bus => bus.forget channel
  | forgetAll, bus => bus.forgetAll
  | pause microseconds, bus => bus.wait microseconds

/-- The channel and the register that a use accesses, and the call for it. -/
def access? : Use → Option (UInt8 × Register × Call)
  | read channel register => some (channel, register, .read channel register)
  | write channel register value => some (channel, register, .write channel register value)
  | burst channel register data => some (channel, register, .burst channel register data)
  | update channel register mask value =>
      some (channel, register, .update channel register mask value)
  | reset | forget _ | forgetAll | pause _ => none

/-- What one command of a script makes of the bus. -/
def ofCommand (channel : UInt8) : Command → Use
  | .write register value => write channel register value.toUInt32
  | .burst register data => burst channel register data
  | .update register mask value => update channel register mask.toUInt32 value.toUInt32
  | .pause time => pause (milliseconds time.toNat)

end Use

/-- An operation that consists of uses of the bus. -/
inductive Task where
  | execute (channel : UInt8) (script : Script)
  | verify (channel : UInt8) (script : Script)
  | single (use : Use)
  deriving DecidableEq, Repr

namespace Task

/-- The uses that a task consists of. No use depends on what came of those before it. -/
def uses : Task → List Use
  | execute channel script => script.map (Use.ofCommand channel)
  | verify channel script =>
      (script.filterMap expectation?).map fun expected => .read channel expected.1
  | single use => [use]

/-- A task that has the bus for itself. -/
def run : Task → Bus → Bus
  | execute channel script, bus => (bus.execute channel script).1
  | verify channel script, bus => (bus.verify channel script).1
  | single use, bus => use.carryOut bus

theorem carryOut_ofCommand (channel : UInt8) (command : Command) (bus : Bus) :
    (Use.ofCommand channel command).carryOut bus = (bus.carryOut channel command).1 := by
  cases command <;> rfl

theorem foldl_execute (channel : UInt8) (script : Script) (failures : Nat) (bus : Bus) :
    (execute channel script).uses.foldl (fun held use => use.carryOut held) bus =
      (carryOutAll channel script failures bus).1 := by
  induction script generalizing failures bus with
  | nil => rfl
  | cons command others ih =>
      rw [carryOutAll, uses, List.map_cons, List.foldl_cons, carryOut_ofCommand]
      exact ih _ _

theorem foldl_verify (channel : UInt8) (script : Script) (failures : Nat) (agrees : Bool)
    (bus : Bus) :
    (verify channel script).uses.foldl (fun held use => use.carryOut held) bus =
      (compareAll channel script failures agrees bus).1 := by
  induction script generalizing failures agrees bus with
  | nil => rfl
  | cons command others ih =>
      rw [compareAll]
      cases expected : expectation? command with
      | none =>
          rw [uses, List.filterMap_cons_none expected]
          exact ih _ _ _
      | some wanted =>
          obtain ⟨register, mask, value⟩ := wanted
          rw [uses, List.filterMap_cons_some expected, List.map_cons, List.foldl_cons]
          simp only [Use.carryOut]
          cases bus.read channel register with
          | mk after held => cases held <;> exact ih _ _ _

/-- A task that nobody interferes with makes its uses one after the other. -/
theorem run_eq_uses (task : Task) (bus : Bus) :
    task.run bus = task.uses.foldl (fun held use => use.carryOut held) bus := by
  cases task with
  | execute channel script => exact (foldl_execute channel script 0 bus).symm
  | verify channel script => exact (foldl_verify channel script 0 true bus).symm
  | single use => rfl

end Task

/-- The calls that were made between two states of the bus, the latest first. -/
def made (before after : Bus) : List Attempt :=
  after.transport.attempts.take
    (after.transport.attempts.length - before.transport.attempts.length)

theorem made_eq {before after : Bus} {calls : List Attempt}
    (grown : after.transport.attempts = calls ++ before.transport.attempts) :
    made before after = calls := by
  rw [made, grown, List.length_append, Nat.add_sub_cancel, List.take_left']
  rfl

/-- The calls among occurrences. -/
def calls (trace : List Occurrence) : List Attempt :=
  trace.filterMap fun
    | .attempted attempt => some attempt
    | .forgot _ | .forgotAll => none

theorem calls_occurred (attempts : List Attempt) : calls (occurred attempts) = attempts := by
  rw [calls, occurred, List.filterMap_map]
  exact List.filterMap_some

namespace Use

variable {use : Use} {bus : Bus} {channel : UInt8} {register : Register} {call : Call}

/-- What occurs when the bus is used, the latest first. -/
def occurrences (use : Use) (bus : Bus) : List Occurrence :=
  match use with
  | forget channel => [.forgot channel]
  | forgetAll => [.forgotAll]
  | _ => occurred (made bus (use.carryOut bus))

theorem carryOut_eq_access (accesses : use.access? = some (channel, register, call)) (bus : Bus) :
    use.carryOut bus = (bus.access channel register call).1 ∧ call.channel? = some channel ∧
      call.register? = some register ∧
      use.occurrences bus = occurred (made bus (use.carryOut bus)) := by
  cases use <;> cases accesses <;> exact ⟨rfl, rfl, rfl, rfl⟩

/-- A use keeps the trace complete and what the bus remembers coherent with it. -/
theorem carryOut_spec (use : Use) (bus : Bus) :
    (use.carryOut bus).transport.attempts = calls (use.occurrences bus) ++ bus.transport.attempts ∧
      ∀ trace, Coherent bus trace →
        Coherent (use.carryOut bus) (use.occurrences bus ++ trace) := by
  have called (carries : Carries bus (use.carryOut bus)) :
      (use.carryOut bus).transport.attempts =
          calls (occurred (made bus (use.carryOut bus))) ++ bus.transport.attempts ∧
        ∀ trace, Coherent bus trace →
          Coherent (use.carryOut bus) (occurred (made bus (use.carryOut bus)) ++ trace) := by
    obtain ⟨attempts, grown, keeps⟩ := carries
    rw [made_eq grown, calls_occurred]
    exact ⟨grown, keeps⟩
  cases use with
  | read channel register => exact called (carries_access _ _ rfl rfl bus)
  | write channel register value => exact called (carries_access _ _ rfl rfl bus)
  | burst channel register data => exact called (carries_access _ _ rfl rfl bus)
  | update channel register mask value => exact called (carries_access _ _ rfl rfl bus)
  | reset => exact called (carries_reset bus)
  | forget channel => exact ⟨rfl, fun _ coherent => coherent.forget channel⟩
  | forgetAll => exact ⟨rfl, fun _ coherent => coherent.forgetAll⟩
  | pause microseconds => exact called (.of_selected rfl rfl)

end Use

/-- The bus, the uses that each task has still to make, and what occurred, the latest first. -/
structure System where
  bus : Bus
  pending : List (List Use)
  trace : List Occurrence

/-- Something that may happen next. -/
inductive Action where
  /-- A task begins. -/
  | start (task : Task)
  /-- The task at a place makes its next use. -/
  | advance (place : Nat)
  /--
  Registers change by themselves, and calls begin or cease to fail: all calls to a channel, accesses
  of one register, or resets.
  -/
  | disturb (transport : Transport)

namespace System

/-- Nothing has begun, and no bank is known to be selected. -/
def idle (transport : Transport) (clock : Nat) : System :=
  ⟨⟨transport, Vector.replicate maxChannels none, clock⟩, [], []⟩

def act (system : System) : Action → System
  | .start task => { system with pending := system.pending ++ [task.uses] }
  | .advance place =>
      match system.pending[place]? with
      | some (use :: others) =>
          { bus := use.carryOut system.bus
            pending := system.pending.set place others
            trace := use.occurrences system.bus ++ system.trace }
      | _ => system
  | .disturb transport =>
      { system with
        bus := { system.bus with
          transport := { transport with attempts := system.bus.transport.attempts } } }

def after (system : System) (actions : List Action) : System := actions.foldl act system

/-- The trace is complete, and the bus remembers what occurred. -/
structure Observed (origin : Transport) (system : System) : Prop where
  complete : system.bus.transport.attempts = calls system.trace ++ origin.attempts
  coherent : Coherent system.bus system.trace

theorem observed_idle (transport : Transport) (clock : Nat) :
    Observed transport (idle transport clock) := by
  refine ⟨rfl, .nil fun channel _ => ?_⟩
  simp only [selected?, idle, Vector.getElem?_replicate]
  split <;> rfl

/-- Whatever happens next is observed. -/
theorem observed_act {origin : Transport} {system : System} (observed : Observed origin system)
    (action : Action) : Observed origin (system.act action) := by
  cases action with
  | start task => exact ⟨observed.complete, observed.coherent⟩
  | disturb transport => exact ⟨observed.complete, observed.coherent.of_selected rfl⟩
  | advance place =>
      rw [act]
      split
      · rename_i use others _
        obtain ⟨logged, keeps⟩ := use.carryOut_spec system.bus
        refine ⟨?_, keeps _ observed.coherent⟩
        rw [logged, observed.complete, ← List.append_assoc, calls, calls, ← List.filterMap_append]
        rfl
      · exact observed

theorem observed_after {origin : Transport} {system : System} (observed : Observed origin system)
    (actions : List Action) : Observed origin (system.after actions) := by
  induction actions generalizing system with
  | nil => exact observed
  | cons action others ih => exact ih (observed_act observed action)

/--
However tasks take turns and whatever fails meanwhile, no call escapes the trace, and: a register of
a channel is accessed only while its bank is selected; a bank that is selected already is never
selected again; and the next use that accesses a register makes its access alone if the bank is
known to be selected, and otherwise selects the bank first.
-/
theorem banks_selected_where_needed (transport : Transport) (clock : Nat)
    (actions : List Action) :
    let system := (idle transport clock).after actions
    system.bus.transport.attempts = calls system.trace ++ transport.attempts ∧
    (∀ call accepted older channel register,
      .attempted ⟨call, accepted⟩ :: older <:+ system.trace →
      call.channel? = some channel → call.register? = some register →
      channel.toNat < maxChannels → tracked channel older = some register.bank) ∧
    (∀ channel bank accepted older,
      .attempted ⟨.select channel bank, accepted⟩ :: older <:+ system.trace →
      channel.toNat < maxChannels → tracked channel older ≠ some bank) ∧
    (∀ (use : Use) channel register call, use.access? = some (channel, register, call) →
      channel.toNat < maxChannels →
      ∃ attempts, use.occurrences system.bus = occurred attempts ∧
        Accessing channel register call (tracked channel system.trace = some register.bank)
          attempts) := by
  intro system
  obtain ⟨complete, coherent⟩ := observed_after (observed_idle transport clock) actions
  refine ⟨complete, ?_, ?_, ?_⟩
  · intro call accepted older channel register suffix addresses accesses inside
    exact (coherent.justified call accepted older suffix).access channel register addresses
      accesses inside
  · intro channel bank accepted older suffix inside
    exact (coherent.justified _ accepted older suffix).selection channel bank rfl inside
  · intro use channel register call accesses inside
    obtain ⟨carried, addresses, reaches, occurs⟩ := Use.carryOut_eq_access accesses system.bus
    obtain ⟨attempts, logged, accessing, _⟩ :=
      access_spec register call addresses reaches system.bus
    rw [← carried] at logged
    rw [coherent.cursor channel inside] at accessing
    exact ⟨attempts, by rw [occurs, made_eq logged], accessing⟩

/-- Two scripts on one channel that take turns and keep each other from remembering a bank. -/
def alternating : List Action :=
  [.start (.execute 0 [.write (.ofParts 0 0 1) 1, .write (.ofParts 0 0 2) 2]),
    .start (.verify 0 [.write (.ofParts 0 1 3) 3]), .advance 0, .advance 1, .advance 0]

theorem alternating_selects_again :
    let system := (idle .new 0).after alternating
    system.trace.length = 6 ∧
      tracked 0 (system.trace.drop 1) = some (Register.ofParts 0 0 2).bank ∧
      tracked 0 (system.trace.drop 2) = some (Register.ofParts 0 1 3).bank := by
  have last : .attempted ⟨.write 0 (.ofParts 0 0 2) 2, true⟩ ::
        ((idle .new 0).after alternating).trace.drop 1 =
      ((idle .new 0).after alternating).trace := by decide +kernel
  refine ⟨by decide +kernel, ?_, by decide +kernel⟩
  exact (banks_selected_where_needed .new 0 alternating).2.1 _ _ _ 0 _
    (last ▸ List.suffix_refl ((idle .new 0).after alternating).trace) rfl rfl (by decide)

end System

end AmpControl.Bus
