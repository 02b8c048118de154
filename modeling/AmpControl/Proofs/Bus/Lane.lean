import AmpControl.Proofs.Bus.Cursor

/-!
# The lane of a channel

The lane of a channel is all that the bus holds for it: its registers, its remembered bank, the
calls to it, and which of them are refused. What is done on a channel is decided by its lane, and
leaves the lanes of all other channels as they are.
-/

namespace AmpControl.Bus

open Tuning (Command Script maxChannels)

/-- What the bus holds for one channel. -/
structure Lane where
  registers : Register → UInt32
  bank : Option Bank
  /-- The attempted calls to the channel, the latest first. -/
  calls : List Attempt
  /-- All calls to the channel are refused. -/
  failing : Bool
  /-- The registers whose accesses are refused. -/
  failingRegister : Register → Bool

def lane (channel : UInt8) (bus : Bus) : Lane where
  registers := bus.transport.registers channel
  bank := bus.selected? channel
  calls := bus.transport.attempts.filter fun attempt => attempt.call.channel? == some channel
  failing := bus.transport.failingChannels.contains channel
  failingRegister register := bus.transport.failingRegisters.contains (channel, register)

variable {channel other : UInt8} {bus before after : Bus} {call : Call}

/-! ## Single calls -/

theorem refuses_eq_of_lane (same : lane channel before = lane channel after)
    (addresses : call.channel? = some channel) :
    before.transport.refuses call = after.transport.refuses call := by
  have failing : before.transport.failingChannels.contains channel =
      after.transport.failingChannels.contains channel := congrArg Lane.failing same
  have register (register : Register) :
      before.transport.failingRegisters.contains (channel, register) =
        after.transport.failingRegisters.contains (channel, register) :=
    congrFun (congrArg Lane.failingRegister same) register
  cases call <;> cases addresses <;> simp only [Transport.refuses, failing, register]

theorem storeAll_of_ne (apart : channel ≠ other) (register : Register) (distance : Nat)
    (data : Bytes) (registers : Registers) :
    Registers.storeAll other register distance data registers channel = registers channel := by
  induction data generalizing distance registers with
  | nil => rfl
  | cons value others ih =>
      rw [Registers.storeAll, ih]
      funext held
      exact if_neg fun both => apart both.1

/-- A call changes the registers of the channel that it addresses, and no others. -/
theorem apply_of_ne (apart : channel ≠ other) (addresses : call.channel? = some other)
    (registers : Registers) : registers.apply call channel = registers channel := by
  cases call <;> cases addresses
  case burst register data => exact storeAll_of_ne apart register 0 data registers
  all_goals
    funext held
    first
      | rfl
      | exact if_neg fun both => apart both.1

theorem storeAll_congr {first second : Registers} (same : first channel = second channel)
    (register : Register) (distance : Nat) (data : Bytes) :
    Registers.storeAll channel register distance data first channel =
      Registers.storeAll channel register distance data second channel := by
  induction data generalizing distance first second with
  | nil => exact same
  | cons value others ih =>
      refine ih ?_ _
      funext held
      simp only [Registers.store, same]

theorem apply_congr {first second : Registers} (same : first channel = second channel)
    (addresses : call.channel? = some channel) :
    first.apply call channel = second.apply call channel := by
  cases call <;> cases addresses
  case burst register data => exact storeAll_congr same register 0 data
  all_goals
    funext held
    simp only [Registers.apply, Registers.store, same]

/-- A call to another channel leaves a lane as it is. -/
theorem lane_attempt_of_ne (apart : channel ≠ other) (addresses : call.channel? = some other)
    (bus : Bus) : lane channel (bus.attempt call).1 = lane channel bus := by
  have elsewhere : (call.channel? == some channel) = false := by
    rw [addresses]
    simpa using Ne.symm apart
  simp only [attempt, Transport.attempt]
  split
  · simp only [lane, selected?, List.filter_cons, elsewhere, Bool.false_eq_true, if_false]
  · simp only [lane, selected?, List.filter_cons, elsewhere, Bool.false_eq_true, if_false,
      apply_of_ne apart addresses]

/-- The lane of the channel that a call addresses decides what comes of the call. -/
theorem lane_attempt_congr (same : lane channel before = lane channel after)
    (addresses : call.channel? = some channel) :
    lane channel (before.attempt call).1 = lane channel (after.attempt call).1 ∧
      (before.attempt call).2 = (after.attempt call).2 := by
  have here : (call.channel? == some channel) = true := by simp [addresses]
  have refused := refuses_eq_of_lane same addresses
  obtain ⟨registers, bank, calls, failing, failingRegister⟩ := Lane.mk.inj same
  simp only [attempt, Transport.attempt, ← refused]
  split
  · refine ⟨?_, rfl⟩
    simp only [lane, selected?, List.filter_cons, here, if_true, registers, calls, failing,
      failingRegister] at bank ⊢
    rw [bank]
  · refine ⟨?_, rfl⟩
    simp only [lane, selected?, List.filter_cons, here, if_true, apply_congr registers addresses,
      calls, failing, failingRegister] at bank ⊢
    rw [bank]

/-! ## Remembered banks -/

theorem selected?_remember_of_ne (apart : channel ≠ other) (bank : Option Bank) (bus : Bus) :
    (bus.remember other bank).selected? channel = bus.selected? channel := by
  have places : other.toNat ≠ channel.toNat := fun equal => apart (UInt8.toNat_inj.mp equal).symm
  simp only [selected?, remember, Vector.getElem?_setIfInBounds, if_neg places]

/-- A channel past the last one has no bank remembered. -/
theorem selected?_eq_none (outside : ¬channel.toNat < maxChannels) (bus : Bus) :
    bus.selected? channel = none := by
  rw [selected?, Vector.getElem?_eq_none (Nat.le_of_not_lt outside)]
  rfl

theorem lane_remember_of_ne (apart : channel ≠ other) (bank : Option Bank) (bus : Bus) :
    lane channel (bus.remember other bank) = lane channel bus := by
  have held := selected?_remember_of_ne apart bank bus
  simp only [lane, held]
  rfl

theorem lane_remember_congr (same : lane channel before = lane channel after)
    (bank : Option Bank) :
    lane channel (before.remember channel bank) = lane channel (after.remember channel bank) := by
  have held : (before.remember channel bank).selected? channel =
      (after.remember channel bank).selected? channel := by
    by_cases inside : channel.toNat < maxChannels
    · rw [selected?_remember _ _ _ inside, selected?_remember _ _ _ inside, if_pos rfl, if_pos rfl]
    · rw [selected?_eq_none inside, selected?_eq_none inside]
  obtain ⟨registers, _, calls, failing, failingRegister⟩ := Lane.mk.inj same
  exact Lane.mk.injEq .. ▸ ⟨registers, held, calls, failing, failingRegister⟩

/-! ## Accesses and commands -/

theorem lane_select_of_ne (apart : channel ≠ other) (bank : Bank) (bus : Bus) :
    lane channel (bus.select other bank).1 = lane channel bus := by
  unfold select
  split
  · rfl
  · exact (lane_remember_of_ne apart _ _).trans (lane_attempt_of_ne apart rfl bus)

theorem lane_select_congr (same : lane channel before = lane channel after) (bank : Bank) :
    lane channel (before.select channel bank).1 = lane channel (after.select channel bank).1 ∧
      (before.select channel bank).2 = (after.select channel bank).2 := by
  have held : before.selected? channel = after.selected? channel := congrArg Lane.bank same
  obtain ⟨lanes, carriedOut⟩ :=
    lane_attempt_congr same (show (Call.select channel bank).channel? = _ from rfl)
  unfold select
  rw [held]
  split
  · exact ⟨same, rfl⟩
  · simp only [carriedOut]
    exact ⟨lane_remember_congr lanes _, trivial⟩

theorem lane_access_of_ne (apart : channel ≠ other) (register : Register)
    (addresses : call.channel? = some other) (bus : Bus) :
    lane channel (bus.access other register call).1 = lane channel bus := by
  have selected := lane_select_of_ne apart register.bank bus
  unfold access
  simp only
  split
  · exact (lane_attempt_of_ne apart addresses _).trans selected
  · exact selected

theorem lane_access_congr (same : lane channel before = lane channel after) (register : Register)
    (addresses : call.channel? = some channel) :
    lane channel (before.access channel register call).1 =
        lane channel (after.access channel register call).1 ∧
      (before.access channel register call).2 = (after.access channel register call).2 := by
  obtain ⟨selected, ready⟩ := lane_select_congr same register.bank
  unfold access
  simp only [ready]
  split
  · exact lane_attempt_congr selected addresses
  · exact ⟨selected, rfl⟩

theorem lane_carryOut_of_ne (apart : channel ≠ other) (command : Command) (bus : Bus) :
    lane channel (bus.carryOut other command).1 = lane channel bus := by
  cases command with
  | write register value => exact lane_access_of_ne apart register rfl bus
  | burst register data => exact lane_access_of_ne apart register rfl bus
  | update register mask value => exact lane_access_of_ne apart register rfl bus
  | pause time => rfl

theorem lane_carryOut_congr (same : lane channel before = lane channel after) (command : Command) :
    lane channel (before.carryOut channel command).1 =
        lane channel (after.carryOut channel command).1 ∧
      (before.carryOut channel command).2 = (after.carryOut channel command).2 := by
  cases command with
  | write register value => exact lane_access_congr same register rfl
  | burst register data => exact lane_access_congr same register rfl
  | update register mask value => exact lane_access_congr same register rfl
  | pause time => exact ⟨same, rfl⟩

/-! ## Scripts -/

theorem lane_carryOutAll_of_ne (apart : channel ≠ other) (script : Script) (failures : Nat)
    (bus : Bus) : lane channel (carryOutAll other script failures bus).1 = lane channel bus := by
  induction script generalizing failures bus with
  | nil => rfl
  | cons command others ih =>
      rw [carryOutAll]
      exact (ih _ _).trans (lane_carryOut_of_ne apart command bus)

theorem lane_carryOutAll_congr (same : lane channel before = lane channel after) (script : Script)
    (failures : Nat) :
    lane channel (carryOutAll channel script failures before).1 =
        lane channel (carryOutAll channel script failures after).1 ∧
      (carryOutAll channel script failures before).2 =
        (carryOutAll channel script failures after).2 := by
  induction script generalizing failures before after with
  | nil => exact ⟨same, rfl⟩
  | cons command others ih =>
      obtain ⟨lanes, carriedOut⟩ := lane_carryOut_congr same command
      rw [carryOutAll, carryOutAll, carriedOut]
      exact ih lanes _

/-- A script that was carried out up to some command goes on with this command. -/
theorem carryOutAll_concat (script : Script) (command : Command) (failures : Nat) (bus : Bus) :
    carryOutAll channel (script ++ [command]) failures bus =
      let sofar := carryOutAll channel script failures bus
      let outcome := sofar.1.carryOut channel command
      (outcome.1, if outcome.2 then sofar.2 else sofar.2 + 1) := by
  induction script generalizing failures bus with
  | nil => rfl
  | cons first others ih =>
      rw [List.cons_append, carryOutAll, ih]
      rfl

end AmpControl.Bus
