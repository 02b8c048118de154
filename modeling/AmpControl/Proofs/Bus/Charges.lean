import AmpControl.Proofs.Bus.Calls
import AmpControl.Proofs.Interrupt.Debounce

/-!
# Refused calls and the fault that is reported

However work on the bus is divided into commands, scripts and controls, the fault that comes of it
is the one of its refused calls: it stands for their number, up to its largest value, under the
channel of the first of them. None of them is counted twice and none is left out.
-/

namespace AmpControl

open Bus (Attempt Call)
open Tuning (Command Control Script)

/-! ## Faults together -/

namespace TransportFault

theorem join_none (fault : Option TransportFault) : join fault none = fault := by
  cases fault <;> rfl

theorem ofNatClamp_eq_min (amount : Nat) :
    UInt32.ofNatClamp amount = UInt32.ofNat (min amount (UInt32.size - 1)) := by
  rw [← toNat_ofNatClamp, UInt32.ofNat_toNat]

/-- A number of failed calls as it is reported: capped at the largest word. -/
theorem ofCount_capped (channel : UInt8) (failed : Nat) :
    ofCount channel failed = if failed = 0 then none
      else some ⟨channel, UInt32.ofNat (min failed (UInt32.size - 1))⟩ := by
  rw [ofCount, ofNatClamp_eq_min]

/--
What comes of work of which so many calls failed: its value if none did, and otherwise the fault
with their number, which stays at its largest value.
-/
def answer {α : Type} (channel : UInt8) (failed : Nat) (value : α) : Except TransportFault α :=
  if failed = 0 then .ok value
  else .error ⟨channel, UInt32.ofNat (min failed (UInt32.size - 1))⟩

theorem answer_eq {α : Type} (channel : UInt8) (failed : Nat) (value : α) :
    answer channel failed value =
      match ofCount channel failed with
      | none => .ok value
      | some fault => .error fault := by
  rw [answer, ofCount_capped]
  by_cases clean : failed = 0
  · rw [if_pos clean, if_pos clean]
  · rw [if_neg clean, if_neg clean]

theorem answer_eq_ok {α : Type} {channel : UInt8} {failed : Nat} {value found : α} :
    answer channel failed value = .ok found ↔ failed = 0 ∧ value = found := by
  by_cases clean : failed = 0
  · rw [answer, if_pos clean, Except.ok.injEq, and_iff_right clean]
  · rw [answer, if_neg clean]
    constructor
    · intro impossible
      cases impossible
    · rintro ⟨fine, _⟩
      exact absurd fine clean

/-- Clamping parts of a sum changes nothing once the sum is clamped. -/
theorem clamp_add (first second : Nat) :
    UInt32.ofNatClamp ((UInt32.ofNatClamp first).toNat + (UInt32.ofNatClamp second).toNat) =
      UInt32.ofNatClamp (first + second) := by
  apply UInt32.toNat_inj.mp
  rw [toNat_ofNatClamp, toNat_ofNatClamp, toNat_ofNatClamp, toNat_ofNatClamp]
  omega

theorem join_assoc (first second third : Option TransportFault) :
    join (join first second) third = join first (join second third) := by
  cases first with
  | none => rfl
  | some first =>
      cases second with
      | none => rfl
      | some second =>
          cases third with
          | none => rfl
          | some third =>
              refine congrArg some (TransportFault.mk.injEq .. ▸ ⟨rfl, ?_⟩)
              apply UInt32.toNat_inj.mp
              simp only [merge, toNat_ofNatClamp]
              omega

theorem ofCount_succ (channel : UInt8) (failures : Nat) :
    join (ofCount channel failures) (some (single channel)) = ofCount channel (failures + 1) := by
  cases failures with
  | zero => rfl
  | succ failures =>
      have added := clamp_add (failures + 1) 1
      have one : UInt32.ofNatClamp 1 = 1 := by decide
      rw [one] at added
      simp only [ofCount, Nat.add_one_ne_zero, if_false, join, merge, single, added]

end TransportFault

namespace Bus

/-- The refused ones of attempts that are listed latest first, oldest first. -/
def refusedCalls (attempts : List Attempt) : List Call :=
  (attempts.reverse.filter fun attempt => !attempt.accepted).map (·.call)

/-- The fault that refused calls come to: their number, under the channel of the first. -/
def faultOfCalls : List Call → Option TransportFault
  | [] => none
  | first :: others =>
      some ⟨first.channel?.getD TransportFault.sharedLine, UInt32.ofNatClamp (others.length + 1)⟩

theorem refusedCalls_append (late early : List Attempt) :
    refusedCalls (late ++ early) = refusedCalls early ++ refusedCalls late := by
  rw [refusedCalls, List.reverse_append, List.filter_append, List.map_append, refusedCalls,
    refusedCalls]

theorem mem_refusedCalls {attempts : List Attempt} {call : Call} :
    call ∈ refusedCalls attempts ↔ ∃ attempt ∈ attempts, attempt.accepted = false ∧
      attempt.call = call := by
  simp [refusedCalls, and_assoc]

theorem faultOfCalls_append (first second : List Call) :
    faultOfCalls (first ++ second) =
      TransportFault.join (faultOfCalls first) (faultOfCalls second) := by
  cases first with
  | nil => rfl
  | cons call others =>
      cases second with
      | nil => rw [List.append_nil, faultOfCalls, faultOfCalls, TransportFault.join_none]
      | cons late laters =>
          have added := TransportFault.clamp_add (others.length + 1) (laters.length + 1)
          simp only [List.cons_append, faultOfCalls, TransportFault.join, TransportFault.merge,
            added, List.length_append, List.length_cons]
          congr 3
          omega

/-- The fault of refused calls, told by the channels that they address. -/
theorem faultOfCalls_of_channels {calls : List Call} {channels : List UInt8}
    (addressed : calls.map Call.channel? = channels.map some) :
    faultOfCalls calls = channels.head?.map fun first =>
      ⟨first, UInt32.ofNat (min channels.length (UInt32.size - 1))⟩ := by
  cases calls with
  | nil =>
      obtain rfl := List.map_eq_nil_iff.mp addressed.symm
      rfl
  | cons call others =>
      cases channels with
      | nil => cases addressed
      | cons first laters =>
          obtain ⟨here, later⟩ := List.cons.inj addressed
          have sameLength := congrArg List.length later
          rw [List.length_map, List.length_map] at sameLength
          rw [faultOfCalls, here, sameLength, TransportFault.ofNatClamp_eq_min]
          rfl

/-- The fault that was met is the one of the calls that were refused. -/
def Charges (before after : Bus) (fault : Option TransportFault) : Prop :=
  ∃ calls, after.transport.attempts = calls ++ before.transport.attempts ∧
    fault = faultOfCalls (refusedCalls calls)

variable {before middle after bus : Bus} {channel : UInt8} {call : Call} {register : Register}
  {early late held : Option TransportFault} {failures : Nat}

namespace Charges

theorem refl (bus : Bus) : Charges bus bus none := ⟨[], rfl, rfl⟩

theorem trans (first : Charges before middle early) (second : Charges middle after late) :
    Charges before after (TransportFault.join early late) := by
  obtain ⟨earlyCalls, grown, rfl⟩ := first
  obtain ⟨lateCalls, grownAgain, rfl⟩ := second
  refine ⟨lateCalls ++ earlyCalls, by rw [grownAgain, grown, List.append_assoc], ?_⟩
  rw [refusedCalls_append, faultOfCalls_append]

/-- What no call is made by meets no fault. -/
theorem still (charges : Charges before middle early)
    (same : after.transport = middle.transport) : Charges before after early := by
  obtain ⟨calls, grown, blamed⟩ := charges
  exact ⟨calls, by rw [same, grown], blamed⟩

end Charges

/-! ## Single accesses -/

theorem charges_attempt (addresses : call.channel? = some channel) (bus : Bus) :
    Charges bus (bus.attempt call).1 (faultOf channel (bus.attempt call).2) := by
  refine ⟨[⟨call, (bus.attempt call).2⟩], attempts_attempt call bus, ?_⟩
  cases (bus.attempt call).2 with
  | true => rfl
  | false =>
      have refused : refusedCalls [⟨call, false⟩] = [call] := rfl
      rw [refused, faultOfCalls, addresses]
      rfl

theorem charges_select (channel : UInt8) (bank : Bank) (bus : Bus) :
    Charges bus (bus.select channel bank).1 (faultOf channel (bus.select channel bank).2) := by
  unfold select
  split
  · exact .refl bus
  · have attempted : Charges bus (bus.attempt (.select channel bank)).1 _ :=
      charges_attempt rfl bus
    exact attempted.still rfl

theorem charges_access (addresses : call.channel? = some channel) (register : Register)
    (bus : Bus) :
    Charges bus (bus.access channel register call).1
      (faultOf channel (bus.access channel register call).2) := by
  have selected := charges_select channel register.bank bus
  unfold access
  cases ready : (bus.select channel register.bank).2 with
  | true =>
      rw [ready] at selected
      simp only [ready, if_true]
      exact selected.trans (charges_attempt addresses _)
  | false =>
      rw [ready] at selected
      simp only [ready, Bool.false_eq_true, if_false]
      exact selected

/-! ## Scripts -/

theorem charges_carryOut (channel : UInt8) (command : Command) (bus : Bus) :
    Charges bus (bus.carryOut channel command).1
      (faultOf channel (bus.carryOut channel command).2) := by
  cases command with
  | write register value => exact charges_access rfl register bus
  | burst register data => exact charges_access rfl register bus
  | update register mask value => exact charges_access rfl register bus
  | pause time => exact (Charges.refl bus).still rfl

/-- Failures that are counted on remain those of the refused calls. -/
theorem charges_carryOutAll {script : Script}
    (sofar : Charges before bus (TransportFault.ofCount channel failures)) :
    Charges before (carryOutAll channel script failures bus).1
      (TransportFault.ofCount channel (carryOutAll channel script failures bus).2) := by
  induction script generalizing failures bus with
  | nil => exact sofar
  | cons command others ih =>
      have first := sofar.trans (charges_carryOut channel command bus)
      refine ih ?_
      cases done : (bus.carryOut channel command).2 with
      | true =>
          rw [done, faultOf, if_pos rfl, TransportFault.join_none] at first
          exact first
      | false =>
          rw [done, faultOf, if_neg Bool.false_ne_true, TransportFault.ofCount_succ] at first
          exact first

theorem charges_execute (channel : UInt8) (script : Script) (bus : Bus) :
    Charges bus (bus.execute channel script).1 (bus.execute channel script).2 := by
  have nothing : Charges bus bus (TransportFault.ofCount channel 0) := .refl bus
  exact charges_carryOutAll nothing

/-! ## Controls -/

theorem charges_dispatchCandidate (channel : UInt8) (body : Tuning.IntegerControl)
    (candidate : UInt32) (bus : Bus) :
    Charges bus (Control.dispatchCandidate channel body candidate bus).1
      (faultOf channel (Control.dispatchCandidate channel body candidate bus).2) := by
  unfold Control.dispatchCandidate
  split <;> exact charges_access rfl body.register bus

theorem charges_dispatch (control : Control) (index : Nat) (bus : Bus) :
    Charges bus (control.dispatch index bus).1 (control.dispatch index bus).2 := by
  unfold Control.dispatch
  cases control.body with
  | integer body =>
      simp only
      cases body.candidates[index]? with
      | none => exact .refl bus
      | some candidate => exact charges_dispatchCandidate _ _ _ bus
  | choice body =>
      simp only
      cases body.items[index]? with
      | none => exact .refl bus
      | some item => exact charges_execute _ _ bus

theorem charges_write (write : Control.Write) (bus : Bus) :
    Charges bus (write.carryOut bus).1 (write.carryOut bus).2 := by
  unfold Control.Write.carryOut
  cases write.outcome with
  | applied => exact charges_dispatch _ _ bus
  | deferred => exact .refl bus

theorem charges_writes {writes : List Control.Write} (sofar : Charges before bus held) :
    Charges before (Control.carryOutAll writes held bus).1
      (Control.carryOutAll writes held bus).2 := by
  induction writes generalizing held bus with
  | nil => exact sofar
  | cons write others ih => exact ih (sofar.trans (charges_write write bus))

end Bus

end AmpControl
