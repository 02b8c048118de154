import AmpControl.Proofs.Bus.Accesses
import AmpControl.Proofs.Control.Write

/-!
# Accesses of sent controls

What is sent for a control makes one access for a candidate and those of its script for an item.
The stored values of a channel and a timing are sent in the order of the controls, and a value that
its control does not accept sends nothing.
-/

namespace AmpControl

open Bus (Call)
open Tuning (Control IntegerControl Script Timing)

/-- The access that puts a candidate into the register of an integer control. -/
def Tuning.IntegerControl.access (channel : UInt8) (body : IntegerControl) (candidate : UInt32) :
    Call :=
  match body.mode, body.element with
  | .single, _ => .write channel body.register candidate
  | .masked, _ => .update channel body.register body.mask candidate
  | .burst, .byte => .burst channel body.register [candidate.toUInt8]
  | .burst, .word => .burst channel body.register (LittleEndian.wordHighFirst candidate)

namespace Tuning.Control

/-- The accesses that a candidate or an item makes; a place without one makes none. -/
def accesses (control : Control) (index : Nat) : List Call :=
  match control.body with
  | .integer body => (body.candidates[index]?).elim [] fun candidate =>
      [body.access control.channel candidate]
  | .choice body => (body.items[index]?).elim [] fun item => item.2.accesses control.channel

/-- The accesses that a stored value of a control makes; one that is not accepted makes none. -/
def storedAccesses (values : List Int) (entry : Control × Nat) : List Call :=
  ((values[entry.2]?).bind entry.1.index?).elim [] entry.1.accesses

/-- The accesses of the stored values of a channel and a timing, in the order of the controls. -/
def replayAccesses (controls : List Control) (values : List Int) (channel : UInt8)
    (timing : Timing) : List Call :=
  (controls.zipIdx.filter fun entry => entry.1.channel = channel ∧ entry.1.timing = timing).flatMap
    (storedAccesses values)

end Tuning.Control

namespace Bus

variable {channel : UInt8} {bus : Bus}

theorem dispatchCandidate_eq_access (channel : UInt8) (body : IntegerControl) (candidate : UInt32)
    (bus : Bus) :
    Control.dispatchCandidate channel body candidate bus =
        bus.access channel body.register (body.access channel candidate) ∧
      (body.access channel candidate).accesses channel = true := by
  have addressed {call : Call} (here : call.channel? = some channel)
      (other : call.selects channel = false) : call.accesses channel = true := by
    simp [Call.accesses, here, other]
  unfold Control.dispatchCandidate IntegerControl.access
  cases body.mode with
  | single => exact ⟨rfl, addressed rfl rfl⟩
  | masked => exact ⟨rfl, addressed rfl rfl⟩
  | burst => cases body.element <;> exact ⟨rfl, addressed rfl rfl⟩

theorem accesses_dispatch {control : Control} {index : Nat}
    (clean : (control.dispatch index bus).1.refusals = bus.refusals) :
    (control.dispatch index bus).1.accesses control.channel =
      bus.accesses control.channel ++ control.accesses index := by
  unfold Control.dispatch Control.accesses at *
  cases kind : control.body with
  | integer body =>
      simp only [kind] at clean ⊢
      cases found : body.candidates[index]? with
      | none => exact (List.append_nil _).symm
      | some candidate =>
          obtain ⟨same, here⟩ :=
            dispatchCandidate_eq_access control.channel body candidate bus
          simp only [found, same] at clean ⊢
          exact accesses_access here clean
  | choice body =>
      simp only [kind] at clean ⊢
      cases found : body.items[index]? with
      | none => exact (List.append_nil _).symm
      | some item =>
          simp only [found] at clean ⊢
          exact accesses_execute clean

/-- Writes that are applied on one channel make their accesses one after the other. -/
theorem accesses_writes {writes : List Control.Write} {held : Option TransportFault}
    (here : ∀ write ∈ writes, write.control.channel = channel ∧ write.outcome = .applied)
    (clean : (Control.carryOutAll writes held bus).1.refusals = bus.refusals) :
    (Control.carryOutAll writes held bus).1.accesses channel = bus.accesses channel ++
      writes.flatMap fun write => write.control.accesses write.index := by
  induction writes generalizing held bus with
  | nil => exact (List.append_nil _).symm
  | cons write others ih =>
      obtain ⟨addressed, applied⟩ := here write List.mem_cons_self
      have first := (makes_write write bus).refusals
      have rest := (makes_writes others (TransportFault.join held (write.carryOut bus).2)
        (write.carryOut bus).1).refusals
      unfold Control.carryOutAll at clean ⊢
      simp only at clean ⊢
      have cleanFirst : (write.carryOut bus).1.refusals = bus.refusals := by omega
      have sent : (write.carryOut bus).1.accesses channel =
          bus.accesses channel ++ write.control.accesses write.index := by
        unfold Control.Write.carryOut at cleanFirst ⊢
        rw [applied] at cleanFirst ⊢
        exact addressed ▸ accesses_dispatch cleanFirst
      rw [ih (fun write member => here write (List.mem_cons_of_mem _ member))
        (clean.trans cleanFirst.symm), sent, List.flatMap_cons, List.append_assoc]

/-- Stored values are sent to their own channel. -/
theorem applied_of_replayable {controls : List Control} {values : List Int} {timing : Timing}
    {write : Control.Write}
    (member : write ∈ Control.replayable controls values channel timing) :
    write.control.channel = channel ∧ write.outcome = .applied := by
  obtain ⟨_, addressed, _, _, applied⟩ := Control.mem_replayable.mp member
  exact ⟨addressed, applied⟩

/-- The stored values of a channel and a timing make their accesses. -/
theorem accesses_replay {controls : List Control} {values : List Int} {timing : Timing}
    {held : Option TransportFault}
    (clean : (Control.carryOutAll (Control.replayable controls values channel timing) held
      bus).1.refusals = bus.refusals) :
    (Control.carryOutAll (Control.replayable controls values channel timing) held
        bus).1.accesses channel =
      bus.accesses channel ++ Control.replayAccesses controls values channel timing := by
  rw [accesses_writes (fun _ => applied_of_replayable) clean, Control.replayAccesses,
    Control.replayable]
  congr 1
  induction controls.zipIdx with
  | nil => rfl
  | cons entry others ih =>
      obtain ⟨control, id⟩ := entry
      rw [List.filterMap_cons, List.filter_cons]
      by_cases wanted : control.channel = channel ∧ control.timing = timing
      · rw [if_pos (by simpa using wanted), List.flatMap_cons, ← ih, Control.storedAccesses]
        simp only [if_pos wanted]
        cases (values[id]?).bind control.index? <;> rfl
      · rw [if_neg (by simpa using wanted), ← ih]
        simp only [if_neg wanted]

end Bus

end AmpControl
