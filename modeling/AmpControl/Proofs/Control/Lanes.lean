import AmpControl.Proofs.Bus.Isolation
import AmpControl.Proofs.Bus.Plain
import AmpControl.Proofs.Control.Accesses

/-!
# What is done on one channel

Scripts and control values are sent to one channel. What comes of it, and what becomes of the lane
of this channel, is decided by the lane alone, it takes its own time, and no other lane changes.
-/

namespace AmpControl.Bus

open Tuning (Control IntegerControl Script Timing)

/-- A deed on one channel: its lane decides what comes of it, and no other lane changes. -/
structure Local {α : Type} (channel : UInt8) (deed : Bus → Bus × α) : Prop where
  lane : ∀ {before after : Bus}, lane channel before = lane channel after →
    Bus.lane channel (deed before).1 = Bus.lane channel (deed after).1
  answer : ∀ {before after : Bus}, Bus.lane channel before = Bus.lane channel after →
    (deed before).2 = (deed after).2
  apart : ∀ {other : UInt8}, other ≠ channel → ∀ bus,
    Bus.lane other (deed bus).1 = Bus.lane other bus
  timed : ∀ {before after : Bus}, Bus.lane channel before = Bus.lane channel after →
    (deed before).1.clock + after.clock = (deed after).1.clock + before.clock

variable {channel : UInt8}

theorem local_still {α : Type} (channel : UInt8) (answer : α) :
    Local channel fun bus => (bus, answer) :=
  ⟨id, fun _ => rfl, fun _ _ => rfl, fun _ => Nat.add_comm _ _⟩

theorem local_execute (channel : UInt8) (script : Script) :
    Local channel (execute channel script) where
  lane same := (lane_execute_congr same script).1
  answer same := (lane_execute_congr same script).2
  apart apart bus := lane_carryOutAll_of_ne apart script 0 bus
  timed {before after} _ := by
    obtain ⟨_, _, first⟩ := asWritten_execute channel script before
    obtain ⟨_, _, second⟩ := asWritten_execute channel script after
    rw [first.clock, second.clock]
    omega

theorem local_dispatchCandidate (channel : UInt8) (body : IntegerControl) (candidate : UInt32) :
    Local channel (Control.dispatchCandidate channel body candidate) := by
  have sent (bus : Bus) := (dispatchCandidate_eq_access channel body candidate bus).1
  have addresses : (body.access channel candidate).channel? = some channel := by
    unfold IntegerControl.access
    cases body.mode <;> cases body.element <;> rfl
  constructor
  · intro before after same
    rw [sent, sent]
    exact (lane_access_congr same body.register addresses).1
  · intro before after same
    rw [sent, sent]
    exact (lane_access_congr same body.register addresses).2
  · intro other apart bus
    rw [sent]
    exact lane_access_of_ne apart body.register addresses bus
  · intro before after _
    rw [sent, sent, clock_access, clock_access]
    exact Nat.add_comm _ _

theorem local_dispatch (control : Control) (index : Nat) :
    Local control.channel (control.dispatch index) := by
  unfold Control.dispatch
  cases control.body with
  | integer body =>
      simp only
      cases body.candidates[index]? with
      | none => exact local_still _ _
      | some candidate =>
          obtain ⟨lane, answer, apart, timed⟩ :=
            local_dispatchCandidate control.channel body candidate
          exact ⟨lane, fun same => congrArg (faultOf control.channel) (answer same), apart, timed⟩
  | choice body =>
      simp only
      cases body.items[index]? with
      | none => exact local_still _ _
      | some item => exact local_execute _ _

theorem local_write (write : Control.Write) : Local write.control.channel write.carryOut := by
  unfold Control.Write.carryOut
  cases write.outcome with
  | applied => exact local_dispatch _ _
  | deferred => exact local_still _ _

/-- Writes to one channel, one after the other. -/
theorem local_writes {writes : List Control.Write}
    (here : ∀ write ∈ writes, write.control.channel = channel) (held : Option TransportFault) :
    Local channel (Control.carryOutAll writes held) := by
  induction writes generalizing held with
  | nil => exact local_still channel held
  | cons write others ih =>
      have first : Local channel write.carryOut := here write List.mem_cons_self ▸ local_write write
      have rest := ih fun other member => here other (List.mem_cons_of_mem _ member)
      constructor
      · intro before after same
        simp only [Control.carryOutAll, first.answer same]
        exact (rest _).lane (first.lane same)
      · intro before after same
        simp only [Control.carryOutAll, first.answer same]
        exact (rest _).answer (first.lane same)
      · intro other apart bus
        exact ((rest _).apart apart _).trans (first.apart apart bus)
      · intro before after same
        have early := first.timed same
        have late := (rest (TransportFault.join held (write.carryOut after).2)).timed
          (first.lane same)
        simp only [Control.carryOutAll, first.answer same]
        omega

theorem local_replay (controls : List Control) (values : List Int) (channel : UInt8)
    (timing : Timing) :
    Local channel
      (Control.carryOutAll (Control.replayable controls values channel timing) none) :=
  local_writes (fun _ member => (applied_of_replayable member).1) none

end AmpControl.Bus
