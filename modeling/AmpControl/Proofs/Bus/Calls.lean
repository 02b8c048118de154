import AmpControl.Control.Dispatch
import AmpControl.Interrupt.Classification
import Mathlib.Data.Nat.Basic
import Mathlib.Order.Basic
import Mathlib.Tactic.ByContra

/-!
# Calls on the bus

Whatever is done for a channel makes calls to this channel, which are added to the calls that were
attempted before, and time does not go back. What reports no failure had none of its calls refused.
-/

namespace AmpControl.Bus

open Tuning (Command Control Script Source)

/-- Calls with a property were attempted, and time did not go back. -/
structure Makes (property : Attempt → Prop) (before after : Bus) : Prop where
  clock : before.clock ≤ after.clock
  calls : ∃ calls, after.transport.attempts = calls ++ before.transport.attempts ∧
    ∀ attempt ∈ calls, property attempt

/-- A call to a channel, which was carried out if all went well. -/
def Attempt.Serves (channel : UInt8) (well : Prop) (attempt : Attempt) : Prop :=
  attempt.call.channel? = some channel ∧ (well → attempt.accepted = true)

/-- A call to some channel, which was carried out if all went well. -/
def Attempt.Drives (well : Prop) (attempt : Attempt) : Prop :=
  attempt.call ≠ .reset ∧ (well → attempt.accepted = true)

theorem Attempt.Serves.drives {channel : UInt8} {well : Prop} {attempt : Attempt}
    (serves : attempt.Serves channel well) : attempt.Drives well := by
  refine ⟨fun reset => ?_, serves.2⟩
  have addressed := serves.1
  rw [reset] at addressed
  cases addressed

namespace Makes

variable {property weaker : Attempt → Prop} {before middle after : Bus}

theorem refl (bus : Bus) : Makes property bus bus :=
  ⟨le_rfl, [], rfl, fun _ member => absurd member List.not_mem_nil⟩

theorem trans (first : Makes property before middle) (second : Makes property middle after) :
    Makes property before after := by
  obtain ⟨early, grown, earlyHolds⟩ := first.calls
  obtain ⟨late, grownAgain, lateHolds⟩ := second.calls
  refine ⟨first.clock.trans second.clock, late ++ early, ?_, fun attempt member => ?_⟩
  · rw [grownAgain, grown, List.append_assoc]
  · rcases List.mem_append.mp member with isLate | isEarly
    · exact lateHolds attempt isLate
    · exact earlyHolds attempt isEarly

theorem mono (makes : Makes property before after)
    (weaken : ∀ attempt, property attempt → weaker attempt) : Makes weaker before after := by
  obtain ⟨clock, calls, grown, holds⟩ := makes
  exact ⟨clock, calls, grown, fun attempt member => weaken attempt (holds attempt member)⟩

/-- Calls that were carried out if something went well were so if all went well. -/
theorem serves {channel : UInt8} {well all : Prop}
    (makes : Makes (Attempt.Serves channel well) before after) (part : all → well) :
    Makes (Attempt.Serves channel all) before after :=
  makes.mono fun _ serves => ⟨serves.1, fun fine => serves.2 (part fine)⟩

theorem drives {well all : Prop} (makes : Makes (Attempt.Drives well) before after)
    (part : all → well) : Makes (Attempt.Drives all) before after :=
  makes.mono fun _ drives => ⟨drives.1, fun fine => drives.2 (part fine)⟩

end Makes

variable {channel : UInt8} {bus : Bus}

/-! ## Single accesses -/

/-- An attempt is noted with its outcome. -/
theorem attempts_attempt (call : Call) (bus : Bus) :
    (bus.attempt call).1.transport.attempts =
      ⟨call, (bus.attempt call).2⟩ :: bus.transport.attempts := by
  unfold attempt Transport.attempt
  split <;> rfl

theorem makes_attempt (call : Call) (addresses : call.channel? = some channel) (bus : Bus) :
    Makes (Attempt.Serves channel ((bus.attempt call).2 = true)) bus (bus.attempt call).1 := by
  refine ⟨le_rfl, [⟨call, (bus.attempt call).2⟩], attempts_attempt call bus,
    fun attempt member => ?_⟩
  rw [List.mem_singleton.mp member]
  exact ⟨addresses, id⟩

theorem makes_select (channel : UInt8) (bank : Bank) (bus : Bus) :
    Makes (Attempt.Serves channel ((bus.select channel bank).2 = true)) bus
      (bus.select channel bank).1 := by
  unfold select
  split
  · exact .refl bus
  · obtain ⟨clock, calls⟩ := makes_attempt (.select channel bank) rfl bus
    exact ⟨clock, calls⟩

theorem makes_access (register : Register) (call : Call)
    (addresses : call.channel? = some channel) (bus : Bus) :
    Makes (Attempt.Serves channel ((bus.access channel register call).2 = true)) bus
      (bus.access channel register call).1 := by
  have selected := makes_select channel register.bank bus
  unfold access
  by_cases ready : (bus.select channel register.bank).2 = true
  · simp only [if_pos ready]
    exact (selected.serves fun _ => ready).trans (makes_attempt call addresses _)
  · simp only [if_neg ready]
    exact selected.serves fun impossible => absurd impossible Bool.false_ne_true

theorem makes_read (channel : UInt8) (register : Register) (bus : Bus) :
    Makes (Attempt.Serves channel ((bus.read channel register).2.isSome = true)) bus
      (bus.read channel register).1 := by
  refine (makes_access register (.read channel register) rfl bus).serves fun found => ?_
  unfold read at found
  by_contra refused
  simp [refused] at found

/-! ## Scripts -/

theorem makes_wait (property : Attempt → Prop) (microseconds : Nat) (bus : Bus) :
    Makes property bus (bus.wait microseconds) :=
  ⟨Nat.le_add_right _ _, [], rfl, fun _ member => absurd member List.not_mem_nil⟩

theorem makes_carryOut (channel : UInt8) (command : Command) (bus : Bus) :
    Makes (Attempt.Serves channel ((bus.carryOut channel command).2 = true)) bus
      (bus.carryOut channel command).1 := by
  cases command with
  | write register value =>
      exact makes_access register (.write channel register value.toUInt32) rfl bus
  | burst register data =>
      exact makes_access register (.burst channel register data) rfl bus
  | update register mask value =>
      exact makes_access register
        (.update channel register mask.toUInt32 value.toUInt32) rfl bus
  | pause time => exact makes_wait _ _ bus

/-- Failures are counted on and never forgotten. -/
theorem le_carryOutAll (channel : UInt8) (script : Script) (failures : Nat) (bus : Bus) :
    failures ≤ (carryOutAll channel script failures bus).2 := by
  induction script generalizing failures bus with
  | nil => exact le_rfl
  | cons command others ih =>
      refine le_trans ?_ (ih _ _)
      split
      · exact le_rfl
      · exact Nat.le_succ _

theorem makes_carryOutAll (channel : UInt8) (script : Script) (failures : Nat) (bus : Bus) :
    Makes (Attempt.Serves channel ((carryOutAll channel script failures bus).2 ≤ failures)) bus
      (carryOutAll channel script failures bus).1 := by
  induction script generalizing failures bus with
  | nil => exact .refl bus
  | cons command others ih =>
      have first := makes_carryOut channel command bus
      unfold carryOutAll
      by_cases done : (bus.carryOut channel command).2 = true
      · simp only [if_pos done]
        exact (first.serves fun _ => done).trans (ih failures _)
      · simp only [if_neg done]
        -- One more failure was counted, so nothing is promised of any call.
        have counted := le_carryOutAll channel others (failures + 1)
          (bus.carryOut channel command).1
        refine (first.serves fun clean => ?_).trans ((ih (failures + 1) _).serves fun clean => ?_)
        · exact absurd clean (Nat.not_le_of_lt counted)
        · exact clean.trans (Nat.le_succ _)

theorem ofCount_eq_none {channel : UInt8} {failures : Nat}
    (clean : TransportFault.ofCount channel failures = none) : failures = 0 := by
  unfold TransportFault.ofCount at clean
  by_contra failed
  rw [if_neg failed] at clean
  cases clean

theorem makes_execute (channel : UInt8) (script : Script) (bus : Bus) :
    Makes (Attempt.Serves channel ((bus.execute channel script).2 = none)) bus
      (bus.execute channel script).1 :=
  (makes_carryOutAll channel script 0 bus).serves fun clean => (ofCount_eq_none clean).le

theorem le_compareAll (channel : UInt8) (script : Script) (failures : Nat) (agrees : Bool)
    (bus : Bus) : failures ≤ (compareAll channel script failures agrees bus).2.1 := by
  induction script generalizing failures agrees bus with
  | nil => exact le_rfl
  | cons command others ih =>
      unfold compareAll
      split
      · exact ih _ _ _
      · split
        · exact (Nat.le_succ _).trans (ih _ _ _)
        · exact ih _ _ _

theorem makes_compareAll (channel : UInt8) (script : Script) (failures : Nat) (agrees : Bool)
    (bus : Bus) :
    Makes (Attempt.Serves channel ((compareAll channel script failures agrees bus).2.1 ≤ failures))
      bus (compareAll channel script failures agrees bus).1 := by
  induction script generalizing failures agrees bus with
  | nil => exact .refl bus
  | cons command others ih =>
      unfold compareAll
      cases expectation? command with
      | none => exact ih failures agrees bus
      | some expected =>
          obtain ⟨register, mask, value⟩ := expected
          have looked := makes_read channel register bus
          simp only
          cases outcome : bus.read channel register with
          | mk after held =>
              rw [outcome] at looked
              cases held with
              | none =>
                  simp only
                  have counted := le_compareAll channel others (failures + 1) agrees after
                  refine (looked.serves fun clean => ?_).trans
                    ((ih (failures + 1) _ _).serves fun clean => ?_)
                  · exact absurd clean (Nat.not_le_of_lt counted)
                  · exact clean.trans (Nat.le_succ _)
              | some held => exact (looked.serves fun _ => rfl).trans (ih failures _ _)

/-- A comparison that comes to an answer had none of its reads refused. -/
theorem makes_verify (channel : UInt8) (script : Script) (bus : Bus) :
    Makes (Attempt.Serves channel (∃ agrees, (bus.verify channel script).2 = .ok agrees)) bus
      (bus.verify channel script).1 := by
  refine (makes_compareAll channel script 0 true bus).serves fun answered => ?_
  obtain ⟨agrees, answer⟩ := answered
  unfold verify at answer
  cases failed : TransportFault.ofCount channel (compareAll channel script 0 true bus).2.1 with
  | none => exact (ofCount_eq_none failed).le
  | some fault =>
      simp only [failed] at answer
      cases answer

/-- What comes of reading registers is not told by any failure. -/
theorem makes_readAll (channel : UInt8) (registers : List Register) (bus : Bus) :
    Makes (Attempt.Serves channel False) bus (bus.readAll channel registers).1 := by
  induction registers generalizing bus with
  | nil => exact .refl bus
  | cons register others ih =>
      exact ((makes_read channel register bus).serves False.elim).trans (ih _)

/-! ## Controls -/

theorem makes_dispatchCandidate (channel : UInt8) (body : Tuning.IntegerControl)
    (candidate : UInt32) (bus : Bus) :
    Makes (Attempt.Serves channel ((Control.dispatchCandidate channel body candidate bus).2 = true))
      bus (Control.dispatchCandidate channel body candidate bus).1 := by
  unfold Control.dispatchCandidate
  split
  · exact makes_access body.register (.write channel body.register candidate) rfl bus
  · exact makes_access body.register
      (.update channel body.register body.mask candidate) rfl bus
  · exact makes_access body.register
      (.burst channel body.register [candidate.toUInt8]) rfl bus
  · exact makes_access body.register
      (.burst channel body.register (LittleEndian.wordHighFirst candidate)) rfl bus

theorem makes_dispatch (control : Control) (index : Nat) (bus : Bus) :
    Makes (Attempt.Serves control.channel ((control.dispatch index bus).2 = none)) bus
      (control.dispatch index bus).1 := by
  unfold Control.dispatch
  split
  · rename_i body _
    cases body.candidates[index]? with
    | none => exact .refl bus
    | some candidate =>
        refine (makes_dispatchCandidate control.channel body candidate bus).serves fun clean => ?_
        by_contra refused
        simp [faultOf, refused] at clean
  · rename_i body _
    cases body.items[index]? with
    | none => exact .refl bus
    | some item => exact makes_execute control.channel item.2 bus

theorem makes_write (write : Control.Write) (bus : Bus) :
    Makes (Attempt.Serves write.control.channel ((write.carryOut bus).2 = none)) bus
      (write.carryOut bus).1 := by
  unfold Control.Write.carryOut
  split
  · exact makes_dispatch write.control write.index bus
  · exact .refl bus

theorem join_eq_none {first second : Option TransportFault} :
    TransportFault.join first second = none ↔ first = none ∧ second = none := by
  cases first <;> cases second <;> simp [TransportFault.join]

/-- A fault that was met stays with the writes that follow. -/
theorem none_of_carryOutAll {writes : List Control.Write} {held : Option TransportFault}
    (clean : (Control.carryOutAll writes held bus).2 = none) : held = none := by
  induction writes generalizing held bus with
  | nil => exact clean
  | cons write others ih => exact (join_eq_none.mp (ih clean)).1

theorem makes_writes (writes : List Control.Write) (held : Option TransportFault) (bus : Bus) :
    Makes (Attempt.Drives ((Control.carryOutAll writes held bus).2 = none)) bus
      (Control.carryOutAll writes held bus).1 := by
  induction writes generalizing held bus with
  | nil => exact .refl bus
  | cons write others ih =>
      have first : Makes (Attempt.Drives ((write.carryOut bus).2 = none)) bus
          (write.carryOut bus).1 := (makes_write write bus).mono fun _ serves => serves.drives
      refine (first.drives fun clean => ?_).trans (ih _ _)
      exact (join_eq_none.mp (none_of_carryOutAll clean)).2

end AmpControl.Bus

namespace AmpControl

open Bus (Attempt Makes)

/-! ## Polls -/

namespace Poll

theorem le_status (channel : UInt8) (register : Register) (poll : Poll) :
    poll.failures ≤ (poll.status channel register).1.failures := by
  unfold status
  split
  · exact le_rfl
  · simp only
    split
    · exact le_rfl
    · exact Nat.le_succ _

theorem makes_status (channel : UInt8) (register : Register) (poll : Poll) :
    Makes (Attempt.Serves channel ((poll.status channel register).1.failures ≤ poll.failures))
      poll.bus (poll.status channel register).1.bus := by
  unfold status
  split
  · exact .refl _
  · refine (Bus.makes_read channel register poll.bus).serves fun clean => ?_
    by_contra refused
    simp only [if_neg refused] at clean
    exact absurd clean (Nat.not_succ_le_self _)

/-- Visiting a source reads its status register and keeps what was counted. -/
theorem bus_visit (channel : UInt8) (index : Nat) (source : Tuning.Source) (poll : Poll) :
    (poll.visit channel index source).bus = (poll.status channel source.status).1.bus ∧
      (poll.visit channel index source).failures =
        (poll.status channel source.status).1.failures := by
  unfold visit
  cases poll.status channel source.status with
  | mk after held =>
      cases held with
      | none => exact ⟨rfl, rfl⟩
      | some value =>
          simp only
          split <;> exact ⟨rfl, rfl⟩

theorem le_visitAll (channel : UInt8) (sources : List (Tuning.Source × Nat)) (poll : Poll) :
    poll.failures ≤ (visitAll channel sources poll).failures := by
  induction sources generalizing poll with
  | nil => exact le_rfl
  | cons entry others ih =>
      obtain ⟨source, index⟩ := entry
      refine le_trans ?_ (ih _)
      rw [(bus_visit channel index source poll).2]
      exact le_status channel source.status poll

theorem makes_visitAll (channel : UInt8) (sources : List (Tuning.Source × Nat)) (poll : Poll) :
    Makes (Attempt.Serves channel ((visitAll channel sources poll).failures ≤ poll.failures))
      poll.bus (visitAll channel sources poll).bus := by
  induction sources generalizing poll with
  | nil => exact .refl _
  | cons entry others ih =>
      obtain ⟨source, index⟩ := entry
      obtain ⟨sameBus, sameFailures⟩ := bus_visit channel index source poll
      have first := makes_status channel source.status poll
      have counted := le_visitAll channel others (poll.visit channel index source)
      rw [← sameBus, ← sameFailures] at first
      have grown : poll.failures ≤ (poll.visit channel index source).failures := by
        rw [sameFailures]
        exact le_status channel source.status poll
      exact (first.serves fun clean => counted.trans clean).trans
        ((ih _).serves fun clean => clean.trans grown)

end Poll

/-- A poll that finds something out had none of its reads refused. -/
theorem Tuning.InterruptTable.makes_classify (table : InterruptTable) (channel : UInt8)
    (powered : Bool) (counters : List Counter) (bus : Bus) :
    Makes (Attempt.Serves channel (∃ reading,
      (table.classify channel powered counters bus).result channel = .ok reading))
      bus (table.classify channel powered counters bus).bus := by
  refine (Poll.makes_visitAll channel _ (Poll.start counters bus)).serves fun found => ?_
  obtain ⟨reading, result⟩ := found
  unfold Poll.result at result
  split at result
  · rename_i clean
    exact (Bus.ofCount_eq_none clean).le
  · cases result

end AmpControl
