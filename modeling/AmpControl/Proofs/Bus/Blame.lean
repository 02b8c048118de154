import AmpControl.Proofs.Bus.Calls

/-!
# What faults are to blame on

A fault is never made up: wherever one is reported, a call was refused on the way. So what is done
on the bus while no call is refused meets no fault.
-/

namespace AmpControl.Bus

open Tuning (Command Control Script)

/-- The number of calls that were refused. -/
def refusals (bus : Bus) : Nat :=
  bus.transport.attempts.countP fun attempt => !attempt.accepted

variable {property : Attempt → Prop} {channel : UInt8} {before after bus : Bus}

theorem refusals_of_calls {calls : List Attempt}
    (made : after.transport.attempts = calls ++ before.transport.attempts) :
    after.refusals = calls.countP (fun attempt => !attempt.accepted) + before.refusals := by
  rw [refusals, made, List.countP_append, refusals]

/-- No call was refused where all that were made were accepted. -/
theorem refusals_of_accepted {calls : List Attempt}
    (made : after.transport.attempts = calls ++ before.transport.attempts)
    (accepted : ∀ attempt ∈ calls, attempt.accepted = true) : after.refusals = before.refusals := by
  rw [refusals_of_calls made, List.countP_eq_zero.mpr, Nat.zero_add]
  intro attempt member
  simp [accepted attempt member]

/-- Refusals are not forgotten. -/
theorem Makes.refusals (makes : Makes property before after) :
    before.refusals ≤ after.refusals := by
  obtain ⟨calls, made, _⟩ := makes.calls
  rw [refusals_of_calls made]
  exact Nat.le_add_left _ _

/-! ## Single accesses -/

theorem refusals_attempt {call : Call} (refused : (bus.attempt call).2 = false) :
    bus.refusals < (bus.attempt call).1.refusals := by
  have made : (bus.attempt call).1.transport.attempts =
      [⟨call, (bus.attempt call).2⟩] ++ bus.transport.attempts := attempts_attempt call bus
  rw [refusals_of_calls made, refused]
  exact Nat.lt_add_of_pos_left Nat.one_pos

theorem refusals_select {bank : Bank} (refused : (bus.select channel bank).2 = false) :
    bus.refusals < (bus.select channel bank).1.refusals := by
  unfold select at refused ⊢
  split at refused
  · cases refused
  · rename_i other
    rw [if_neg other]
    exact refusals_attempt refused

theorem refusals_access {register : Register} {call : Call}
    (refused : (bus.access channel register call).2 = false) :
    bus.refusals < (bus.access channel register call).1.refusals := by
  have selected := (makes_select channel register.bank bus).refusals
  unfold access at refused ⊢
  by_cases ready : (bus.select channel register.bank).2 = true
  · simp only [if_pos ready] at refused ⊢
    exact Nat.lt_of_le_of_lt selected (refusals_attempt refused)
  · simp only [if_neg ready]
    exact refusals_select ((Bool.not_eq_true _).mp ready)

/-! ## Scripts -/

theorem refusals_carryOut {command : Command}
    (refused : (bus.carryOut channel command).2 = false) :
    bus.refusals < (bus.carryOut channel command).1.refusals := by
  cases command with
  | write register value => exact refusals_access refused
  | burst register data => exact refusals_access refused
  | update register mask value => exact refusals_access refused
  | pause time => cases refused

/-- A failure that is counted on is a refused call. -/
theorem refusals_carryOutAll {script : Script} {failures : Nat}
    (failed : failures < (carryOutAll channel script failures bus).2) :
    bus.refusals < (carryOutAll channel script failures bus).1.refusals := by
  induction script generalizing failures bus with
  | nil => exact absurd failed (Nat.lt_irrefl _)
  | cons command others ih =>
      have first := (makes_carryOut channel command bus).refusals
      unfold carryOutAll at failed ⊢
      by_cases done : (bus.carryOut channel command).2 = true
      · simp only [if_pos done] at failed ⊢
        exact Nat.lt_of_le_of_lt first (ih failed)
      · simp only [if_neg done]
        apply Nat.lt_of_lt_of_le (refusals_carryOut ((Bool.not_eq_true _).mp done))
        exact (makes_carryOutAll channel others _ _).refusals

theorem refusals_execute {script : Script} (failed : (bus.execute channel script).2 ≠ none) :
    bus.refusals < (bus.execute channel script).1.refusals := by
  apply refusals_carryOutAll
  apply Nat.pos_of_ne_zero
  intro clean
  apply failed
  change TransportFault.ofCount channel (carryOutAll channel script 0 bus).2 = none
  rw [clean]
  rfl

/-! ## Reads -/

theorem refusals_read {register : Register} (refused : (bus.read channel register).2 = none) :
    bus.refusals < (bus.read channel register).1.refusals := by
  have accessed : (bus.access channel register (.read channel register)).2 = false := by
    by_contra done
    have accepted := (Bool.not_eq_false _).mp done
    simp [read, accepted] at refused
  exact refusals_access accessed

theorem refusals_compareAll {script : Script} {failures : Nat} {agrees : Bool}
    (failed : failures < (compareAll channel script failures agrees bus).2.1) :
    bus.refusals < (compareAll channel script failures agrees bus).1.refusals := by
  induction script generalizing failures agrees bus with
  | nil => exact absurd failed (Nat.lt_irrefl _)
  | cons command others ih =>
      unfold compareAll at failed ⊢
      cases expected : expectation? command with
      | none =>
          simp only [expected] at failed
          exact ih failed
      | some entry =>
          obtain ⟨register, mask, value⟩ := entry
          have first := (makes_read channel register bus).refusals
          have refuses : (bus.read channel register).2 = none →
              bus.refusals < (bus.read channel register).1.refusals := refusals_read
          simp only [expected] at failed ⊢
          cases outcome : bus.read channel register with
          | mk after held =>
              rw [outcome] at first refuses
              simp only [outcome] at failed ⊢
              cases held with
              | none =>
                  apply Nat.lt_of_lt_of_le (refuses rfl)
                  exact (makes_compareAll channel others _ _ _).refusals
              | some held => exact Nat.lt_of_le_of_lt first (ih failed)

/-- A comparison that comes to no answer had a read refused. -/
theorem refusals_verify {script : Script} {fault : TransportFault}
    (failed : (bus.verify channel script).2 = .error fault) :
    bus.refusals < (bus.verify channel script).1.refusals := by
  apply refusals_compareAll
  apply Nat.pos_of_ne_zero
  intro clean
  unfold verify at failed
  simp [clean, TransportFault.ofCount] at failed

/-! ## Controls -/

theorem refused_of_faultOf {carriedOut : Bool} (failed : faultOf channel carriedOut ≠ none) :
    carriedOut = false := by
  cases carriedOut with
  | false => rfl
  | true => exact absurd rfl failed

theorem refusals_dispatchCandidate {body : Tuning.IntegerControl} {candidate : UInt32}
    (refused : (Control.dispatchCandidate channel body candidate bus).2 = false) :
    bus.refusals < (Control.dispatchCandidate channel body candidate bus).1.refusals := by
  revert refused
  unfold Control.dispatchCandidate
  split <;> exact fun refused => refusals_access refused

theorem refusals_dispatch {control : Control} {index : Nat}
    (failed : (control.dispatch index bus).2 ≠ none) :
    bus.refusals < (control.dispatch index bus).1.refusals := by
  revert failed
  unfold Control.dispatch
  cases control.body with
  | integer body =>
      simp only
      cases body.candidates[index]? with
      | none => exact fun failed => absurd rfl failed
      | some candidate =>
          exact fun failed => refusals_dispatchCandidate (refused_of_faultOf failed)
  | choice body =>
      simp only
      cases body.items[index]? with
      | none => exact fun failed => absurd rfl failed
      | some item => exact refusals_execute

theorem refusals_write {write : Control.Write} (failed : (write.carryOut bus).2 ≠ none) :
    bus.refusals < (write.carryOut bus).1.refusals := by
  unfold Control.Write.carryOut at failed ⊢
  cases outcome : write.outcome with
  | deferred => simp [outcome] at failed
  | applied =>
      simp only [outcome] at failed ⊢
      exact refusals_dispatch failed

/-- A fault that was not there before the writes came of one of them. -/
theorem refusals_writes {writes : List Control.Write}
    (failed : (Control.carryOutAll writes none bus).2 ≠ none) :
    bus.refusals < (Control.carryOutAll writes none bus).1.refusals := by
  induction writes generalizing bus with
  | nil => exact absurd rfl failed
  | cons write others ih =>
      have first := (makes_write write bus).refusals
      unfold Control.carryOutAll at failed ⊢
      by_cases clean : (write.carryOut bus).2 = none
      · simp only [clean, TransportFault.join] at failed ⊢
        exact Nat.lt_of_le_of_lt first (ih failed)
      · exact Nat.lt_of_lt_of_le (refusals_write clean) (makes_writes others _ _).refusals

end AmpControl.Bus

namespace AmpControl

/-! ## Polls -/

namespace Poll

variable {channel : UInt8} {poll : Poll}

theorem refusals_status {register : Register}
    (failed : poll.failures < (poll.status channel register).1.failures) :
    poll.bus.refusals < (poll.status channel register).1.bus.refusals := by
  unfold status at failed ⊢
  split at failed
  · exact absurd failed (Nat.lt_irrefl _)
  · apply Bus.refusals_read
    by_contra found
    have isSome := Option.isSome_iff_ne_none.mpr found
    simp only [isSome, if_true] at failed
    exact absurd failed (Nat.lt_irrefl _)

theorem refusals_visitAll {sources : List (Tuning.Source × Nat)}
    (failed : poll.failures < (visitAll channel sources poll).failures) :
    poll.bus.refusals < (visitAll channel sources poll).bus.refusals := by
  induction sources generalizing poll with
  | nil => exact absurd failed (Nat.lt_irrefl _)
  | cons entry others ih =>
      obtain ⟨source, index⟩ := entry
      obtain ⟨bus, failures⟩ := bus_visit channel index source poll
      have first := (makes_status channel source.status poll).refusals
      unfold visitAll at failed ⊢
      by_cases refused : poll.failures < (poll.status channel source.status).1.failures
      · apply Nat.lt_of_lt_of_le (refusals_status refused)
        rw [← bus]
        exact (makes_visitAll channel others _).refusals
      · rw [← bus] at first
        refine Nat.lt_of_le_of_lt first (ih (Nat.lt_of_le_of_lt ?_ failed))
        rw [failures]
        exact Nat.le_of_not_lt refused

end Poll

/-- A poll without a refused read finds something out. -/
theorem Tuning.InterruptTable.result_of_clean (table : Tuning.InterruptTable) (channel : UInt8)
    (powered : Bool) (counters : List Counter) (bus : Bus)
    (clean : (table.classify channel powered counters bus).bus.refusals = bus.refusals) :
    (table.classify channel powered counters bus).result channel =
      .ok (table.classify channel powered counters bus).reading := by
  have none_failed : (table.classify channel powered counters bus).failures = 0 := by
    by_contra failed
    have refused : (Poll.start counters bus).bus.refusals <
        (Poll.visitAll channel (Poll.polled table powered)
          (Poll.start counters bus)).bus.refusals :=
      Poll.refusals_visitAll (Nat.pos_of_ne_zero failed)
    exact absurd clean (Nat.ne_of_gt refused)
  rw [Poll.result, none_failed]
  rfl

end AmpControl
