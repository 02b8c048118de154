import AmpControl.Proofs.Bus.Cursor

/-!
# What scripts leave selected

After a script the bank of the register that was accessed last is remembered. On a channel that
refuses every call nothing is remembered once another bank was needed. Calls to other channels do
not change what is remembered of a channel.
-/

namespace AmpControl.Bus

open Tuning (Command Script maxChannels)

/-- Every call to a channel is refused. -/
def refuses (bus : Bus) (channel : UInt8) : Bool := bus.transport.failingChannels.contains channel

/-- What is remembered of a channel once one of its registers was accessed. -/
def recollect (refused : Bool) (known : Option Bank) (register : Register) : Option Bank :=
  if known = some register.bank then known else if refused then none else some register.bank

variable {bus before after later : Bus} {channel : UInt8} {known : Option Bank}
  {registers : List Register} {register : Register} {calls : List Attempt}

theorem refuses_attempt (call : Call) (bus : Bus) (channel : UInt8) :
    (bus.attempt call).1.refuses channel = bus.refuses channel := by
  simp only [refuses, attempt, Transport.attempt]
  split <;> rfl

theorem refuses_select (bus : Bus) (bank : Bank) :
    (bus.select channel bank).1.refuses channel = bus.refuses channel := by
  unfold select
  split
  · rfl
  · exact refuses_attempt (.select channel bank) bus channel

theorem accepted_select (channel : UInt8) (bank : Bank) (bus : Bus) :
    (bus.attempt (.select channel bank)).2 = !bus.refuses channel := by
  simp only [attempt, Transport.attempt]
  split
  · rename_i refused
    exact (congrArg (!·) refused).symm
  · rename_i carriedOut
    exact (congrArg (!·) (eq_false_of_ne_true carriedOut)).symm

theorem selected?_select (inside : channel.toNat < maxChannels) (register : Register) (bus : Bus) :
    (bus.select channel register.bank).1.selected? channel =
      recollect (bus.refuses channel) (bus.selected? channel) register := by
  unfold select recollect
  by_cases remembered : bus.selected? channel = some register.bank
  · rw [if_pos remembered, if_pos remembered]
  · rw [if_neg remembered, if_neg remembered]
    refine (selected?_remember _ channel _ inside).trans ?_
    rw [if_pos rfl, accepted_select]
    cases bus.refuses channel <;> rfl

/-- An access leaves its bank behind, and lets the channel fail or work as before. -/
theorem access_recollects (inside : channel.toNat < maxChannels) (register : Register) (call : Call)
    (bus : Bus) :
    (bus.access channel register call).1.selected? channel =
        recollect (bus.refuses channel) (bus.selected? channel) register ∧
      (bus.access channel register call).1.refuses channel = bus.refuses channel := by
  rw [← selected?_select inside, ← refuses_select bus register.bank]
  simp only [access]
  split
  · exact ⟨rfl, refuses_attempt call _ channel⟩
  · exact ⟨rfl, rfl⟩

theorem carryOut_recollects (inside : channel.toNat < maxChannels) (command : Command) (bus : Bus) :
    (bus.carryOut channel command).1.selected? channel =
        command.register?.toList.foldl (recollect (bus.refuses channel)) (bus.selected? channel) ∧
      (bus.carryOut channel command).1.refuses channel = bus.refuses channel := by
  cases command with
  | write register value => exact access_recollects inside register _ bus
  | burst register data => exact access_recollects inside register _ bus
  | update register mask value => exact access_recollects inside register _ bus
  | pause time => exact ⟨rfl, rfl⟩

theorem selected?_carryOutAll (inside : channel.toNat < maxChannels) (script : Script)
    (failures : Nat) (bus : Bus) :
    (carryOutAll channel script failures bus).1.selected? channel =
      (script.filterMap Command.register?).foldl (recollect (bus.refuses channel))
        (bus.selected? channel) := by
  induction script generalizing failures bus with
  | nil => rfl
  | cons command others ih =>
      obtain ⟨selected, refused⟩ := carryOut_recollects inside command bus
      refine (ih _ (bus.carryOut channel command).1).trans ?_
      rw [selected, refused, List.filterMap_cons]
      cases command.register? <;> rfl

theorem selected?_execute (inside : channel.toNat < maxChannels) (script : Script) (bus : Bus) :
    (bus.execute channel script).1.selected? channel =
      (script.filterMap Command.register?).foldl (recollect (bus.refuses channel))
        (bus.selected? channel) :=
  selected?_carryOutAll inside script 0 bus

/-! ## Rows of accesses -/

/-- Where calls are carried out, the bank of the last register is left selected. -/
theorem recollect_of_last {last : Register} (ends : registers.getLast? = some last) :
    registers.foldl (recollect false) known = some last.bank := by
  obtain ⟨early, rfl⟩ := List.getLast?_eq_some_iff.mp ends
  rw [List.foldl_append]
  simp only [List.foldl_cons, List.foldl_nil, recollect]
  split
  · assumption
  · rfl

/-- While the bank of every register is selected already nothing changes. -/
theorem recollect_of_known {refused : Bool}
    (remembered : ∀ register ∈ registers, known = some register.bank) :
    registers.foldl (recollect refused) known = known := by
  induction registers with
  | nil => rfl
  | cons first others ih =>
      rw [List.foldl_cons, recollect, if_pos (remembered first List.mem_cons_self)]
      exact ih fun register member => remembered register (List.mem_cons_of_mem _ member)

theorem recollect_nothing (registers : List Register) :
    registers.foldl (recollect true) none = none := by
  induction registers with
  | nil => rfl
  | cons first others ih => exact ih

/-- Where calls are refused, nothing is known once another bank was needed. -/
theorem recollect_of_refused (member : register ∈ registers) (other : known ≠ some register.bank) :
    registers.foldl (recollect true) known = none := by
  induction registers with
  | nil => exact absurd member List.not_mem_nil
  | cons first others ih =>
      rw [List.foldl_cons, recollect]
      by_cases remembered : known = some first.bank
      · rw [if_pos remembered]
        refine ih ((List.mem_cons.mp member).resolve_left ?_)
        rintro rfl
        exact other remembered
      · rw [if_neg remembered]
        exact recollect_nothing others

/-! ## Other channels -/

/-- Calls to other channels tell nothing of a channel. -/
theorem tracked_of_others (others : ∀ attempt ∈ calls, ∃ other ≠ channel,
    attempt.call.channel? = some other) (trace : List Occurrence) :
    tracked channel (occurred calls ++ trace) = tracked channel trace := by
  induction calls with
  | nil => rfl
  | cons attempt rest ih =>
      have late := ih fun attempt member => others attempt (List.mem_cons_of_mem _ member)
      obtain ⟨other, apart, addressed⟩ := others attempt List.mem_cons_self
      refine Eq.trans ?_ late
      obtain ⟨call, accepted⟩ := attempt
      cases call with
      | select selecting bank =>
          obtain rfl : selecting = other := Option.some.inj addressed
          exact if_neg apart
      | reset => cases addressed
      | _ => rfl

/-- What is remembered of a channel stays while only other channels are called. -/
theorem Carries.selected?_of_others (carries : Carries after later) {trace : List Occurrence}
    (coherent : Coherent after trace) (inside : channel.toNat < maxChannels)
    (made : later.transport.attempts = calls ++ after.transport.attempts)
    (others : ∀ attempt ∈ calls, ∃ other ≠ channel, attempt.call.channel? = some other) :
    later.selected? channel = after.selected? channel := by
  obtain ⟨between, grown, keeps⟩ := carries
  obtain rfl : between = calls := List.append_cancel_right (grown.symm.trans made)
  rw [(keeps trace coherent).cursor channel inside, tracked_of_others others,
    coherent.cursor channel inside]

end AmpControl.Bus
