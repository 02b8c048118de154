import AmpControl.Proofs.Bus.Charges
import AmpControl.Proofs.Bus.Ensemble
import AmpControl.Proofs.Bus.Recall
import AmpControl.Proofs.Interrupt.Looks

/-!
# Rows of reads

A read makes one call to its register, behind a selection of the bank where the bank is not known to
be selected; behind a refused selection it makes none. So the calls of a row of reads follow from
what the transport refuses and from the bank that is known at the beginning. Reads leave everything
else as it is.
-/

namespace AmpControl.Bus

open Tuning (maxChannels)

/--
The calls of a read, oldest first, where a bank is known to be selected on the channel and the
transport refuses some calls.
-/
def readCalls (refuses : Call → Bool) (channel : UInt8) (known : Option Bank)
    (register : Register) : List Attempt :=
  let reading : Attempt := ⟨.read channel register, !refuses (.read channel register)⟩
  if known = some register.bank then [reading]
  else if refuses (.select channel register.bank) then [⟨.select channel register.bank, false⟩]
  else [⟨.select channel register.bank, true⟩, reading]

/-- The bank that is known after a read; nothing is remembered of channels past the last. -/
def knownAfter (refuses : Call → Bool) (channel : UInt8) (known : Option Bank)
    (register : Register) : Option Bank :=
  if channel.toNat < maxChannels then
    recollect (refuses (.select channel register.bank)) known register
  else none

/-- The calls of reads in a row, for each read. -/
def readRow (refuses : Call → Bool) (channel : UInt8) :
    (known : Option Bank) → List Register → List (List Attempt)
  | _, [] => []
  | known, register :: others =>
      readCalls refuses channel known register ::
        readRow refuses channel (knownAfter refuses channel known register) others

/-- One of the calls of an access was refused. -/
def anyRefused (calls : List Attempt) : Bool := calls.any fun attempt => !attempt.accepted

/-- A read fails where one of its calls is refused, and no other way. -/
theorem anyRefused_readCalls (transport : Transport) (channel : UInt8) (known : Option Bank)
    (register : Register) :
    anyRefused (readCalls transport.refuses channel known register) =
      transport.refuses (.read channel register) := by
  unfold readCalls
  cases selection : transport.refuses (.select channel register.bank) with
  | true =>
      have refused := refuses_read_of_select register selection
      split <;> simp [anyRefused, refused]
  | false => split <;> simp [anyRefused]

theorem countP_readRow (transport : Transport) (channel : UInt8) (known : Option Bank)
    (registers : List Register) :
    (readRow transport.refuses channel known registers).countP anyRefused =
      registers.countP fun register => transport.refuses (.read channel register) := by
  induction registers generalizing known with
  | nil => rfl
  | cons register others ih =>
      rw [readRow, List.countP_cons, List.countP_cons, ih, anyRefused_readCalls]

/-! ## Single reads -/

theorem clock_read (channel : UInt8) (register : Register) (bus : Bus) :
    (bus.read channel register).1.clock = bus.clock :=
  clock_access channel register _ bus

theorem attempts_read (channel : UInt8) (register : Register) (bus : Bus) :
    (bus.read channel register).1.transport.attempts.reverse =
      bus.transport.attempts.reverse ++
        readCalls bus.transport.refuses channel (bus.selected? channel) register := by
  have attempted (bus : Bus) : (bus.attempt (.read channel register)).1.transport.attempts.reverse =
      bus.transport.attempts.reverse ++
        [⟨.read channel register, !bus.transport.refuses (.read channel register)⟩] := by
    rw [attempts_attempt, List.reverse_cons,
      (attempt_reads (.read channel register) rfl (by simp) bus).2.2]
  unfold readCalls
  by_cases remembered : bus.selected? channel = some register.bank
  · have selected : bus.select channel register.bank = (bus, true) := by
      rw [select, if_pos remembered]
    rw [if_pos remembered]
    simp only [read, access, selected, if_true]
    exact attempted bus
  · have logged : (bus.select channel register.bank).1.transport.attempts.reverse =
        bus.transport.attempts.reverse ++ [⟨.select channel register.bank,
          !bus.transport.refuses (.select channel register.bank)⟩] := by
      rw [select, if_neg remembered]
      refine (congrArg List.reverse (attempts_attempt (.select channel register.bank) bus)).trans ?_
      rw [List.reverse_cons,
        (attempt_reads (.select channel register.bank) rfl (by simp) bus).2.2]
    have accepted : (bus.select channel register.bank).2 =
        !bus.transport.refuses (.select channel register.bank) := by
      rw [select, if_neg remembered]
      exact (attempt_reads (.select channel register.bank) rfl (by simp) bus).2.2
    obtain ⟨_, refuses, _⟩ := select_reads channel register.bank bus
    rw [if_neg remembered]
    cases refused : bus.transport.refuses (.select channel register.bank) with
    | true =>
        rw [refused] at logged accepted
        simp only [read, access, accepted]
        exact logged
    | false =>
        rw [refused] at logged accepted
        simp only [read, access, accepted, Bool.not_false, if_true, Bool.false_eq_true, if_false]
        rw [attempted, logged, refuses, List.append_assoc]
        rfl

theorem selected?_read (channel : UInt8) (register : Register) (bus : Bus) :
    (bus.read channel register).1.selected? channel =
      knownAfter bus.transport.refuses channel (bus.selected? channel) register := by
  unfold knownAfter
  by_cases inside : channel.toNat < maxChannels
  · rw [if_pos inside]
    exact (access_recollects inside register _ bus).1
  · rw [if_neg inside, selected?, Vector.getElem?_eq_none (Nat.le_of_not_lt inside)]
    rfl

/-! ## Rows -/

theorem readAll_cons (channel : UInt8) (register : Register) (others : List Register) (bus : Bus) :
    (bus.readAll channel (register :: others)).1 =
      ((bus.read channel register).1.readAll channel others).1 := rfl

theorem attempts_readAll (channel : UInt8) (registers : List Register) (bus : Bus) :
    (bus.readAll channel registers).1.transport.attempts.reverse =
      bus.transport.attempts.reverse ++
        (readRow bus.transport.refuses channel (bus.selected? channel) registers).flatten := by
  induction registers generalizing bus with
  | nil => exact (List.append_nil _).symm
  | cons register others ih =>
      obtain ⟨_, refuses, _⟩ := read_eq channel register bus
      rw [readAll_cons, ih, attempts_read, selected?_read, refuses, readRow, List.flatten_cons,
        List.append_assoc]

end AmpControl.Bus
