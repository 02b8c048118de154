import AmpControl.Proofs.Bus.Charges
import AmpControl.Proofs.Bus.Cursor
import AmpControl.Proofs.Control.Write

/-!
# Errands

Everything that a device lets the bus do for one channel is an errand: it calls this channel only,
the bus remembers what occurred, and a refused call shows as a fault of this channel.
-/

namespace AmpControl.Bus

open Tuning (Command Control Script)

/-- Something done for a channel, with the fault that came of it. -/
structure Errand (channel : UInt8) (before after : Bus) (fault : Option TransportFault) : Prop where
  carries : Carries before after
  makes : Makes (Attempt.Serves channel (fault = none)) before after
  reported : ∀ met, fault = some met → met.channel = channel

variable {channel : UInt8} {bus before after : Bus}

theorem channel_of_ofCount {failures : Nat} {met : TransportFault}
    (failed : TransportFault.ofCount channel failures = some met) : met.channel = channel := by
  unfold TransportFault.ofCount at failed
  split at failed
  · cases failed
  · cases failed
    rfl

theorem channel_of_faultOf {carriedOut : Bool} {met : TransportFault}
    (failed : faultOf channel carriedOut = some met) : met.channel = channel := by
  cases carriedOut <;> cases failed
  rfl

/-! ## Scripts -/

theorem carries_wait (microseconds : Nat) (bus : Bus) : Carries bus (bus.wait microseconds) :=
  .of_selected rfl rfl

theorem carries_read (channel : UInt8) (register : Register) (bus : Bus) :
    Carries bus (bus.read channel register).1 :=
  carries_access register (.read channel register) rfl rfl bus

theorem carries_carryOut (channel : UInt8) (command : Command) (bus : Bus) :
    Carries bus (bus.carryOut channel command).1 := by
  cases command with
  | write register value => exact carries_access register _ rfl rfl bus
  | burst register data => exact carries_access register _ rfl rfl bus
  | update register mask value => exact carries_access register _ rfl rfl bus
  | pause time => exact carries_wait _ bus

theorem carries_carryOutAll (channel : UInt8) (script : Script) (failures : Nat) (bus : Bus) :
    Carries bus (carryOutAll channel script failures bus).1 := by
  induction script generalizing failures bus with
  | nil => exact .refl bus
  | cons command others ih => exact (carries_carryOut channel command bus).trans (ih _ _)

theorem errand_execute (channel : UInt8) (script : Script) (bus : Bus) :
    Errand channel bus (bus.execute channel script).1 (bus.execute channel script).2 where
  carries := carries_carryOutAll channel script 0 bus
  makes := makes_execute channel script bus
  reported _ failed := channel_of_ofCount failed

theorem carries_compareAll (channel : UInt8) (script : Script) (failures : Nat) (agrees : Bool)
    (bus : Bus) : Carries bus (compareAll channel script failures agrees bus).1 := by
  induction script generalizing failures agrees bus with
  | nil => exact .refl bus
  | cons command others ih =>
      unfold compareAll
      cases expectation? command with
      | none => exact ih failures agrees bus
      | some expected =>
          have looked := carries_read channel expected.1 bus
          simp only
          cases outcome : bus.read channel expected.1 with
          | mk after held =>
              rw [outcome] at looked
              cases held <;> exact looked.trans (ih _ _ _)

/-- The fault of something that came to an answer or to a fault. -/
def faultIn {α : Type} : Except TransportFault α → Option TransportFault
  | .ok _ => none
  | .error fault => some fault

theorem errand_verify (channel : UInt8) (script : Script) (bus : Bus) :
    Errand channel bus (bus.verify channel script).1 (faultIn (bus.verify channel script).2) where
  carries := carries_compareAll channel script 0 true bus
  makes := (makes_verify channel script bus).serves fun clean => by
    cases answer : (bus.verify channel script).2 with
    | ok agrees => exact ⟨agrees, rfl⟩
    | error fault =>
        rw [answer] at clean
        cases clean
  reported met failed := by
    unfold verify at failed
    cases counted : TransportFault.ofCount channel (compareAll channel script 0 true bus).2.1 with
    | none =>
        simp only [counted] at failed
        cases failed
    | some fault =>
        simp only [counted] at failed
        cases failed
        exact channel_of_ofCount counted

theorem carries_readAll (channel : UInt8) (registers : List Register) (bus : Bus) :
    Carries bus (bus.readAll channel registers).1 := by
  induction registers generalizing bus with
  | nil => exact .refl bus
  | cons register others ih => exact (carries_read channel register bus).trans (ih _)

/-! ## Controls -/

theorem carries_dispatchCandidate (channel : UInt8) (body : Tuning.IntegerControl)
    (candidate : UInt32) (bus : Bus) :
    Carries bus (Control.dispatchCandidate channel body candidate bus).1 := by
  unfold Control.dispatchCandidate
  split <;> exact carries_access body.register _ rfl rfl bus

theorem errand_dispatch (control : Control) (index : Nat) (bus : Bus) :
    Errand control.channel bus (control.dispatch index bus).1 (control.dispatch index bus).2 := by
  refine ⟨?_, makes_dispatch control index bus, fun met failed => ?_⟩
  · unfold Control.dispatch
    split
    · split
      · exact .refl bus
      · exact carries_dispatchCandidate _ _ _ bus
    · split
      · exact .refl bus
      · exact (errand_execute _ _ bus).carries
  · unfold Control.dispatch at failed
    split at failed
    · split at failed
      · cases failed
      · exact channel_of_faultOf failed
    · split at failed
      · cases failed
      · exact channel_of_ofCount failed

theorem errand_idle (channel : UInt8) (bus : Bus) : Errand channel bus bus none :=
  ⟨.refl bus, .refl bus, fun _ failed => nomatch failed⟩

theorem errand_write (write : Control.Write) (bus : Bus) :
    Errand write.control.channel bus (write.carryOut bus).1 (write.carryOut bus).2 := by
  unfold Control.Write.carryOut
  split
  · exact errand_dispatch write.control write.index bus
  · exact errand_idle _ bus

theorem carries_writes (writes : List Control.Write) (held : Option TransportFault) (bus : Bus) :
    Carries bus (Control.carryOutAll writes held bus).1 := by
  induction writes generalizing held bus with
  | nil => exact .refl bus
  | cons write others ih => exact (errand_write write bus).carries.trans (ih _ _)

/-- Two errands for one channel are one errand, and their faults are reported together. -/
theorem Errand.trans {middle : Bus} {early late : Option TransportFault}
    (first : Errand channel before middle early) (second : Errand channel middle after late) :
    Errand channel before after (TransportFault.join early late) where
  carries := first.carries.trans second.carries
  makes := (first.makes.serves fun clean => (join_eq_none.mp clean).1).trans
    (second.makes.serves fun clean => (join_eq_none.mp clean).2)
  reported met failed := by
    cases early with
    | none => exact second.reported met failed
    | some fault =>
        have here := first.reported fault rfl
        cases late <;> cases failed <;> exact here

theorem errand_writes {writes : List Control.Write}
    (here : ∀ write ∈ writes, write.control.channel = channel)
    {held : Option TransportFault} (sofar : Errand channel before bus held) :
    Errand channel before (Control.carryOutAll writes held bus).1
      (Control.carryOutAll writes held bus).2 := by
  induction writes generalizing held bus with
  | nil => exact sofar
  | cons write others ih =>
      have first := errand_write write bus
      rw [here write List.mem_cons_self] at first
      exact ih (fun write member => here write (List.mem_cons_of_mem _ member)) (sofar.trans first)

theorem errand_replay (controls : List Control) (values : List Int) (channel : UInt8)
    (timing : Tuning.Timing) (bus : Bus) :
    Errand channel bus
      (Control.carryOutAll (Control.replayable controls values channel timing) none bus).1
      (Control.carryOutAll (Control.replayable controls values channel timing) none bus).2 := by
  refine errand_writes (fun write member => ?_) (errand_idle channel bus)
  exact (Control.mem_replayable.mp member).2.1

/-- The fault of an errand stands for the number of its refused calls. -/
theorem Errand.counted {fault : Option TransportFault} (errand : Errand channel before after fault)
    (charges : Charges before after fault) :
    ∃ calls, after.transport.attempts = calls ++ before.transport.attempts ∧
      (∀ attempt ∈ calls, attempt.call.channel? = some channel) ∧
      fault = TransportFault.ofCount channel (refusedCalls calls).length := by
  obtain ⟨calls, grown, rfl⟩ := charges
  obtain ⟨made, alsoGrown, serves⟩ := errand.makes.calls
  obtain rfl := List.append_cancel_right (grown.symm.trans alsoGrown)
  refine ⟨calls, grown, fun attempt member => (serves attempt member).1, ?_⟩
  cases refused : refusedCalls calls with
  | nil => rfl
  | cons first others =>
      have member : first ∈ refusedCalls calls := refused ▸ List.mem_cons_self
      obtain ⟨attempt, made, _, rfl⟩ := mem_refusedCalls.mp member
      rw [faultOfCalls, (serves attempt made).1]
      rfl

end AmpControl.Bus

namespace AmpControl

open Bus (Carries Errand)

/-! ## Polls -/

theorem Poll.carries_visitAll (channel : UInt8) (sources : List (Tuning.Source × Nat))
    (poll : Poll) : Carries poll.bus (visitAll channel sources poll).bus := by
  induction sources generalizing poll with
  | nil => exact .refl _
  | cons entry others ih =>
      obtain ⟨source, index⟩ := entry
      have read : Carries poll.bus (poll.visit channel index source).bus := by
        rw [(bus_visit channel index source poll).1, status]
        split
        · exact .refl _
        · exact Bus.carries_read channel source.status poll.bus
      exact read.trans (ih _)

theorem Tuning.InterruptTable.errand_classify (table : InterruptTable) (channel : UInt8)
    (powered : Bool) (counters : List Counter) (bus : Bus) :
    Errand channel bus (table.classify channel powered counters bus).bus
      (Bus.faultIn ((table.classify channel powered counters bus).result channel)) where
  carries := Poll.carries_visitAll channel _ (Poll.start counters bus)
  makes := (table.makes_classify channel powered counters bus).serves fun clean => by
    cases found : (table.classify channel powered counters bus).result channel with
    | ok reading => exact ⟨reading, rfl⟩
    | error fault =>
        rw [found] at clean
        cases clean
  reported met failed := by
    unfold Poll.result at failed
    split at failed
    · cases failed
    · rename_i fault counted
      cases failed
      exact Bus.channel_of_ofCount counted

end AmpControl
