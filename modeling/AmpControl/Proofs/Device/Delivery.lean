import AmpControl.Proofs.Device.Standing

/-!
# Delivery of stored values

The stored value of a control is on the hardware when the control was sent with it and nothing that
outdates what was sent happened since. Work keeps what is on the hardware, apart from resets and
power-ups, and each of these is followed by the replay that makes up for it.
-/

namespace AmpControl

open Tuning (Control Payload Timing)

/--
The latest time that a control was sent it was sent with this index, after something that outdated
all that was sent before, and nothing that outdates it happened since.
-/
inductive SentSince (outdates : Event → Prop) (id index : Nat) : List Event → Prop where
  | sent {earlier : List Event} (marked : ∃ mark ∈ earlier, outdates mark) :
      SentSince outdates id index (.dispatched id index :: earlier)
  | kept {event : Event} {earlier : List Event} (spares : ¬outdates event)
      (other : ∀ sent, event ≠ .dispatched id sent) (before : SentSince outdates id index earlier) :
      SentSince outdates id index (event :: earlier)

namespace SentSince

variable {outdates : Event → Prop} {id index : Nat} {history : List Event}

theorem marked (sent : SentSince outdates id index history) : ∃ mark ∈ history, outdates mark := by
  induction sent with
  | sent marked =>
      obtain ⟨mark, member, outdating⟩ := marked
      exact ⟨mark, List.mem_cons_of_mem _ member, outdating⟩
  | kept _ _ _ ih =>
      obtain ⟨mark, member, outdating⟩ := ih
      exact ⟨mark, List.mem_cons_of_mem _ member, outdating⟩

/-- One more event that outdates nothing, and is not the control sent with another index. -/
theorem cons (before : SentSince outdates id index history) {event : Event}
    (spares : ¬outdates event) (same : ∀ sent, event = .dispatched id sent → sent = index) :
    SentSince outdates id index (event :: history) := by
  by_cases again : event = .dispatched id index
  · rw [again]
    exact sent before.marked
  · refine kept spares ?_ before
    intro other dispatched
    exact again (same other dispatched ▸ dispatched)

theorem append {added : List Event} (before : SentSince outdates id index history)
    (spares : ∀ event ∈ added, ¬outdates event)
    (same : ∀ sent, .dispatched id sent ∈ added → sent = index) :
    SentSince outdates id index (added ++ history) := by
  induction added with
  | nil => exact before
  | cons event others ih =>
      have later := ih (fun other member => spares other (List.mem_cons_of_mem _ member))
        (fun sent member => same sent (List.mem_cons_of_mem _ member))
      refine later.cons (spares event List.mem_cons_self) ?_
      intro sent dispatched
      exact same sent (dispatched ▸ List.mem_cons_self)

/-- Among what was added the control was sent, with this index only. -/
theorem of_mem {added : List Event} (marked : ∃ mark ∈ history, outdates mark)
    (member : .dispatched id index ∈ added) (spares : ∀ event ∈ added, ¬outdates event)
    (same : ∀ sent, .dispatched id sent ∈ added → sent = index) :
    SentSince outdates id index (added ++ history) := by
  induction added with
  | nil => cases member
  | cons event others ih =>
      have sparesOthers : ∀ other ∈ others, ¬outdates other :=
        fun other listed => spares other (List.mem_cons_of_mem _ listed)
      have sameOthers : ∀ sent, .dispatched id sent ∈ others → sent = index :=
        fun sent listed => same sent (List.mem_cons_of_mem _ listed)
      by_cases early : .dispatched id index ∈ others
      · refine (ih early sparesOthers sameOthers).cons (spares event List.mem_cons_self) ?_
        intro sent dispatched
        exact same sent (dispatched ▸ List.mem_cons_self)
      · rcases List.mem_cons.mp member with head | tail
        · rw [← head]
          obtain ⟨mark, listed, outdating⟩ := marked
          exact sent ⟨mark, List.mem_append_right others listed, outdating⟩
        · exact absurd tail early

end SentSince

/-- The stored values of a timing are to be on the hardware of a channel that stands like this. -/
def Standing.Due (standing : Standing) : Timing → Prop
  | .anytime => True
  | .beforePowerUp => standing.power = .active
  | .afterPowerUp => standing.power = .active ∧ standing.waiting = false

namespace Device

variable {payload : Payload} {stale : UInt8 → Timing → Prop} {before after device : Device}
  {channel : UInt8} {timing : Timing}

/-- Something outdated all that was sent to a channel and a timing before. -/
def Marked (channel : UInt8) (timing : Timing) (device : Device) : Prop :=
  ∃ mark ∈ device.history, mark.Outdates channel timing

/-- Every accepted stored value of a channel and a timing is on the hardware. -/
structure Delivered (payload : Payload) (channel : UInt8) (timing : Timing) (device : Device) :
    Prop where
  marked : device.Marked channel timing
  sent : ∀ id control index, payload.controls[id]? = some control → control.channel = channel →
    control.timing = timing → Control.wanted? payload.controls device.values id = some index →
    SentSince (Event.Outdates channel timing) id index device.history

/-- All that is to be on the hardware of a declared channel is there. -/
def InForce (payload : Payload) (device : Device) (channel : UInt8) : Prop :=
  channel < payload.channelCount → ∀ timing, (device.standing channel).Due timing →
    device.Delivered payload channel timing

theorem Steps.marked (steps : Steps payload stale before after)
    (marked : before.Marked channel timing) : after.Marked channel timing := by
  obtain ⟨mark, member, outdating⟩ := marked
  exact ⟨mark, steps.history.mem member, outdating⟩

/-- What is on the hardware stays there, unless it may be lost. -/
theorem Steps.delivered (steps : Steps payload stale before after) (safe : ¬stale channel timing)
    (delivered : before.Delivered payload channel timing) :
    after.Delivered payload channel timing := by
  refine ⟨steps.marked delivered.marked, ?_⟩
  intro id control index found onChannel onTiming wanted
  rw [steps.frame.values] at wanted
  obtain ⟨added, grown, proper⟩ := steps.history
  rw [grown]
  refine (delivered.sent id control index found onChannel onTiming wanted).append ?_ ?_
  · intro event member outdating
    exact safe ((proper event member).spares channel timing outdating)
  · intro sent member
    have faithful : Control.wanted? payload.controls before.values id = some sent :=
      (proper _ member).faithful
    exact Option.some.inj (faithful.symm.trans wanted)

/-- A replay brings all stored values of its channel and timing to the hardware. -/
theorem delivered_replay (marked : device.Marked channel timing) :
    (replay payload channel timing device).1.Delivered payload channel timing := by
  have replayed : Steps payload (fun _ _ => False) device
      (replay payload channel timing device).1 := steps_replay timing
  refine ⟨replayed.marked marked, ?_⟩
  rw [replay_eq]
  intro id control index found onChannel onTiming wanted
  refine SentSince.of_mem marked ?_ ?_ ?_
  · exact mem_replayEvents.mpr ⟨id, control, index, found, onChannel, onTiming, wanted, rfl⟩
  · intro event member outdating
    obtain ⟨_, _, _, _, _, _, _, rfl⟩ := mem_replayEvents.mp member
    exact outdating
  · intro sent member
    obtain ⟨other, _, wantedIndex, _, _, _, wants, same⟩ := mem_replayEvents.mp member
    cases same
    exact Option.some.inj (wants.symm.trans wanted)

theorem history_latchFault (device : Device) (fault : Option TransportFault) :
    (device.latchFault fault).history = device.history := by
  rw [latchFault_eq]

theorem delivered_leaves {work : Work}
    (delivered : (work device).1.Delivered payload channel timing) :
    (work.leaves device).Delivered payload channel timing := by
  have latched : Steps payload (fun _ _ => False) (work device).1 (work.leaves device) :=
    .single (.latched _)
  exact latched.delivered not_false delivered

/-- An initialisation brings the values that apply at any time to the hardware. -/
theorem delivered_initialise {tables : Tuning.ChannelTables}
    (found : payload.channel? channel = some tables) (marked : device.Marked channel .anytime) :
    (initialise payload channel device).1.Delivered payload channel .anytime := by
  have early : Steps payload (fun _ _ => False) device (Work.inOrder [
      run channel .initialisation tables.initialisation,
      applyFallbacks channel tables.audioInterface, armSense payload channel] device).1 := by
    refine steps_cons (steps_run (by trivial) (by simp) _) fun _ _ => ?_
    refine steps_cons (steps_applyFallbacks _) fun _ _ => ?_
    exact steps_cons steps_armSense fun _ _ => .refl
  simp only [initialise, found]
  exact delivered_leaves (delivered_replay (early.marked marked))

/-- A power-up brings the values that come before it to the hardware. -/
theorem delivered_powerUp {tables : Tuning.ChannelTables}
    (found : payload.channel? channel = some tables) (unlocked : device.locked channel = false) :
    (powerUp payload channel device).1.Delivered payload channel .beforePowerUp := by
  have begun : (beginPowerUp channel).leaves device = device.record (.poweringUp channel) := rfl
  have marked : (risen payload channel device).Marked channel .beforePowerUp := by
    have start : (device.record (.poweringUp channel)).Marked channel .beforePowerUp :=
      ⟨_, List.mem_cons_self, by simp, rfl⟩
    have rising : Steps payload (fun _ _ => False) ((beginPowerUp channel).leaves device)
        (risen payload channel device) := steps_beforeReplay
    exact rising.marked (begun ▸ start)
  have early : Steps payload (fun _ _ => True) device
      ((replay payload channel .beforePowerUp).leaves (risen payload channel device)) :=
    (steps_risen fun _ _ => trivial).trans (steps_leaves (steps_replay _))
  rw [fst_powerUp found]
  have late : Steps payload (fun _ _ => False) _ _ :=
    steps_afterReplay ((early.frame.locked channel).trans unlocked) tables.power.powerUp
  exact late.delivered not_false (delivered_leaves (delivered_replay marked))

end Device

end AmpControl
