import AmpControl.Proofs.Device.Refusal
import AmpControl.Proofs.Device.Traces
import AmpControl.Proofs.Device.Worker

/-!
# Deferred turns

Each turn of the deferred work takes out what is due first, so after as many turns as there is work
nothing is due any more. What is taken out is done once and no earlier than it is due, and concerns
its own channel only.
-/

namespace AmpControl

open Bus (Call)
open Tuning (Payload)

/-! ## The queue -/

namespace DeferredQueue

variable {queue : DeferredQueue} {channel : UInt8} {item : DeferredItem}

/-- The number of channels for which work waits. -/
def size (queue : DeferredQueue) : Nat := queue.slots.countP Option.isSome

theorem size_le (queue : DeferredQueue) : queue.size ≤ Tuning.maxChannels := Vector.countP_le_size

theorem size_cancel (held : queue.item? channel = some item) :
    (queue.cancel channel).size < queue.size := by
  obtain ⟨inside, slot⟩ := slot_of_item? held
  have filled : 0 < queue.slots.countP Option.isSome :=
    Vector.countP_pos_iff.mpr ⟨some item, slot ▸ Vector.getElem_mem inside, rfl⟩
  have cancelled : queue.slots.setIfInBounds channel.toNat none =
      queue.slots.set channel.toNat none inside := by
    apply Vector.toList_inj.mp
    rw [Vector.toList_setIfInBounds, Vector.toList_set]
  unfold size cancel
  rw [cancelled, Vector.countP_set inside, slot]
  simp only [Option.isSome_some, if_true, Option.isSome_none, Bool.false_eq_true, if_false]
  omega

end DeferredQueue

namespace Device

open Work (Traces traces_cons traces_nil)

variable {payload : Payload} {device before after : Device} {channel : UInt8}
  {touched : UInt8 → Prop}

/-! ## One turn -/

theorem traces_pollAfterPowerUp (payload : Payload) (channel : UInt8) :
    Traces channel (pollAfterPowerUp payload channel) fun _ =>
      pollAccesses payload channel true := by
  have bus (device : Device) (table : Tuning.InterruptTable)
      (tabled : payload.interrupts? channel = some table) :
      (pollAfterPowerUp payload channel device).1 = (device.poll table channel true).1 :=
    fst_pollAfterPowerUp tabled device
  constructor
  · intro device
    cases tabled : payload.interrupts? channel with
    | none =>
        rw [pollAfterPowerUp, tabled]
    | some table =>
        rw [bus device table tabled]
        rfl
  · intro device
    cases tabled : payload.interrupts? channel with
    | none =>
        rw [pollAfterPowerUp, tabled]
    | some table =>
        rw [bus device table tabled]
        exact (table.makes_classify channel true _ device.bus).refusals
  · exact fun _ _ _ => rfl
  · intro device clean
    unfold pollAccesses
    cases tabled : payload.interrupts? channel with
    | none =>
        rw [pollAfterPowerUp, tabled]
        exact (List.append_nil _).symm
    | some table =>
        rw [bus device table tabled] at clean ⊢
        exact table.accesses_classify channel true _ device.bus clean

/-- After the deferred work of a channel it is counted, and an error may be latched for it. -/
theorem finishPowerUp_eq (payload : Payload) (channel : UInt8) (device : Device) :
    ∃ errors, device.finishPowerUp payload channel =
      { device.finished payload channel with
        stats :=
          { (device.finished payload channel).stats with
            deferredRuns :=
              Stats.increment (device.finished payload channel).stats.deferredRuns }
        errors := errors } := by
  rw [← fst_finished]
  unfold finishPowerUp
  simp only
  split <;> exact ⟨_, rfl⟩

/-- The deferred work of a channel makes its accesses. -/
theorem accesses_finishPowerUp
    (clean : (device.finishPowerUp payload channel).bus.refusals = device.bus.refusals) :
    (device.finishPowerUp payload channel).bus.accesses channel =
      device.bus.accesses channel ++ finishAccesses payload device channel := by
  obtain ⟨errors, same⟩ := finishPowerUp_eq payload channel device
  rw [same] at clean ⊢
  simp only [← fst_finished] at clean ⊢
  have traces := traces_cons (traces_pollAfterPowerUp payload channel) <|
    traces_cons (traces_clearInterrupts payload channel) <|
    traces_cons (traces_unmaskInterrupts payload channel) <|
    traces_cons (traces_replay payload channel .afterPowerUp) (traces_nil channel)
  rw [traces.accesses device clean]
  simp only [finishAccesses, List.append_nil, List.append_assoc]

theorem confined_pollAfterPowerUp (here : touched channel) (device : Device) :
    Confined touched device (pollAfterPowerUp payload channel device).1 none := by
  cases tabled : payload.interrupts? channel with
  | none =>
      rw [pollAfterPowerUp, tabled]
      exact .refl device
  | some table =>
      rw [fst_pollAfterPowerUp tabled]
      exact (Pass.confined_poll here table true device).mild

theorem confined_finished (here : touched channel) (device : Device) :
    Confined touched device (device.finished payload channel) none := by
  rw [← fst_finished]
  apply Work.keeps_inOrder fun held => Confined touched device held none
  · intro part member held sofar
    refine (Confined.trans sofar ?_).latched _
    simp only [List.mem_cons, List.not_mem_nil, or_false] at member
    rcases member with rfl | rfl | rfl | rfl
    · exact confined_pollAfterPowerUp here held
    · exact ((Work.on_clearInterrupts here).confined held).mild
    · exact ((Work.on_unmaskInterrupts here).confined held).mild
    · exact (Work.On.confined (.replay here payload _) held).mild
  · exact .refl device

theorem confined_finishPowerUp (here : touched channel) (small : channel < 8) (device : Device) :
    Confined touched device (device.finishPowerUp payload channel) none := by
  have worked : Confined touched device (device.finished payload channel) none :=
    confined_finished here device
  rw [← fst_finished] at worked
  have counted := worked.trans (confined_count (fun stats =>
    { stats with deferredRuns := Stats.increment stats.deferredRuns }) _)
  unfold finishPowerUp
  simp only
  split
  · have latched := counted.latched (some (TransportFault.single channel))
    rw [latchFault_of_small small] at latched
    exact latched
  · exact counted

/-- Doing deferred work schedules none and cancels none, and counts nothing by itself. -/
theorem untouched_finished (payload : Payload) (channel : UInt8) (device : Device) :
    (device.finished payload channel).deferred = device.deferred ∧
      (device.finished payload channel).stats = device.stats := by
  have latched (fault : Option TransportFault) (held : Device) :
      (held.latchFault fault).deferred = held.deferred ∧
        (held.latchFault fault).stats = held.stats := by
    rw [latchFault_eq]
    exact ⟨rfl, rfl⟩
  rw [← fst_finished]
  apply Work.keeps_inOrder fun held => held.deferred = device.deferred ∧ held.stats = device.stats
  · rintro part member held ⟨kept, counted⟩
    rw [Work.leaves, (latched _ _).1, (latched _ _).2, ← kept, ← counted]
    simp only [List.mem_cons, List.not_mem_nil, or_false] at member
    rcases member with rfl | rfl | rfl | rfl
    · cases tabled : payload.interrupts? channel with
      | none =>
          rw [pollAfterPowerUp, tabled]
          exact ⟨rfl, rfl⟩
      | some table =>
          rw [fst_pollAfterPowerUp tabled]
          exact ⟨rfl, rfl⟩
    · unfold clearInterrupts
      cases payload.interrupts? channel <;> exact ⟨rfl, rfl⟩
    · unfold unmaskInterrupts
      cases payload.interrupts? channel with
      | none => exact ⟨rfl, rfl⟩
      | some table =>
          rw [Work.fst_inOrder_cons, Work.fst_inOrder_cons, Work.fst_inOrder_nil, Work.leaves,
            (latched _ _).1, (latched _ _).2, Work.leaves]
          exact latched _ _
    · rw [replay_eq]
      exact ⟨rfl, rfl⟩
  · exact ⟨rfl, rfl⟩

theorem deferred_finishPowerUp (payload : Payload) (channel : UInt8) (device : Device) :
    (device.finishPowerUp payload channel).deferred = device.deferred := by
  obtain ⟨errors, same⟩ := finishPowerUp_eq payload channel device
  rw [same]
  exact (untouched_finished payload channel device).1

/-- Deferred work that is done counts once. -/
theorem deferredRuns_finishPowerUp (payload : Payload) (channel : UInt8) (device : Device) :
    (device.finishPowerUp payload channel).stats.deferredRuns =
      Stats.increment device.stats.deferredRuns := by
  obtain ⟨errors, same⟩ := finishPowerUp_eq payload channel device
  rw [same, (untouched_finished payload channel device).2]

/-! ## Rows of turns -/

/--
What a row of deferred turns comes to for one channel. Nothing waits for it; or what waits is not
due by the end; or what waits is done once, and no earlier than it is due.
-/
inductive Attended (payload : Payload) (channel : UInt8) (before after : Device) : Prop where
  | free (nothing : before.deferred.item? channel = none)
      (still : after.deferred.item? channel = none)
      (untouched : after.bus.accesses channel = before.bus.accesses channel)
  | waiting {item : DeferredItem} (held : before.deferred.item? channel = some item)
      (early : after.clock < item.due) (still : after.deferred.item? channel = some item)
      (untouched : after.bus.accesses channel = before.bus.accesses channel)
  | finished {item : DeferredItem} (held : before.deferred.item? channel = some item)
      (begun : Device) (due : item.due ≤ begun.clock) (reached : begun.clock ≤ after.clock)
      (untouched : begun.bus.accesses channel = before.bus.accesses channel)
      (done : after.deferred.item? channel = none)
      (accesses : after.bus.accesses channel =
        begun.bus.accesses channel ++ finishAccesses payload before channel)

/-- While a payload is ready, what is due first is done. -/
theorem deferredTurn_of_ready (sound : device.Sound payload) (ready : device.ready? = some payload)
    {generation : UInt32} {left : DeferredQueue}
    (due : device.deferred.takeDue device.clock = some ((channel, generation), left)) :
    device.deferredTurn =
      ((device.cancelDeferred channel).finishPowerUp payload channel, .ran) := by
  have readyTaken : (device.cancelDeferred channel).ready? = some payload := ready
  have playingTaken : (device.cancelDeferred channel).power channel = .active :=
    (playing_of_due sound due).1
  rw [deferredTurn_of_due due, readyTaken]
  simp only [playingTaken, if_true]

/-- A turn that concerns another channel changes nothing of what is to come for a channel. -/
theorem Attended.after_other {middle : Device}
    (confined : Confined (· ≠ channel) before middle none)
    (attended : Attended payload channel middle after) : Attended payload channel before after := by
  have treats : Treats channel [] id before middle := .of_confined confined
  have same : middle.bus.accesses channel = before.bus.accesses channel := by
    rw [treats.accesses, List.append_nil]
  have finish : finishAccesses payload middle channel = finishAccesses payload before channel := by
    rw [finishAccesses, controlAccesses, confined.beside.values, ← controlAccesses,
      ← finishAccesses]
  cases attended with
  | free nothing still untouched =>
      exact .free (treats.item ▸ nothing) still (untouched.trans same)
  | waiting held early still untouched =>
      exact .waiting (treats.item ▸ held) early still (untouched.trans same)
  | finished held begun due reached untouched done accesses =>
      exact .finished (treats.item ▸ held) begun due reached (untouched.trans same) done
        (finish ▸ accesses)

/-- What a turn comes to while a payload is ready: a device on which the turns go on. -/
structure Turned (payload : Payload) (channel : UInt8) (before after : Device) : Prop where
  sound : after.Sound payload
  ready : after.ready? = some payload
  confined : Confined (· = channel) before after none
  fewer : after.deferred.size < before.deferred.size
  done : after.deferred.item? channel = none

theorem turned_of_due (sound : device.Sound payload) (ready : device.ready? = some payload)
    {generation : UInt32} {left : DeferredQueue}
    (due : device.deferred.takeDue device.clock = some ((channel, generation), left)) :
    Turned payload channel device
      ((device.cancelDeferred channel).finishPowerUp payload channel) := by
  have declared := (playing_of_due sound due).2
  have turn := deferredTurn_of_ready sound ready due
  obtain ⟨_, instant, _, item⟩ := DeferredQueue.takeDue_eq_some due
  have safe := safe_deferredTurn sound ready
  rw [turn] at safe
  have cancelled : Confined (· = channel) device (device.cancelDeferred channel) none :=
    confined_updates (by rfl) .cancelled device
  have left := deferred_finishPowerUp payload channel (device.cancelDeferred channel)
  refine ⟨safe.sound, safe.frame.ready?.trans ready,
    cancelled.trans (confined_finishPowerUp (by rfl) (sound.shaped.lt_eight declared) _), ?_, ?_⟩
  · rw [left]
    exact DeferredQueue.size_cancel item
  · rw [left]
    exact (DeferredQueue.item?_cancel _ channel channel).trans (if_pos rfl)

/-- A row of turns is over at once, or begins with one turn. -/
theorem deferredTurns_cases (bound ran : Nat) (sound : device.Sound payload)
    (ready : device.ready? = some payload) :
    (device.deferred.takeDue device.clock = none ∧
      (deferredTurns (bound + 1) ran device).1 = device) ∨
    ∃ taken generation left,
      device.deferred.takeDue device.clock = some ((taken, generation), left) ∧
      deferredTurns (bound + 1) ran device = deferredTurns bound (ran + 1)
        ((device.cancelDeferred taken).finishPowerUp payload taken) := by
  cases due : device.deferred.takeDue device.clock with
  | none =>
      refine .inl ⟨rfl, ?_⟩
      rw [deferredTurns, deferredTurn, due]
  | some entry =>
      obtain ⟨⟨taken, generation⟩, left⟩ := entry
      have turn := deferredTurn_of_ready sound ready due
      refine .inr ⟨taken, generation, left, rfl, ?_⟩
      rw [deferredTurns, turn]

theorem confined_deferredTurns (bound ran : Nat) (sound : device.Sound payload)
    (ready : device.ready? = some payload) :
    Confined (fun _ => True) device (deferredTurns bound ran device).1 none := by
  induction bound generalizing ran device with
  | zero => exact .refl device
  | succ bound ih =>
      obtain ⟨_, ended⟩ | ⟨taken, generation, left, due, goes⟩ :=
        deferredTurns_cases bound ran sound ready
      · rw [ended]
        exact .refl device
      · have turned := turned_of_due sound ready due
        rw [goes]
        exact (turned.confined.widen fun _ _ => trivial).trans (ih _ turned.sound turned.ready)

/-- With more turns than there is work, every channel is attended to. -/
theorem attended_deferredTurns {bound ran : Nat} (sound : device.Sound payload)
    (ready : device.ready? = some payload) (few : device.deferred.size < bound)
    (clean : (deferredTurns bound ran device).1.bus.refusals = device.bus.refusals)
    (channel : UInt8) : Attended payload channel device (deferredTurns bound ran device).1 := by
  induction bound generalizing ran device with
  | zero => exact absurd few (Nat.not_lt_zero _)
  | succ bound ih =>
      have whole := confined_deferredTurns (bound + 1) ran sound ready
      obtain ⟨idle, ended⟩ | ⟨taken, generation, left, due, goes⟩ :=
        deferredTurns_cases bound ran sound ready
      · rw [ended]
        cases held : device.deferred.item? channel with
        | none => exact .free held held rfl
        | some item =>
            exact .waiting held
              (DeferredQueue.takeDue_eq_none.mp idle _ (DeferredQueue.mem_pending.mpr held))
              held rfl
      · obtain ⟨_, instant, reached, item⟩ := DeferredQueue.takeDue_eq_some due
        have turned := turned_of_due sound ready due
        have rest := confined_deferredTurns bound (ran + 1) turned.sound turned.ready
        have few' := turned.fewer
        rw [goes] at clean whole ⊢
        have first := turned.confined.calls.refusals
        have later := rest.calls.refusals
        have cleanRest : (deferredTurns bound (ran + 1)
            ((device.cancelDeferred taken).finishPowerUp payload taken)).1.bus.refusals =
              ((device.cancelDeferred taken).finishPowerUp payload taken).bus.refusals := by
          omega
        have attended := ih turned.sound turned.ready (by omega) cleanRest
        -- No work is scheduled here, so later turns find none for the channel taken first.
        by_cases here : channel = taken
        · subst here
          cases attended with
          | free nothing still untouched =>
              refine .finished item device reached whole.calls.clock rfl still ?_
              have cleanTurn : ((device.cancelDeferred channel).finishPowerUp payload
                  channel).bus.refusals = (device.cancelDeferred channel).bus.refusals :=
                Nat.le_antisymm (later.trans clean.le) first
              rw [untouched]
              exact accesses_finishPowerUp cleanTurn
          | waiting held early still untouched =>
              rw [turned.done] at held
              cases held
          | finished held begun due reached untouched done accesses =>
              rw [turned.done] at held
              cases held
        · refine attended.after_other (turned.confined.widen ?_)
          rintro other rfl
          exact Ne.symm here

end Device

end AmpControl
