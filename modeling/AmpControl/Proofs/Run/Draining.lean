import AmpControl.Proofs.Bus.Charges
import AmpControl.Proofs.Deferred.Order
import AmpControl.Proofs.Device.Finishing
import AmpControl.Proofs.Run.Invariant

/-!
# Draining deferred work

Deferred work is done in turns until none is due. A turn takes its time, and what becomes due
meanwhile is done as well. While there is a payload to work with, all that waited is either done or
still waits, and every channel whose work was done can fire again. Without a payload the first work
that is due ends the turns, and none is left.
-/

namespace AmpControl

open Tuning (Draft InterruptTable Payload Script)

namespace Device

/-- Deferred work that was done. -/
structure Done where
  channel : UInt8
  item : DeferredItem
  /-- When its turn began. -/
  time : Nat
  deriving DecidableEq, Repr

/-- The work as it waited. -/
def Done.entry (work : Done) : UInt8 × DeferredItem := (work.channel, work.item)

/--
Turns of the deferred work until none is due, however many they are, and the work that was done in
them. A turn takes out what is due first: all work is dropped where there is no payload, and the
work of a channel that does not play where there is one.
-/
inductive Drains : Device → List Done → Device → Prop where
  | idle {device : Device} (rest : device.deferred.takeDue device.clock = none) :
      Drains device [] device
  | dropped {device : Device} {channel : UInt8} {generation : UInt32} {left : DeferredQueue}
      (taken : device.deferred.takeDue device.clock = some ((channel, generation), left))
      (unready : device.ready? = none) :
      Drains device [] (device.cancelDeferred channel).dropDeferred
  | skipped {device after : Device} {channel : UInt8} {generation : UInt32} {left : DeferredQueue}
      {payload : Payload} {works : List Done}
      (taken : device.deferred.takeDue device.clock = some ((channel, generation), left))
      (ready : device.ready? = some payload) (still : device.power channel ≠ .active)
      (later : Drains (device.cancelDeferred channel) works after) : Drains device works after
  | ran {device after : Device} {channel : UInt8} {generation : UInt32} {left : DeferredQueue}
      {item : DeferredItem} {payload : Payload} {works : List Done}
      (taken : device.deferred.takeDue device.clock = some ((channel, generation), left))
      (waits : device.deferred.item? channel = some item)
      (ready : device.ready? = some payload) (playing : device.power channel = .active)
      (later : Drains ((device.cancelDeferred channel).finishPowerUp payload channel) works after) :
      Drains device (⟨channel, item, device.clock⟩ :: works) after

variable {device before after : Device} {payload : Payload} {channel : UInt8} {works : List Done}

/-! ## The turns end -/

/-- With more turns than there is work, turns end because nothing is due or all work was dropped. -/
theorem drains_deferredTurns {bound : Nat} (ran : Nat) (few : device.deferred.size < bound) :
    ∃ after works, deferredTurns bound ran device = (after, ran + works.length) ∧
      Drains device works after := by
  induction bound generalizing ran device with
  | zero => exact absurd few (Nat.not_lt_zero _)
  | succ bound ih =>
      rw [deferredTurns]
      cases taken : device.deferred.takeDue device.clock with
      | none =>
          rw [deferredTurn, taken]
          exact ⟨device, [], rfl, .idle taken⟩
      | some entry =>
          obtain ⟨⟨channel, generation⟩, left⟩ := entry
          obtain ⟨_, due, _, waits⟩ := DeferredQueue.takeDue_eq_some taken
          have fewer : (device.cancelDeferred channel).deferred.size < bound := by
            have less := DeferredQueue.size_cancel waits
            change (device.deferred.cancel channel).size < bound
            omega
          rw [deferredTurn_of_due taken]
          cases ready : device.ready? with
          | none =>
              have unready : (device.cancelDeferred channel).ready? = none := ready
              rw [unready]
              exact ⟨_, [], rfl, .dropped taken ready⟩
          | some payload =>
              have readyTaken : (device.cancelDeferred channel).ready? = some payload := ready
              rw [readyTaken]
              by_cases playing : device.power channel = .active
              · have playingTaken : (device.cancelDeferred channel).power channel = .active :=
                  playing
                have fewerDone : ((device.cancelDeferred channel).finishPowerUp payload
                    channel).deferred.size < bound := by
                  rw [deferred_finishPowerUp]
                  exact fewer
                obtain ⟨after, works, turns, drains⟩ := ih (ran + 1) fewerDone
                simp only [playingTaken, if_true, turns]
                refine ⟨after, _, ?_, .ran taken waits ready playing drains⟩
                rw [List.length_cons, Nat.add_right_comm, Nat.add_assoc]
              · have stillTaken : (device.cancelDeferred channel).power channel ≠ .active := playing
                obtain ⟨after, works, turns, drains⟩ := ih ran fewer
                simp only [stillTaken, if_false, turns]
                exact ⟨after, works, rfl, .skipped taken ready playing drains⟩

/-- A channel whose deferred work is done can fire if it has an interrupt table. -/
theorem unmasked_finishPowerUp (fits : device.Fits payload)
    (declared : channel < payload.channelCount) (other : UInt8) :
    ((device.cancelDeferred channel).finishPowerUp payload channel).unmasked other =
      (device.unmasked other || (other == channel && (payload.interrupts? channel).isSome)) := by
  have standing := congrFun (standing_finishPowerUp fits declared) other
  refine (congrArg Standing.unmasked standing).trans ?_
  by_cases same : other = channel
  · subst same
    rw [Function.update_self, BEq.rfl, Bool.true_and]
    rfl
  · rw [Function.update_of_ne same, beq_false_of_ne same, Bool.false_and, Bool.or_false]
    rfl

namespace Drains

/-- When the turns end, no work that waits is due. -/
theorem rests (drains : Drains before works after) :
    ∀ entry ∈ after.deferred.pending, after.clock < entry.2.due := by
  induction drains with
  | idle rest => exact DeferredQueue.takeDue_eq_none.mp rest
  | dropped =>
      rw [dropDeferred, DeferredQueue.pending_cancelAll]
      exact fun _ none => absurd none List.not_mem_nil
  | skipped _ _ _ _ ih => exact ih
  | ran _ _ _ _ _ ih => exact ih

/-- Work is done no earlier than it is due. -/
theorem due (drains : Drains before works after) : ∀ work ∈ works, work.item.due ≤ work.time := by
  induction drains with
  | idle => exact fun _ none => absurd none List.not_mem_nil
  | dropped => exact fun _ none => absurd none List.not_mem_nil
  | skipped _ _ _ _ ih => exact ih
  | ran taken waits _ _ _ ih =>
      obtain ⟨_, due, reached, held⟩ := DeferredQueue.takeDue_eq_some taken
      cases waits.symm.trans held
      exact List.forall_mem_cons.mpr ⟨reached, ih⟩

/-- The work that is done waited from the beginning, and that of each channel is done once. -/
theorem waited (drains : Drains before works after) :
    (∀ work ∈ works, before.deferred.item? work.channel = some work.item) ∧
      (works.map Done.channel).Nodup := by
  induction drains with
  | idle => exact ⟨fun _ none => absurd none List.not_mem_nil, .nil⟩
  | dropped => exact ⟨fun _ none => absurd none List.not_mem_nil, .nil⟩
  | skipped _ _ _ _ ih =>
      refine ⟨fun work member => ?_, ih.2⟩
      have held := ih.1 work member
      rw [cancelDeferred, DeferredQueue.item?_cancel] at held
      exact (Option.ite_none_left_eq_some.mp held).2
  | @ran device after channel generation left item payload works taken waits _ _ _ ih =>
      have others (work : Done) (member : work ∈ works) :
          work.channel ≠ channel ∧ device.deferred.item? work.channel = some work.item := by
        have held := ih.1 work member
        rw [deferred_finishPowerUp, cancelDeferred, DeferredQueue.item?_cancel] at held
        exact Option.ite_none_left_eq_some.mp held
      refine ⟨List.forall_mem_cons.mpr ⟨waits, fun work member => (others work member).2⟩, ?_⟩
      refine List.nodup_cons.mpr ⟨fun again => ?_, ih.2⟩
      obtain ⟨work, member, same⟩ := List.mem_map.mp again
      exact (others work member).1 same

/-- All work that is done is counted. -/
theorem counted (drains : Drains before works after) :
    after.stats.deferredRuns =
      UInt32.ofNatClamp (before.stats.deferredRuns.toNat + works.length) := by
  induction drains with
  | idle => exact (ofNatClamp_toNat _).symm
  | dropped => exact (ofNatClamp_toNat _).symm
  | skipped _ _ _ _ ih => exact ih
  | @ran device _ _ _ _ _ _ _ taken waits ready playing later ih =>
      rw [ih, deferredRuns_finishPowerUp, Stats.increment]
      apply UInt32.toNat_inj.mp
      rw [toNat_ofNatClamp, toNat_ofNatClamp, toNat_ofNatClamp, List.length_cons]
      change min (min (device.stats.deferredRuns.toNat + 1) _ + _) _ = _
      omega

/-! ## With a payload -/

/-- While there is a payload, all that waited is done or still waits. -/
theorem exhaustive (drains : Drains before works after) (sound : before.Sound payload)
    (ready : before.ready? = some payload) :
    before.deferred.pending.Perm (works.map Done.entry ++ after.deferred.pending) := by
  induction drains with
  | idle => exact .refl _
  | dropped _ unready => cases unready.symm.trans ready
  | skipped taken _ still _ _ => exact absurd (playing_of_due sound taken).1 still
  | ran taken waits inPlace playing later ih =>
      cases inPlace.symm.trans ready
      have turned := turned_of_due sound ready taken
      obtain ⟨due, _, split, _⟩ := DeferredQueue.takeDue_perm taken
      obtain ⟨rfl, _⟩ := DeferredQueue.takeDue_eq_some taken
      have first := DeferredQueue.mem_pending.mp (split.mem_iff.mpr List.mem_cons_self)
      cases waits.symm.trans first
      have rest := ih turned.sound turned.ready
      rw [deferred_finishPowerUp] at rest
      exact split.trans (rest.cons _)

/-- While there is a payload, channels that can fire go on to do so. -/
theorem unmasked (drains : Drains before works after) (sound : before.Sound payload)
    (ready : before.ready? = some payload) (fires : before.unmasked channel = true) :
    after.unmasked channel = true := by
  induction drains with
  | idle => exact fires
  | dropped _ unready => cases unready.symm.trans ready
  | skipped taken _ still _ _ => exact absurd (playing_of_due sound taken).1 still
  | ran taken waits inPlace playing later ih =>
      cases inPlace.symm.trans ready
      have turned := turned_of_due sound ready taken
      refine ih turned.sound turned.ready ?_
      rw [unmasked_finishPowerUp sound.toFits (playing_of_due sound taken).2, fires, Bool.true_or]

/-- While there is a payload, every channel with an interrupt table whose work is done can fire. -/
theorem fires (drains : Drains before works after) (sound : before.Sound payload)
    (ready : before.ready? = some payload) :
    ∀ work ∈ works, (payload.interrupts? work.channel).isSome = true →
      after.unmasked work.channel = true := by
  induction drains with
  | idle => exact fun _ none => absurd none List.not_mem_nil
  | dropped _ unready => cases unready.symm.trans ready
  | skipped taken _ still _ _ => exact absurd (playing_of_due sound taken).1 still
  | ran taken waits inPlace playing later ih =>
      cases inPlace.symm.trans ready
      have turned := turned_of_due sound ready taken
      refine List.forall_mem_cons.mpr ⟨fun tabled => ?_, ih turned.sound turned.ready⟩
      refine later.unmasked turned.sound turned.ready ?_
      rw [unmasked_finishPowerUp sound.toFits (playing_of_due sound taken).2]
      simp [tabled]

/-! ## Without a payload -/

/-- Without a payload no work is done, and all of it is dropped once some of it is due. -/
theorem unready (drains : Drains before works after) (unready : before.ready? = none) :
    works = [] ∧ after.bus = before.bus ∧
      ((∃ entry ∈ before.deferred.pending, entry.2.due ≤ before.clock) →
        after.deferred.pending = []) := by
  cases drains with
  | idle rest =>
      refine ⟨rfl, rfl, fun ⟨entry, waits, reached⟩ => ?_⟩
      exact absurd (DeferredQueue.takeDue_eq_none.mp rest entry waits) (Nat.not_lt.mpr reached)
  | dropped => exact ⟨rfl, rfl, fun _ => DeferredQueue.pending_cancelAll _⟩
  | skipped _ ready => cases unready.symm.trans ready
  | ran _ _ ready => cases unready.symm.trans ready

end Drains

/--
In every reachable state the turns of the deferred work come to an end. The work of each channel is
done once at most and no earlier than it is due; its number is returned and counted, up to the
largest count, and in the end nothing that waits is due. While the device is ready, all that waited
was done or still waits, and every channel that has an interrupt table and whose work was done can
fire. While it is not, no work is done and nothing is called, and once some work is due none is
left.
-/
theorem due_work_drained (config : Config) (firmware : FirmwareSource)
    (operations : List Operation) :
    let before := reached config firmware operations
    ∃ after works, before.runDeferred = (after, works.length) ∧ Drains before works after ∧
      (works.map Done.channel).Nodup ∧
      (∀ work ∈ works, work.item.due ≤ work.time) ∧
      after.stats.deferredRuns =
        UInt32.ofNatClamp (before.stats.deferredRuns.toNat + works.length) ∧
      (∀ entry ∈ after.deferred.pending, after.clock < entry.2.due) ∧
      (before.loadState = .ready → ∃ payload, before.ready? = some payload ∧
        before.deferred.pending.Perm (works.map Done.entry ++ after.deferred.pending) ∧
        ∀ work ∈ works, (payload.interrupts? work.channel).isSome = true →
          after.unmasked work.channel = true) ∧
      (before.loadState ≠ .ready → works = [] ∧ after.bus = before.bus ∧
        ((∃ entry ∈ before.deferred.pending, entry.2.due ≤ before.clock) →
          after.deferred.pending = [])) := by
  intro before
  have kept := kept_reached config firmware operations
  have few := Nat.lt_succ_of_le (DeferredQueue.size_le before.deferred)
  obtain ⟨after, works, turns, drains⟩ := drains_deferredTurns 0 few
  rw [Nat.zero_add] at turns
  refine ⟨after, works, turns, drains, drains.waited.2, drains.due, drains.counted, drains.rests,
    fun isReady => ?_, fun notReady => ?_⟩
  · obtain ⟨payload, sound, _⟩ := kept.ready isReady
    have ready : before.ready? = some payload := by
      rw [ready?, if_pos isReady]
      exact sound.inPlace
    exact ⟨payload, ready, drains.exhaustive sound ready, drains.fires sound ready⟩
  · exact drains.unready (if_neg notReady)

end Device

/-- Two channels, on each of which it takes a pause to clear what fired. -/
def Tuning.Draft.pausing : Draft :=
  let status := Register.ofParts 0 0 0x10
  let table : InterruptTable := {
    sources := [⟨"fault", status, 0x02, 0, false⟩]
    unmask := Script.writing (Register.ofParts 0 0 0x11) 0xFF
    mask := Script.writing (Register.ofParts 0 0 0x11) 0x00
    clear := [.pause 5]
    settleTime := 2
    dump := [] }
  ((Draft.new 2).withInterrupts 0 table).withInterrupts 1 table

/-- The source of the image with pauses. -/
def FirmwareSource.pausing : FirmwareSource := .new (some Draft.pausing.build)

namespace Device

/-- The second channel is powered up eight milliseconds after the first. -/
def oneAfterTheOther : List Operation :=
  [.load 1, .power 1 .active, .wait 8000, .power 2 .active, .wait 7000]

/-- The work of the second channel, which is not due at first, becomes due while that of the first
is done, and is done as well. -/
theorem becoming_due_drained :
    let before := reached .standard .pausing oneAfterTheOther
    (before.deferred.item? 1).map (·.due) = some (before.clock + 3000) ∧
      ∃ after works, before.runDeferred = (after, works.length) ∧ Drains before works after ∧
        works.length = 2 ∧ ∀ work ∈ works, work.item.due ≤ work.time := by
  intro before
  have early : (before.deferred.item? 1).map (·.due) = some (before.clock + 3000) := by
    decide +kernel
  obtain ⟨after, works, runs, drains, _, timely, _⟩ :=
    due_work_drained .standard .pausing oneAfterTheOther
  have number : before.runDeferred.2 = 2 := by decide +kernel
  exact ⟨early, after, works, runs, drains, (congrArg Prod.snd runs).symm.trans number, timely⟩

end Device

end AmpControl
