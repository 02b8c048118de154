import AmpControl.Proofs.Device.Chronicle
import AmpControl.Proofs.Device.Loading
import AmpControl.Proofs.Device.Worker

/-!
# What goes on between recoveries

Whatever else a device does, it neither resets the hardware nor locks channels out, and it leaves
the storm windows and the log of recovery passes alone. Only an installation begins both of them
anew.
-/

namespace AmpControl

open Tuning (Control Payload)

namespace Device

variable {payload : Payload} {before middle after device : Device} {channel : UInt8}

/-- Nothing was restarted, locked out or reset. -/
structure Idles (before after : Device) : Prop where
  config : after.config = before.config
  restarts : after.restarts = before.restarts
  counted : after.stats.restarts = before.stats.restarts
  lockedOut : after.lockedOut = before.lockedOut
  clock : before.clock ≤ after.clock
  resets : after.resetCalls = before.resetCalls

/-- No milestone was passed, and no storm window changed. -/
structure Rests (before after : Device) : Prop extends Idles before after where
  milestones : after.milestones = before.milestones
  storm : after.storm? = before.storm?

/-- A payload was put in place, and no storm window is open. -/
structure Renews (before after : Device) : Prop extends Idles before after where
  milestones : after.milestones = .installed :: before.milestones
  fresh : ∀ channel, (after.storm? channel).getD .fresh = .fresh

theorem Idles.refl (device : Device) : Idles device device := ⟨rfl, rfl, rfl, rfl, le_rfl, rfl⟩

theorem Idles.trans (first : Idles before middle) (second : Idles middle after) :
    Idles before after where
  config := second.config.trans first.config
  restarts := second.restarts.trans first.restarts
  counted := second.counted.trans first.counted
  lockedOut := second.lockedOut.trans first.lockedOut
  clock := first.clock.trans second.clock
  resets := second.resets.trans first.resets

theorem Works.rests {excused : Bus.Attempt → Prop}
    (works : Works [] excused (fun _ => False) before after) : Rests before after where
  config := works.config
  restarts := works.restarts
  counted := works.counted
  lockedOut := works.lockedOut
  clock := works.clock
  resets := works.resets.trans (Nat.zero_add _)
  milestones := works.milestones
  storm := funext fun channel => works.storm channel not_false

theorem Renews.rests (renews : Renews before middle) (rests : Rests middle after) :
    Renews before after where
  toIdles := renews.toIdles.trans rests.toIdles
  milestones := rests.milestones.trans renews.milestones
  fresh := fun channel => rests.storm ▸ renews.fresh channel

/-! ## Restarts and passes -/

theorem Idles.spends (idles : Idles before after)
    (recoveries : after.hardRecoveries = before.hardRecoveries) : Spends before after where
  config := idles.config
  grows := by rw [idles.restarts]; exact UInt32.le_refl _
  counted := fun same => by rw [idles.restarts, idles.counted, same]
  bounded := fun within => by rwa [idles.restarts, idles.config]
  resets := by rw [idles.restarts, idles.resets, recoveries]

theorem Rests.spends (rests : Rests before after) : Spends before after :=
  rests.toIdles.spends (by rw [hardRecoveries_eq, rests.milestones, hardRecoveries_eq])

theorem Renews.spends (renews : Renews before after) : Spends before after :=
  renews.toIdles.spends (by rw [hardRecoveries_eq, renews.milestones, hardRecoveries_eq]; rfl)

theorem Rests.calm (rests : Rests before after) (channel : UInt8) : Calm channel before after := by
  have log : after.passLog = PassLog.addAll [] before.passLog :=
    passLog_of_milestones rests.milestones
  refine ⟨rests.config, rests.clock, ?_, ?_, fun _ => ?_, ?_⟩
  · rw [log]
    rfl
  · rw [log]
    exact id
  · rw [rests.storm]
  · rw [log]
    rfl

/-- An installation begins the chronicle anew. -/
theorem Renews.chronicled (renews : Renews before after) : after.Chronicled := by
  have log : after.passLog = PassLog.addAll [.installed] before.passLog :=
    passLog_of_milestones renews.milestones
  exact chronicled_of_empty log renews.fresh

/-! ## Installations -/

theorem plain_carryOut (write : Control.Write) : Work.Plain (onBus write.carryOut) := fun device =>
  works_bus ((Bus.makes_write write device.bus).mono fun _ serves => serves.drives)

theorem works_written (write : Control.Write) (value : Int) (device : Device) :
    Works [] (fun _ => True) (fun _ => False) device (device.written write value) := by
  have stored : Works [] (fun _ => True) (fun _ => False) device
      { device with values := device.values.set write.id value } :=
    .of_still rfl rfl rfl rfl rfl rfl rfl (fun _ held => held) fun _ _ => rfl
  unfold written
  cases write.outcome with
  | deferred => exact stored
  | applied =>
      have noted := stored.trans (works_record (.dispatched write.id write.index) rfl _)
      exact noted.trans ((plain_carryOut write _).mono fun _ _ => trivial)

theorem works_makeCachedWrites (payload : Payload) (device : Device) :
    Works [] (fun _ => True) (fun _ => False) device (device.makeCachedWrites payload) := by
  have begun : Works [] (fun _ => True) (fun _ => False) device
      { device with cachedWrites := [] } :=
    .of_still rfl rfl rfl rfl rfl rfl rfl (fun _ held => held) fun _ _ => rfl
  refine List.foldlRecOn (motive := fun held : Device =>
    Works [] (fun _ => True) (fun _ => False) device held) device.cachedWrites _ begun ?_
  rintro held sofar ⟨name, value⟩ _
  simp only
  cases Control.acceptNamed payload.controls name value 0 with
  | error error => exact sofar
  | ok write => exact sofar.trans (works_written write value held)

theorem plain_initialiseAll (payload : Payload) : (initialiseAll payload).Plain := by
  refine Work.plain_inOrder fun part member => ?_
  obtain ⟨channel, _, parts⟩ := List.mem_flatMap.mp member
  rcases List.mem_pair.mp parts with rfl | rfl
  · exact plain_softReset
  · exact plain_initialise

theorem renews_adopt (payload : Payload) (device : Device) :
    Renews device (device.adopt payload) := by
  refine ⟨⟨rfl, rfl, rfl, rfl, le_rfl, rfl⟩, rfl, fun channel => ?_⟩
  cases held : (device.adopt payload).channel? channel with
  | none => rw [storm?, held]; rfl
  | some state =>
      obtain ⟨other, _, rfl⟩ := List.mem_map.mp (List.mem_of_getElem? held)
      rw [storm?, held]
      rfl

theorem renews_install (payload : Payload) (device : Device) :
    Renews device (device.install payload) := by
  have prepared : Rests (device.adopt payload) (initialiseAll payload (device.adopt payload)).1 :=
    (plain_initialiseAll payload _).rests
  have readied (held : Device) : Rests held held.readied :=
    ⟨⟨rfl, rfl, rfl, rfl, le_rfl, rfl⟩, rfl, rfl⟩
  rw [install_eq]
  exact (((renews_adopt payload device).rests prepared).rests
    (works_makeCachedWrites payload _).rests).rests (readied _)

/-! ## Deferred work -/

theorem works_finishPowerUp (payload : Payload) (channel : UInt8) (device : Device) :
    Works [] (fun _ => True) (fun _ => False) device (device.finishPowerUp payload channel) := by
  have parts : Work.Plain (Work.inOrder [pollAfterPowerUp payload channel,
      clearInterrupts payload channel, unmaskInterrupts payload channel,
      replay payload channel .afterPowerUp]) := by
    refine Work.plain_inOrder fun part member => ?_
    simp only [List.mem_cons, List.not_mem_nil, or_false] at member
    rcases member with rfl | rfl | rfl | rfl
    · exact plain_pollAfterPowerUp
    · exact plain_clearInterrupts
    · exact plain_unmaskInterrupts
    · exact plain_replay _ _
  have worked := (parts device).mono fun _ _ => trivial
  unfold finishPowerUp
  generalize Work.inOrder _ device = outcome at worked ⊢
  obtain ⟨after, fault⟩ := outcome
  have counted := worked.trans (works_count (fun stats =>
    { stats with deferredRuns := Stats.increment stats.deferredRuns }) (fun _ => rfl) after)
  cases fault with
  | none => exact counted
  | some fault => exact counted.trans (works_latch _ .transport channel)

theorem works_deferredTurn (device : Device) :
    Works [] (fun _ => True) (fun _ => False) device device.deferredTurn.1 := by
  cases due : device.deferred.takeDue device.clock with
  | none =>
      rw [deferredTurn, due]
      exact .refl device
  | some entry =>
      obtain ⟨⟨channel, generation⟩, left⟩ := entry
      have cancelled : Works [] (fun _ => True) (fun _ => False) device
          (device.cancelDeferred channel) := works_cancelDeferred device channel
      have dropped : Works [] (fun _ => True) (fun _ => False) (device.cancelDeferred channel)
          (device.cancelDeferred channel).dropDeferred :=
        .of_still rfl rfl rfl rfl rfl rfl rfl (fun _ held => held) fun _ _ => rfl
      rw [deferredTurn_of_due due]
      split
      · exact cancelled.trans dropped
      · split
        · exact cancelled.trans (works_finishPowerUp _ channel _)
        · exact cancelled

end Device

end AmpControl
