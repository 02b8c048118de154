import AmpControl.Proofs.Run.Invariant

/-!
# Interrupts and locked channels in a run

Interrupts fire only on channels that play and have no deferred work waiting. A channel that is
locked stays locked: it is shut down, nothing goes on, and nothing but powering it down is ever done
to it again.
-/

namespace AmpControl.Device

variable {device before after : Device} {channel : UInt8}

theorem locked_of_standing (kept : device.Kept) (locked : device.locked channel = true) :
    device.power channel = .shutdown ∧ device.unmasked channel = false ∧
      device.waiting channel = false := by
  have allowed := kept.steady.allowed channel
  have off := allowed.eq_off (allowed.locked locked)
  exact ⟨congrArg Standing.power off, congrArg Standing.unmasked off,
    congrArg Standing.waiting off⟩

/--
Whatever is asked of a device and whatever happens around it, interrupts can fire only on a channel
that plays and has no deferred work waiting, deferred work waits only for channels that play, and no
channel was ever unmasked in any other state.
-/
theorem unmasked_only_while_playing (config : Config) (firmware : FirmwareSource)
    (operations : List Operation) :
    (∀ channel, (reached config firmware operations).unmasked channel = true →
      (reached config firmware operations).power channel = .active ∧
        (reached config firmware operations).waiting channel = false) ∧
    (∀ channel, (reached config firmware operations).waiting channel = true →
      (reached config firmware operations).power channel = .active) ∧
    ∀ channel power waiting locked,
      .ran channel .unmask power waiting locked ∈ (reached config firmware operations).history →
        power = .active ∧ waiting = false := by
  have kept := kept_reached config firmware operations
  refine ⟨fun channel fires => (kept.steady.allowed channel).unmasked fires,
    fun channel waits => (kept.steady.allowed channel).waiting waits, ?_⟩
  intro channel power waiting locked member
  obtain ⟨playing, free, _⟩ := kept.lawful _ member
  exact ⟨playing, free⟩

/-- A channel that was powered up and had its deferred work done plays, and nothing waits for it. -/
theorem unmasked_after_deferred_work :
    (reached .standard .small [.load 1, .power 1 .active, .wait 10000, .runDeferred]).unmasked 0 =
        true ∧
      (reached .standard .small [.load 1, .power 1 .active, .wait 10000, .runDeferred]).power 0 =
        .active := by
  have fires : (reached .standard .small
      [.load 1, .power 1 .active, .wait 10000, .runDeferred]).unmasked 0 = true := by
    decide +kernel
  exact ⟨fires, ((unmasked_only_while_playing .standard .small
    [.load 1, .power 1 .active, .wait 10000, .runDeferred]).1 0 fires).1⟩

/--
A channel that is locked after some operations stays locked whatever comes next: it is shut down,
its interrupts cannot fire, no deferred work waits for it, and it is never powered up, muted or
unmasked again. No such script was ever carried out on a channel that was locked at the time, and
the error code tells exactly which channels are locked.
-/
theorem locked_for_good (config : Config) (firmware : FirmwareSource)
    (early late : List Operation) :
    (∀ channel, (reached config firmware early).locked channel = true →
      (reached config firmware (early ++ late)).locked channel = true ∧
      (reached config firmware (early ++ late)).power channel = .shutdown ∧
      (reached config firmware (early ++ late)).unmasked channel = false ∧
      (reached config firmware (early ++ late)).waiting channel = false ∧
      ∃ added, (reached config firmware (early ++ late)).history =
          added ++ (reached config firmware early).history ∧
        ∀ role power waiting locked, .ran channel role power waiting locked ∈ added →
          role ≠ .powerUp ∧ role ≠ .mute ∧ role ≠ .unmask) ∧
    (∀ channel role power waiting locked,
      .ran channel role power waiting locked ∈
          (reached config firmware (early ++ late)).history →
        role = .powerUp ∨ role = .mute ∨ role = .unmask → locked = false) ∧
    (reached config firmware (early ++ late)).errors.channels .lockedOut =
      (reached config firmware (early ++ late)).lockedOut := by
  have keptEarly := kept_reached config firmware early
  have split : reached config firmware (early ++ late) =
      (reached config firmware early).after late := after_append early late _
  rw [split]
  obtain ⟨kept, advances⟩ := kept_after late keptEarly
  refine ⟨fun channel locked => ?_, ?_, kept.steady.recorded⟩
  · have still := advances.locked channel locked
    obtain ⟨down, masked, free⟩ := locked_of_standing kept still
    obtain ⟨added, grown, lawful⟩ := advances.history
    refine ⟨still, down, masked, free, added, grown, ?_⟩
    intro role power waiting lockedThen member
    obtain ⟨isLawful, sees⟩ := lawful _ member
    have known : lockedThen = true := sees locked
    have forbidden (affected : role = .powerUp ∨ role = .mute ∨ role = .unmask) : False :=
      Bool.false_ne_true ((Event.Lawful.unlocked isLawful affected).symm.trans known)
    exact ⟨fun up => forbidden (.inl up), fun muted => forbidden (.inr (.inl muted)),
      fun unmasked => forbidden (.inr (.inr unmasked))⟩
  · intro channel role power waiting locked member affected
    exact Event.Lawful.unlocked (kept.lawful _ member) affected

/-- A channel that failed when no restart was left is locked, and a later request leaves it so. -/
theorem locked_after_failure :
    (reached { Config.standard with maxRestarts := 0 } .small
        [.load 1, .disturb (Bus.Transport.failChannel 0), .power 1 .active]).locked 0 = true ∧
      (reached { Config.standard with maxRestarts := 0 } .small
        ([.load 1, .disturb (Bus.Transport.failChannel 0), .power 1 .active] ++
          [.disturb Bus.Transport.clearFailures, .takeErrors, .load 1, .power 1 .active])).power 0 =
        .shutdown := by
  have locked : (reached { Config.standard with maxRestarts := 0 } .small
      [.load 1, .disturb (Bus.Transport.failChannel 0), .power 1 .active]).locked 0 = true := by
    decide +kernel
  obtain ⟨_, down, _⟩ := (locked_for_good { Config.standard with maxRestarts := 0 } .small
    [.load 1, .disturb (Bus.Transport.failChannel 0), .power 1 .active]
    [.disturb Bus.Transport.clearFailures, .takeErrors, .load 1, .power 1 .active]).1 0 locked
  exact ⟨locked, down⟩

end AmpControl.Device
