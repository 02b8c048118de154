import AmpControl.Proofs.Device.Rest
import AmpControl.Proofs.Run.Operation

/-!
# Operations as moves

Every operation is a row of moves: installations, power transitions, turns of the deferred work,
control writes, scripts of the audio interface, and changes of nothing that the channels depend on.
All moves but installations start from a payload that is ready for use, or leave the channels alone.
An operation restarts the device or makes a recovery pass once at most, after its other moves; only
deferred work may follow on a pass.
-/

namespace AmpControl

open Tuning (Control Framing ParsedImage Payload Script SlotKey)

namespace Device

/-- Time that passes, or a turn of the deferred work. -/
inductive Turn : Device → Device → Prop where
  | waited {device : Device} (microseconds : Nat) : Turn device (device.wait microseconds)
  | worked {device : Device} : Turn device device.deferredTurn.1

/-- A row of turns. -/
def Turns : Device → Device → Prop := Relation.ReflTransGen Turn

/-- One move of a device. -/
inductive Move : Device → Device → Prop where
  | aside {before after : Device} (aside : Aside before after) (rests : Rests before after) :
      Move before after
  | stalled {device : Device} {state : LoadState} (unready : state ≠ .ready) :
      Move device { device with loadState := state }
  | installed {device : Device} {payload : Payload} (shaped : payload.Shaped) :
      Move device (device.install payload)
  | transitioned {device : Device} {payload : Payload} {channel : UInt8} {target : Power}
      (ready : device.ready? = some payload) (declared : channel < payload.channelCount)
      (unlocked : target ≠ .shutdown → device.locked channel = false) :
      Move device ((transition payload target channel).leaves device)
  | turned {before after : Device} (turn : Turn before after) : Move before after
  | wrote {device : Device} {payload : Payload} {id : Nat} {value : Int} {write : Control.Write}
      (ready : device.ready? = some payload)
      (accepted :
        Control.accept payload.controls id value (device.maskOf .active) = .ok write) :
      Move device (device.written write value)
  | programmed {device : Device} {payload : Payload} {channel : UInt8} {role : Role}
      (ready : device.ready? = some payload)
      (plain : ∀ power waiting locked, role.Permitted power waiting locked)
      (kept : role ≠ .softReset) (script : Script) :
      Move device ((run channel role script).leaves device)

/-- A row of moves. -/
def Moves : Device → Device → Prop := Relation.ReflTransGen Move

/-- What an operation comes to, unless it is a change of the transport from outside. -/
inductive Course : Device → Device → Prop where
  | moved {before after : Device} (moves : Moves before after) : Course before after
  | escalated {before middle : Device} {payload : Payload} (moves : Moves before middle)
      (ready : middle.ready? = some payload) : Course before (middle.escalate payload)
  | surveyed {before middle after : Device} {payload : Payload} (moves : Moves before middle)
      (ready : middle.ready? = some payload) (turns : Turns (middle.survey payload).1 after) :
      Course before after

variable {device before middle after : Device} {payload : Payload}

theorem moves_aside (aside : Aside before after) (rests : Rests before after) :
    Moves before after := .single (.aside aside rests)

/-- What neither channels nor recoveries go by may change. -/
theorem moves_beside {firmware : FirmwareSource} {activeProfile : Nat}
    {cachedWrites : List (String × Int)} {framing : Framing} {slot : Option SlotKey}
    {notified : Bool} :
    Moves device
      { device with
        firmware := firmware
        activeProfile := activeProfile
        cachedWrites := cachedWrites
        framing := framing
        slot := slot
        notified := notified } :=
  moves_aside ⟨⟨rfl, rfl, rfl, rfl, rfl, rfl⟩, rfl, rfl⟩
    ⟨⟨rfl, rfl, rfl, rfl, le_rfl, rfl⟩, rfl, rfl⟩

theorem Turns.moves (turns : Turns before after) : Moves before after :=
  turns.lift id fun _ _ turn => .turned turn

/-- Moves may come before whatever an operation comes to. -/
theorem Course.after_moves (moves : Moves before middle) (course : Course middle after) :
    Course before after := by
  cases course with
  | moved later => exact .moved (moves.trans later)
  | escalated later ready => exact .escalated (moves.trans later) ready
  | surveyed later ready turns => exact .surveyed (moves.trans later) ready turns

/-! ## Loading -/

theorem shaped_fetch (fetched : device.fetch.2 = .ok payload) : payload.Shaped := by
  unfold fetch at fetched
  cases answer : (device.firmware.request device.config.firmwareName).2 with
  | none =>
      simp only [answer] at fetched
      cases fetched
  | some image =>
      simp only [answer] at fetched
      exact ParsedImage.shaped_ofImage fetched

theorem moves_fetch (device : Device) : Moves device device.fetch.1 := moves_beside

theorem moves_wait (microseconds : Nat) (device : Device) :
    Moves device (device.wait microseconds) := .single (.turned (.waited microseconds))

theorem moves_attempt (tries : Nat) (last : Tuning.ImageError) (device : Device) :
    Moves device (attempt tries last device).1 := by
  induction tries generalizing last device with
  | zero => exact .single (.stalled (by simp))
  | succ tries ih =>
      unfold attempt
      have fetched := moves_fetch device
      cases outcome : device.fetch with
      | mk asked answer =>
          rw [outcome] at fetched
          cases answer with
          | ok payload =>
              have shaped : payload.Shaped := shaped_fetch (congrArg Prod.snd outcome)
              exact fetched.tail (.installed shaped)
          | error error =>
              simp only
              by_cases again : error.isRetryable = true
              · rw [if_pos again]
                refine fetched.trans (.trans ?_ (ih error _))
                split
                · exact .refl
                · exact moves_wait _ _
              · rw [if_neg again]
                exact fetched.tail (.stalled (by simp))

theorem moves_load (tries : UInt32) (device : Device) : Moves device (device.load tries).1 :=
  .head (.stalled (by simp)) (moves_attempt _ _ _)

/-! ## Deferred work -/

theorem turns_deferredTurns (bound ran : Nat) (device : Device) :
    Turns device (deferredTurns bound ran device).1 := by
  induction bound generalizing ran device with
  | zero => exact .refl
  | succ bound ih =>
      have first : Turn device device.deferredTurn.1 := .worked
      unfold deferredTurns
      cases turn : device.deferredTurn with
      | mk after outcome =>
          rw [turn] at first
          cases outcome with
          | idle => exact .single first
          | dropped => exact .single first
          | skipped => exact .head first (ih ran after)
          | ran => exact .head first (ih (ran + 1) after)

theorem turns_waitUntil (instant : Nat) (device : Device) :
    Turns device (device.waitUntil instant) := .single (.waited _)

theorem turns_deferredUntil (bound ending : Nat) (device : Device) :
    Turns device (deferredUntil bound ending device) := by
  induction bound generalizing device with
  | zero => exact .refl
  | succ bound ih =>
      unfold deferredUntil
      cases device.deferred.nextDue? with
      | none => exact .refl
      | some due =>
          simp only
          by_cases early : due ≤ ending
          · rw [if_pos early]
            exact (turns_waitUntil due device).trans ((turns_deferredTurns _ _ _).trans (ih _))
          · rw [if_neg early]
            exact .refl

/-! ## Recovery passes -/

/-- A device with a payload to work with makes a recovery pass if the payload uses interrupts. -/
theorem handleInterrupt_of_ready (ready : device.ready? = some payload) :
    device.handleInterrupt =
      if payload.header.interruptsSupported then
        ((device.survey payload).1, .ok (device.survey payload).2)
      else (device, .ok .nothing) := by
  simp only [handleInterrupt, ready]

theorem handleInterrupt_cases (device : Device) :
    device.handleInterrupt.1 = device ∨ ∃ payload, device.ready? = some payload ∧
      device.handleInterrupt.1 = (device.survey payload).1 := by
  cases ready : device.ready? with
  | none =>
      rw [handleInterrupt, ready]
      exact .inl rfl
  | some payload =>
      rw [handleInterrupt_of_ready ready]
      split
      · exact .inr ⟨payload, rfl, rfl⟩
      · exact .inl rfl

/-- A recovery pass after some moves, and turns after it. -/
theorem course_handleInterrupt (moves : Moves before middle)
    (turns : Turns middle.handleInterrupt.1 after) : Course before after := by
  obtain same | ⟨payload, ready, surveyed⟩ := middle.handleInterrupt_cases
  · rw [same] at turns
    exact .moved (moves.trans turns.moves)
  · rw [surveyed] at turns
    exact .surveyed moves ready turns

theorem course_runFor (microseconds : Nat) (device : Device) :
    Course device (device.runFor microseconds) := by
  have begun : Moves device { device with notified := false } := moves_beside
  have ends (held : Device) (ending : Nat) :
      Turns held ((deferredUntil deferredPauses ending held).waitUntil ending) :=
    (turns_deferredUntil _ _ _).trans (turns_waitUntil _ _)
  simp only [runFor]
  split
  · exact course_handleInterrupt (begun.trans (ends _ _).moves) (ends _ _)
  · exact .moved (begun.trans (ends _ _).moves)

/-! ## What moves leave alone -/

theorem works_turn (turn : Turn before after) :
    Works [] (fun _ => True) (fun _ => False) before after := by
  cases turn with
  | waited microseconds => exact works_wait microseconds before
  | worked => exact works_deferredTurn before

theorem works_turns (turns : Turns before after) :
    Works [] (fun _ => True) (fun _ => False) before after := by
  induction turns with
  | refl => exact .refl before
  | tail _ last ih => exact ih.trans (works_turn last)

/-- A move puts a payload in place or leaves alone what recovery and restarts go by. -/
theorem Move.settles (move : Move before after) : Rests before after ∨ Renews before after := by
  cases move with
  | aside aside rests => exact .inl rests
  | stalled => exact .inl ⟨⟨rfl, rfl, rfl, rfl, le_rfl, rfl⟩, rfl, rfl⟩
  | installed => exact .inr (renews_install _ before)
  | transitioned => exact .inl ((plain_transition _).leaves before).rests
  | turned turn => exact .inl (works_turn turn).rests
  | wrote => exact .inl (works_written _ _ before).rests
  | programmed => exact .inl ((plain_run _ _ _).leaves before).rests

theorem Moves.idles (moves : Moves before after) : Idles before after := by
  induction moves with
  | refl => exact .refl before
  | tail _ last ih =>
      rcases last.settles with rests | renews
      · exact ih.trans rests.toIdles
      · exact ih.trans renews.toIdles

theorem Moves.spends (moves : Moves before after) : Spends before after := by
  induction moves with
  | refl => exact (Idles.refl before).spends rfl
  | tail _ last ih =>
      rcases last.settles with rests | renews
      · exact ih.trans rests.spends
      · exact ih.trans renews.spends

theorem Moves.chronicled (moves : Moves before after) (chronicled : before.Chronicled) :
    after.Chronicled := by
  induction moves with
  | refl => exact chronicled
  | tail _ last ih =>
      rcases last.settles with rests | renews
      · exact ih.calm rests.calm
      · exact renews.chronicled

end Device

end AmpControl
