import AmpControl.Control.Panel
import AmpControl.Proofs.Bus.Errand

/-!
# Histories of a control panel

Controls are written and replayed in any order, while the bus may fail in any way. A control has at
every moment the value that was written last and accepted, or else its initial one. A write that is
refused leaves everything as it was. One that is accepted changes no other value, and its value is
sent once or not at all. A replay sends the values that the controls then have, each of them once
and whatever becomes of the others.
-/

namespace AmpControl

open Tuning (Control Timing)

namespace ControlPanel

/-- What is asked of the panel, and what happens to the bus in the meantime. -/
inductive Operation where
  | put (id : Nat) (value : Int) (playing : UInt8)
  | putNamed (name : String) (value : Int) (playing : UInt8)
  | replay (channel : UInt8) (timing : Timing)
  /-- From now on the bus is another one, on which other calls may fail. -/
  | disturb (bus : Bus)

/-- The bus and the panel after an operation. -/
def perform (bus : Bus) (panel : ControlPanel) : Operation → Bus × ControlPanel
  | .put id value playing =>
      let outcome := panel.put id value playing bus
      (outcome.1, outcome.2.1)
  | .putNamed name value playing =>
      let outcome := panel.putNamed name value playing bus
      (outcome.1, outcome.2.1)
  | .replay channel timing => ((panel.replay channel timing bus).1, panel)
  | .disturb other => (other, panel)

/-- The bus and the panel after operations, the latest of them first. -/
def after (controls : List Control) (bus : Bus) : List Operation → Bus × ControlPanel
  | [] => (bus, start controls)
  | operation :: earlier =>
      perform (after controls bus earlier).1 (after controls bus earlier).2 operation

/-- There is a control with the given id that accepts a value. -/
def Accepted (controls : List Control) (id : Nat) (value : Int) : Prop :=
  ∃ control index, controls[id]? = some control ∧ control.Accepts value index

instance (controls : List Control) (id : Nat) (value : Int) :
    Decidable (Accepted controls id value) :=
  decidable_of_iff (((controls[id]?).bind fun control => control.index? value).isSome = true) <| by
    simp only [Accepted, Option.isSome_iff_exists, Option.bind_eq_some_iff,
      Control.index?_eq_some_iff]
    exact exists_comm

/-- The value that an operation gives to a control: that of a write to it which is accepted. -/
def Operation.value? (controls : List Control) (id : Nat) : Operation → Option Int
  | .put place value _ => if place = id ∧ Accepted controls id value then some value else none
  | .putNamed name value _ =>
      if Control.find? controls name = some id ∧ Accepted controls id value then some value
      else none
  | .replay _ _ | .disturb _ => none

/-- The value that was given to a control last, or its initial one. -/
def latest (controls : List Control) (operations : List Operation) (id : Nat) : Option Int :=
  (controls[id]?).map fun control =>
    (operations.findSome? (Operation.value? controls id)).getD control.initial

variable {controls : List Control} {panel : ControlPanel} {bus : Bus} {id index : Nat}
  {value : Int} {playing channel : UInt8} {timing : Timing} {control : Control}
  {operations : List Operation}

/-! ## Single writes -/

theorem put_of_unknown (unknown : panel.controls[id]? = none) (value : Int) (playing : UInt8)
    (bus : Bus) :
    panel.put id value playing bus = (bus, panel, .error (.refused (.unknownControl id))) := by
  rw [put, Control.accept, unknown]
  rfl

theorem put_of_refused (found : panel.controls[id]? = some control)
    (refused : ∀ index, ¬control.Accepts value index) (playing : UInt8) (bus : Bus) :
    panel.put id value playing bus =
      (bus, panel, .error (.refused (.controlValue control.name value))) := by
  rw [put, Control.accept, found]
  simp only [Control.validate, Control.index?_eq_none_iff.mpr refused]
  rfl

/-- What is accepted for a control that applies at any time or whose channel plays is sent. -/
theorem put_of_immediate (found : panel.controls[id]? = some control)
    (accepted : control.Accepts value index)
    (immediate : control.timing = .anytime ∨ Channel.within playing control.channel = true)
    (bus : Bus) :
    panel.put id value playing bus =
      ((control.dispatch index bus).1, { panel with values := panel.values.set id value },
        match (control.dispatch index bus).2 with
        | some fault => .error (.transport fault)
        | none => .ok .applied) := by
  have made : Control.accept panel.controls id value playing =
      .ok ⟨id, control, index, .applied⟩ := by
    rw [Control.accept, found]
    simp only [Control.validate, Control.index?_eq_some_iff.mpr accepted, if_pos immediate]
  rw [put, made]
  rfl

/-- What is accepted for another control waits. -/
theorem put_of_deferred (found : panel.controls[id]? = some control)
    (accepted : control.Accepts value index)
    (later : ¬(control.timing = .anytime ∨ Channel.within playing control.channel = true))
    (bus : Bus) :
    panel.put id value playing bus =
      (bus, { panel with values := panel.values.set id value }, .ok .deferred) := by
  have made : Control.accept panel.controls id value playing =
      .ok ⟨id, control, index, .deferred⟩ := by
    rw [Control.accept, found]
    simp only [Control.validate, Control.index?_eq_some_iff.mpr accepted, if_neg later]
  rw [put, made]
  rfl

/-- A write by name is a write to the first control that has the name. -/
theorem putNamed_eq (panel : ControlPanel) (name : String) (value : Int) (playing : UInt8)
    (bus : Bus) :
    panel.putNamed name value playing bus =
      match Control.find? panel.controls name with
      | none => (bus, panel, .error (.refused (.unknownControlName name)))
      | some id => panel.put id value playing bus := by
  rw [putNamed, Control.acceptNamed]
  cases Control.find? panel.controls name <;> rfl

/-- A write stores its value just if it is accepted. -/
theorem panel_put (panel : ControlPanel) (id : Nat) (value : Int) (playing : UInt8) (bus : Bus) :
    (panel.put id value playing bus).2.1 =
      if Accepted panel.controls id value then { panel with values := panel.values.set id value }
      else panel := by
  cases found : panel.controls[id]? with
  | none =>
      rw [put_of_unknown found, if_neg]
      rintro ⟨control, _, held, _⟩
      cases found.symm.trans held
  | some control =>
      by_cases accepted : ∃ index, control.Accepts value index
      · obtain ⟨index, standsFor⟩ := accepted
        rw [if_pos ⟨control, index, found, standsFor⟩]
        by_cases immediate : control.timing = .anytime ∨
            Channel.within playing control.channel = true
        · rw [put_of_immediate found standsFor immediate]
        · rw [put_of_deferred found standsFor immediate]
      · rw [put_of_refused found fun index standsFor => accepted ⟨index, standsFor⟩, if_neg]
        rintro ⟨_, index, held, standsFor⟩
        cases found.symm.trans held
        exact accepted ⟨index, standsFor⟩

/-! ## What the controls have -/

theorem controls_perform (bus : Bus) (panel : ControlPanel) (operation : Operation) :
    (perform bus panel operation).2.controls = panel.controls := by
  have written (id : Nat) (value : Int) (playing : UInt8) :
      (panel.put id value playing bus).2.1.controls = panel.controls := by
    rw [panel_put]
    split <;> rfl
  cases operation with
  | put id value playing => exact written id value playing
  | putNamed name value playing =>
      rw [perform, putNamed_eq]
      cases Control.find? panel.controls name with
      | none => rfl
      | some id => exact written id value playing
  | replay channel timing => rfl
  | disturb other => rfl

theorem values_put (panel : ControlPanel) (place : Nat) (value : Int) (playing : UInt8) (bus : Bus)
    (id : Nat) :
    (panel.put place value playing bus).2.1.values[id]? =
      if place = id ∧ Accepted panel.controls id value then (panel.values[id]?).map fun _ => value
      else panel.values[id]? := by
  rw [panel_put]
  by_cases same : place = id
  · subst same
    by_cases accepted : Accepted panel.controls place value
    · rw [if_pos accepted, if_pos ⟨rfl, accepted⟩]
      exact List.getElem?_set_self'
    · rw [if_neg accepted, if_neg (not_and_of_not_right _ accepted)]
  · rw [if_neg (not_and_of_not_left _ same)]
    split
    · exact List.getElem?_set_ne same
    · rfl

/-- An operation gives a control its value and leaves it to the other controls. -/
theorem values_perform (bus : Bus) (panel : ControlPanel) (operation : Operation) (id : Nat) :
    (perform bus panel operation).2.values[id]? =
      match operation.value? panel.controls id with
      | some value => (panel.values[id]?).map fun _ => value
      | none => panel.values[id]? := by
  cases operation with
  | put place value playing =>
      rw [Operation.value?]
      refine (values_put panel place value playing bus id).trans ?_
      split <;> rfl
  | putNamed name value playing =>
      rw [Operation.value?, perform, putNamed_eq]
      cases Control.find? panel.controls name with
      | none => rfl
      | some place =>
          simp only [Option.some.injEq]
          rw [values_put]
          split <;> rfl
  | replay channel timing => rfl
  | disturb other => rfl

theorem controls_after (controls : List Control) (bus : Bus) (operations : List Operation) :
    (after controls bus operations).2.controls = controls := by
  induction operations with
  | nil => rfl
  | cons operation earlier ih => exact (controls_perform _ _ operation).trans ih

/-- Every control has the value that it was given last, whatever became of the bus. -/
theorem values_after (controls : List Control) (bus : Bus) (operations : List Operation)
    (id : Nat) :
    (after controls bus operations).2.values[id]? = latest controls operations id := by
  induction operations with
  | nil => exact List.getElem?_map
  | cons operation earlier ih =>
      rw [after, values_perform, controls_after, ih, latest, latest, List.findSome?_cons]
      cases operation.value? controls id with
      | none => rfl
      | some value => cases controls[id]? <;> rfl

theorem value_eq (panel : ControlPanel) (id : Nat) :
    panel.value id = (panel.values[id]?).elim (.error (.unknownControl id)) .ok := by
  rw [value]
  cases panel.values[id]? <;> rfl

/-! ## Replays -/

/-- Writes are sent one after the other, whatever becomes of those before. -/
theorem carryOutAll_eq_foldl {writes : List Control.Write} {held : Option TransportFault}
    (applied : ∀ write ∈ writes, write.outcome = .applied) (bus : Bus) :
    (Control.carryOutAll writes held bus).1 =
      writes.foldl (fun bus write => (write.control.dispatch write.index bus).1) bus := by
  induction writes generalizing held bus with
  | nil => rfl
  | cons write others ih =>
      have sent : write.carryOut bus = write.control.dispatch write.index bus := by
        rw [Control.Write.carryOut, applied write List.mem_cons_self]
      rw [Control.carryOutAll, List.foldl_cons, ← sent]
      exact ih (fun write member => applied write (List.mem_cons_of_mem _ member)) _

theorem wanted?_eq_some_iff (found : panel.controls[id]? = some control) :
    Control.wanted? panel.controls panel.values id = some index ↔
      ∃ value, panel.value id = .ok value ∧ control.Accepts value index := by
  rw [Control.wanted?, found, value_eq]
  cases panel.values[id]? with
  | none => simp
  | some value => simp [Control.index?_eq_some_iff]

/-! ## Histories -/

/-- What a write comes to. -/
structure Writes (panel : ControlPanel) (bus : Bus) (id : Nat) (value : Int) (playing : UInt8)
    (outcome : Bus × ControlPanel × Except WriteError Control.Outcome) : Prop where
  unknown : panel.controls[id]? = none →
    outcome = (bus, panel, .error (.refused (.unknownControl id)))
  refused : ∀ control, panel.controls[id]? = some control →
    (∀ index, ¬control.Accepts value index) →
    outcome = (bus, panel, .error (.refused (.controlValue control.name value)))
  /-- An accepted write changes the value of the control alone, also if it cannot be sent. -/
  stored : Accepted panel.controls id value → ∀ other,
    outcome.2.1.value other = if other = id then .ok value else panel.value other
  /-- It is sent once if the control applies at any time or its channel plays. -/
  sent : ∀ control index, panel.controls[id]? = some control → control.Accepts value index →
    control.timing = .anytime ∨ Channel.within playing control.channel = true →
    outcome.1 = (control.dispatch index bus).1 ∧
      outcome.2.2 = match (control.dispatch index bus).2 with
        | some fault => .error (.transport fault)
        | none => .ok .applied
  /-- Otherwise it waits and nothing is sent. -/
  deferred : ∀ control index, panel.controls[id]? = some control → control.Accepts value index →
    ¬(control.timing = .anytime ∨ Channel.within playing control.channel = true) →
    outcome.1 = bus ∧ outcome.2.2 = .ok .deferred

/-- What a replay comes to. -/
structure Replays (panel : ControlPanel) (bus : Bus) (channel : UInt8) (timing : Timing)
    (outcome : Bus × Option TransportFault) : Prop where
  /-- The accepted values of the channel and the timing are sent, each once and in order. -/
  sent : ∃ writes : List Control.Write,
    writes.Pairwise (fun first second => first.id < second.id) ∧
    (∀ write, write ∈ writes ↔
      panel.controls[write.id]? = some write.control ∧ write.control.channel = channel ∧
        write.control.timing = timing ∧
        (∃ value, panel.value write.id = .ok value ∧ write.control.Accepts value write.index) ∧
        write.outcome = .applied) ∧
    outcome.1 = writes.foldl (fun bus write => (write.control.dispatch write.index bus).1) bus
  /-- All calls are made to the channel, and those that were refused are counted together. -/
  counted : ∃ calls, outcome.1.transport.attempts = calls ++ bus.transport.attempts ∧
    (∀ attempt ∈ calls, attempt.call.channel? = some channel) ∧
    outcome.2 = TransportFault.ofCount channel (Bus.refusedCalls calls).length

theorem writes_put
    (held : ∀ id : Nat, (panel.values[id]?).isSome = (panel.controls[id]?).isSome)
    (id : Nat) (value : Int) (playing : UInt8) (bus : Bus) :
    Writes panel bus id value playing (panel.put id value playing bus) where
  unknown absent := put_of_unknown absent value playing bus
  refused _ found refused := put_of_refused found refused playing bus
  stored accepted other := by
    rw [panel_put, if_pos accepted, value_eq]
    by_cases same : other = id
    · subst same
      obtain ⟨control, _, found, _⟩ := accepted
      obtain ⟨value, has⟩ := Option.isSome_iff_exists.mp ((held other).trans (by rw [found]; rfl))
      rw [if_pos rfl, List.getElem?_set_self', has]
      rfl
    · rw [if_neg same, List.getElem?_set_ne (Ne.symm same), value_eq]
  sent _ _ found accepted immediate := by
    rw [put_of_immediate found accepted immediate]
    exact ⟨rfl, rfl⟩
  deferred _ _ found accepted later := by
    rw [put_of_deferred found accepted later]
    exact ⟨rfl, rfl⟩

theorem replays_replay (panel : ControlPanel) (channel : UInt8) (timing : Timing) (bus : Bus) :
    Replays panel bus channel timing (panel.replay channel timing bus) where
  sent := by
    refine ⟨Control.replayable panel.controls panel.values channel timing,
      Control.pairwise_replayable, fun write => ?_,
      carryOutAll_eq_foldl (fun write member => ?_) bus⟩
    · rw [Control.mem_replayable]
      refine and_congr_right fun found => ?_
      rw [wanted?_eq_some_iff found]
    · exact (Control.mem_replayable.mp member).2.2.2.2
  counted := (Bus.errand_replay panel.controls panel.values channel timing bus).counted
    (Bus.charges_writes (.refl bus))

/--
After any operations, and on any bus, every control has the value that was written to it last and
accepted, or its initial one. A write is refused, leaving everything as it was, or is stored and
sent once or not at all, and one by name goes to the first control that has it. A replay sends the
accepted values of a channel and a timing that the controls have, each once and in order, and counts
all that failed.
-/
theorem latest_values_sent (controls : List Control) (start : Bus) (operations : List Operation) :
    let bus := (after controls start operations).1
    let panel := (after controls start operations).2
    panel.controls = controls ∧
    (∀ id, panel.value id =
      (latest controls operations id).elim (.error (.unknownControl id)) .ok) ∧
    (∀ id value playing, Writes panel bus id value playing (panel.put id value playing bus)) ∧
    (∀ name value playing,
      (Control.find? controls name = none → panel.putNamed name value playing bus =
        (bus, panel, .error (.refused (.unknownControlName name)))) ∧
      ∀ id, Control.find? controls name = some id →
        Writes panel bus id value playing (panel.putNamed name value playing bus)) ∧
    ∀ channel timing, Replays panel bus channel timing (panel.replay channel timing bus) := by
  intro bus panel
  have same : panel.controls = controls := controls_after controls start operations
  have values (id : Nat) : panel.values[id]? = latest controls operations id :=
    values_after controls start operations id
  have held (id : Nat) : (panel.values[id]?).isSome = (panel.controls[id]?).isSome := by
    rw [values, same, latest, Option.isSome_map]
  refine ⟨same, fun id => ?_, fun id value playing => writes_put held id value playing bus,
    fun name value playing => ⟨fun unknown => ?_, fun id named => ?_⟩,
    fun channel timing => replays_replay panel channel timing bus⟩
  · rw [value_eq, values]
  · rw [putNamed_eq, same, unknown]
  · rw [putNamed_eq, same, named]
    exact writes_put held id value playing bus

/-- A gain that waits for its channel, and a mode whose initial item there is not. -/
def gainAndMode : List Control :=
  let speaker : Tuning.Script := [.write (Register.ofParts 0 0 0x10) 1]
  [⟨"gain", 0, .afterPowerUp,
      .integer ⟨Register.ofParts 0 0 3, .single, 0, -6, 6, 3, 0, .byte, [2, 4, 6, 8, 10]⟩⟩,
    ⟨"mode", 0, .afterPowerUp, .choice ⟨5, [("speaker", speaker)]⟩⟩]

/-- A bus on which every call to the first channel is refused. -/
def refusing : Bus := { Bus.new with transport := Bus.Transport.new.failChannel 0 }

/-- Two writes of the gain, a change of the bus, and a write that is out of range. -/
def gainWritten : List Operation :=
  [.put 0 7 0, .disturb refusing, .putNamed "gain" 6 0, .put 0 3 0]

/-- The second value of the gain is kept and sent, and the mode, which has no such item, is not. -/
theorem second_gain_replayed :
    let bus := (after gainAndMode .new gainWritten).1
    let panel := (after gainAndMode .new gainWritten).2
    panel.value 0 = .ok 6 ∧
      (panel.replay 0 .afterPowerUp bus).2 = some ⟨0, 1⟩ ∧
      Replays panel bus 0 .afterPowerUp (panel.replay 0 .afterPowerUp bus) ∧
      (panel.put 0 3 1 bus).2.2 = .error (.transport ⟨0, 1⟩) ∧
      (panel.put 0 3 1 bus).2.1.value 0 = .ok 3 := by
  intro bus panel
  obtain ⟨_, values, writes, _, replays⟩ := latest_values_sent gainAndMode .new gainWritten
  have accepted : Accepted panel.controls 0 3 := by decide
  refine ⟨values 0, by decide +kernel, replays 0 .afterPowerUp, by decide +kernel, ?_⟩
  exact (writes 0 3 1).stored accepted 0

end ControlPanel

end AmpControl
