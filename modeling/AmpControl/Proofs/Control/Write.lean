import AmpControl.Control.Dispatch

/-!
# Laws of control writes

A control accepts the values that stand for one of its candidates or items. An accepted write names
the candidate that its value stands for, and is dispatched exactly when the control applies at any
time or its channel plays. Storing a value changes what this control stands for and nothing else. A
replay sends every accepted value of a channel and a timing once, in the order of the controls.
-/

namespace AmpControl.Tuning

/-! ## Accepted values -/

/--
A value of an integer control stands for a candidate if it is in range and so many steps above the
lowest value.
-/
def IntegerControl.Accepts (control : IntegerControl) (value : Int) (index : Nat) : Prop :=
  control.lowest.toInt ≤ value ∧ value ≤ control.highest.toInt ∧ 0 < control.step.toInt ∧
    value = control.lowest.toInt + index * control.step.toInt ∧ index < control.candidates.length

/-- A value of a control stands for one of its candidates or items. -/
def Control.Accepts (control : Control) (value : Int) (index : Nat) : Prop :=
  match control.body with
  | .integer body => body.Accepts value index
  | .choice body => value = index ∧ index < body.items.length

theorem IntegerControl.index?_eq_some_iff {control : IntegerControl} {value : Int} {index : Nat} :
    control.index? value = some index ↔ control.Accepts value index := by
  simp only [index?, Accepts]
  constructor
  · intro found
    split at found
    · cases found
    split at found
    · cases found
    rename_i inside even
    split at found
    · rename_i few
      cases found
      have step : 0 < control.step.toInt := by omega
      have above : 0 ≤ value - control.lowest.toInt := by omega
      have whole := Int.ediv_mul_cancel (Int.dvd_of_emod_eq_zero (Decidable.not_not.mp even))
      refine ⟨by omega, by omega, step, ?_, few⟩
      rw [Int.toNat_of_nonneg (Int.ediv_nonneg above (Int.le_of_lt step)), whole]
      omega
    · cases found
  · rintro ⟨above, below, step, rfl, few⟩
    have distance : control.lowest.toInt + index * control.step.toInt - control.lowest.toInt =
        index * control.step.toInt := by omega
    rw [if_neg (by omega), distance, if_neg (by simp), Int.mul_ediv_cancel _ (Int.ne_of_gt step),
      Int.toNat_natCast]
    exact if_pos few

theorem ChoiceControl.index?_eq_some_iff {control : ChoiceControl} {value : Int} {index : Nat} :
    control.index? value = some index ↔ value = index ∧ index < control.items.length := by
  unfold index?
  split
  · rw [Option.some.injEq]
    omega
  · simp only [reduceCtorEq, false_iff]
    omega

namespace Control

theorem index?_eq_some_iff {control : Control} {value : Int} {index : Nat} :
    control.index? value = some index ↔ control.Accepts value index := by
  unfold index? Accepts
  cases control.body with
  | integer body => exact IntegerControl.index?_eq_some_iff
  | choice body => exact ChoiceControl.index?_eq_some_iff

theorem index?_eq_none_iff {control : Control} {value : Int} :
    control.index? value = none ↔ ∀ index, ¬control.Accepts value index := by
  simp only [Option.eq_none_iff_forall_ne_some, ← index?_eq_some_iff, ne_eq]

/-! ## Stored values -/

/-- The candidate or item that the stored value of a control stands for. -/
def wanted? (controls : List Control) (values : List Int) (id : Nat) : Option Nat := do
  let control ← controls[id]?
  let value ← values[id]?
  control.index? value

theorem wanted?_set_of_ne (controls : List Control) (values : List Int) {id other : Nat}
    (apart : other ≠ id) (value : Int) :
    wanted? controls (values.set id value) other = wanted? controls values other := by
  rw [wanted?, wanted?, List.getElem?_set_ne apart.symm]

/-- A control wants what was stored last. -/
theorem wanted?_set_self {controls : List Control} {values : List Int} {id index : Nat}
    {control : Control} {value : Int} (found : controls[id]? = some control)
    (wanted : wanted? controls (values.set id value) id = some index) :
    control.index? value = some index := by
  rw [wanted?, found] at wanted
  by_cases there : id < values.length
  · rwa [List.getElem?_set_self there] at wanted
  · rw [List.getElem?_eq_none (by simpa using there)] at wanted
    cases wanted

/-! ## Writes -/

theorem index?_of_validate {control : Control} {value : Int} {index : Nat}
    (valid : control.validate value = .ok index) : control.index? value = some index := by
  unfold validate at valid
  cases found : control.index? value with
  | none => rw [found] at valid; cases valid
  | some held => rw [found] at valid; cases valid; rfl

/-- What an accepted write holds. -/
theorem accept_eq_ok {controls : List Control} {id : Nat} {value : Int} {playing : UInt8}
    {write : Write} (accepted : accept controls id value playing = .ok write) :
    write.id = id ∧ controls[id]? = some write.control ∧
      write.control.index? value = some write.index ∧
      (write.outcome = .applied ↔
        write.control.timing = .anytime ∨ Channel.within playing write.control.channel) := by
  unfold accept at accepted
  cases found : controls[id]? with
  | none => rw [found] at accepted; cases accepted
  | some control =>
      simp only [found] at accepted
      cases valid : control.validate value with
      | error error => rw [valid] at accepted; cases accepted
      | ok index =>
          rw [valid] at accepted
          cases accepted
          refine ⟨rfl, rfl, index?_of_validate valid, ?_⟩
          by_cases now : control.timing = .anytime ∨ Channel.within playing control.channel = true
          · simp [now]
          · simp [now]

theorem acceptNamed_eq_ok {controls : List Control} {name : String} {value : Int}
    {playing : UInt8} {write : Write}
    (accepted : acceptNamed controls name value playing = .ok write) :
    ∃ id, accept controls id value playing = .ok write := by
  unfold acceptNamed at accepted
  cases found : find? controls name with
  | none => rw [found] at accepted; cases accepted
  | some id => exact ⟨id, by rwa [found] at accepted⟩

/-! ## Replays -/

variable {controls : List Control} {values : List Int} {channel : UInt8} {timing : Timing}

/-- What a replay sends are the values of a channel and a timing that are accepted. -/
theorem mem_replayable {write : Write} :
    write ∈ replayable controls values channel timing ↔
      controls[write.id]? = some write.control ∧ write.control.channel = channel ∧
        write.control.timing = timing ∧ wanted? controls values write.id = some write.index ∧
        write.outcome = .applied := by
  simp only [replayable, List.mem_filterMap, Prod.exists, List.mk_mem_zipIdx_iff_getElem?]
  constructor
  · rintro ⟨control, id, found, chosen⟩
    split at chosen
    · rename_i here
      obtain ⟨index, wanted, rfl⟩ := Option.map_eq_some_iff.mp chosen
      refine ⟨found, here.1, here.2, ?_, rfl⟩
      simpa [wanted?, found] using wanted
    · cases chosen
  · obtain ⟨id, control, index, outcome⟩ := write
    rintro ⟨found, onChannel, onTiming, wanted, rfl⟩
    refine ⟨control, id, found, ?_⟩
    rw [if_pos ⟨onChannel, onTiming⟩]
    refine Option.map_eq_some_iff.mpr ⟨index, ?_, rfl⟩
    simpa [wanted?, found] using wanted

/-- A replay sends the value of each control once, in the order of the controls. -/
theorem pairwise_replayable :
    (replayable controls values channel timing).Pairwise fun first second =>
      first.id < second.id := by
  have places : controls.zipIdx.Pairwise fun first second => first.2 < second.2 := by
    rw [← List.pairwise_map (f := Prod.snd) (R := (· < ·)), List.zipIdx_map_snd]
    exact List.pairwise_lt_range'
  have named {entry : Control × Nat} {write : Write}
      (chosen : (if entry.1.channel = channel ∧ entry.1.timing = timing then
        ((values[entry.2]?).bind entry.1.index?).map fun index =>
          (⟨entry.2, entry.1, index, .applied⟩ : Write) else none) = some write) :
      write.id = entry.2 := by
    split at chosen
    · obtain ⟨index, _, rfl⟩ := Option.map_eq_some_iff.mp chosen
      rfl
    · cases chosen
  rw [replayable, List.pairwise_filterMap]
  refine places.imp ?_
  intro first second before early chosen late alsoChosen
  rw [named chosen, named alsoChosen]
  exact before

end Control

end AmpControl.Tuning
