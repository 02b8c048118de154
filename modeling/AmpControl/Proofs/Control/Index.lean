import AmpControl.Control.Index
import AmpControl.Control.Panel
import AmpControl.Proofs.Control.Write
import AmpControl.Proofs.Tuning.Globals
import AmpControl.Proofs.Tuning.Shape

/-!
# The values of integer controls

The reader lets an integer control pass only if its step is positive and its range is not empty. A
value then stands for a candidate exactly if it is so many steps above the lowest value, not above
the highest one, and there are so many candidates. The computation in 64 bits agrees: no result on
the way is ever too large. A value that stands for no candidate is refused when it is written, and
passed over when stored values are replayed.
-/

namespace AmpControl.Tuning

/-! ## Controls that pass -/

namespace Read

variable {α : Type} {record : Read α} {reader after : Reader} {values : List α} {value : α}

/-- Each of the records that are read in a row is read somewhere. -/
theorem read_of_mem_records {amount : Nat} (listed : records record amount reader = .ok values after)
    (member : value ∈ values) : ∃ before behind, record before = .ok value behind := by
  induction amount generalizing reader after values with
  | zero =>
      cases listed
      cases member
  | succ amount ih =>
      obtain ⟨first, middle, begins, rest⟩ := bind_eq_ok listed
      obtain ⟨others, ended, follows, made⟩ := bind_eq_ok rest
      cases made
      rcases List.mem_cons.mp member with rfl | later
      · exact ⟨reader, middle, begins⟩
      · exact ih follows later

theorem read_of_mem_counted (listed : counted record reader = .ok values after)
    (member : value ∈ values) : ∃ before behind, record before = .ok value behind := by
  obtain ⟨amount, middle, _, follows⟩ := bind_eq_ok listed
  exact read_of_mem_records follows member

end Read

namespace IntegerControl

/-- A control whose step is positive and whose range is not empty. -/
structure Sound (control : IntegerControl) : Prop where
  step : 0 < control.step.toInt
  range : control.lowest.toInt ≤ control.highest.toInt

/-- Only sound controls pass. -/
theorem sound_of_read {reader after : Reader} {control : IntegerControl}
    (passes : read reader = .ok control after) : control.Sound := by
  obtain ⟨register, _, _, passes⟩ := Read.bind_eq_ok passes
  obtain ⟨mode, _, _, passes⟩ := Read.bind_eq_ok passes
  obtain ⟨mask, _, _, passes⟩ := Read.bind_eq_ok passes
  obtain ⟨lowest, _, _, passes⟩ := Read.bind_eq_ok passes
  obtain ⟨highest, _, _, passes⟩ := Read.bind_eq_ok passes
  obtain ⟨step, _, _, passes⟩ := Read.bind_eq_ok passes
  obtain ⟨initial, _, _, passes⟩ := Read.bind_eq_ok passes
  by_cases falls : step ≤ 0
  · rw [if_pos falls] at passes
    obtain ⟨_, _, thrown, _⟩ := Read.bind_eq_ok passes
    cases thrown
  rw [if_neg falls] at passes
  by_cases empty : highest < lowest
  · rw [if_pos empty] at passes
    obtain ⟨_, _, thrown, _⟩ := Read.bind_eq_ok passes
    cases thrown
  rw [if_neg empty] at passes
  obtain ⟨element, _, _, passes⟩ := Read.bind_eq_ok passes
  obtain ⟨candidates, _, _, made⟩ := Read.bind_eq_ok passes
  cases made
  exact ⟨Int32.lt_iff_toInt_lt.mp (Int32.not_le.mp falls),
    Int32.le_iff_toInt_le.mp (Int32.not_lt.mp empty)⟩

end IntegerControl

theorem Control.sound_of_mem {reader after : Reader} {controls : List Control} {control : Control}
    {body : IntegerControl} (passes : readTable reader = .ok controls after)
    (member : control ∈ controls) (integer : control.body = .integer body) : body.Sound := by
  obtain ⟨before, behind, reads⟩ := Read.read_of_mem_counted passes member
  obtain ⟨kind, _, _, reads⟩ := Read.bind_eq_ok reads
  obtain ⟨name, _, _, reads⟩ := Read.bind_eq_ok reads
  obtain ⟨channel, _, _, reads⟩ := Read.bind_eq_ok reads
  obtain ⟨timing, _, _, reads⟩ := Read.bind_eq_ok reads
  split at reads
  · obtain ⟨found, _, reads, made⟩ := Read.bind_eq_ok reads
    cases made
    cases integer
    exact IntegerControl.sound_of_read reads
  · obtain ⟨found, _, _, made⟩ := Read.bind_eq_ok reads
    cases made
    cases integer
  · cases reads

namespace IntegerControl

variable {control : IntegerControl}

/-- A value is so many steps above the lowest one, in range, and there are so many candidates. -/
def Selects (control : IntegerControl) (value : Int) (index : Nat) : Prop :=
  index < control.candidates.length ∧
    value = control.lowest.toInt + index * control.step.toInt ∧ value ≤ control.highest.toInt

theorem Sound.index?_eq_some_iff (sound : control.Sound) {value : Int} {index : Nat} :
    control.index? value = some index ↔ control.Selects value index := by
  rw [IntegerControl.index?_eq_some_iff, Accepts, Selects]
  have above : 0 ≤ (index : Int) * control.step.toInt :=
    Int.mul_nonneg (Int.natCast_nonneg index) (Int.le_of_lt sound.step)
  constructor
  · rintro ⟨_, below, _, stands, few⟩
    exact ⟨few, stands, below⟩
  · rintro ⟨few, stands, below⟩
    exact ⟨by omega, below, sound.step, stands, few⟩

theorem Sound.index?_eq_none_iff (sound : control.Sound) {value : Int} :
    control.index? value = none ↔ ∀ index, ¬control.Selects value index := by
  simp only [Option.eq_none_iff_forall_ne_some, ne_eq, sound.index?_eq_some_iff]

/-- Different values stand for different candidates. -/
theorem Selects.value_unique {value other : Int} {index : Nat} (selects : control.Selects value index)
    (also : control.Selects other index) : value = other :=
  selects.2.1.trans also.2.1.symm

/-! ## Computing in 64 bits -/

/--
The results on the way from a value to its index: how far it is above the lowest value, how many
steps this makes and what they leave. None of them is lost, and they are the exact ones.
-/
structure Computes (control : IntegerControl) (value offset excess index : Int64) : Prop where
  subtracts : Checked.difference? value control.lowest.toInt64 = some offset
  leaves : Checked.remainder? offset control.step.toInt64 = some excess
  divides : Checked.quotient? offset control.step.toInt64 = some index
  places : Checked.place? index = some index.toInt.toNat
  exactOffset : offset.toInt = value.toInt - control.lowest.toInt
  exactExcess : excess.toInt = (value.toInt - control.lowest.toInt) % control.step.toInt
  exactIndex : index.toInt = (value.toInt - control.lowest.toInt) / control.step.toInt

/-- In the range of a control nothing overflows, since the range is one of 32 bits. -/
theorem computes_of_inside {value : Int64} (rises : 0 < control.step.toInt)
    (above : control.lowest.toInt ≤ value.toInt) (below : value.toInt ≤ control.highest.toInt) :
    ∃ offset excess index, control.Computes value offset excess index := by
  have low := control.lowest.le_toInt
  have high := control.highest.toInt_lt
  have nonneg : 0 ≤ value.toInt - control.lowest.toInt := by omega
  have few := Int.ediv_le_self control.step.toInt nonneg
  have some_steps := Int.ediv_nonneg nonneg (Int.le_of_lt rises)
  have exactOffset : (Int64.ofInt (value.toInt - control.lowest.toInt)).toInt =
      value.toInt - control.lowest.toInt := Int64.toInt_ofInt_of_le (by omega) (by omega)
  have exactIndex : (Int64.ofInt ((value.toInt - control.lowest.toInt) / control.step.toInt)).toInt =
      (value.toInt - control.lowest.toInt) / control.step.toInt :=
    Int64.toInt_ofInt_of_le (by omega) (by omega)
  have index : Checked.quotient? (Int64.ofInt (value.toInt - control.lowest.toInt))
      control.step.toInt64 =
        some (Int64.ofInt ((value.toInt - control.lowest.toInt) / control.step.toInt)) := by
    rw [Checked.quotient?_eq_some_iff, Int32.toInt_toInt64, exactOffset, exactIndex,
      Int.tdiv_eq_ediv_of_nonneg nonneg]
    exact ⟨Int.ne_of_gt rises, rfl⟩
  refine ⟨_, _, _, ?_, Checked.remainder?_of_quotient? index, index,
    Checked.place?_of_nonneg (by rwa [exactIndex]), exactOffset, ?_, exactIndex⟩
  · rw [Checked.difference?_eq_some_iff, Int32.toInt_toInt64, exactOffset]
  · rw [Int64.toInt_mod, Int32.toInt_toInt64, exactOffset, Int.tmod_eq_emod_of_nonneg nonneg]

theorem checkedIndex?_eq_index? (control : IntegerControl) (value : Int64) :
    control.checkedIndex? value = control.index? value.toInt := by
  have guard : (value < control.lowest.toInt64 ∨ control.highest.toInt64 < value ∨
      control.step.toInt64 ≤ 0) ↔ (value.toInt < control.lowest.toInt ∨
        control.highest.toInt < value.toInt ∨ control.step.toInt ≤ 0) := by
    simp only [Int64.lt_iff_toInt_lt, Int64.le_iff_toInt_le, Int32.toInt_toInt64, Int64.toInt_zero]
  by_cases outside : value.toInt < control.lowest.toInt ∨
      control.highest.toInt < value.toInt ∨ control.step.toInt ≤ 0
  · simp only [checkedIndex?, index?, if_pos outside, if_pos (guard.mpr outside)]
  have fits : ∃ offset excess index, control.Computes value offset excess index :=
    computes_of_inside (by omega) (by omega) (by omega)
  obtain ⟨offset, excess, index, computes⟩ := fits
  have even : excess = 0 ↔
      (value.toInt - control.lowest.toInt) % control.step.toInt = 0 := by
    rw [← Int64.toInt_inj, computes.exactExcess, Int64.toInt_zero]
  simp only [checkedIndex?, index?, if_neg outside, if_neg (mt guard.mp outside), computes.subtracts,
    computes.leaves, computes.divides, computes.places, computes.exactIndex, even, ne_eq,
    Option.bind_eq_bind, Option.bind_some]

end IntegerControl

/-! ## Values that stand for no candidate -/

namespace Control

variable {controls : List Control} {values : List Int} {control : Control} {id : Nat}

theorem validate_of_none {value : Int} (nothing : control.index? value = none) :
    control.validate value = .error (.controlValue control.name value) := by
  rw [validate, nothing]

/-- A control stands for nothing if no value is stored for it, or one that it does not accept. -/
theorem wanted?_eq_bind (found : controls[id]? = some control) :
    wanted? controls values id = (values[id]?).bind control.index? := by
  rw [wanted?, found]
  rfl

/--
A control whose stored value stands for nothing is passed over: a replay sends what it would send if
the control were one of another channel or timing.
-/
theorem replayable_set {aside : Control} {channel : UInt8} {timing : Timing}
    (found : controls[id]? = some control) (nothing : wanted? controls values id = none)
    (elsewhere : ¬(aside.channel = channel ∧ aside.timing = timing)) :
    replayable (controls.set id aside) values channel timing =
      replayable controls values channel timing := by
  obtain ⟨inside, here⟩ := List.getElem?_eq_some_iff.mp found
  rw [wanted?_eq_bind found] at nothing
  have split : controls = controls.take id ++ control :: controls.drop (id + 1) := by
    rw [← here, List.getElem_cons_drop, List.take_append_drop]
  have replaced : controls.set id aside = controls.take id ++ aside :: controls.drop (id + 1) := by
    rw [List.set_eq_take_append_cons_drop, if_pos inside]
  have place : (controls.take id).length = id := List.length_take_of_le (Nat.le_of_lt inside)
  rw [replaced]
  conv_rhs => rw [split]
  simp only [replayable, List.zipIdx_append, List.zipIdx_cons, List.filterMap_append, place,
    Nat.zero_add, List.filterMap_cons, if_neg elsewhere, nothing, Option.map_none, ite_self]

theorem getElem?_initials (found : controls[id]? = some control) :
    (initials controls)[id]? = some control.initial := by
  rw [initials, List.getElem?_map, found, Option.map_some]

/--
Of an integer control that passed the reader, a value of 64 bits gives a candidate exactly if it is
so many steps above the lowest value, not above the highest one, and there are so many candidates.
So different values give different candidates, and in the range of the control nothing overflows.
Any other value, the initial one among them, is refused, and is passed over if it is stored.
-/
theorem candidates_selected_exactly {reader after : Reader} {body : IntegerControl}
    (passes : readTable reader = .ok controls after) (found : controls[id]? = some control)
    (integer : control.body = .integer body) :
    (∀ (value : Int64) (index : Nat),
      body.checkedIndex? value = some index ↔ body.Selects value.toInt index) ∧
    (∀ (value other : Int64) (index : Nat), body.checkedIndex? value = some index →
      body.checkedIndex? other = some index → value = other) ∧
    (∀ value : Int64, body.lowest.toInt ≤ value.toInt → value.toInt ≤ body.highest.toInt →
      ∃ offset excess index, body.Computes value offset excess index) ∧
    (∀ value : Int64, control.index? value.toInt = body.checkedIndex? value) ∧
    (initials controls)[id]? = some body.initial.toInt ∧
    ∀ value : Int, (∀ index, ¬body.Selects value index) →
      control.validate value = .error (.controlValue control.name value) ∧
      ∀ (values : List Int) (channel : UInt8) (timing : Timing), values[id]? = some value →
        (∀ write ∈ replayable controls values channel timing, write.id ≠ id) ∧
        ∀ (bus : Bus) (aside : Control), ¬(aside.channel = channel ∧ aside.timing = timing) →
          replay (controls.set id aside) values channel timing bus =
            replay controls values channel timing bus := by
  have sound := sound_of_mem passes (List.mem_of_getElem? found) integer
  have computed (value : Int64) : control.index? value.toInt = body.checkedIndex? value := by
    rw [index?, integer, IntegerControl.checkedIndex?_eq_index?]
  have selects (value : Int64) (index : Nat) :
      body.checkedIndex? value = some index ↔ body.Selects value.toInt index := by
    rw [IntegerControl.checkedIndex?_eq_index?, sound.index?_eq_some_iff]
  refine ⟨selects, fun value other index gives also => ?_, fun value above below => ?_, computed,
    ?_, fun value nothing => ?_⟩
  · have same := ((selects value index).mp gives).value_unique ((selects other index).mp also)
    exact Int64.toInt_inj.mp same
  · exact IntegerControl.computes_of_inside sound.step above below
  · rw [getElem?_initials found, initial, integer]
  · have refused : control.index? value = none := by
      rw [index?, integer]
      exact sound.index?_eq_none_iff.mpr nothing
    refine ⟨validate_of_none refused, fun values channel timing stored => ?_⟩
    have unwanted : wanted? controls values id = none := by
      rw [wanted?_eq_bind found, stored, Option.bind_some, refused]
    refine ⟨?_, fun bus aside elsewhere => ?_⟩
    · rintro write sent rfl
      obtain ⟨_, _, _, wanted, _⟩ := mem_replayable.mp sent
      rw [unwanted] at wanted
      cases wanted
    · rw [replay, replay, replayable_set found unwanted elsewhere]

/-- A control that spans all words, in steps that end short of the highest, with two candidates. -/
def widest : IntegerControl :=
  ⟨Register.ofParts 0 0 3, .single, 0, .minValue, .maxValue, 2000000000, 0, .word, [7, 9]⟩

/-- The second step above the lowest word has a candidate; the third step and zero have none. -/
theorem second_candidate_of_widest :
    let control : Control := ⟨"level", 0, .afterPowerUp, .integer widest⟩
    (∃ after, readTable (Reader.start (encodeTable [control]) 0) = .ok [control] after) ∧
      widest.checkedIndex? (-147483648) = some 1 ∧
      (∃ offset excess index, widest.Computes (-147483648) offset excess index) ∧
      control.validate 1852516352 = .error (.controlValue "level" 1852516352) ∧
      control.validate control.initial = .error (.controlValue "level" 0) ∧
      ∀ write ∈ replayable [control] (initials [control]) 0 .afterPowerUp, write.id ≠ 0 := by
  intro control
  have storable : ∀ other ∈ [control], other.Storable := by decide +kernel
  have passes := takes_readTable storable (by decide +kernel) [] 0 0
  rw [List.append_nil] at passes
  have found : [control][0]? = some control := rfl
  obtain ⟨selects, _, fits, _, initially, others⟩ := candidates_selected_exactly passes found rfl
  have sound : widest.Sound := ⟨by decide +kernel, by decide +kernel⟩
  have third : ∀ index, ¬widest.Selects 1852516352 index :=
    sound.index?_eq_none_iff.mp (by decide +kernel)
  have zero : ∀ index, ¬widest.Selects 0 index := sound.index?_eq_none_iff.mp (by decide +kernel)
  refine ⟨⟨_, passes⟩, (selects _ _).mpr ?_, fits _ ?_ ?_, (others _ third).1, (others _ zero).1,
    ((others _ zero).2 _ 0 .afterPowerUp initially).1⟩
  · exact sound.index?_eq_some_iff.mp (by decide +kernel)
  · decide +kernel
  · decide +kernel

end Control

end AmpControl.Tuning
