import AmpControl.Proofs.Control.Write
import Mathlib.Data.List.Induction

/-!
# Writes by name, kept and made

Writes by name are made in order, and those that are refused change nothing. Writes that are kept
for later lose an earlier write to the same name, also where the later one is refused. So what is
made late leaves a control whose last write is refused at its initial value; of every other control
it makes what the same writes make of it in time.
-/

namespace AmpControl.Tuning.Control

variable {controls : List Control} {values : List Int} {id : Nat} {name : String}
  {writes : List (String × Int)} {write : String × Int}

/-! ## Single writes -/

/-- The stored values after a write by name. -/
def settle (controls : List Control) (values : List Int) (write : String × Int) : List Int :=
  match acceptNamed controls write.1 write.2 0 with
  | .error _ => values
  | .ok accepted => values.set accepted.id write.2

/-- A write by name is meant for a control. -/
def Meant (controls : List Control) (id : Nat) (write : String × Int) : Prop :=
  find? controls write.1 = some id

instance (controls : List Control) (id : Nat) : DecidablePred (Meant controls id) :=
  fun write => inferInstanceAs (Decidable (find? controls write.1 = some id))

/-- A write by name that is refused. -/
def Refused (controls : List Control) (write : String × Int) : Prop :=
  ∃ error, acceptNamed controls write.1 write.2 0 = .error error

instance (controls : List Control) : DecidablePred (Refused controls) := fun write =>
  match outcome : acceptNamed controls write.1 write.2 0 with
  | .error error => .isTrue ⟨error, outcome⟩
  | .ok _ => .isFalse fun ⟨_, refuses⟩ => nomatch outcome.symm.trans refuses

theorem acceptNamed_of_meant (meant : Meant controls id write) (playing : UInt8) :
    acceptNamed controls write.1 write.2 playing = accept controls id write.2 playing := by
  rw [Meant] at meant
  rw [acceptNamed, meant]

/-- Whether a write is accepted does not depend on the channels that play. -/
theorem accept_playing {value : Int} {playing : UInt8} {accepted : Write} (other : UInt8)
    (accepts : accept controls id value playing = .ok accepted) :
    ∃ again, accept controls id value other = .ok again := by
  unfold accept at accepts ⊢
  cases found : controls[id]? with
  | none => rw [found] at accepts; cases accepts
  | some control =>
      simp only [found] at accepts ⊢
      cases valid : control.validate value with
      | error error => rw [valid] at accepts; cases accepts
      | ok index => exact ⟨_, rfl⟩

/-- A write is refused whichever channels play, or whichever play it is not. -/
theorem refused_iff {value : Int} (meant : Meant controls id (name, value)) (playing : UInt8) :
    Refused controls (name, value) ↔
      ∃ error, accept controls id value playing = .error error := by
  have here : acceptNamed controls name value 0 = accept controls id value 0 :=
    acceptNamed_of_meant meant 0
  rw [Refused]
  simp only [here]
  constructor
  · rintro ⟨error, refuses⟩
    cases outcome : accept controls id value playing with
    | error other => exact ⟨other, rfl⟩
    | ok accepted =>
        obtain ⟨again, accepts⟩ := accept_playing 0 outcome
        cases refuses.symm.trans accepts
  · rintro ⟨error, refuses⟩
    cases outcome : accept controls id value 0 with
    | error other => exact ⟨other, rfl⟩
    | ok accepted =>
        obtain ⟨again, accepts⟩ := accept_playing playing outcome
        cases refuses.symm.trans accepts

theorem settle_of_refused (refused : Refused controls write) :
    settle controls values write = values := by
  obtain ⟨error, refuses⟩ := refused
  rw [settle, refuses]

theorem settle_of_accepted (meant : Meant controls id write) (accepted : ¬Refused controls write) :
    settle controls values write = values.set id write.2 := by
  rw [settle]
  cases outcome : acceptNamed controls write.1 write.2 0 with
  | error error => exact absurd ⟨error, outcome⟩ accepted
  | ok held =>
      rw [acceptNamed_of_meant meant] at outcome
      exact congrArg (fun place => values.set place write.2) (accept_eq_ok outcome).1

/-- A write changes the value of no control but the one that it is meant for. -/
theorem settle_of_not_meant (other : ¬Meant controls id write) :
    (settle controls values write)[id]? = values[id]? := by
  rw [settle]
  cases outcome : acceptNamed controls write.1 write.2 0 with
  | error error => rfl
  | ok held =>
      cases found : find? controls write.1 with
      | none =>
          rw [acceptNamed, found] at outcome
          cases outcome
      | some named =>
          rw [acceptNamed_of_meant found] at outcome
          have apart : held.id ≠ id := by
            rintro rfl
            rw [(accept_eq_ok outcome).1] at other
            exact other found
          exact List.getElem?_set_ne apart

theorem length_settle : (settle controls values write).length = values.length := by
  rw [settle]
  cases acceptNamed controls write.1 write.2 0 with
  | error error => rfl
  | ok held => exact List.length_set

/-- What a write makes of the value of a control depends on no other value. -/
theorem settle_congr {others : List Int} (same : values[id]? = others[id]?) :
    (settle controls values write)[id]? = (settle controls others write)[id]? := by
  by_cases meant : Meant controls id write
  · by_cases refused : Refused controls write
    · rw [settle_of_refused refused, settle_of_refused refused, same]
    · rw [settle_of_accepted meant refused, settle_of_accepted meant refused,
        List.getElem?_set_self', List.getElem?_set_self', same]
  · rw [settle_of_not_meant meant, settle_of_not_meant meant, same]

/-! ## Rows of writes -/

/-- The stored values after some writes by name. -/
def settleAll (controls : List Control) (values : List Int) (writes : List (String × Int)) :
    List Int :=
  writes.foldl (settle controls) values

theorem length_settleAll : (settleAll controls values writes).length = values.length := by
  rw [settleAll]
  induction writes generalizing values with
  | nil => rfl
  | cons first others ih => rw [List.foldl_cons, ih, length_settle]

theorem settleAll_concat : settleAll controls values (writes ++ [write]) =
    settle controls (settleAll controls values writes) write := by
  rw [settleAll, List.foldl_append]
  rfl

/-- Writes that are not meant for a control may be left out. -/
theorem settleAll_filter (kept : String × Int → Bool)
    (others : ∀ write ∈ writes, Meant controls id write → kept write = true) :
    (settleAll controls values (writes.filter kept))[id]? =
      (settleAll controls values writes)[id]? := by
  induction writes using List.reverseRecOn with
  | nil => rfl
  | append_singleton earlier last ih =>
      have sofar := ih fun write member => others write (List.mem_append_left _ member)
      rw [List.filter_append, settleAll_concat]
      by_cases stays : kept last = true
      · rw [List.filter_cons_of_pos stays, List.filter_nil, settleAll_concat]
        exact settle_congr sofar
      · have other : ¬Meant controls id last := fun meant =>
          stays (others last (List.mem_append_right _ List.mem_cons_self) meant)
        rw [List.filter_cons_of_neg stays, List.filter_nil, List.append_nil,
          settle_of_not_meant other]
        exact sofar

/-- A control that no write is meant for keeps its value. -/
theorem settleAll_of_none_meant (others : ∀ write ∈ writes, ¬Meant controls id write) :
    (settleAll controls values writes)[id]? = values[id]? := by
  rw [settleAll]
  induction writes generalizing values with
  | nil => rfl
  | cons first rest ih =>
      rw [List.foldl_cons, ih fun write member => others write (List.mem_cons_of_mem _ member)]
      exact settle_of_not_meant (others first List.mem_cons_self)

/-! ## Kept writes -/

/-- Keeps a write by name in place of one that was kept before. -/
def keep (cached : List (String × Int)) (write : String × Int) : List (String × Int) :=
  (cached.filter fun entry => entry.1 != write.1) ++ [write]

/-- The last of some writes that is meant for a control is refused. -/
def EndsRefused (controls : List Control) (id : Nat) (writes : List (String × Int)) : Prop :=
  ∃ write, (writes.filter (Meant controls id)).getLast? = some write ∧ Refused controls write

instance (controls : List Control) (id : Nat) (writes : List (String × Int)) :
    Decidable (EndsRefused controls id writes) :=
  match last : (writes.filter (Meant controls id)).getLast? with
  | none => .isFalse fun ⟨_, found, _⟩ => nomatch last.symm.trans found
  | some write => decidable_of_iff (Refused controls write)
      ⟨fun refused => ⟨write, last, refused⟩, fun ⟨_, found, refused⟩ =>
        Option.some.inj (last.symm.trans found) ▸ refused⟩

theorem endsRefused_concat_of_meant (meant : Meant controls id write) :
    EndsRefused controls id (writes ++ [write]) ↔ Refused controls write := by
  have kept : (writes ++ [write]).filter (Meant controls id) =
      writes.filter (Meant controls id) ++ [write] := by
    rw [List.filter_append, List.filter_cons, if_pos (decide_eq_true meant), List.filter_nil]
  rw [EndsRefused, kept, List.getLast?_concat]
  constructor
  · rintro ⟨last, found, refused⟩
    cases found
    exact refused
  · exact fun refused => ⟨write, rfl, refused⟩

theorem endsRefused_concat_of_not_meant (other : ¬Meant controls id write) :
    EndsRefused controls id (writes ++ [write]) ↔ EndsRefused controls id writes := by
  have kept : (writes ++ [write]).filter (Meant controls id) =
      writes.filter (Meant controls id) := by
    rw [List.filter_append, List.filter_cons, if_neg (by simpa using other), List.filter_nil,
      List.append_nil]
  rw [EndsRefused, kept, EndsRefused]

/-- Two writes that are meant for one control have the same name. -/
theorem Meant.same_name {other : String × Int} (meant : Meant controls id write)
    (also : Meant controls id other) : other.1 = write.1 := by
  obtain ⟨_, named, _⟩ := List.findIdx?_eq_some_iff_getElem.mp meant
  obtain ⟨_, alsoNamed, _⟩ := List.findIdx?_eq_some_iff_getElem.mp also
  exact (eq_of_beq alsoNamed).symm.trans (eq_of_beq named)

/--
Of a control whose last write is refused, kept writes leave the initial value; of any other they
make what the writes make of it one after the other.
-/
theorem settleAll_kept (cached writes : List (String × Int)) (id : Nat) :
    (EndsRefused controls id writes →
      (settleAll controls values (writes.foldl keep cached))[id]? = values[id]?) ∧
    (¬EndsRefused controls id writes →
      (settleAll controls values (writes.foldl keep cached))[id]? =
        (settleAll controls (settleAll controls values cached) writes)[id]?) := by
  induction writes using List.reverseRecOn with
  | nil =>
      constructor
      · rintro ⟨write, found, _⟩
        cases found
      · exact fun _ => rfl
  | append_singleton earlier last ih =>
      rw [List.foldl_append, List.foldl_cons, List.foldl_nil, keep, settleAll_concat,
        settleAll_concat]
      by_cases meant : Meant controls id last
      · have alone : (settleAll controls values ((earlier.foldl keep cached).filter fun entry =>
            entry.1 != last.1))[id]? = values[id]? := by
          apply settleAll_of_none_meant
          intro write member also
          have apart := (List.mem_filter.mp member).2
          rw [meant.same_name also] at apart
          simp at apart
        rw [endsRefused_concat_of_meant meant]
        constructor
        · intro refused
          rw [settle_of_refused refused, alone]
        · intro accepted
          rw [settle_of_accepted meant accepted, settle_of_accepted meant accepted,
            List.getElem?_set, List.getElem?_set, if_pos rfl, if_pos rfl]
          simp only [length_settleAll]
      · have whole : (settleAll controls values ((earlier.foldl keep cached).filter fun entry =>
            entry.1 != last.1))[id]? =
              (settleAll controls values (earlier.foldl keep cached))[id]? := by
          apply settleAll_filter
          intro write _ also
          rw [bne_iff_ne]
          intro same
          rw [Meant, same] at also
          exact meant also
        rw [endsRefused_concat_of_not_meant meant, settle_of_not_meant meant,
          settle_of_not_meant meant, whole]
        exact ih

end AmpControl.Tuning.Control
