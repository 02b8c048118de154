import AmpControl.Proofs.Tuning.Restoring
import AmpControl.Tuning.Container

/-!
# Payloads in containers

A container gives back what was put into it: the sizes in its table add up to where each payload
lies, so every id selects the first payload that was stored under it. A container that is cut short
behind its tag is found to be cut, or else what is asked of it lies in the part that is left.
-/

namespace AmpControl.Tuning

/-! ## Reads of a row that is cut short -/

/-- A reader over a row that is cut short stands where a reader over the whole row stands. -/
structure Reader.CutOf (reader whole : Reader) : Prop where
  rest : reader.rest <+: whole.rest
  position : reader.position = whole.position
  base : reader.base = whole.base

namespace Read

variable {α β : Type} {read : Read α} {next : α → Read β}

/-- What a read makes of a row that is cut short it makes of the whole row as well. -/
def Steady (read : Read α) : Prop :=
  ∀ ⦃reader whole after : Reader⦄ ⦃value : α⦄, reader.CutOf whole →
    read reader = .ok value after → ∃ ended, read whole = .ok value ended ∧ after.CutOf ended

/-- A read that takes a row takes it whatever follows. -/
theorem Restores.steady {alike : Bytes → Bytes → Prop} {encode : α → Bytes}
    (restores : Restores alike read encode) : Steady read := by
  intro reader whole after value cut succeeds
  obtain ⟨taken, took⟩ := restores.took succeeds
  obtain ⟨missing, split⟩ := cut.rest
  have again := took.takes (after.rest ++ missing) whole.position whole.base
  rw [← List.append_assoc, ← took.rest, split] at again
  exact ⟨_, again, ⟨missing, rfl⟩, by rw [took.position, cut.position],
    took.base.trans cut.base⟩

theorem Steady.bind (begins : Steady read) (follows : ∀ value, Steady (next value)) :
    Steady (read >>= next) := by
  intro reader whole after result cut succeeds
  obtain ⟨value, middle, first, second⟩ := bind_eq_ok succeeds
  obtain ⟨reached, firstWhole, cutMiddle⟩ := begins cut first
  obtain ⟨ended, secondWhole, cutAfter⟩ := follows value cutMiddle second
  refine ⟨ended, ?_, cutAfter⟩
  simp only [Bind.bind, EStateM.bind, firstWhole, secondWhole]

theorem steady_pure (value : α) : Steady (Pure.pure value) := by
  rintro reader whole _ _ cut ⟨⟩
  exact ⟨whole, rfl, cut⟩

theorem steady_word : Steady word := (restores_word likeness_eq).steady

theorem steady_skip (amount : Nat) : Steady (skip amount) :=
  (restores_bytes likeness_eq amount).steady.bind fun _ => steady_pure ()

theorem steady_records {record : Read α} (steady : Steady record) (amount : Nat) :
    Steady (records record amount) := by
  induction amount with
  | zero => exact steady_pure []
  | succ amount ih => exact steady.bind fun _ => ih.bind fun _ => steady_pure _

end Read

namespace Container

open Read (Steady Takes)

variable {image : Bytes} {revision : UInt32} {entries : List (UInt32 × Bytes)}

/-! ## Containers that are cut short -/

theorem steady_readRecord : Steady readRecord :=
  Read.steady_word.bind fun _ => Read.steady_word.bind fun _ =>
    (Read.steady_skip 12).bind fun _ => Read.steady_pure _

/-- A table that is cut short is truncated; one that is left whole has the same records. -/
theorem revisions_take (image : Bytes) (size : Nat) :
    revisions (image.take size) = .error .truncated ∨
      revisions (image.take size) = revisions image := by
  have cut : (Reader.start (image.take size) 0).CutOf (Reader.start image 0) :=
    ⟨List.take_prefix size image, rfl, rfl⟩
  have header : Steady (do Read.skip 5; Read.word : Read UInt32) :=
    (Read.steady_skip 5).bind fun _ => Read.steady_word
  unfold revisions
  cases first : (do Read.skip 5; Read.word : Read UInt32) (Reader.start (image.take size) 0) with
  | error _ _ => exact .inl rfl
  | ok count after =>
      obtain ⟨ended, whole, cutAfter⟩ := header cut first
      rw [whole]
      simp only
      by_cases without : count = 0
      · rw [if_pos without, if_pos without]
        exact .inr rfl
      rw [if_neg without, if_neg without]
      by_cases missing : after.remaining < recordLength * count.toNat
      · rw [if_pos missing]
        exact .inl rfl
      have enough : ¬ended.remaining < recordLength * count.toNat := fun less =>
        missing (Nat.lt_of_le_of_lt cutAfter.rest.length_le less)
      rw [if_neg missing, if_neg enough]
      cases listed : Read.records readRecord count.toNat after with
      | error _ _ => exact .inl rfl
      | ok records left =>
          obtain ⟨_, wholeListed, _⟩ :=
            Read.steady_records steady_readRecord count.toNat cutAfter listed
          rw [wholeListed]
          exact .inr rfl

/-- A payload that is cut short is truncated, and a payload in the part that is left is whole. -/
theorem pick_take (image : Bytes) (size : Nat) (revision : UInt32) (records : List Revision)
    (offset : Nat) :
    pick (image.take size) revision records offset = .error .truncated ∨
      pick (image.take size) revision records offset = pick image revision records offset := by
  induction records generalizing offset with
  | nil => exact .inr rfl
  | cons record others ih =>
      simp only [pick]
      by_cases here : record.id = revision
      · rw [if_pos here, if_pos here]
        by_cases fits : offset + record.size.toNat ≤ (image.take size).length
        · have length := List.length_take_le size image
          have kept : offset + record.size.toNat ≤ size := by omega
          have inside : offset + record.size.toNat ≤ image.length := by
            rw [List.length_take] at fits
            omega
          rw [if_pos fits, if_pos inside, List.drop_take, List.take_take,
            Nat.min_eq_left (by omega)]
          exact .inr rfl
        · rw [if_neg fits]
          exact .inl rfl
      · rw [if_neg here, if_neg here]
        exact ih _

theorem select_of_isContainer (container : isContainer image = true) :
    select image revision =
      match revisions image with
      | .error error => .error error
      | .ok records => pick image revision records (tableEnd records.length) := by
  have nonempty : image.isEmpty = false := by
    cases image with
    | nil => cases container
    | cons _ _ => rfl
  rw [select, nonempty, container]
  rfl

/-- A container that is cut short behind its tag is truncated or does not show it. -/
theorem select_take (container : isContainer image = true) {size : Nat} (tagged : 5 ≤ size)
    (revision : UInt32) :
    select (image.take size) revision = .error .truncated ∨
      select (image.take size) revision = select image revision := by
  have still : isContainer (image.take size) = true := by
    rwa [isContainer, List.take_take, Nat.min_eq_left tagged]
  rw [select_of_isContainer still, select_of_isContainer container]
  rcases revisions_take image size with truncated | same
  · rw [truncated]
    exact .inl rfl
  · rw [same]
    cases revisions image with
    | error error => exact .inr rfl
    | ok records => exact pick_take image size revision records _

/-! ## Containers that were put together -/

/-- The record of a payload. -/
def record (entry : UInt32 × Bytes) : Revision := ⟨entry.1, UInt32.ofNatClamp entry.2.length⟩

theorem takes_readRecord (entry : UInt32 × Bytes) :
    Takes readRecord (encodeRecord entry) (record entry) := by
  have reserved : Takes (Read.skip 12) (LittleEndian.zeros 12) () := Read.takes_skip _ rfl
  rw [encodeRecord, List.append_assoc]
  refine .bind (Read.takes_word entry.1) ?_
  refine .bind (Read.takes_word (UInt32.ofNatClamp entry.2.length)) ?_
  exact reserved.map fun _ => record entry

theorem length_encodeRecords (entries : List (UInt32 × Bytes)) :
    (entries.flatMap encodeRecord).length = recordLength * entries.length := by
  induction entries with
  | nil => rfl
  | cons entry others ih =>
      have one : (encodeRecord entry).length = recordLength := rfl
      rw [List.flatMap_cons, List.length_append, ih, one, List.length_cons, Nat.mul_succ,
        Nat.add_comm]

theorem isContainer_wrap (entries : List (UInt32 × Bytes)) : isContainer (wrap entries) = true :=
  rfl

/-- The number of records is read in front of them. -/
theorem takes_header (entries : List (UInt32 × Bytes)) :
    Takes (do Read.skip 5; Read.word : Read UInt32) (tag ++ LittleEndian.count entries.length)
      (UInt32.ofNatClamp entries.length) :=
  (Read.takes_skip tag rfl).bind (Read.takes_word _)

/-- The table of a container lists the payloads that were put into it. -/
theorem revisions_wrap (some_entry : entries ≠ []) (few : entries.length < UInt32.size) :
    revisions (wrap entries) = .ok (entries.map record) := by
  have number : (UInt32.ofNatClamp entries.length).toNat = entries.length :=
    UInt32.toNat_ofNatClamp_of_lt few
  have counted : UInt32.ofNatClamp entries.length ≠ 0 := by
    intro none
    rw [none] at number
    exact some_entry (List.length_eq_zero_iff.mp number.symm)
  have header := takes_header entries
    (entries.flatMap encodeRecord ++ entries.flatMap (·.2)) 0 0
  have table : Takes (Read.records readRecord entries.length) (entries.flatMap encodeRecord)
      (entries.map record) := Read.takes_records_map fun entry _ => takes_readRecord entry
  have listed := table (entries.flatMap (·.2))
  rw [← List.append_assoc] at header
  rw [revisions, Reader.start, wrap, header]
  simp only
  rw [if_neg counted, number, if_neg, listed]
  rw [Reader.remaining, List.length_append, length_encodeRecords]
  omega

/-- The payloads lie one behind the other, in the order of the table. -/
theorem pick_wrap (front : Bytes) (short : ∀ entry ∈ entries, entry.2.length < UInt32.size)
    (revision : UInt32) :
    pick (front ++ entries.flatMap (·.2)) revision (entries.map record) front.length =
      match entries.find? (·.1 = revision) with
      | some entry => .ok entry.2
      | none => .error (.revisionNotFound revision) := by
  induction entries generalizing front with
  | nil => rfl
  | cons entry others ih =>
      have size : (record entry).size.toNat = entry.2.length :=
        UInt32.toNat_ofNatClamp_of_lt (short entry List.mem_cons_self)
      rw [List.map_cons, pick, List.flatMap_cons, size]
      by_cases here : entry.1 = revision
      · rw [if_pos (show (record entry).id = revision from here),
          List.find?_cons_of_pos (by simpa using here), if_pos, List.drop_left, List.take_left]
        rw [List.length_append, List.length_append]
        omega
      · have later := ih (front ++ entry.2) fun other member =>
          short other (List.mem_cons_of_mem _ member)
        rw [if_neg (show (record entry).id ≠ revision from here),
          List.find?_cons_of_neg (by simpa using here), ← later, List.append_assoc,
          List.length_append]

/--
Out of a container, an id selects the first payload that was put in under it, whatever the other
payloads are. An id that none was put in under is not found, and a container without payloads has no
revisions. Of any part of the container that begins with its tag, the selection is the same or the
part is found to be truncated.
-/
theorem first_payload_selected (entries : List (UInt32 × Bytes))
    (few : entries.length < UInt32.size)
    (short : ∀ entry ∈ entries, entry.2.length < UInt32.size) (revision : UInt32) :
    (entries = [] → select (wrap entries) revision = .error .noRevisions) ∧
      (entries ≠ [] → select (wrap entries) revision =
        match entries.find? (·.1 = revision) with
        | some entry => .ok entry.2
        | none => .error (.revisionNotFound revision)) ∧
      ∀ size, 5 ≤ size → size < (wrap entries).length →
        select ((wrap entries).take size) revision = .error .truncated ∨
          select ((wrap entries).take size) revision = select (wrap entries) revision := by
  have container := isContainer_wrap entries
  refine ⟨?_, fun some_entry => ?_, fun size tagged _ => select_take container tagged revision⟩
  · rintro rfl
    rfl
  · have front : (tag ++ LittleEndian.count entries.length ++
        entries.flatMap encodeRecord).length = tableEnd (entries.map record).length := by
      rw [List.length_append, length_encodeRecords, List.length_map]
      rfl
    rw [select_of_isContainer container, revisions_wrap some_entry few, wrap]
    simp only
    rw [← front, pick_wrap _ short]

/-- An empty payload, one of two bytes and another one under the id of the first. -/
theorem first_of_two_selected :
    let entries : List (UInt32 × Bytes) := [(7, []), (3, [1, 2]), (7, [9])]
    entries.length < UInt32.size ∧ (∀ entry ∈ entries, entry.2.length < UInt32.size) ∧
      select (wrap entries) 7 = .ok [] ∧ select (wrap entries) 3 = .ok [1, 2] ∧
      select (wrap entries) 5 = .error (.revisionNotFound 5) ∧
      select ((wrap entries).take 70) 7 = .ok [] ∧
      select ((wrap entries).take 70) 3 = .error .truncated := by
  intro entries
  have few : entries.length < UInt32.size := by decide
  have short : ∀ entry ∈ entries, entry.2.length < UInt32.size := by decide
  have some_entry : entries ≠ [] := List.cons_ne_nil _ _
  have selected (revision : UInt32) :=
    (first_payload_selected entries few short revision).2.1 some_entry
  have cut := (first_payload_selected entries few short 7).2.2 70 (by decide) (by decide)
  refine ⟨few, short, selected 7, selected 3, selected 5, ?_, by decide +kernel⟩
  exact (cut.resolve_left (by decide +kernel)).trans (selected 7)

end Container

end AmpControl.Tuning
