import AmpControl.Proofs.Device.Deferred

/-!
# The order of deferred work

The work that waits is listed in the order of channels, each channel at most once. What is taken
first is due before everything else that waits, at equal times on the lowest channel. Taking work
until none is due yields all that is due, in this order, and leaves all other work where it was.
-/

namespace AmpControl.DeferredQueue

variable {queue left : DeferredQueue} {channel : UInt8} {item : DeferredItem} {generation : UInt32}
  {now : Nat} {entry : UInt8 × DeferredItem} {entries : List (UInt8 × DeferredItem)}

/-- Work comes before other work: it is due earlier, or at the same time on a lower channel. -/
def Precedes (first second : UInt8 × DeferredItem) : Prop :=
  first.2.due < second.2.due ∨ first.2.due = second.2.due ∧ first.1 ≤ second.1

theorem Precedes.refl (entry : UInt8 × DeferredItem) : Precedes entry entry :=
  .inr ⟨rfl, UInt8.le_refl _⟩

theorem Precedes.trans {first second third : UInt8 × DeferredItem} (before : Precedes first second)
    (after : Precedes second third) : Precedes first third := by
  rcases before with earlier | ⟨together, lower⟩
  · rcases after with later | ⟨equal, _⟩
    · exact .inl (Nat.lt_trans earlier later)
    · exact .inl (equal ▸ earlier)
  · rcases after with later | ⟨equal, higher⟩
    · exact .inl (together ▸ later)
    · exact .inr ⟨together.trans equal, UInt8.le_trans lower higher⟩

/-! ## What waits -/

theorem pairwise_pending (queue : DeferredQueue) :
    queue.pending.Pairwise fun first second => first.1 < second.1 := by
  have places : queue.slots.toList.zipIdx.Pairwise fun first second => first.2 < second.2 := by
    rw [← List.pairwise_map (f := Prod.snd) (R := (· < ·)), List.zipIdx_map_snd]
    exact List.pairwise_lt_range'
  have inside : ∀ place ∈ queue.slots.toList.zipIdx, place.2 < 256 := by
    rintro ⟨slot, place⟩ member
    have bound := (List.getElem?_eq_some_iff.mp (List.mk_mem_zipIdx_iff_getElem?.mp member)).1
    rw [Vector.length_toList] at bound
    exact Nat.lt_trans bound (by decide)
  rw [pending, List.pairwise_filterMap]
  refine places.imp_of_mem ?_
  rintro ⟨slot, place⟩ ⟨otherSlot, otherPlace⟩ member otherMember before
  intro entry found other otherFound
  obtain ⟨held, _, rfl⟩ := Option.map_eq_some_iff.mp found
  obtain ⟨otherHeld, _, rfl⟩ := Option.map_eq_some_iff.mp otherFound
  rw [UInt8.lt_iff_toNat_lt, UInt8.toNat_ofNat_of_lt' (inside _ member),
    UInt8.toNat_ofNat_of_lt' (inside _ otherMember)]
  exact before

theorem nodup_of_ordered (ordered : entries.Pairwise fun first second => first.1 < second.1) :
    entries.Nodup :=
  ordered.imp fun before same => by
    rw [same] at before
    exact absurd before (UInt8.lt_irrefl _)

theorem nodup_pending (queue : DeferredQueue) : queue.pending.Nodup :=
  nodup_of_ordered queue.pairwise_pending

/-- What waits is told by what waits for each channel. -/
theorem pending_ext (ordered : entries.Pairwise fun first second => first.1 < second.1)
    (same : ∀ channel item, (channel, item) ∈ entries ↔ queue.item? channel = some item) :
    queue.pending = entries := by
  refine List.Perm.eq_of_pairwise (fun _ _ _ _ before after => ?_) queue.pairwise_pending ordered ?_
  · exact absurd (UInt8.lt_trans before after) (UInt8.lt_irrefl _)
  · rw [List.perm_ext_iff_of_nodup queue.nodup_pending (nodup_of_ordered ordered)]
    rintro ⟨channel, item⟩
    rw [mem_pending, same]

theorem pending_cancel (queue : DeferredQueue) (channel : UInt8) :
    (queue.cancel channel).pending = queue.pending.filter fun entry => entry.1 ≠ channel := by
  refine pending_ext (queue.pairwise_pending.filter _) fun other item => ?_
  rw [List.mem_filter, mem_pending, item?_cancel]
  by_cases same : other = channel
  · simp [same]
  · simp [same]

theorem pending_cancelAll (queue : DeferredQueue) : queue.cancelAll.pending = [] :=
  pending_ext .nil fun channel item => by simp

/-! ## What is due first -/

theorem earliest_precedes (ordered : entries.Pairwise fun first second => first.1 < second.1)
    (first : earliest entries = some entry) : ∀ other ∈ entries, Precedes entry other := by
  induction entries generalizing entry with
  | nil => cases first
  | cons head others ih =>
      obtain ⟨below, ordered⟩ := List.pairwise_cons.mp ordered
      rw [earliest] at first
      cases found : earliest others with
      | none =>
          rw [found] at first
          cases first
          rw [earliest_eq_none.mp found]
          simpa using Precedes.refl head
      | some best =>
          have best_precedes := ih ordered found
          simp only [found] at first
          by_cases earlier : best.2.due < head.2.due
          · rw [if_pos earlier] at first
            cases first
            exact List.forall_mem_cons.mpr ⟨.inl earlier, best_precedes⟩
          · rw [if_neg earlier] at first
            cases first
            -- The head stands on a lower channel than the best of the others, and is due no later.
            have lower := UInt8.le_of_lt (below best (earliest_mem found))
            have head_precedes : Precedes head best := by
              rcases Nat.lt_or_eq_of_le (Nat.le_of_not_lt earlier) with before | together
              · exact .inl before
              · exact .inr ⟨together, lower⟩
            exact List.forall_mem_cons.mpr ⟨.refl head, fun other member =>
              head_precedes.trans (best_precedes other member)⟩

/-- The earliest due time of all work that waits. -/
theorem nextDue?_eq (queue : DeferredQueue) :
    queue.nextDue? = (queue.pending.map fun entry => entry.2.due).min? := by
  rw [nextDue?]
  cases first : earliest queue.pending with
  | none => rw [earliest_eq_none.mp first]; rfl
  | some entry =>
      symm
      rw [Option.map_some, List.min?_eq_some_iff]
      constructor
      · exact List.mem_map_of_mem (earliest_mem first)
      · intro due member
        obtain ⟨other, waits, rfl⟩ := List.mem_map.mp member
        rcases earliest_precedes queue.pairwise_pending first other waits with before | ⟨equal, _⟩
        · exact Nat.le_of_lt before
        · exact Nat.le_of_eq equal

/-- What is taken comes before all work that waits, whether that is due or not. -/
theorem takeDue_precedes (taken : queue.takeDue now = some ((channel, generation), left)) :
    ∃ due ≤ now, queue.item? channel = some ⟨due, generation⟩ ∧
      ∀ other ∈ queue.pending, Precedes (channel, ⟨due, generation⟩) other := by
  obtain ⟨_, due, first⟩ := earliest_of_takeDue taken
  obtain ⟨member, isDue⟩ := List.mem_filter.mp (earliest_mem first)
  have isDue : due ≤ now := of_decide_eq_true isDue
  refine ⟨due, isDue, mem_pending.mp member, fun other waits => ?_⟩
  by_cases otherDue : other.2.due ≤ now
  · exact earliest_precedes (queue.pairwise_pending.filter _) first other
      (List.mem_filter.mpr ⟨waits, decide_eq_true otherDue⟩)
  · exact .inl (Nat.lt_of_le_of_lt isDue (Nat.lt_of_not_le otherDue))

/-! ## Taking all that is due -/

theorem length_pending_lt_of_takeDue
    (taken : queue.takeDue now = some ((channel, generation), left)) :
    left.pending.length < queue.pending.length := by
  obtain ⟨rfl, due, _, waits⟩ := takeDue_eq_some taken
  rw [pending_cancel]
  exact List.length_filter_lt_length_iff_exists.mpr ⟨_, mem_pending.mpr waits, by simp⟩

/-- Takes work until none is due: what was taken, and the queue that is left. -/
def takeAll (queue : DeferredQueue) (now : Nat) : List (UInt8 × UInt32) × DeferredQueue :=
  match _ : queue.takeDue now with
  | none => ([], queue)
  | some (item, left) => (item :: (left.takeAll now).1, (left.takeAll now).2)
termination_by queue.pending.length
decreasing_by all_goals exact length_pending_lt_of_takeDue ‹_›

/-- What waits is what is taken and what is left once that is gone. -/
theorem takeDue_perm (taken : queue.takeDue now = some ((channel, generation), left)) :
    ∃ due ≤ now, queue.pending.Perm ((channel, ⟨due, generation⟩) :: left.pending) ∧
      ∀ other ∈ left.pending, Precedes (channel, ⟨due, generation⟩) other := by
  obtain ⟨rfl, -⟩ := takeDue_eq_some taken
  obtain ⟨due, isDue, waits, precedes⟩ := takeDue_precedes taken
  have apart : (channel, ⟨due, generation⟩) ∉ (queue.cancel channel).pending := by
    rw [pending_cancel]
    simp
  refine ⟨due, isDue, ?_, ?_⟩
  · rw [List.perm_ext_iff_of_nodup queue.nodup_pending
      (List.nodup_cons.mpr ⟨apart, nodup_pending _⟩)]
    rintro ⟨other, item⟩
    rw [List.mem_cons, mem_pending, mem_pending, item?_cancel]
    by_cases same : other = channel
    · subst same
      simp [waits, eq_comm]
    · simp [same]
  · intro other member
    rw [pending_cancel] at member
    exact precedes other (List.mem_filter.mp member).1

/-- Taking until none is due yields all that is due, each piece before the next, and leaves all
other work. -/
theorem takeAll_spec (queue : DeferredQueue) (now : Nat) :
    ∃ items : List (UInt8 × DeferredItem),
      (queue.takeAll now).1 = items.map (fun entry => (entry.1, entry.2.generation)) ∧
      items.Perm (queue.pending.filter fun entry => entry.2.due ≤ now) ∧
      items.Pairwise Precedes ∧
      (queue.takeAll now).2.pending = queue.pending.filter fun entry => now < entry.2.due := by
  fun_induction takeAll queue now with
  | case1 queue none_due =>
      have later := takeDue_eq_none.mp none_due
      refine ⟨[], rfl, ?_, .nil, ?_⟩
      · rw [List.filter_eq_nil_iff.mpr fun entry waits => by simpa using later entry waits]
      · exact (List.filter_eq_self.mpr fun entry waits => decide_eq_true (later entry waits)).symm
  | case2 queue item left taken ih =>
      obtain ⟨channel, generation⟩ := item
      obtain ⟨items, listed, all, inOrder, kept⟩ := ih
      obtain ⟨due, isDue, split, precedes⟩ := takeDue_perm taken
      refine ⟨(channel, ⟨due, generation⟩) :: items, ?_, ?_, ?_, ?_⟩
      · rw [List.map_cons, ← listed]
      · have parts := split.filter fun entry => decide (entry.2.due ≤ now)
        rw [List.filter_cons_of_pos (by simpa using isDue)] at parts
        exact (all.cons _).trans parts.symm
      · refine List.pairwise_cons.mpr ⟨fun other member => ?_, inOrder⟩
        exact precedes other (List.mem_filter.mp (all.mem_iff.mp member)).1
      · obtain ⟨rfl, due, isDue, waits⟩ := takeDue_eq_some taken
        rw [kept, pending_cancel, List.filter_filter]
        refine List.filter_congr ?_
        rintro ⟨other, item⟩ member
        by_cases same : other = channel
        · -- The work of the channel is the one that was due.
          subst same
          rw [mem_pending, waits] at member
          cases member
          simp [Nat.not_lt_of_le isDue]
        · simp [same]

end AmpControl.DeferredQueue
