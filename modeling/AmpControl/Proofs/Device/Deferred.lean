import AmpControl.Device.Deferred

/-!
# Laws of deferred work

Scheduling and cancelling concern the work of one channel only, and what is taken out of the queue
waited there.
-/

namespace AmpControl.DeferredQueue

theorem item?_schedule (queue : DeferredQueue) {channel : UInt8}
    (small : channel.toNat < Tuning.maxChannels) (due : Nat) (other : UInt8) :
    (queue.schedule channel due).item? other =
      if other = channel then some ⟨due, queue.nextGeneration⟩ else queue.item? other := by
  unfold item? schedule
  by_cases same : other = channel
  · subst same
    simp [Vector.getElem?_setIfInBounds_self_of_lt small]
  · have apart : channel.toNat ≠ other.toNat := fun equal => same (UInt8.toNat_inj.mp equal.symm)
    rw [if_neg same, Vector.getElem?_setIfInBounds_ne apart]

/-- Scheduling for a channel leaves what waits for the others, wherever the channel is. -/
theorem item?_schedule_of_ne (queue : DeferredQueue) {channel other : UInt8}
    (apart : other ≠ channel) (due : Nat) :
    (queue.schedule channel due).item? other = queue.item? other := by
  have places : channel.toNat ≠ other.toNat := fun equal => apart (UInt8.toNat_inj.mp equal.symm)
  unfold item? schedule
  rw [Vector.getElem?_setIfInBounds_ne places]

theorem item?_cancel (queue : DeferredQueue) (channel other : UInt8) :
    (queue.cancel channel).item? other =
      if other = channel then none else queue.item? other := by
  unfold item? cancel
  by_cases same : other = channel
  · subst same
    rw [if_pos rfl, Vector.getElem?_setIfInBounds_self]
    split <;> rfl
  · have apart : channel.toNat ≠ other.toNat := fun equal => same (UInt8.toNat_inj.mp equal.symm)
    rw [if_neg same, Vector.getElem?_setIfInBounds_ne apart]

theorem isPending_schedule (queue : DeferredQueue) {channel : UInt8}
    (small : channel.toNat < Tuning.maxChannels) (due : Nat) (other : UInt8) :
    (queue.schedule channel due).isPending other =
      if other = channel then true else queue.isPending other := by
  rw [isPending, item?_schedule queue small]
  split <;> rfl

/-- Work waits for a channel that it was scheduled for, unless the channel is past the last. -/
theorem isPending_schedule_self (queue : DeferredQueue) (channel : UInt8) (due : Nat) :
    (queue.schedule channel due).isPending channel =
      decide (channel.toNat < Tuning.maxChannels) := by
  by_cases small : channel.toNat < Tuning.maxChannels
  · rw [isPending_schedule queue small, if_pos rfl, decide_eq_true small]
  · rw [isPending, item?, Vector.getElem?_eq_none (Nat.le_of_not_lt small), decide_eq_false small]
    rfl

theorem isPending_cancel (queue : DeferredQueue) (channel other : UInt8) :
    (queue.cancel channel).isPending other =
      if other = channel then false else queue.isPending other := by
  rw [isPending, item?_cancel]
  split <;> rfl

@[simp]
theorem item?_cancelAll (queue : DeferredQueue) (channel : UInt8) :
    queue.cancelAll.item? channel = none := by
  unfold item? cancelAll
  rw [Vector.getElem?_replicate]
  split <;> rfl

@[simp]
theorem isPending_cancelAll (queue : DeferredQueue) (channel : UInt8) :
    queue.cancelAll.isPending channel = false := by
  rw [isPending, item?_cancelAll]
  rfl

@[simp]
theorem item?_empty (channel : UInt8) : empty.item? channel = none :=
  item?_cancelAll empty channel

@[simp]
theorem isPending_empty (channel : UInt8) : empty.isPending channel = false :=
  isPending_cancelAll empty channel

theorem earliest_mem {entries : List (UInt8 × DeferredItem)} {entry : UInt8 × DeferredItem}
    (first : earliest entries = some entry) : entry ∈ entries := by
  induction entries with
  | nil => cases first
  | cons head others ih =>
      unfold earliest at first
      cases found : earliest others with
      | none =>
          rw [found] at first
          cases first
          exact List.mem_cons_self
      | some best =>
          simp only [found] at first
          split at first
          · exact List.mem_cons_of_mem _ (ih (found.trans first))
          · cases first
            exact List.mem_cons_self

theorem earliest_eq_none {entries : List (UInt8 × DeferredItem)} :
    earliest entries = none ↔ entries = [] := by
  cases entries with
  | nil => exact ⟨fun _ => rfl, fun _ => rfl⟩
  | cons head others =>
      rw [earliest]
      cases earliest others with
      | none => simp
      | some best => dsimp only; split <;> simp

/-- Work waits for channels up to the last one only. -/
theorem slot_of_item? {queue : DeferredQueue} {channel : UInt8} {item : DeferredItem}
    (held : queue.item? channel = some item) :
    ∃ inside : channel.toNat < Tuning.maxChannels, queue.slots[channel.toNat] = some item :=
  Vector.getElem?_eq_some_iff.mp (Option.join_eq_some_iff.mp held)

theorem mem_pending {queue : DeferredQueue} {channel : UInt8} {item : DeferredItem} :
    (channel, item) ∈ queue.pending ↔ queue.item? channel = some item := by
  constructor
  · intro member
    obtain ⟨⟨slot, place⟩, listed, found⟩ := List.mem_filterMap.mp member
    obtain ⟨held, filled, entry⟩ := Option.map_eq_some_iff.mp found
    have here : queue.slots.toList[place]? = some slot := List.mk_mem_zipIdx_iff_getElem?.mp listed
    have inRange : place < Tuning.maxChannels := by
      have bound := (List.getElem?_eq_some_iff.mp here).1
      rwa [Vector.length_toList] at bound
    cases filled
    cases entry
    have exact : (UInt8.ofNat place).toNat = place :=
      UInt8.toNat_ofNat_of_lt' (Nat.lt_trans inRange (by decide))
    rw [item?, exact]
    simp only [Vector.getElem?_toList] at here
    rw [here]
    rfl
  · intro waits
    obtain ⟨inside, slot⟩ := slot_of_item? waits
    refine List.mem_filterMap.mpr ⟨(some item, channel.toNat), ?_, ?_⟩
    · rw [List.mk_mem_zipIdx_iff_getElem?, Vector.getElem?_toList,
        Vector.getElem?_eq_getElem inside, slot]
    · simp only [Option.map_some, UInt8.ofNat_toNat]

/-- What is taken out is due before all else that is due, and is all that leaves the queue. -/
theorem earliest_of_takeDue {queue left : DeferredQueue} {now : Nat} {channel : UInt8}
    {generation : UInt32} (taken : queue.takeDue now = some ((channel, generation), left)) :
    left = queue.cancel channel ∧
      ∃ due, earliest (queue.pending.filter fun entry => entry.2.due ≤ now) =
        some (channel, ⟨due, generation⟩) := by
  unfold takeDue at taken
  cases first : earliest (queue.pending.filter fun entry => entry.2.due ≤ now) with
  | none => rw [first] at taken; cases taken
  | some entry =>
      rw [first] at taken
      cases taken
      exact ⟨rfl, entry.2.due, rfl⟩

/-- What is taken out waited, is due, and is all that leaves the queue. -/
theorem takeDue_eq_some {queue left : DeferredQueue} {now : Nat} {channel : UInt8}
    {generation : UInt32} (taken : queue.takeDue now = some ((channel, generation), left)) :
    left = queue.cancel channel ∧
      ∃ due ≤ now, queue.item? channel = some ⟨due, generation⟩ := by
  obtain ⟨removed, due, first⟩ := earliest_of_takeDue taken
  obtain ⟨member, isDue⟩ := List.mem_filter.mp (earliest_mem first)
  exact ⟨removed, due, of_decide_eq_true isDue, mem_pending.mp member⟩

/-- Nothing is taken out just where nothing that waits is due. -/
theorem takeDue_eq_none {queue : DeferredQueue} {now : Nat} :
    queue.takeDue now = none ↔ ∀ entry ∈ queue.pending, now < entry.2.due := by
  have outcome : queue.takeDue now = none ↔
      earliest (queue.pending.filter fun entry => entry.2.due ≤ now) = none := by
    rw [takeDue]
    split <;> simp_all
  rw [outcome, earliest_eq_none, List.filter_eq_nil_iff]
  simp

end AmpControl.DeferredQueue
