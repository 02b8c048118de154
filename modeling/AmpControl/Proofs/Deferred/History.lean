import AmpControl.Proofs.Deferred.Order
import Mathlib.Data.List.Chain
import Mathlib.Data.List.Nodup

/-!
# Histories of deferred work

Work is scheduled, cancelled and taken in any order, for any channel and at any times. What waits is
at every moment the work that is live: scheduled last for its channel, and since then neither
cancelled nor taken. So what is taken is live, and no piece of work is taken twice. Generations
follow one another, so none comes again before all the others have come.
-/

namespace AmpControl.DeferredQueue

/-- What is asked of the queue. -/
inductive Operation where
  | schedule (channel : UInt8) (due : Nat)
  | cancel (channel : UInt8)
  | cancelAll
  | take (now : Nat)
  deriving DecidableEq, Repr

/-- What was done, together with the reply to it. -/
inductive Event where
  | scheduled (channel : UInt8) (due : Nat) (generation : UInt32)
  | cancelled (channel : UInt8)
  | cancelledAll
  | took (work : Option (UInt8 × UInt32))
  deriving DecidableEq, Repr

/-- Performs an operation. The reply to scheduling is the generation that the work is given. -/
def perform (queue : DeferredQueue) : Operation → DeferredQueue × Event
  | .schedule channel due =>
      (queue.schedule channel due, .scheduled channel due queue.nextGeneration)
  | .cancel channel => (queue.cancel channel, .cancelled channel)
  | .cancelAll => (queue.cancelAll, .cancelledAll)
  | .take now =>
      match queue.takeDue now with
      | none => (queue, .took none)
      | some (work, left) => (left, .took (some work))

/-- The queue after operations, the latest of them first. -/
def after : List Operation → DeferredQueue
  | [] => empty
  | operation :: earlier => ((after earlier).perform operation).1

/-- What was done by operations, the latest first. -/
def history : List Operation → List Event
  | [] => []
  | operation :: earlier => ((after earlier).perform operation).2 :: history earlier

/-- What happened concerns the work of a channel: it put other work in its place or removed it. -/
def Event.Concerns (channel : UInt8) : Event → Prop
  | .scheduled other _ _ => other = channel
  | .cancelled other => other = channel
  | .cancelledAll => True
  | .took (some (other, _)) => other = channel
  | .took none => False

/--
Work is live after a history, the latest first: it was scheduled, and nothing that came later
concerns its channel.
-/
def Live (past : List Event) (channel : UInt8) (item : DeferredItem) : Prop :=
  ∃ later earlier, past = later ++ .scheduled channel item.due item.generation :: earlier ∧
    ∀ event ∈ later, ¬ event.Concerns channel

/-- The generation that was given out, if work was scheduled. -/
def Event.generation? : Event → Option UInt32
  | .scheduled _ _ generation => some generation
  | _ => none

/-- The generations that were given out, the latest first. -/
def generations (past : List Event) : List UInt32 := past.filterMap Event.generation?

variable {queue : DeferredQueue} {operation : Operation} {channel : UInt8} {item : DeferredItem}
  {event : Event} {past : List Event}

/-! ## Live work -/

theorem not_live_nil : ¬ Live [] channel item := by
  rintro ⟨later, earlier, split, _⟩
  cases later <;> cases split

theorem live_cons : Live (event :: past) channel item ↔
    event = .scheduled channel item.due item.generation ∨
      ¬ event.Concerns channel ∧ Live past channel item := by
  constructor
  · rintro ⟨later, earlier, split, quiet⟩
    cases later with
    | nil => exact .inl (List.cons.inj split).1
    | cons head later =>
        obtain ⟨rfl, rest⟩ := List.cons.inj split
        obtain ⟨here, quiet⟩ := List.forall_mem_cons.mp quiet
        exact .inr ⟨here, later, earlier, rest, quiet⟩
  · rintro (rfl | ⟨here, later, earlier, rfl, quiet⟩)
    · exact ⟨[], past, rfl, fun _ member => absurd member List.not_mem_nil⟩
    · exact ⟨event :: later, earlier, rfl, List.forall_mem_cons.mpr ⟨here, quiet⟩⟩

/-- What waits for a channel after an operation: what it scheduled there, or what waited before if
the operation does not concern the channel. -/
theorem item?_perform (queue : DeferredQueue) (operation : Operation)
    (small : channel.toNat < Tuning.maxChannels) :
    (queue.perform operation).1.item? channel = some item ↔
      (queue.perform operation).2 = .scheduled channel item.due item.generation ∨
        ¬ (queue.perform operation).2.Concerns channel ∧ queue.item? channel = some item := by
  cases operation with
  | schedule other due =>
      simp only [perform, Event.Concerns, Event.scheduled.injEq]
      by_cases same : other = channel
      · subst same
        rw [item?_schedule queue small, if_pos rfl]
        cases item
        simp [eq_comm]
      · simp [item?_schedule_of_ne queue (Ne.symm same), same]
  | cancel other =>
      simp only [perform, Event.Concerns, item?_cancel]
      by_cases same : other = channel
      · simp [same]
      · simp [same, Ne.symm same]
  | cancelAll => simp [perform, Event.Concerns, item?_cancelAll]
  | take now =>
      cases taken : queue.takeDue now with
      | none => simp [perform, taken, Event.Concerns]
      | some result =>
          obtain ⟨⟨other, generation⟩, left⟩ := result
          obtain ⟨rfl, -⟩ := takeDue_eq_some taken
          simp only [perform, taken, Event.Concerns, item?_cancel]
          by_cases same : other = channel
          · simp [same]
          · simp [same, Ne.symm same]

/-- What waits is what is live, on the channels that there are. -/
theorem item?_after (operations : List Operation) (channel : UInt8) (item : DeferredItem) :
    (after operations).item? channel = some item ↔
      channel.toNat < Tuning.maxChannels ∧ Live (history operations) channel item := by
  by_cases small : channel.toNat < Tuning.maxChannels
  · rw [and_iff_right small]
    induction operations with
    | nil => simp [after, history, not_live_nil]
    | cons operation earlier ih => rw [after, history, item?_perform _ _ small, live_cons, ih]
  · exact ⟨fun waits => absurd (slot_of_item? waits).1 small,
      fun live => absurd live.1 small⟩

/-! ## Generations -/

/-- The next generation is the one after the last that was given out. -/
theorem generations_after (operations : List Operation) :
    ((after operations).nextGeneration :: generations (history operations)).IsChain
      fun later earlier => later = earlier + 1 := by
  induction operations with
  | nil => exact .singleton _
  | cons operation earlier ih =>
      cases operation with
      | schedule channel due => exact .cons_cons rfl ih
      | cancel channel => exact ih
      | cancelAll => exact ih
      | take now =>
          cases taken : (after earlier).takeDue now with
          | none =>
              rw [after, history, perform, taken]
              exact ih
          | some result =>
              obtain ⟨⟨other, generation⟩, left⟩ := result
              obtain ⟨rfl, -⟩ := takeDue_eq_some taken
              rw [after, history, perform, taken]
              exact ih

/-- A generation in a row is as many steps before the first one as its place says. -/
theorem getElem?_of_chain {first generation : UInt32} {row : List UInt32} {place : Nat}
    (chain : (first :: row).IsChain fun later earlier => later = earlier + 1)
    (here : (first :: row)[place]? = some generation) :
    first = generation + UInt32.ofNat place := by
  induction place generalizing first row with
  | zero => simpa using here
  | succ place ih =>
      cases row with
      | nil => simp at here
      | cons second row =>
          obtain ⟨rfl, rest⟩ := List.isChain_cons_cons.mp chain
          rw [ih rest (List.getElem?_cons_succ.symm.trans here), UInt32.ofNat_add, UInt32.add_assoc]
          rfl

/-- Generations do not come again within a row that is no longer than there are generations. -/
theorem nodup_of_chain {row : List UInt32}
    (chain : row.IsChain fun later earlier => later = earlier + 1)
    (short : row.length ≤ UInt32.size) : row.Nodup := by
  cases row with
  | nil => exact .nil
  | cons first row =>
      rw [List.nodup_iff_getElem?_ne_getElem?]
      intro place other before inside same
      have found := List.getElem?_eq_getElem inside
      have steps := (getElem?_of_chain chain (same.trans found)).symm.trans
        (getElem?_of_chain chain found)
      have equal := congrArg UInt32.toNat ((UInt32.add_right_inj _).mp steps)
      rw [UInt32.toNat_ofNat_of_lt' (by omega), UInt32.toNat_ofNat_of_lt' (by omega)] at equal
      omega

/--
After any operations at most one piece of work waits for each channel, and what waits is what is
live. What is taken is live and due, and comes before all other work that waits; nothing is taken
just when nothing is due. Taking until nothing is due yields all that was due, in its order, and
leaves all other work. The next due time is the least of all. And no generation comes twice in as
many pieces of work, one scheduled after the other, as there are generations.
-/
theorem delivered_once_in_order (operations : List Operation) :
    let queue := after operations
    let past := history operations
    queue.pending.Pairwise (fun first second => first.1 < second.1) ∧
    (∀ channel item, (channel, item) ∈ queue.pending ↔
      channel.toNat < Tuning.maxChannels ∧ Live past channel item) ∧
    (∀ now channel generation left, queue.takeDue now = some ((channel, generation), left) →
      left = queue.cancel channel ∧ ∃ due ≤ now, Live past channel ⟨due, generation⟩ ∧
        ∀ other ∈ queue.pending, Precedes (channel, ⟨due, generation⟩) other) ∧
    (∀ now, queue.takeDue now = none ↔ ∀ entry ∈ queue.pending, now < entry.2.due) ∧
    (∀ now, ∃ items : List (UInt8 × DeferredItem),
      (queue.takeAll now).1 = items.map (fun entry => (entry.1, entry.2.generation)) ∧
      items.Perm (queue.pending.filter fun entry => entry.2.due ≤ now) ∧
      items.Pairwise Precedes ∧
      (queue.takeAll now).2.pending = queue.pending.filter fun entry => now < entry.2.due) ∧
    queue.nextDue? = (queue.pending.map fun entry => entry.2.due).min? ∧
    ∀ row, row <:+: generations past → row.length ≤ UInt32.size → row.Nodup := by
  intro queue past
  refine ⟨queue.pairwise_pending, ?_, ?_, fun _ => takeDue_eq_none, queue.takeAll_spec,
    queue.nextDue?_eq, ?_⟩
  · intro channel item
    rw [mem_pending]
    exact item?_after operations channel item
  · intro now channel generation left taken
    obtain ⟨removed, -⟩ := takeDue_eq_some taken
    obtain ⟨due, isDue, waits, precedes⟩ := takeDue_precedes taken
    exact ⟨removed, due, isDue, ((item?_after operations _ _).mp waits).2, precedes⟩
  · intro row within short
    have chain := List.IsChain.infix (generations_after operations).tail within
    exact nodup_of_chain chain short

/-- Of two pieces of work due together the one on the lower channel is taken, though it was
scheduled again after the other. -/
theorem lower_channel_taken_first :
    let operations : List Operation :=
      [.schedule 200 5, .schedule 1 110, .schedule 2 110, .schedule 1 90]
    (after operations).takeDue 130 = some ((1, 2), (after operations).cancel 1) ∧
      ∃ due ≤ 130, Live (history operations) 1 ⟨due, 2⟩ ∧
        ∀ other ∈ (after operations).pending, Precedes (1, ⟨due, 2⟩) other := by
  intro operations
  obtain ⟨_, _, delivers, _⟩ := delivered_once_in_order operations
  have taken : (after operations).takeDue 130 = some ((1, 2), (after operations).cancel 1) := by
    decide +kernel
  exact ⟨taken, (delivers 130 1 2 _ taken).2⟩

end AmpControl.DeferredQueue
