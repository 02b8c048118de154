import AmpControl.Tuning.FormatError

/-!
# Deferred work

Powering a channel up leaves work to be done a little later. At most one piece of work waits for
each channel; scheduling again replaces it. Work that is due is taken in the order of its due times,
and at equal times in the order of channels.
-/

namespace AmpControl

/-- A piece of work that waits. -/
structure DeferredItem where
  /-- When the work is due, in microseconds. -/
  due : Nat
  generation : UInt32
  deriving DecidableEq, Repr

/-- The work that waits for each channel. -/
structure DeferredQueue where
  slots : Vector (Option DeferredItem) Tuning.maxChannels
  /-- The generation of the next piece of work; after the last one they begin again. -/
  nextGeneration : UInt32
  deriving DecidableEq, Repr

namespace DeferredQueue

def empty : DeferredQueue := ⟨Vector.replicate Tuning.maxChannels none, 0⟩

def item? (queue : DeferredQueue) (channel : UInt8) : Option DeferredItem :=
  queue.slots[channel.toNat]?.join

def isPending (queue : DeferredQueue) (channel : UInt8) : Bool := (queue.item? channel).isSome

/-- Schedules work for a channel; channels past the last only use up a generation. -/
def schedule (queue : DeferredQueue) (channel : UInt8) (due : Nat) : DeferredQueue where
  slots := queue.slots.setIfInBounds channel.toNat (some ⟨due, queue.nextGeneration⟩)
  nextGeneration := queue.nextGeneration + 1

def cancel (queue : DeferredQueue) (channel : UInt8) : DeferredQueue :=
  { queue with slots := queue.slots.setIfInBounds channel.toNat none }

def cancelAll (queue : DeferredQueue) : DeferredQueue :=
  { queue with slots := Vector.replicate Tuning.maxChannels none }

/-- All work that waits, with its channel, in the order of channels. -/
def pending (queue : DeferredQueue) : List (UInt8 × DeferredItem) :=
  queue.slots.toList.zipIdx.filterMap fun (slot, channel) =>
    slot.map fun item => (UInt8.ofNat channel, item)

/-- The entry that is due first; of two due together the one in front. -/
def earliest : List (UInt8 × DeferredItem) → Option (UInt8 × DeferredItem)
  | [] => none
  | entry :: others =>
      match earliest others with
      | some best => if best.2.due < entry.2.due then some best else some entry
      | none => some entry

def nextDue? (queue : DeferredQueue) : Option Nat :=
  (earliest queue.pending).map fun entry => entry.2.due

/-- Takes the work that is due first, if any is due. -/
def takeDue (queue : DeferredQueue) (now : Nat) : Option ((UInt8 × UInt32) × DeferredQueue) :=
  match earliest (queue.pending.filter fun entry => entry.2.due ≤ now) with
  | none => none
  | some (channel, item) => some ((channel, item.generation), queue.cancel channel)

end DeferredQueue

end AmpControl
