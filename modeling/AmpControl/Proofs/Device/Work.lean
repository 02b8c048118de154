import AmpControl.Device.Work

/-!
# Work in parts

What larger work leaves behind does not depend on the faults that were met on the way: each part
starts from what the part before it left, with the fault of that part latched.
-/

namespace AmpControl

/-- Latching a fault changes nothing but the latched errors. -/
theorem Device.latchFault_eq (fault : Option TransportFault) (device : Device) :
    device.latchFault fault = { device with errors := (device.latchFault fault).errors } := by
  unfold latchFault
  split
  · split <;> rfl
  · rfl

namespace Work

/-- The device that a part of larger work leaves behind: its fault is latched. -/
def leaves (work : Work) (device : Device) : Device :=
  (work device).1.latchFault (work device).2

theorem reading_apply (choose : Device → Work) (device : Device) :
    reading choose device = choose device device := rfl

theorem fst_foldl_part (parts : List Work) (state : Device × Option TransportFault) :
    (parts.foldl (fun state work => work.part state) state).1 =
      parts.foldl (fun device work => work.leaves device) state.1 := by
  induction parts generalizing state with
  | nil => rfl
  | cons first others ih => exact ih (first.part state)

theorem fst_inOrder (parts : List Work) (device : Device) :
    (inOrder parts device).1 = parts.foldl (fun device work => work.leaves device) device :=
  fst_foldl_part parts (device, none)

@[simp]
theorem fst_inOrder_nil (device : Device) : (inOrder [] device).1 = device := rfl

@[simp]
theorem fst_inOrder_cons (first : Work) (others : List Work) (device : Device) :
    (inOrder (first :: others) device).1 = (inOrder others (first.leaves device)).1 := by
  simp only [fst_inOrder, List.foldl_cons]

@[simp]
theorem fst_inOrder_append (first second : List Work) (device : Device) :
    (inOrder (first ++ second) device).1 = (inOrder second (inOrder first device).1).1 := by
  simp only [fst_inOrder, List.foldl_append]

theorem fst_inOrder_map {α : Type} (items : List α) (work : α → Work) (device : Device) :
    (inOrder (items.map work) device).1 =
      items.foldl (fun held item => (work item).leaves held) device := by
  rw [fst_inOrder, List.foldl_map]

theorem fst_inOrder_flatMap {α : Type} (items : List α) (parts : α → List Work) (device : Device) :
    (inOrder (items.flatMap parts) device).1 =
      items.foldl (fun held item => (inOrder (parts item) held).1) device := by
  induction items generalizing device with
  | nil => rfl
  | cons first others ih => rw [List.flatMap_cons, fst_inOrder_append, ih, List.foldl_cons]

/-- A property that every part keeps is kept by all of them together. -/
theorem keeps_inOrder (property : Device → Prop) {parts : List Work}
    (keeps : ∀ part ∈ parts, ∀ device, property device → property (part.leaves device))
    {device : Device} (holds : property device) : property (inOrder parts device).1 := by
  rw [fst_inOrder]
  induction parts generalizing device with
  | nil => exact holds
  | cons first others ih =>
      exact ih (fun part member => keeps part (List.mem_cons_of_mem _ member))
        (keeps first List.mem_cons_self device holds)

/-- A property of devices and of the faults met so far that every part keeps. -/
theorem keeps_parts (property : Device → Option TransportFault → Prop) {parts : List Work}
    (keeps : ∀ part ∈ parts, ∀ device held, property device held →
      property (part.leaves device) (TransportFault.join held (part device).2))
    {state : Device × Option TransportFault} (holds : property state.1 state.2) :
    property (parts.foldl (fun state work => work.part state) state).1
      (parts.foldl (fun state work => work.part state) state).2 := by
  induction parts generalizing state with
  | nil => exact holds
  | cons first others ih =>
      exact ih (fun part member => keeps part (List.mem_cons_of_mem _ member))
        (keeps first List.mem_cons_self state.1 state.2 holds)

end Work

end AmpControl
