import AmpControl.Proofs.Control.Cache
import AmpControl.Proofs.Run.Loading

/-!
# Writes before and after a load

Writes by name that are made before any load succeeds wait for the payload. Once it is in place they
leave each control as if they had been made after the load, with one exception: where the last write
for a control is refused, the writes to it before that one are lost.
-/

namespace AmpControl

open Tuning (Control Payload)
open Tuning.Control (EndsRefused Meant Refused keep settle settleAll)

/-- Writes by name, one after the other. -/
def Operation.puts (writes : List (String × Int)) : List Operation :=
  writes.map fun write => .putControlNamed write.1 write.2

open Operation (puts)

namespace Device

variable {payload : Payload} {device : Device} {tries : UInt32} {writes : List (String × Int)}

/-! ## Writes that waited -/

theorem values_writtenLate (payload : Payload) (device : Device) (write : String × Int) :
    (device.writtenLate payload write).values = settle payload.controls device.values write ∧
      (device.writtenLate payload write).payload = device.payload := by
  rw [writtenLate, settle]
  cases Control.acceptNamed payload.controls write.1 write.2 0 with
  | error error => exact ⟨rfl, rfl⟩
  | ok accepted =>
      obtain ⟨samePayload, _, _, _, _, _, values⟩ := written_aside accepted write.2 device
      exact ⟨values, samePayload⟩

theorem values_writtenAllLate (payload : Payload) (device : Device)
    (writes : List (String × Int)) :
    (writes.foldl (writtenLate payload) device).values =
        settleAll payload.controls device.values writes ∧
      (writes.foldl (writtenLate payload) device).payload = device.payload := by
  induction writes generalizing device with
  | nil => exact ⟨rfl, rfl⟩
  | cons first others ih =>
      obtain ⟨values, samePayload⟩ := values_writtenLate payload device first
      obtain ⟨rest, kept⟩ := ih (device.writtenLate payload first)
      rw [List.foldl_cons, rest, kept, values, samePayload]
      exact ⟨rfl, rfl⟩

/-- A payload is ready for use, with its initial values and some writes that waited for it. -/
structure Settled (payload : Payload) (waited : List (String × Int)) (device : Device) : Prop where
  ready : device.ready? = some payload
  values : device.values =
    settleAll payload.controls (Control.initials payload.controls) waited

theorem settled_install (payload : Payload) (device : Device) :
    Settled payload device.cachedWrites (device.install payload) := by
  have prepared := ((Work.on_initialiseAll payload fun _ _ => trivial).confined
    (device.adopt payload)).beside
  have inPlace : (initialiseAll payload (device.adopt payload)).1.payload = some payload :=
    prepared.payload
  have cached : (initialiseAll payload (device.adopt payload)).1.cachedWrites =
      device.cachedWrites := prepared.cachedWrites
  have initials : (initialiseAll payload (device.adopt payload)).1.values =
      Control.initials payload.controls := prepared.values
  rw [install_eq, makeCachedWrites_eq, cached]
  generalize (initialiseAll payload (device.adopt payload)).1 = begun at inPlace initials ⊢
  obtain ⟨values, kept⟩ := values_writtenAllLate payload { begun with cachedWrites := [] }
    device.cachedWrites
  constructor
  · have ready (held : Device) : held.readied.ready? = held.payload := rfl
    rw [ready, kept]
    exact inPlace
  · rw [← initials]
    exact values

/-! ## Loads that succeed -/

/-- Only one answer of a source is the first with a usable container. -/
theorem first_usable_unique {early late : Nat}
    (beforeEarly : ∀ place < early, device.Unusable place) (usableEarly : ¬device.Unusable early)
    (beforeLate : ∀ place < late, device.Unusable place) (usableLate : ¬device.Unusable late) :
    early = late := by
  rcases Nat.lt_trichotomy early late with before | same | after
  · exact absurd (beforeLate early before) usableEarly
  · exact same
  · exact absurd (beforeEarly late after) usableLate

theorem usable_of_ok {place : Nat} (read : device.verdict place = .ok payload) :
    ¬device.Unusable place := by
  rintro ⟨error, unusable⟩
  cases read.symm.trans unusable

theorem usable_of_format {place : Nat} {error : Tuning.FormatError}
    (unread : device.verdict place = .error (.format error)) : ¬device.Unusable place := by
  rintro ⟨other, unusable⟩
  cases unread.symm.trans unusable

theorem Loaded.of_ok {limit : Nat} {after : Device} {answer : Except Tuning.ImageError Unit}
    (loaded : Loaded device limit after answer) (success : answer = .ok ()) :
    ∃ repeats payload, repeats < limit ∧ (∀ place < repeats, device.Unusable place) ∧
      device.verdict repeats = .ok payload ∧ after = (device.asking repeats).install payload := by
  cases loaded with
  | installed within earlier read => exact ⟨_, _, within, earlier, read, rfl⟩
  | rejected => cases success
  | exhausted => cases success

/-- The answers of the source decide that a load succeeds. -/
theorem Loaded.installs {limit repeats : Nat} {after : Device}
    {answer : Except Tuning.ImageError Unit} (loaded : Loaded device limit after answer)
    (within : repeats < limit) (earlier : ∀ place < repeats, device.Unusable place)
    (read : device.verdict repeats = .ok payload) :
    after = (device.asking repeats).install payload := by
  have usable := usable_of_ok read
  cases loaded with
  | installed _ before found =>
      cases first_usable_unique before (usable_of_ok found) earlier usable
      cases found.symm.trans read
      rfl
  | rejected _ before unread =>
      cases first_usable_unique before (usable_of_format unread) earlier usable
      cases unread.symm.trans read
  | @exhausted last error spent before unusable =>
      rcases Nat.lt_or_eq_of_le (Nat.le_of_lt_succ (spent ▸ within)) with early | here
      · exact absurd (before repeats early) usable
      · cases here
        exact absurd ⟨error, unusable⟩ usable

/-- Devices of one configuration whose sources are alike load the same payload. -/
theorem loads_alike (other : Device) (config : other.config = device.config)
    (firmware : other.firmware = device.firmware) (success : (device.load tries).2 = .ok ()) :
    ∃ payload, Settled payload device.cachedWrites (device.load tries).1 ∧
      Settled payload other.cachedWrites (other.load tries).1 := by
  obtain ⟨repeats, payload, within, earlier, read, installs⟩ :=
    (loaded_load tries device).of_ok success
  have same (place : Nat) : ({ other with loadState := .loading } : Device).verdict place =
      ({ device with loadState := .loading } : Device).verdict place := by
    simp only [verdict, config, firmware]
  have alike : (other.load tries).1 =
      (({ other with loadState := .loading } : Device).asking repeats).install payload := by
    apply (loaded_load tries other).installs within
    · intro place early
      obtain ⟨error, unusable⟩ := earlier place early
      exact ⟨error, (same place).trans unusable⟩
    · exact (same repeats).trans read
  have settled (begun : Device) :
      Settled payload begun.cachedWrites ((begun.asking repeats).install payload) := by
    have cached : (begun.asking repeats).cachedWrites = begun.cachedWrites := by rw [asking_eq]
    exact cached ▸ settled_install payload (begun.asking repeats)
  rw [installs, alike]
  exact ⟨payload, settled { device with loadState := .loading },
    settled { other with loadState := .loading }⟩

/-! ## Writes by name -/

/-- While a payload is ready for use a write by name is made at once. -/
theorem put_of_ready (ready : device.ready? = some payload) (write : String × Int) :
    ((Operation.putControlNamed write.1 write.2).perform device).values =
        settle payload.controls device.values write ∧
      ((Operation.putControlNamed write.1 write.2).perform device).ready? = some payload := by
  have isReady := (ready?_eq_some ready).1
  have found : Request.payload device = .ok payload device := by rw [Request.payload, ready]
  have put : (Operation.putControlNamed write.1 write.2).perform device =
      (Request.putFound write.1 write.2).leaves device := by
    simp only [Operation.perform, Request.leaves, Request.putControlNamed,
      Request.ensureReady_of_ready isReady]
  rw [put, Request.putFound, Request.leaves_bind_ok found]
  have unchanged (refused : Refused payload.controls write) :
      device.values = settle payload.controls device.values write ∧
        device.ready? = some payload := ⟨(Control.settle_of_refused refused).symm, ready⟩
  cases named : Control.find? payload.controls write.1 with
  | none =>
      apply unchanged
      exact ⟨_, by rw [Control.acceptNamed, named]⟩
  | some id =>
      have meant : Meant payload.controls id write := named
      simp only
      rw [Request.putControl, Request.leaves_bind_ok (Request.loadedPayload_of_ready ready),
        Request.leaves_get_bind]
      have refused := Control.refused_iff meant (device.maskOf .active)
      cases outcome : Control.accept payload.controls id write.2 (device.maskOf .active) with
      | error error => exact unchanged (refused.mpr ⟨error, outcome⟩)
      | ok accepted =>
          have sent := Request.beside_dispatch accepted
            { device with values := device.values.set id write.2 }
          rw [← Request.leaves_bind_pure (Request.dispatch accepted) fun _ => accepted.outcome]
            at sent
          have taken : ¬Refused payload.controls write := by
            intro refuses
            obtain ⟨error, held⟩ := refused.mp refuses
            cases outcome.symm.trans held
          rw [Control.settle_of_accepted meant taken]
          exact ⟨sent.values, sent.toFrame.ready?.trans ready⟩

theorem puts_of_ready (ready : device.ready? = some payload) :
    (device.after (puts writes)).values = settleAll payload.controls device.values writes ∧
      (device.after (puts writes)).ready? = some payload := by
  induction writes generalizing device with
  | nil => exact ⟨rfl, ready⟩
  | cons first others ih =>
      obtain ⟨values, stillReady⟩ := put_of_ready ready first
      obtain ⟨rest, lastReady⟩ := ih stillReady
      refine ⟨rest.trans ?_, lastReady⟩
      rw [values]
      rfl

/-- A write by name is kept unless the image can be loaded, and then the device is ready. -/
theorem put_cases (device : Device) (write : String × Int) :
    ((Operation.putControlNamed write.1 write.2).perform device).loadState = .ready ∨
      (((Operation.putControlNamed write.1 write.2).perform device).cachedWrites =
          keep device.cachedWrites write ∧
        ((Operation.putControlNamed write.1 write.2).perform device).config = device.config) := by
  simp only [Operation.perform, Request.leaves, Request.putControlNamed]
  cases outcome : Request.ensureReady device with
  | ok value after =>
      have ready := Request.ready_of_ensureReady outcome
      have put := Request.loadState_putFound write.1 write.2 after
      exact .inl (put.trans ready)
  | error error after =>
      obtain ⟨_, _, _, same⟩ := Request.failed_ensureReady outcome
      have cached : after.cachedWrites = device.cachedWrites := by rw [same]
      have config : after.config = device.config := by rw [same]
      refine .inr ⟨?_, config⟩
      rw [← cached]
      rfl

/-- A ready device stays so while controls are written. -/
theorem puts_stay_ready (ready : device.loadState = .ready) :
    (device.after (puts writes)).loadState = .ready := by
  induction writes generalizing device with
  | nil => exact ready
  | cons first others ih =>
      apply ih
      simp only [Operation.perform, Request.leaves, Request.putControlNamed,
        Request.ensureReady_of_ready ready]
      exact (Request.loadState_putFound first.1 first.2 device).trans ready

/-- What waits for a payload after some writes by name, none of which found one. -/
theorem puts_unready (unready : (device.after (puts writes)).loadState ≠ .ready) :
    (device.after (puts writes)).cachedWrites = writes.foldl keep device.cachedWrites ∧
      (device.after (puts writes)).config = device.config := by
  induction writes generalizing device with
  | nil => exact ⟨rfl, rfl⟩
  | cons first others ih =>
      obtain ⟨waiting, config⟩ := ih unready
      rcases put_cases device first with ready | ⟨kept, same⟩
      · exact absurd (puts_stay_ready ready) unready
      · refine ⟨waiting.trans ?_, config.trans same⟩
        rw [kept]
        rfl

/--
Writes by name are made while no load succeeds, and then one does. If the last write for a control
is refused, the control has its initial value after that. Every other control has the value that the
same writes give it in order after the load.
-/
theorem late_writes_settle (device : Device) (source : FirmwareSource) (tries : UInt32)
    (writes : List (String × Int))
    (unready : (device.after (puts writes)).loadState ≠ .ready)
    (success : ((device.after (puts writes ++ [.supply source])).load tries).2 = .ok ()) :
    ∃ payload,
      (device.after (puts writes ++ [.supply source, .load tries])).ready? = some payload ∧
      (device.after ([.supply source, .load tries] ++ puts writes)).ready? = some payload ∧
      ∀ id,
        (EndsRefused payload.controls id writes →
          (device.after (puts writes ++ [.supply source, .load tries])).values[id]? =
            (Control.initials payload.controls)[id]?) ∧
        (¬EndsRefused payload.controls id writes →
          (device.after (puts writes ++ [.supply source, .load tries])).values[id]? =
            (device.after ([.supply source, .load tries] ++ puts writes)).values[id]?) := by
  obtain ⟨cached, config⟩ := puts_unready unready
  have waiting : device.after (puts writes ++ [.supply source]) =
      { device.after (puts writes) with firmware := source } := after_append _ _ _
  have late : device.after (puts writes ++ [.supply source, .load tries]) =
      ((device.after (puts writes ++ [.supply source])).load tries).1 := by
    rw [← Request.leaves_load, waiting, after_append]
    rfl
  have early : device.after ([.supply source, .load tries] ++ puts writes) =
      (({ device with firmware := source } : Device).load tries).1.after (puts writes) := by
    rw [← Request.leaves_load, after_append]
    rfl
  have kept : (device.after (puts writes ++ [.supply source])).cachedWrites =
      writes.foldl keep device.cachedWrites := by rw [waiting]; exact cached
  obtain ⟨payload, lateLoad, earlyLoad⟩ :=
    loads_alike { device with firmware := source } (by rw [waiting]; exact config.symm)
      (by rw [waiting]) success
  obtain ⟨values, ready⟩ := puts_of_ready earlyLoad.ready
  rw [late, early, lateLoad.values, kept, values, earlyLoad.values]
  exact ⟨payload, lateLoad.ready, ready, Control.settleAll_kept device.cachedWrites writes⟩

/-- Where a write that is accepted comes after one that is refused, the load makes it. -/
theorem later_write_made :
    ∃ payload,
      (reached .standard (.new none)
        (puts [("gain", 9), ("gain", 3)] ++ [.supply .small, .load 1])).ready? = some payload ∧
      ¬EndsRefused payload.controls 0 [("gain", 9), ("gain", 3)] ∧
      (reached .standard (.new none)
        (puts [("gain", 9), ("gain", 3)] ++ [.supply .small, .load 1])).values[0]? =
      (reached .standard (.new none)
        ([.supply .small, .load 1] ++ puts [("gain", 9), ("gain", 3)])).values[0]? := by
  obtain ⟨payload, ready, _, settles⟩ := late_writes_settle (initial .standard (.new none)) .small 1
    [("gain", 9), ("gain", 3)] (by decide +kernel) (by decide +kernel)
  have ends : (reached .standard (.new none) (puts [("gain", 9), ("gain", 3)] ++
      [.supply .small, .load 1])).ready?.map (fun payload =>
        decide (EndsRefused payload.controls 0 [("gain", 9), ("gain", 3)])) = some false := by
    decide +kernel
  have accepted : ¬EndsRefused payload.controls 0 [("gain", 9), ("gain", 3)] := by
    have held : (some payload).map (fun payload =>
        decide (EndsRefused payload.controls 0 [("gain", 9), ("gain", 3)])) = some false :=
      ready ▸ ends
    exact of_decide_eq_false (Option.some.inj held)
  exact ⟨payload, ready, accepted, (settles 0).2 accepted⟩

/-- The earlier write is accepted and the later one is not: after a load it is not made any more. -/
theorem earlier_write_lost :
    (reached .standard (.new none)
        (puts [("gain", 3), ("gain", 9)] ++ [.supply .small, .load 1])).values = [2] ∧
      (reached .standard (.new none)
        ([.supply .small, .load 1] ++ puts [("gain", 3), ("gain", 9)])).values = [3] := by
  decide +kernel

end Device

end AmpControl
