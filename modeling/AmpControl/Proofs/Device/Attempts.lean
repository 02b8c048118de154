import AmpControl.Proofs.Device.Confinement
import AmpControl.Proofs.Device.Loading

/-!
# Attempts to load

A load asks for the image, and after an answer whose container is unusable it pauses and asks again,
as often as it may. What it comes to depends only on the answers of the source: a payload is
installed, a payload that cannot be read is rejected, or the attempts are used up. Until then it
touches nothing but the source, the clock and the load state.
-/

namespace AmpControl

open Tuning (ContainerError Control FormatError ImageError ParsedImage Payload)

/-! ## Answers -/

namespace FirmwareSource

/-- The answer to the next request but `place`. -/
def answer (source : FirmwareSource) (place : Nat) : Option Bytes :=
  source.queued[place]?.getD source.fallback

/-- The source after a number of requests for a name. -/
def asked (name : String) (requests : Nat) (source : FirmwareSource) : FirmwareSource where
  queued := source.queued.drop requests
  fallback := source.fallback
  requests := List.replicate requests name ++ source.requests

variable {source : FirmwareSource} {name : String}

theorem request_eq : source.request name = (source.asked name 1, source.answer 0) := by
  obtain ⟨queued, fallback, requests⟩ := source
  cases queued <;> rfl

theorem asked_asked (early late : Nat) :
    (source.asked name early).asked name late = source.asked name (early + late) := by
  rw [asked, asked, asked, List.drop_drop, ← List.append_assoc, List.replicate_append_replicate,
    Nat.add_comm late early]

theorem answer_asked (requests place : Nat) :
    (source.asked name requests).answer place = source.answer (requests + place) := by
  rw [answer, asked, List.getElem?_drop, answer]

end FirmwareSource

namespace Device

variable {device after : Device} {limit : Nat} {error : ImageError}
  {answer : Except ImageError Unit}

/-- What an answer of the source is worth; where there is no image it counts as an empty one. -/
def verdict (device : Device) (place : Nat) : Except ImageError Payload :=
  (ParsedImage.ofImage ((device.firmware.answer place).getD []) device.config.revision).outcome

/-- The container of an answer is unusable. -/
def Unusable (device : Device) (place : Nat) : Prop :=
  ∃ error, device.verdict place = .error (.container error)

theorem fetch_eq (device : Device) :
    device.fetch = ({ device with
      firmware := device.firmware.asked device.config.firmwareName 1 }, device.verdict 0) := by
  rw [fetch, FirmwareSource.request_eq, verdict]
  cases device.firmware.answer 0 <;> rfl

/-! ## Requests -/

/-- The pause between two requests. -/
def retryPause (device : Device) : Nat :=
  Bus.milliseconds device.config.loadRetryDelay.toNat

/-- Asks for the image, and then a number of times more, with a pause before each of them. -/
def asking : (repeats : Nat) → Device → Device
  | 0, device => device.fetch.1
  | repeats + 1, device => asking repeats (device.fetch.1.wait device.retryPause)

theorem asking_succ (repeats : Nat) (device : Device) :
    device.asking (repeats + 1) = (device.fetch.1.wait device.retryPause).asking repeats := rfl

/-- Asking adds to the requests and takes the time of the pauses between them. -/
theorem asking_eq (repeats : Nat) (device : Device) :
    device.asking repeats = { device with
      firmware := device.firmware.asked device.config.firmwareName (repeats + 1)
      bus := device.bus.wait (repeats * device.retryPause) } := by
  induction repeats generalizing device with
  | zero =>
      rw [asking, fetch_eq, Nat.zero_mul]
      rfl
  | succ repeats ih =>
      rw [asking_succ, ih, fetch_eq]
      simp only [wait, Bus.wait, FirmwareSource.asked_asked, retryPause]
      rw [Nat.add_comm 1, Nat.succ_mul, Nat.add_assoc, Nat.add_comm (Bus.milliseconds _)]

/-- What the next answer but one is worth after a request and a pause. -/
theorem verdict_again (device : Device) (place : Nat) :
    (device.fetch.1.wait device.retryPause).verdict place = device.verdict (place + 1) := by
  have asked : (device.fetch.1.wait device.retryPause).firmware =
      device.firmware.asked device.config.firmwareName 1 :=
    congrArg (fun fetched => fetched.1.firmware) (fetch_eq device)
  have config : (device.fetch.1.wait device.retryPause).config = device.config :=
    congrArg (fun fetched => fetched.1.config) (fetch_eq device)
  rw [verdict, asked, config, FirmwareSource.answer_asked, Nat.add_comm, verdict]

/-- One attempt is settled by the next answer. -/
theorem attempt_succ (tries : Nat) (last : ImageError) (device : Device) :
    attempt (tries + 1) last device =
      match device.verdict 0 with
      | .ok payload => ((device.asking 0).install payload, .ok ())
      | .error (.format error) =>
          ({ device.asking 0 with loadState := .parseFailed }, .error (.format error))
      | .error (.container error) =>
          attempt tries (.container error)
            (if tries = 0 then device.asking 0 else device.fetch.1.wait device.retryPause) := by
  have answered : device.fetch.2 = device.verdict 0 := congrArg Prod.snd (fetch_eq device)
  rw [attempt, ← answered, asking]
  obtain ⟨fetched, answer⟩ := device.fetch
  rcases answer with (error | error) | payload <;> rfl

/-! ## The outcome -/

/-- What at most `limit` attempts to load come to. -/
inductive Loaded (device : Device) (limit : Nat) : Device → Except ImageError Unit → Prop where
  /-- The first answer with a usable container holds a payload. -/
  | installed {repeats : Nat} {payload : Payload} (within : repeats < limit)
      (earlier : ∀ place < repeats, device.Unusable place)
      (read : device.verdict repeats = .ok payload) :
      Loaded device limit ((device.asking repeats).install payload) (.ok ())
  /-- The first answer with a usable container holds something else. -/
  | rejected {repeats : Nat} {error : FormatError} (within : repeats < limit)
      (earlier : ∀ place < repeats, device.Unusable place)
      (unread : device.verdict repeats = .error (.format error)) :
      Loaded device limit { device.asking repeats with loadState := .parseFailed }
        (.error (.format error))
  /-- No answer had a usable container. -/
  | exhausted {repeats : Nat} {error : ContainerError} (spent : repeats + 1 = limit)
      (earlier : ∀ place < repeats, device.Unusable place)
      (unusable : device.verdict repeats = .error (.container error)) :
      Loaded device limit { device.asking repeats with loadState := .loadFailed }
        (.error (.container error))

/-- After an answer with an unusable container the rest of a load is a load. -/
theorem Loaded.again (first : device.Unusable 0)
    (loaded : Loaded (device.fetch.1.wait device.retryPause) limit after answer) :
    Loaded device (limit + 1) after answer := by
  have shifted {repeats : Nat} (earlier : ∀ place < repeats,
      (device.fetch.1.wait device.retryPause).Unusable place) :
      ∀ place < repeats + 1, device.Unusable place := by
    intro place early
    cases place with
    | zero => exact first
    | succ place =>
        obtain ⟨error, unusable⟩ := earlier place (Nat.lt_of_succ_lt_succ early)
        exact ⟨error, (verdict_again device place).symm.trans unusable⟩
  cases loaded with
  | installed within earlier read =>
      rw [verdict_again] at read
      rw [← asking_succ]
      exact .installed (Nat.succ_lt_succ within) (shifted earlier) read
  | rejected within earlier unread =>
      rw [verdict_again] at unread
      rw [← asking_succ]
      exact .rejected (Nat.succ_lt_succ within) (shifted earlier) unread
  | exhausted spent earlier unusable =>
      rw [verdict_again] at unusable
      rw [← asking_succ]
      exact .exhausted (congrArg Nat.succ spent) (shifted earlier) unusable

theorem loaded_attempt (more : Nat) (last : ImageError) (device : Device) :
    Loaded device (more + 1) (attempt (more + 1) last device).1
      (attempt (more + 1) last device).2 := by
  have none_earlier (device : Device) : ∀ place < 0, device.Unusable place :=
    fun place early => absurd early (Nat.not_lt_zero place)
  induction more generalizing last device with
  | zero =>
      rw [attempt_succ]
      rcases found : device.verdict 0 with (error | error) | payload
      · exact .exhausted rfl (none_earlier device) found
      · exact .rejected Nat.one_pos (none_earlier device) found
      · exact .installed Nat.one_pos (none_earlier device) found
  | succ more ih =>
      have early : 0 < more + 1 + 1 := Nat.succ_pos _
      rw [attempt_succ]
      rcases found : device.verdict 0 with (error | error) | payload
      · simp only [if_neg (Nat.succ_ne_zero more)]
        exact (ih (.container error) _).again ⟨error, found⟩
      · exact .rejected early (none_earlier device) found
      · exact .installed early (none_earlier device) found

theorem loaded_load (tries : UInt32) (device : Device) :
    Loaded { device with loadState := .loading } (max tries.toNat 1) (device.load tries).1
      (device.load tries).2 := by
  have some_try : max tries.toNat 1 ≠ 0 := Nat.ne_of_gt (Nat.le_max_right _ _)
  obtain ⟨more, limit⟩ := Nat.exists_eq_succ_of_ne_zero some_try
  rw [load, limit]
  exact loaded_attempt more _ _

/-! ## Installations -/

/-- Makes a write that waited for a payload, unless it is not accepted. -/
def writtenLate (payload : Payload) (device : Device) (entry : String × Int) : Device :=
  match Control.acceptNamed payload.controls entry.1 entry.2 0 with
  | .error _ => device
  | .ok write => device.written write entry.2

theorem makeCachedWrites_eq (payload : Payload) (device : Device) :
    device.makeCachedWrites payload =
      device.cachedWrites.foldl (writtenLate payload) { device with cachedWrites := [] } := by
  rw [makeCachedWrites]
  apply congrArg fun step => device.cachedWrites.foldl step _
  funext held entry
  obtain ⟨name, value⟩ := entry
  simp only [writtenLate]
  cases Control.acceptNamed payload.controls name value 0 <;> rfl

theorem firmware_writtenLate (payload : Payload) (device : Device) (entry : String × Int) :
    (device.writtenLate payload entry).firmware = device.firmware := by
  rw [writtenLate]
  cases Control.acceptNamed payload.controls entry.1 entry.2 0 with
  | error error => rfl
  | ok write =>
      simp only [written]
      cases write.outcome <;> rfl

/-- Nothing is asked for while a payload is installed. -/
theorem firmware_install (payload : Payload) (device : Device) :
    (device.install payload).firmware = device.firmware := by
  have prepared := ((Work.on_initialiseAll payload fun _ _ => trivial).confined
    (device.adopt payload)).beside.firmware
  have made (held : Device) : (held.makeCachedWrites payload).firmware = held.firmware := by
    rw [makeCachedWrites_eq]
    apply List.foldlRecOn (motive := fun later : Device => later.firmware = held.firmware)
    · rfl
    · intro later same entry _
      exact (firmware_writtenLate payload later entry).trans same
  have kept (held : Device) : held.readied.firmware = held.firmware := rfl
  rw [install_eq, kept, made, prepared]
  rfl

theorem loadState_install (payload : Payload) (device : Device) :
    (device.install payload).loadState = .ready := rfl

/-! ## Failures -/

/-- Where a load failed, the source was asked and time has passed, and nothing else was done. -/
structure Failed (before after : Device) : Prop where
  loadState : after.loadState = .parseFailed ∨ after.loadState = .loadFailed
  same : ∃ requests pauses, after = { before with
    loadState := after.loadState
    firmware := before.firmware.asked before.config.firmwareName requests
    bus := before.bus.wait (pauses * before.retryPause) }

theorem failed_load {tries : UInt32} (failed : (device.load tries).2 = .error error) :
    device.Failed (device.load tries).1 := by
  have loaded := loaded_load tries device
  rw [failed] at loaded
  generalize (device.load tries).1 = after at loaded ⊢
  cases loaded with
  | rejected =>
      rw [asking_eq]
      exact ⟨.inl rfl, _, _, rfl⟩
  | exhausted =>
      rw [asking_eq]
      exact ⟨.inr rfl, _, _, rfl⟩

/-- A load ends, one way or the other. -/
theorem loadState_load (tries : UInt32) (device : Device) :
    (device.load tries).1.loadState ≠ .loading := by
  have loaded := loaded_load tries device
  generalize (device.load tries).1 = after at loaded ⊢
  generalize (device.load tries).2 = answer at loaded
  intro still
  cases loaded with
  | installed => cases still
  | rejected => cases still
  | exhausted => cases still

end Device

end AmpControl
