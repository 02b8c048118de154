import AmpControl.Proofs.Bus.Blame
import AmpControl.Proofs.Bus.Errand
import AmpControl.Proofs.Device.Composition
import AmpControl.Proofs.Device.Restart

/-!
# Confinement

Work on some channels makes calls to these channels only, and leaves the state and the deferred work
of every other channel as they are. It meets no fault unless one of its calls was refused.
-/

namespace AmpControl

open Bus (Attempt Makes)

/-- A call to a channel of a set. -/
def Bus.Attempt.Addresses (touched : UInt8 → Prop) (attempt : Attempt) : Prop :=
  ∃ channel, touched channel ∧ attempt.call.channel? = some channel

namespace Device

/-- What work on channels changes nothing of. -/
structure Beside (before after : Device) : Prop extends Frame before after where
  activeProfile : after.activeProfile = before.activeProfile
  firmware : after.firmware = before.firmware
  cachedWrites : after.cachedWrites = before.cachedWrites

/-- What happened between two devices concerns touched channels only, and a refused call caused any
fault that it met. -/
structure Confined (touched : UInt8 → Prop) (before after : Device)
    (fault : Option TransportFault) : Prop where
  beside : Beside before after
  states : ∀ channel, ¬touched channel → after.channel? channel = before.channel? channel
  items : ∀ channel, ¬touched channel →
    after.deferred.item? channel = before.deferred.item? channel
  calls : Makes (Attempt.Addresses touched) before.bus after.bus
  blamed : fault ≠ none → before.bus.refusals < after.bus.refusals

variable {touched : UInt8 → Prop} {before middle after device : Device}
  {fault early late : Option TransportFault} {channel : UInt8}

namespace Beside

theorem refl (device : Device) : Beside device device := ⟨.refl device, rfl, rfl, rfl⟩

theorem trans (first : Beside before middle) (second : Beside middle after) :
    Beside before after where
  toFrame := first.toFrame.trans second.toFrame
  activeProfile := second.activeProfile.trans first.activeProfile
  firmware := second.firmware.trans first.firmware
  cachedWrites := second.cachedWrites.trans first.cachedWrites

theorem latched (beside : Beside before after) (met : Option TransportFault) :
    Beside before (after.latchFault met) := by
  refine beside.trans ⟨frame_latchFault after met, ?_, ?_, ?_⟩
  all_goals rw [latchFault_eq]

/-- What does not go beyond the bus, the history, the statistics and the deferred work. -/
theorem of_parts {bus : Bus} {history : List Event} {stats : Stats} {deferred : DeferredQueue} :
    Beside device
      { device with bus := bus, history := history, stats := stats, deferred := deferred } :=
  ⟨⟨rfl, rfl, rfl, rfl, rfl, rfl⟩, rfl, rfl, rfl⟩

end Beside

namespace Confined

theorem refl (device : Device) : Confined touched device device none :=
  ⟨.refl device, fun _ _ => rfl, fun _ _ => rfl, .refl _, fun failed => absurd rfl failed⟩

theorem trans (first : Confined touched before middle early)
    (second : Confined touched middle after late) :
    Confined touched before after (TransportFault.join early late) where
  beside := first.beside.trans second.beside
  states := fun channel free => (second.states channel free).trans (first.states channel free)
  items := fun channel free => (second.items channel free).trans (first.items channel free)
  calls := first.calls.trans second.calls
  blamed := by
    intro failed
    by_cases clean : early = none
    · apply Nat.lt_of_le_of_lt first.calls.refusals
      apply second.blamed
      intro alsoClean
      exact failed (Bus.join_eq_none.mpr ⟨clean, alsoClean⟩)
    · exact Nat.lt_of_lt_of_le (first.blamed clean) second.calls.refusals

/-- What leaves the channels and their deferred work alone is confined to those that it calls. -/
theorem of_calls (beside : Beside before after)
    (channels : after.channels = before.channels) (deferred : after.deferred = before.deferred)
    (calls : Makes (Attempt.Addresses touched) before.bus after.bus)
    (blamed : fault ≠ none → before.bus.refusals < after.bus.refusals) :
    Confined touched before after fault where
  beside := beside
  states := fun channel _ => by rw [channel?, channels, channel?]
  items := fun channel _ => by rw [deferred]
  calls := calls
  blamed := blamed

theorem addresses {well : Prop} {start last : Bus} (here : touched channel)
    (makes : Makes (Attempt.Serves channel well) start last) :
    Makes (Attempt.Addresses touched) start last :=
  makes.mono fun _ serves => ⟨channel, here, serves.1⟩

theorem widen {wider : UInt8 → Prop} (confined : Confined touched before after fault)
    (more : ∀ channel, touched channel → wider channel) : Confined wider before after fault where
  beside := confined.beside
  states := fun channel free => confined.states channel (mt (more channel) free)
  items := fun channel free => confined.items channel (mt (more channel) free)
  calls := confined.calls.mono fun _ addressed =>
    let ⟨channel, here, channelOf⟩ := addressed
    ⟨channel, more channel here, channelOf⟩
  blamed := confined.blamed

/-- Latching a fault concerns no channel's state. -/
theorem latched (confined : Confined touched before after fault) (met : Option TransportFault) :
    Confined touched before (after.latchFault met) fault := by
  have noted : Confined touched after (after.latchFault met) none := by
    refine .of_calls ((Beside.refl after).latched met) ?_ ?_ ?_ fun failed => absurd rfl failed
    · rw [latchFault_eq]
    · rw [latchFault_eq]
    · rw [latchFault_eq]
      exact .refl _
  have whole : TransportFault.join fault none = fault := by cases fault <;> rfl
  exact whole ▸ confined.trans noted

end Confined

/-! ## Updates -/

theorem confined_onChannel (here : touched channel) (change : ChannelState → ChannelState)
    (device : Device) : Confined touched device (device.onChannel channel change) none := by
  refine ⟨⟨frame_onChannel device channel change, rfl, rfl, rfl⟩, fun other free => ?_,
    fun _ _ => rfl, .refl _, fun failed => absurd rfl failed⟩
  rw [channel?_onChannel, if_neg]
  rintro rfl
  exact free here

theorem confined_updates {change : Device → Device} (here : touched channel)
    (updates : Updates channel change) (device : Device) :
    Confined touched device (change device) none := by
  have apart {other : UInt8} (free : ¬touched other) : other ≠ channel := by
    rintro rfl
    exact free here
  cases updates with
  | began => exact .of_calls .of_parts rfl rfl (.refl _) fun failed => absurd rfl failed
  | unmasked unmasked => exact confined_onChannel here _ device
  | powered power => exact confined_onChannel here _ device
  | cancelled =>
      refine ⟨.of_parts, fun _ _ => rfl, fun other free => ?_, .refl _,
        fun failed => absurd rfl failed⟩
      rw [cancelDeferred, DeferredQueue.item?_cancel, if_neg (apart free)]
  | scheduled =>
      refine ⟨.of_parts, fun _ _ => rfl, fun other free => ?_, .refl _,
        fun failed => absurd rfl failed⟩
      exact DeferredQueue.item?_schedule_of_ne _ (apart free) _

end Device

/-- Work on touched channels is confined to them, whatever it starts from. -/
theorem Work.On.confined {touched : UInt8 → Prop} {work : Work} (on : On touched work)
    (device : Device) : Device.Confined touched device (work device).1 (work device).2 := by
  induction on generalizing device with
  | idle => exact .refl device
  | @run channel here role script =>
      have ran := Bus.makes_execute channel script device.bus
      exact .of_calls .of_parts rfl rfl (Device.Confined.addresses here ran) Bus.refusals_execute
  | @replay channel here payload timing =>
      have errand := Bus.errand_replay payload.controls device.values channel timing device.bus
      have sent := errand.makes
      rw [Device.replay_eq]
      exact .of_calls .of_parts rfl rfl (Device.Confined.addresses here sent) Bus.refusals_writes
  | updating here updates on ih =>
      have noted := Device.confined_updates here updates device
      exact noted.trans (ih _)
  | reading on ih => exact ih device device
  | inOrder on ih =>
      apply Work.keeps_parts (Device.Confined touched device)
      · intro part member middle held sofar
        exact (sofar.trans (ih part member middle)).latched _
      · exact .refl device

namespace Work

variable {work : UInt8 → Work} {channels : List UInt8} {channel : UInt8}

/-- Work on each of some channels, seen from one of them: its own part comes in between others. -/
theorem each_split (work : UInt8 → Work) (distinct : channels.Nodup) (listed : channel ∈ channels)
    (device : Device) :
    ∃ later, channel ∉ later ∧ (each channels work device).1 =
      (each later work
        ((work channel).leaves (each (Channel.before channel channels) work device).1)).1 := by
  obtain ⟨later, whole, absent⟩ := Channel.split_before distinct listed
  refine ⟨later, absent, ?_⟩
  conv_lhs => rw [whole]
  simp only [each, List.map_append, List.map_cons, fst_inOrder_append, fst_inOrder_cons]

theorem on_each_of_notMem (absent : channel ∉ channels)
    (on : ∀ (touched : UInt8 → Prop) (other : UInt8), touched other → (work other).On touched) :
    On (· ≠ channel) (each channels work) :=
  on_each fun other member => on (· ≠ channel) other fun same => absent (same ▸ member)

end Work

namespace Device

open Tuning (Payload)

/-- A restart and a lock-out leave it at the profile that is active. -/
theorem activeProfile_escalate (payload : Payload) (device : Device) :
    (device.escalate payload).activeProfile = device.activeProfile := by
  have kept {work : Work} (on : Work.On (fun _ => True) work) (held : Device) :
      (work held).1.activeProfile = held.activeProfile := (on.confined held).beside.activeProfile
  have latched (held : Device) (fault : Option TransportFault) :
      (held.latchFault fault).activeProfile = held.activeProfile :=
    ((Beside.refl held).latched fault).activeProfile
  unfold escalate
  split
  · rfl
  split
  · rw [restartAll, Work.reading_apply]
    apply Work.keeps_inOrder (fun held => held.activeProfile = device.activeProfile)
    · intro part member held same
      rw [Work.leaves, latched]
      simp only [List.mem_append, List.mem_flatMap, List.mem_map, List.mem_cons, List.not_mem_nil,
        or_false] at member
      rcases member with ((rfl | ⟨channel, _, rfl | rfl⟩) | ⟨channel, _, rfl⟩) | ⟨channel, _, rfl⟩
      · exact same
      · exact same
      · exact (kept (Work.on_initialise trivial) held).trans same
      · exact (kept (Work.on_restore trivial .active) held).trans same
      · exact (kept (Work.on_restore trivial .mute) held).trans same
    · rfl
  · rw [lockOut_eq_foldl]
    apply List.foldlRecOn (motive := fun held : Device => held.activeProfile = device.activeProfile)
    · rfl
    · intro held same channel _
      exact (kept (Work.on_powerDown trivial) held).trans same

end Device

end AmpControl
