import AmpControl.Proofs.Device.Conduct
import AmpControl.Proofs.Device.Rest

/-!
# Refused calls

Wherever a call to a channel is refused, a transport error of the channel is latched, unless it was
one of the calls that are left aside: a look at the registers of a stuck channel leaves out what
cannot be read, and so do the writes that waited for a payload when they are made at last. Only the
restart of a device forgets what was latched.
-/

namespace AmpControl

open Tuning (Control InterruptTable Payload)
open Bus (Attempt Call Carries Errand)

namespace Device

/-- The writes that are made of those that waited for a payload: the accepted ones. -/
def caughtUp (payload : Payload) (waiting : List (String × Int)) : List Control.Write :=
  waiting.filterMap fun (name, value) =>
    (Control.acceptNamed payload.controls name value 0).toOption

/--
The calls that are left aside at an event, of which a refused one is not latched: those of one look
at the registers of a channel that is found stuck, and those of the writes that waited for the
payload that is installed.
-/
inductive LeftAside (place : Option Payload) (waiting : List (String × Int)) :
    Event → List Attempt → Prop where
  | nothing (event : Event) : LeftAside place waiting event []
  | looking {payload : Payload} {table : InterruptTable} {channel : UInt8} {bus : Bus}
      {calls : List Attempt} (inPlace : place = some payload)
      (tabled : payload.interrupts? channel = some table)
      (made : (bus.readAll channel table.dump).1.transport.attempts =
        calls ++ bus.transport.attempts) :
      LeftAside place waiting (.stuck channel) calls
  | catchingUp {payload : Payload} {bus : Bus} {calls : List Attempt}
      (inPlace : place = some payload)
      (made : (Control.carryOutAll (caughtUp payload waiting) none bus).1.transport.attempts =
        calls ++ bus.transport.attempts) :
      LeftAside place waiting .installed calls

/-- The transport error of a channel is latched, or will be once the fault is. -/
def Knows (fault : Option TransportFault) (device : Device) (channel : UInt8) : Prop :=
  device.failing channel = true ∨ channel < 8 ∧ ∃ met, fault = some met ∧ met.channel = channel

/--
The calls and the events between two devices, and which of the calls are left aside at the events,
each list the latest first. The channels of all others that were refused are known.
-/
structure Notes (place : Option Payload) (waiting : List (String × Int))
    (fault : Option TransportFault) (calls noted : List Attempt) (events : List Event)
    (aside : List (List Attempt)) (before after : Device) : Prop where
  made : after.bus.transport.attempts = calls ++ before.bus.transport.attempts
  passed : after.history = events ++ before.history
  split : calls.Perm (noted ++ aside.flatten)
  leftAside : List.Forall₂ (LeftAside place waiting) events aside
  known : ∀ attempt ∈ noted, ∀ channel, attempt.accepted = false →
    attempt.call.channel? = some channel → Knows fault after channel

/-- Nothing that was latched is forgotten, and refused calls are latched or left aside. -/
structure Minds (place : Option Payload) (waiting : List (String × Int))
    (fault : Option TransportFault) (before after : Device) : Prop where
  failing : ∀ channel, before.failing channel = true → after.failing channel = true
  notes : ∃ calls noted events aside,
    Notes place waiting fault calls noted events aside before after

variable {place : Option Payload} {waiting : List (String × Int)} {payload : Payload}
  {before middle after device : Device} {fault met : Option TransportFault} {channel : UInt8}

/-! ## Looking and catching up -/

theorem bus_written (write : Control.Write) (value : Int) (device : Device) :
    (device.written write value).bus = (write.carryOut device.bus).1 := by
  unfold written Control.Write.carryOut
  cases write.outcome <;> rfl

/-- The bus carries out the accepted ones of the writes that waited. -/
theorem bus_makeCachedWrites (payload : Payload) (device : Device) :
    (device.makeCachedWrites payload).bus =
      (Control.carryOutAll (caughtUp payload device.cachedWrites) none device.bus).1 := by
  change (device.makeCachedWrites payload).bus = (Control.carryOutAll
    (caughtUp payload device.cachedWrites) none { device with cachedWrites := [] }.bus).1
  unfold makeCachedWrites
  generalize device.cachedWrites = writes, ({ device with cachedWrites := [] } : Device) = held,
    (none : Option TransportFault) = fault
  induction writes generalizing held fault with
  | nil => rfl
  | cons first others ih =>
      obtain ⟨name, value⟩ := first
      rw [List.foldl_cons, caughtUp, List.filterMap_cons]
      cases accepted : Control.acceptNamed payload.controls name value 0 with
      | error error =>
          simp only [accepted]
          exact ih held fault
      | ok write =>
          simp only [accepted]
          have late := ih (held.written write value)
            (TransportFault.join fault (write.carryOut held.bus).2)
          rw [bus_written] at late
          exact late

theorem history_makeCachedWrites (payload : Payload) (device : Device) :
    ∃ added, (device.makeCachedWrites payload).history = added ++ device.history := by
  refine List.foldlRecOn (motive := fun held : Device =>
    ∃ added, held.history = added ++ device.history) device.cachedWrites _ ⟨[], rfl⟩ ?_
  rintro held ⟨added, grown⟩ ⟨name, value⟩ _
  simp only
  cases Control.acceptNamed payload.controls name value 0 with
  | error error => exact ⟨added, grown⟩
  | ok write =>
      have wrote := history_written write value held
      by_cases applied : write.outcome = .applied
      · exact ⟨.dispatched write.id write.index :: added, by
          rw [if_pos applied, grown] at wrote; exact wrote⟩
      · exact ⟨added, by rw [if_neg applied, grown] at wrote; exact wrote⟩

/-! ## Notes -/

/-- No calls are left aside at any of some events. -/
theorem leftAside_nothing (events : List Event) :
    List.Forall₂ (LeftAside place waiting) events (events.map fun _ => []) := by
  induction events with
  | nil => exact .nil
  | cons event others ih => exact .cons (.nothing event) ih

theorem flatten_nothing (events : List Event) :
    (events.map fun _ => ([] : List Attempt)).flatten = [] := by
  induction events with
  | nil => rfl
  | cons event others ih => exact ih

theorem Knows.mono (knows : Knows none middle channel)
    (kept : ∀ channel, middle.failing channel = true → after.failing channel = true) :
    Knows fault after channel := by
  rcases knows with failing | ⟨_, _, impossible, _⟩
  · exact .inl (kept channel failing)
  · cases impossible

/-- The fault of a channel is latched on it. -/
theorem latchFault_of_small {fault : TransportFault} (small : fault.channel < 8)
    (device : Device) :
    device.latchFault (some fault) = device.latch .transport fault.channel := by
  refine if_neg fun shared => ?_
  rw [shared] at small
  exact absurd small (by decide)

theorem failing_latchFault {fault : TransportFault} (small : fault.channel < 8) (device : Device) :
    (device.latchFault (some fault)).failing fault.channel = true := by
  have within : Channel.within (Channel.bit fault.channel) fault.channel = true := by
    rw [Channel.within_bit small, decide_eq_true rfl]
  rw [latchFault_of_small small, failing, latch, ErrorCode.channels_set_self _ _ small,
    Channel.within_or, within, Bool.or_true]

namespace Minds

theorem trans (first : Minds place waiting none before middle)
    (second : Minds place waiting fault middle after) :
    Minds place waiting fault before after := by
  obtain ⟨calls, noted, events, aside, early⟩ := first.notes
  obtain ⟨lateCalls, lateNoted, lateEvents, lateAside, late⟩ := second.notes
  refine ⟨fun channel held => second.failing channel (first.failing channel held),
    lateCalls ++ calls, lateNoted ++ noted, lateEvents ++ events, lateAside ++ aside,
    ?_, ?_, ?_, ?_, fun attempt member => ?_⟩
  · rw [late.made, early.made, List.append_assoc]
  · rw [late.passed, early.passed, List.append_assoc]
  · rw [List.flatten_append]
    exact (late.split.append early.split).trans (List.perm_iff_count.mpr fun attempt => by
      simp only [List.count_append]
      omega)
  · exact List.rel_append late.leftAside early.leftAside
  · rcases List.mem_append.mp member with isLate | isEarly
    · exact late.known attempt isLate
    · exact fun channel refused addressed =>
        (early.known attempt isEarly channel refused addressed).mono second.failing

theorem telling (minds : Minds place waiting none before after) (fault : Option TransportFault) :
    Minds place waiting fault before after := by
  obtain ⟨calls, noted, events, aside, notes⟩ := minds.notes
  refine ⟨minds.failing, calls, noted, events, aside, { notes with known := ?_ }⟩
  intro attempt member channel refused addressed
  exact (notes.known attempt member channel refused addressed).mono fun _ held => held

/-- Calls that are not left aside, while nothing but the bus changes. -/
theorem of_calls {bus : Bus} {calls : List Attempt}
    (made : bus.transport.attempts = calls ++ device.bus.transport.attempts)
    (known : ∀ attempt ∈ calls, ∀ channel, attempt.accepted = false →
      attempt.call.channel? = some channel →
        channel < 8 ∧ ∃ met, fault = some met ∧ met.channel = channel) :
    Minds place waiting fault device { device with bus := bus } :=
  ⟨fun _ held => held, calls, calls, [], [], made, rfl, by simp, .nil,
    fun attempt member channel refused addressed =>
      .inr (known attempt member channel refused addressed)⟩

theorem quiet (quiet : Quiet before after) : Minds place waiting none before after := by
  obtain ⟨events, grown⟩ := quiet.history
  refine ⟨quiet.failing, [], [], events, events.map fun _ => [], ?_, grown, ?_,
    leftAside_nothing events, fun _ member => absurd member List.not_mem_nil⟩
  · rw [quiet.bus, List.nil_append]
  · rw [flatten_nothing]
    exact .refl _

theorem errand {bus : Bus} (small : channel < 8) (errand : Errand channel device.bus bus fault) :
    Minds place waiting fault device { device with bus := bus } := by
  obtain ⟨_, calls, made, serves⟩ := errand.makes
  refine .of_calls made fun attempt member other refused addressed => ?_
  obtain ⟨here, fine⟩ := serves attempt member
  obtain rfl := Option.some.inj (here.symm.trans addressed)
  cases fault with
  | none => exact absurd ((fine rfl).symm.trans refused) (by simp)
  | some met => exact ⟨small, met, rfl, errand.reported met rfl⟩

/-- Of what is looked at on a stuck channel nothing is known. -/
theorem looked {table : InterruptTable} (inPlace : place = some payload)
    (tabled : payload.interrupts? channel = some table) (device : Device) :
    Minds place waiting none device { device.record (.stuck channel) with
      bus := (device.bus.readAll channel table.dump).1 } := by
  obtain ⟨_, calls, made, _⟩ := Bus.makes_readAll channel table.dump device.bus
  refine ⟨fun _ held => held, calls, [], [.stuck channel], [calls], made, rfl, by simp,
    .cons (.looking inPlace tabled made) .nil, fun _ member => absurd member List.not_mem_nil⟩

/-- The reset line has no channel. -/
theorem pulsed (device : Device) :
    Minds place waiting (pulseReset device).2 device (pulseReset device).1 := by
  have recorded : Minds place waiting none device (device.record .hardReset) :=
    .quiet (quiet_record .hardReset device)
  have made : device.bus.reset.1.transport.attempts =
      [⟨.reset, device.bus.reset.2⟩] ++ device.bus.transport.attempts :=
    Bus.attempts_attempt .reset device.bus
  refine recorded.trans (.of_calls made fun attempt member channel _ addressed => ?_)
  rw [List.mem_singleton.mp member] at addressed
  cases addressed

/-- Once a fault is latched all refused calls are. -/
theorem latched (minds : Minds place waiting met before after) :
    Minds place waiting none before (after.latchFault met) := by
  have quiet := quiet_latchFault met after
  obtain ⟨calls, noted, events, aside, notes⟩ := minds.notes
  refine ⟨fun channel held => quiet.failing channel (minds.failing channel held),
    calls, noted, events, aside, ?_, ?_, notes.split, notes.leftAside, ?_⟩
  · rw [quiet.bus, notes.made]
  · rw [history_latchFault, notes.passed]
  · intro attempt member channel refused addressed
    rcases notes.known attempt member channel refused addressed with
      failing | ⟨small, fault, rfl, rfl⟩
    · exact .inl (quiet.failing channel failing)
    · exact .inl (failing_latchFault small after)

end Minds

/-- Unless the device is restarted, refused calls are latched or left aside. -/
theorem Conduct.minds (conduct : Conduct place before after fault)
    (unrestarted : after.restarts = before.restarts) :
    Minds place waiting fault before after := by
  induction conduct with
  | idle fault => exact (Minds.quiet (.of_same rfl rfl rfl rfl rfl rfl)).telling fault
  | quiet quiet => exact .quiet quiet
  | waited microseconds =>
      exact .of_calls rfl fun _ member => absurd member List.not_mem_nil
  | errand small errand => exact .errand small errand
  | looked inPlace tabled => exact .looked inPlace tabled _
  | pulsed device => exact .pulsed device
  | @restarted device left =>
      have counted := toNat_increment left
      have same : (Stats.increment device.restarts).toNat = device.restarts.toNat :=
        congrArg UInt32.toNat unrestarted
      omega
  | latched conduct ih =>
      rw [(quiet_latchFault _ _).restarts] at unrestarted
      exact (ih unrestarted).latched
  | @trans before middle after fault first second early late =>
      have grown := first.restarts
      have grownAgain := second.restarts
      rw [unrestarted] at grownAgain
      have still := UInt32.le_antisymm grownAgain grown
      exact (early still).trans (late (unrestarted.trans still.symm))

/-! ## Installations -/

theorem payload_install (shaped : payload.Shaped) (device : Device) :
    (device.install payload).payload = some payload := by
  have conduct : Conduct (some payload) (device.adopt payload)
      (initialiseAll payload (device.adopt payload)).1 none := settles_initialiseAll shaped _
  rw [install_eq]
  generalize (initialiseAll payload (device.adopt payload)).1 = prepared at conduct ⊢
  refine List.foldlRecOn (motive := fun held : Device => held.payload = some payload)
    prepared.cachedWrites _ conduct.keeps_payload ?_
  rintro held inPlace ⟨name, value⟩ _
  simp only
  cases Control.acceptNamed payload.controls name value 0 with
  | error error => exact inPlace
  | ok write => exact (written_aside write value held).1.trans inPlace

theorem carries_makeCachedWrites (payload : Payload) (device : Device) :
    Carries device.bus (device.makeCachedWrites payload).bus := by
  rw [bus_makeCachedWrites]
  exact Bus.carries_writes _ none device.bus

theorem carries_install (shaped : payload.Shaped) (device : Device) :
    Carries device.bus (device.install payload).bus := by
  have conduct : Conduct (some payload) (device.adopt payload)
      (initialiseAll payload (device.adopt payload)).1 none := settles_initialiseAll shaped _
  rw [install_eq]
  generalize (initialiseAll payload (device.adopt payload)).1 = prepared at conduct ⊢
  have early : Carries device.bus prepared.bus := conduct.carries
  exact early.trans (carries_makeCachedWrites payload prepared)

/--
An installation latches every refused call but those of the writes that waited, which are left aside
at the installation.
-/
theorem minds_install (shaped : payload.Shaped) (device : Device) :
    Minds (some payload) device.cachedWrites none device (device.install payload) := by
  have conduct : Conduct (some payload) (device.adopt payload)
      (initialiseAll payload (device.adopt payload)).1 none := settles_initialiseAll shaped _
  have unrestarted := (plain_initialiseAll payload (device.adopt payload)).restarts
  rw [install_eq]
  generalize (initialiseAll payload (device.adopt payload)).1 = prepared at conduct unrestarted ⊢
  have minds : Minds (some payload) device.cachedWrites none (device.adopt payload) prepared :=
    conduct.minds unrestarted
  have kept := (works_makeCachedWrites payload prepared).failing
  have waits : prepared.cachedWrites = device.cachedWrites := conduct.keeps_cachedWrites
  have caught := bus_makeCachedWrites payload prepared
  rw [waits] at caught
  obtain ⟨_, late, made, _⟩ :=
    Bus.makes_writes (caughtUp payload device.cachedWrites) none prepared.bus
  obtain ⟨dispatched, passed⟩ := history_makeCachedWrites payload prepared
  obtain ⟨calls, noted, events, aside, notes⟩ := minds.notes
  refine ⟨fun channel held => kept channel (minds.failing channel held), late ++ calls, noted,
    dispatched ++ (events ++ [.installed]), (dispatched.map fun _ => []) ++ (aside ++ [late]),
    ?_, ?_, ?_, ?_, ?_⟩
  · change (prepared.makeCachedWrites payload).bus.transport.attempts = _
    rw [caught, made, notes.made, List.append_assoc]
    rfl
  · change (prepared.makeCachedWrites payload).history = _
    rw [passed, notes.passed, List.append_assoc, List.append_assoc]
    rfl
  · rw [List.flatten_append, List.flatten_append, flatten_nothing]
    exact (List.Perm.append_left late notes.split).trans (List.perm_iff_count.mpr fun attempt => by
      simp only [List.count_append, List.flatten_cons, List.flatten_nil, List.nil_append,
        List.append_nil]
      omega)
  · have at_installation : LeftAside (some payload) device.cachedWrites .installed late :=
      .catchingUp rfl made
    exact List.rel_append (leftAside_nothing dispatched)
      (List.rel_append notes.leftAside (.cons at_installation .nil))
  · intro attempt member channel refused addressed
    exact (notes.known attempt member channel refused addressed).mono kept

end Device

end AmpControl
