import AmpControl.Proofs.Bus.Accesses
import AmpControl.Proofs.Device.Visits
import AmpControl.Proofs.Device.Watching

/-!
# Quiet channels

A recovery pass masks every channel, visits each of them, and unmasks those again that were not
found to fire. Where no call is refused and the hardware is not reset, a channel on which nothing
fires is accessed by these three deeds only, and is afterwards as it was, whatever the pass does on
other channels.
-/

namespace AmpControl

open Bus (Attempt Call Makes)
open Tuning (InterruptTable Payload Script)

namespace Device

variable {payload : Payload} {before middle after device held : Device} {channel : UInt8}
  {calls early late : List Call} {change first second : ChannelState → ChannelState}
  {fault : Option TransportFault}

/-- A change that leaves the state of a channel as it is changes nothing. -/
theorem onChannel_of_fixed (fixed : ∀ state, device.channel? channel = some state →
    change state = state) : device.onChannel channel change = device := by
  have same : device.channels.modify channel.toNat change = device.channels := by
    apply List.ext_getElem?
    intro place
    rw [List.getElem?_modify]
    by_cases here : channel.toNat = place
    · subst here
      cases found : device.channels[channel.toNat]? with
      | none => rfl
      | some state => simp [fixed state found]
    · simp [here]
  rw [onChannel, same]

/-! ## One channel -/

/--
Between two devices the registers of a channel were accessed as told and its state was changed as
told, and its deferred work stayed as it was.
-/
structure Treats (channel : UInt8) (calls : List Call) (change : ChannelState → ChannelState)
    (before after : Device) : Prop where
  accesses : after.bus.accesses channel = before.bus.accesses channel ++ calls
  state : after.channel? channel = (before.channel? channel).map change
  item : after.deferred.item? channel = before.deferred.item? channel

namespace Treats

theorem refl (device : Device) : Treats channel [] id device device :=
  ⟨(List.append_nil _).symm, (Option.map_id_apply).symm, rfl⟩

theorem trans (begun : Treats channel early first before middle)
    (ended : Treats channel late second middle after) :
    Treats channel (early ++ late) (second ∘ first) before after where
  accesses := by rw [ended.accesses, begun.accesses, List.append_assoc]
  state := by rw [ended.state, begun.state, Option.map_map]
  item := ended.item.trans begun.item

/-- What follows on something that left the channel alone. -/
theorem after_free (begun : Treats channel [] id before middle)
    (ended : Treats channel calls change middle after) :
    Treats channel calls change before after := begun.trans ended

theorem tail (begun : Treats channel calls change before middle)
    (ended : Treats channel [] id middle after) : Treats channel calls change before after := by
  have both := begun.trans ended
  rwa [List.append_nil] at both

/-- What is confined to other channels leaves the channel alone. -/
theorem of_confined (confined : Confined (· ≠ channel) before after fault) :
    Treats channel [] id before after where
  accesses := by
    rw [List.append_nil]
    apply Bus.accesses_of_elsewhere
    refine confined.calls.mono fun attempt ⟨other, apart, addressed⟩ same => apart ?_
    exact Option.some.inj (addressed.symm.trans same)
  state := (confined.states channel (not_not_intro rfl)).trans Option.map_id_apply.symm
  item := confined.items channel (not_not_intro rfl)

theorem latched (treats : Treats channel calls change before after)
    (fault : Option TransportFault) :
    Treats channel calls change before (after.latchFault fault) := by
  have noted : Confined (· ≠ channel) after (after.latchFault fault) none :=
    (Confined.refl after).latched fault
  exact treats.tail (.of_confined noted)

end Treats

theorem treats_run (role : Role) (script : Script) (device : Device)
    (clean : (run channel role script device).1.bus.refusals = device.bus.refusals) :
    Treats channel (script.accesses channel) id device (run channel role script device).1 :=
  ⟨Bus.accesses_execute clean, Option.map_id_apply.symm, rfl⟩

theorem treats_setUnmasked (channel : UInt8) (unmasked : Bool) (device : Device) :
    Treats channel [] (fun state => { state with unmasked := unmasked }) device
      (device.setUnmasked channel unmasked) := by
  refine ⟨(List.append_nil _).symm, ?_, rfl⟩
  rw [setUnmasked, channel?_onChannel, if_pos rfl]

theorem refusals_leaves (work : Work) (device : Device) :
    (work.leaves device).bus.refusals = (work device).1.bus.refusals := by
  rw [Work.leaves, bus_latchFault]

/-- Carries out a script by which interrupts become masked or unmasked. -/
def toggle (channel : UInt8) (role : Role) (script : Script) (unmasked : Bool) : Work :=
  Work.inOrder [run channel role script, Work.silent (setUnmasked channel unmasked)]

theorem treats_toggle (role : Role) (script : Script) (unmasked : Bool) (device : Device)
    (clean : (toggle channel role script unmasked device).1.bus.refusals =
      device.bus.refusals) :
    Treats channel (script.accesses channel) (fun state => { state with unmasked := unmasked })
      device (toggle channel role script unmasked device).1 := by
  unfold toggle at clean ⊢
  rw [Work.fst_inOrder_cons, Work.fst_inOrder_cons, Work.fst_inOrder_nil] at clean ⊢
  have ran : (run channel role script device).1.bus.refusals = device.bus.refusals := by
    rw [← refusals_leaves]
    exact (refusals_leaves _ _).symm.trans clean
  have scripted := (treats_run role script device ran).latched (run channel role script device).2
  have toggled := (treats_setUnmasked channel unmasked
    ((run channel role script).leaves device)).latched none
  have both := scripted.trans toggled
  rwa [List.append_nil] at both

theorem maskForSurvey_of_table {table : InterruptTable}
    (tabled : payload.interrupts? channel = some table) :
    maskForSurvey payload channel = toggle channel .mask table.mask false := by
  rw [maskForSurvey, tabled]
  rfl

theorem unmaskInterrupts_of_table {table : InterruptTable}
    (tabled : payload.interrupts? channel = some table) :
    unmaskInterrupts payload channel = toggle channel .unmask table.unmask true := by
  rw [unmaskInterrupts, tabled]
  rfl

/-- Work on each of some channels treats a channel as the part does that is its own. -/
theorem treats_each {work : UInt8 → Work} {channels : List UInt8} (distinct : channels.Nodup)
    (listed : channel ∈ channels)
    (on : ∀ (touched : UInt8 → Prop) (other : UInt8), touched other → (work other).On touched)
    (own : ∀ held : Device, Treats channel [] id device held →
      (work channel held).1.bus.refusals = held.bus.refusals →
      Treats channel calls change held (work channel held).1)
    (clean : (Work.each channels work device).1.bus.refusals = device.bus.refusals) :
    Treats channel calls change device (Work.each channels work device).1 := by
  obtain ⟨later, absent, whole⟩ := Work.each_split work distinct listed device
  have absentEarly := Channel.not_mem_before channel channels
  generalize Channel.before channel channels = early at whole absentEarly
  have begun := (Work.on_each_of_notMem absentEarly on).confined device
  have done := (on (· = channel) channel rfl).confined (Work.each early work device).1
  have ended := (Work.on_each_of_notMem absent on).confined
    ((work channel).leaves (Work.each early work device).1)
  rw [whole] at clean ⊢
  have free : Treats channel [] id device (Work.each early work device).1 := .of_confined begun
  have fewEarly := begun.calls.refusals
  have few := done.calls.refusals
  have fewLater := ended.calls.refusals
  have cleanOwn : (work channel (Work.each early work device).1).1.bus.refusals =
      (Work.each early work device).1.bus.refusals := by
    rw [refusals_leaves] at fewLater
    omega
  have treats := (own _ free cleanOwn).latched (work channel (Work.each early work device).1).2
  exact (free.after_free treats).tail (.of_confined ended)

/-- Work on other channels leaves a channel alone. -/
theorem treats_each_of_notMem {work : UInt8 → Work} {channels : List UInt8}
    (absent : channel ∉ channels)
    (on : ∀ (touched : UInt8 → Prop) (other : UInt8), touched other → (work other).On touched)
    (device : Device) : Treats channel [] id device (Work.each channels work device).1 :=
  .of_confined ((Work.on_each_of_notMem absent on).confined device)

/-! ## Visits that find nothing -/

/-- The accesses that masking the interrupts of a channel makes. -/
def maskAccesses (payload : Payload) (channel : UInt8) : List Call :=
  (payload.interrupts? channel).elim [] fun table => table.mask.accesses channel

/-- The accesses that polling a channel makes. -/
def pollAccesses (payload : Payload) (channel : UInt8) (powered : Bool) : List Call :=
  (payload.interrupts? channel).elim [] fun table =>
    (table.polledRegisters powered).map (.read channel)

/-- The accesses that unmasking the interrupts of a channel makes, where that is done. -/
def unmaskAccesses (payload : Payload) (channel : UInt8) (quiet : Bool) : List Call :=
  (payload.interrupts? channel).elim [] fun table =>
    if quiet then table.unmask.accesses channel else []

/-- Nothing that a look at a channel shows belongs to its sources. -/
def Silent (payload : Payload) (look : Look) : Prop :=
  ∀ table, payload.interrupts? look.channel = some table →
    ∀ source ∈ table.sources, look.shows source = false

/-- A poll that finds nothing leaves the counters as they are. -/
theorem poll_of_silent {table : InterruptTable} {powered : Bool} (device : Device)
    (silent : ∀ source ∈ table.sources,
      (⟨channel, powered, device.bus⟩ : Look).shows source = false) :
    ∃ polled : Poll, device.poll table channel powered =
        ({ device with bus := polled.bus }, polled.result channel) ∧
      polled.reading = .quiet ∧
      (polled.bus.refusals = device.bus.refusals → polled.result channel = .ok .quiet ∧
        polled.bus.accesses channel =
          device.bus.accesses channel ++ (table.polledRegisters powered).map (.read channel)) := by
  let look : Look := ⟨channel, powered, device.bus⟩
  let polled := table.classify channel powered (device.tally channel) device.bus
  have reading : polled.reading = .quiet :=
    Tuning.InterruptTable.reading_of_silent silent (device.tally channel)
  refine ⟨polled, ?_, reading, fun clean => ⟨?_, table.accesses_classify channel powered _ _ clean⟩⟩
  · have counters : polled.counters = device.tally channel := by
      have noted : polled.counters = look.note table (device.tally channel) :=
        table.counters_classify look _
      rw [noted, Look.note_of_silent silent]
    have same : ({ device with bus := polled.bus } : Device).onChannel channel
        (fun state => { state with counters := polled.counters }) =
          { device with bus := polled.bus } := by
      apply onChannel_of_fixed
      intro state there
      have found : device.channel? channel = some state := there
      rw [counters, tally, found]
      rfl
    exact Prod.ext same rfl
  · have result := table.result_of_clean channel powered (device.tally channel) device.bus clean
    exact result.trans (congrArg _ reading)

namespace Pass

variable {pass : Pass} {start : Nat}

/-- The look that a visit takes at a channel. -/
def look (channel : UInt8) (pass : Pass) : Look :=
  ⟨channel, pass.device.power channel = .active, pass.device.bus⟩

/-- A visit that finds nothing only makes its reads. -/
theorem visit_of_silent (silent : Silent payload (pass.look channel)) (start : Nat)
    (clean : (pass.visit payload start channel).device.bus.refusals = pass.device.bus.refusals) :
    ∃ bus, pass.visit payload start channel =
        { pass with device := { pass.device with bus := bus } } ∧
      bus.accesses channel = pass.device.bus.accesses channel ++
        pollAccesses payload channel (pass.device.power channel = .active) := by
  have visit := visit_spec payload start channel pass
  generalize pass.visit payload start channel = after at visit clean ⊢
  cases visit with
  | unwatched untabled => exact ⟨pass.device.bus, rfl, by simp [pollAccesses, untabled]⟩
  | @unread table polled fault tabled poll =>
      obtain ⟨held, found, _, spared⟩ := poll_of_silent pass.device (silent table tabled)
      obtain ⟨rfl, failed⟩ := Prod.mk.inj (poll.symm.trans found)
      have same : held.bus.refusals = pass.device.bus.refusals :=
        (refusals_leaves (fun device => (device, some fault)) _).symm.trans clean
      rw [(spared same).1] at failed
      cases failed
  | @quiet table polled reading tabled poll =>
      obtain ⟨held, found, _, spared⟩ := poll_of_silent pass.device (silent table tabled)
      obtain ⟨rfl, _⟩ := Prod.mk.inj (poll.symm.trans found)
      refine ⟨held.bus, rfl, ?_⟩
      rw [pollAccesses, tabled]
      exact (spared clean).2
  | @fired table polled reading tabled poll loud =>
      obtain ⟨held, found, nothing, _⟩ := poll_of_silent pass.device (silent table tabled)
      obtain ⟨rfl, answered⟩ := Prod.mk.inj (poll.symm.trans found)
      have same : reading = held.reading := by
        unfold Poll.result at answered
        split at answered
        · exact Except.ok.inj answered
        · cases answered
      rw [same, nothing] at loud
      cases loud

end Pass

/-! ## What fires in a pass -/

theorem Pass.looks_append (start : Nat) (early late : List UInt8) (pass : Pass) :
    Pass.looks payload start (early ++ late) pass =
      Pass.looks payload start early pass ++
        Pass.looks payload start late (pass.visits payload start early) := by
  induction early generalizing pass with
  | nil => rfl
  | cons first others ih =>
      rw [List.cons_append, looks, looks, ih, List.append_assoc]
      rfl

/-- A look that a recovery pass takes at a channel shows one of its sources. -/
def Fires (payload : Payload) (channel : UInt8) (device : Device) : Prop :=
  ∃ table, payload.interrupts? channel = some table ∧ ∃ source ∈ table.sources,
    ∃ look ∈ device.surveyLooks payload, look.channel = channel ∧ look.shows source = true

instance (payload : Payload) (channel : UInt8) (device : Device) :
    Decidable (device.Fires payload channel) :=
  decidable_of_iff ((payload.interrupts? channel).any fun table => table.sources.any fun source =>
    (device.surveyLooks payload).any fun look => look.channel == channel && look.shows source)
    (by simp [Fires, Option.any_eq_true])

theorem silent_of_quiet (declared : channel < payload.channelCount)
    (quiet : ¬device.Fires payload channel) :
    Silent payload ((device.passBefore payload channel).look channel) := by
  intro table tabled source member
  by_contra shown
  obtain ⟨later, split, _⟩ := Channel.upTo_split declared
  refine quiet ⟨table, tabled, source, member, (device.passBefore payload channel).look channel,
    ?_, rfl, (Bool.not_eq_false _).mp shown⟩
  have here : (device.passBefore payload channel).device.lookAt payload channel
      ((device.passBefore payload channel).device.power channel = .active) =
        [(device.passBefore payload channel).look channel] := by
    have found : payload.interrupts? channel = some table := tabled
    rw [lookAt, found]
    rfl
  rw [surveyLooks, Payload.allChannels, split, Pass.looks_append, Pass.looks]
  refine List.mem_append_right _ (List.mem_append_left _ ?_)
  have listed : (device.passBefore payload channel).look channel ∈
      (device.passBefore payload channel).device.lookAt payload channel
        ((device.passBefore payload channel).device.power channel = .active) := by
    rw [here]
    exact List.mem_singleton_self _
  exact listed

/-! ## Passes without a refusal -/

theorem grows_escalate (payload : Payload) (device : Device) :
    device.bus.refusals ≤ (device.escalate payload).bus.refusals ∧
      device.hardRecoveries ≤ (device.escalate payload).hardRecoveries := by
  have outcome := escalation payload device
  generalize device.escalate payload = after at outcome ⊢
  cases outcome with
  | spared => exact ⟨Nat.le_refl _, Nat.le_refl _⟩
  | restarted =>
      have works := works_restarted payload device
      exact works.toAccounts.grows
  | lockedOut =>
      have accounts : Accounts [] (fun _ => True) (fun _ => False) device
          (device.lockOut payload (device.free payload)) := accounts_lockOut _ _
      exact accounts.grows

/-- In a recovery pass no call is refused, and no channel is recovered by resetting the hardware. -/
structure Undisturbed (payload : Payload) (device : Device) : Prop where
  accepted : (device.survey payload).1.bus.refusals = device.bus.refusals
  spared : (device.survey payload).1.hardRecoveries = device.hardRecoveries

namespace Undisturbed

theorem surveyed (undisturbed : Undisturbed payload device) (sound : device.Sound payload) :
    (device.surveyedPass payload).device.bus.refusals = device.bus.refusals ∧
      (device.surveyedPass payload).device.hardRecoveries = device.hardRecoveries := by
  obtain ⟨accepted, spared⟩ := undisturbed
  have sofar : device.bus.refusals ≤ (device.surveyedPass payload).device.bus.refusals ∧
      device.hardRecoveries ≤ (device.surveyedPass payload).device.hardRecoveries :=
    (proceeds_unended sound).grows
  have ended : (device.surveyedPass payload).device.bus.refusals ≤
        (device.endedPass payload).bus.refusals ∧
      (device.surveyedPass payload).device.hardRecoveries ≤
        (device.endedPass payload).hardRecoveries := by
    unfold endedPass
    split
    · exact grows_escalate payload _
    · exact ⟨Nat.le_refl _, Nat.le_refl _⟩
  have told : (device.survey payload).1.bus.refusals = (device.endedPass payload).bus.refusals ∧
      (device.survey payload).1.hardRecoveries = (device.endedPass payload).hardRecoveries :=
    ⟨rfl, rfl⟩
  omega

/-- So it is at every moment of the pass. -/
theorem between (undisturbed : Undisturbed payload device) (sound : device.Sound payload)
    {pass : Pass} (early : (Pass.begun device).Proceeds payload pass)
    (late : pass.Proceeds payload (device.surveyedPass payload)) :
    pass.device.bus.refusals = device.bus.refusals ∧
      pass.device.hardRecoveries = device.hardRecoveries := by
  obtain ⟨accepted, spared⟩ := undisturbed.surveyed sound
  have first : device.bus.refusals ≤ pass.device.bus.refusals ∧
      device.hardRecoveries ≤ pass.device.hardRecoveries := early.grows
  have second := late.grows
  omega

theorem masked (undisturbed : Undisturbed payload device) (sound : device.Sound payload) :
    (device.maskedPass payload).device.bus.refusals = device.bus.refusals ∧
      (device.maskedPass payload).device.hardRecoveries = device.hardRecoveries :=
  undisturbed.between sound (proceeds_maskedPass sound) (proceeds_surveyedPass sound)

theorem visited (undisturbed : Undisturbed payload device) (sound : device.Sound payload) :
    (device.visitedPass payload).device.bus.refusals = device.bus.refusals ∧
      (device.visitedPass payload).device.hardRecoveries = device.hardRecoveries :=
  undisturbed.between sound ((proceeds_maskedPass sound).trans (proceeds_visitedPass sound))
    (proceeds_unmasked sound)

/-- Such a pass meets no fault, so it does not end with an escalation. -/
theorem survey_eq (undisturbed : Undisturbed payload device) (sound : device.Sound payload) :
    (device.surveyedPass payload).fault = none ∧
      (device.survey payload).1 = (device.surveyedPass payload).device.record
        (.surveyed (device.maskedPass payload).device.clock
          (device.surveyedPass payload).report) := by
  obtain ⟨accepted, _⟩ := undisturbed.surveyed sound
  obtain ⟨_, sparedMasked⟩ := undisturbed.masked sound
  obtain ⟨_, sparedVisited⟩ := undisturbed.visited sound
  have masks : Pass.Confines (fun _ => True) (Pass.begun device) (device.maskedPass payload) :=
    Pass.confines_perform (Work.on_each fun _ _ => Work.on_maskForSurvey trivial) _
  have visits : Pass.Confines (fun _ => True) (device.maskedPass payload)
      (device.visitedPass payload) :=
    Pass.confines_visits (fun _ _ => trivial) (proceeds_maskedPass sound).safe.sound
      (fun _ member => Payload.mem_allChannels.mp member) _
      (sparedVisited.trans sparedMasked.symm)
  have unmasks : Pass.Confines (fun _ => True) (device.visitedPass payload)
      (device.surveyedPass payload) :=
    Pass.confines_perform (Work.on_each fun _ _ => Work.on_unmaskAgain trivial) _
  have clean : (device.surveyedPass payload).fault = none :=
    ((masks.trans visits).trans unmasks).blamed accepted rfl
  refine ⟨clean, ?_⟩
  rw [fst_survey, endedPass, clean]
  rfl

end Undisturbed

/-! ## A quiet channel in a pass -/

/-- What masking the interrupts of a channel makes of its state, if it has an interrupt table. -/
def masked (payload : Payload) (channel : UInt8) (state : ChannelState) : ChannelState :=
  if (payload.interrupts? channel).isSome then { state with unmasked := false } else state

/-- What unmasking them again makes of it, where that is done. -/
def remasked (payload : Payload) (channel : UInt8) (quiet : Bool) (state : ChannelState) :
    ChannelState :=
  if (payload.interrupts? channel).isSome ∧ quiet then { state with unmasked := true } else state

/-- A channel that was masked and unmasked again, if it was unmasked before, is as it was. -/
theorem remasked_masked (payload : Payload) (channel : UInt8) (state : ChannelState) :
    remasked payload channel state.unmasked (masked payload channel state) = state := by
  obtain ⟨power, unmasked, debounce, counters⟩ := state
  unfold remasked masked
  cases (payload.interrupts? channel).isSome <;> cases unmasked <;> rfl

theorem treats_maskedPass (declared : channel < payload.channelCount)
    (clean : (device.maskedPass payload).device.bus.refusals = device.bus.refusals) :
    Treats channel (maskAccesses payload channel) (masked payload channel) device
      (device.maskedPass payload).device := by
  have accepted : (Work.each payload.allChannels (maskForSurvey payload) device).1.bus.refusals =
      device.bus.refusals := (refusals_leaves _ _).symm.trans clean
  refine (treats_each (Channel.nodup_upTo _) (Payload.mem_allChannels.mpr declared)
    (fun _ _ here => Work.on_maskForSurvey here) (fun held _ cleanHeld => ?_) accepted).latched _
  unfold maskAccesses masked
  cases tabled : payload.interrupts? channel with
  | none =>
      have idle : maskForSurvey payload channel = Work.idle := by rw [maskForSurvey, tabled]
      rw [idle]
      exact .refl held
  | some table =>
      rw [maskForSurvey_of_table tabled] at cleanHeld ⊢
      exact treats_toggle .mask table.mask false held cleanHeld

/-- The channels that are unmasked again are those that were unmasked and did not fire. -/
theorem mem_quietChannels (sound : device.Sound payload) (declared : channel < payload.channelCount)
    (undetected : Channel.within (device.visitedPass payload).report.detected channel = false) :
    channel ∈ device.quietChannels payload ↔ device.unmasked channel = true := by
  have small := sound.shaped.lt_eight declared
  have below : ∀ other ∈ payload.allChannels.filter device.unmasked, other < 8 :=
    fun other member =>
      sound.shaped.lt_eight (Payload.mem_allChannels.mp (List.mem_filter.mp member).1)
  rw [quietChannels, Channel.mem_among, Channel.within_and, Channel.within_not _ small, undetected,
    Channel.within_mask below]
  simp [declared]

/-- A channel on which nothing was found is unmasked again if it was unmasked before. -/
theorem treats_unmasked {pass : Pass} {quiet : List UInt8} {unmasked : Bool}
    (distinct : quiet.Nodup) (listed : channel ∈ quiet ↔ unmasked = true)
    (waiting : unmasked = true → pass.device.waiting channel = false)
    (wasMasked : (payload.interrupts? channel).isSome → pass.device.unmasked channel = false)
    (clean : (pass.perform (Work.each quiet (Pass.unmaskAgain payload))).device.bus.refusals =
      pass.device.bus.refusals) :
    Treats channel (unmaskAccesses payload channel unmasked) (remasked payload channel unmasked)
      pass.device
      (pass.perform (Work.each quiet (Pass.unmaskAgain payload))).device := by
  have accepted : (Work.each quiet (Pass.unmaskAgain payload) pass.device).1.bus.refusals =
      pass.device.bus.refusals := (refusals_leaves _ _).symm.trans clean
  have on (touched : UInt8 → Prop) (other : UInt8) (here : touched other) :
      (Pass.unmaskAgain payload other).On touched := Work.on_unmaskAgain here
  have kept : remasked payload channel false = id := by
    funext state
    simp [remasked]
  cases unmasked with
  | false =>
      have absent : channel ∉ quiet := fun member => Bool.false_ne_true (listed.mp member)
      have free := (treats_each_of_notMem absent on pass.device).latched
        (Work.each quiet (Pass.unmaskAgain payload) pass.device).2
      rw [kept, unmaskAccesses]
      cases payload.interrupts? channel <;> exact free
  | true =>
      refine (treats_each distinct (listed.mpr rfl) on (fun held spared cleanHeld => ?_)
        accepted).latched _
      rw [Pass.unmaskAgain, Work.reading_apply] at cleanHeld ⊢
      have heldWaiting : held.waiting channel = false := by
        rw [Device.waiting, DeferredQueue.isPending, spared.item]
        exact waiting rfl
      have heldUnmasked : held.unmasked channel = pass.device.unmasked channel := by
        rw [Device.unmasked, spared.state, Option.map_id, Device.unmasked]
        rfl
      rw [heldWaiting, heldUnmasked] at cleanHeld ⊢
      unfold unmaskAccesses remasked
      cases tabled : payload.interrupts? channel with
      | none =>
          have idle : unmaskInterrupts payload channel = Work.idle := by
            rw [unmaskInterrupts, tabled]
          rw [idle, ite_self]
          exact .refl held
      | some table =>
          have open_ : pass.device.unmasked channel = false := wasMasked (by rw [tabled]; rfl)
          rw [open_, if_neg (by simp), unmaskInterrupts_of_table tabled] at cleanHeld ⊢
          exact treats_toggle .unmask table.unmask true held cleanHeld

/-- The visits before and after that of a channel concern other channels, and no visit is refused. -/
theorem confines_other_visits (undisturbed : Undisturbed payload device)
    (sound : device.Sound payload) (declared : channel < payload.channelCount) :
    let visited := (device.passBefore payload channel).visit payload
      (device.maskedPass payload).device.clock channel
    Pass.Confines (· ≠ channel) (device.maskedPass payload) (device.passBefore payload channel) ∧
      visited.device.bus.refusals = (device.passBefore payload channel).device.bus.refusals ∧
      Pass.Confines (· ≠ channel) visited (device.visitedPass payload) := by
  intro visited
  obtain ⟨later, late, laterDeclared, split⟩ := visitedPass_split device declared
  have masks := proceeds_maskedPass sound
  have early : (device.maskedPass payload).Proceeds payload (device.passBefore payload channel) :=
    Pass.proceeds_visits masks.safe.sound (fun _ => declared_of_before) _
  have here : (device.passBefore payload channel).Proceeds payload visited :=
    Pass.proceeds_visit early.safe.sound declared _
  have rest : visited.Proceeds payload (device.visitedPass payload) :=
    split ▸ Pass.proceeds_visits here.safe.sound laterDeclared _
  have unmasks := proceeds_unmasked sound
  -- Nothing was refused or reset before the visit, in it or after it.
  have whenReached := undisturbed.between sound (masks.trans early)
    (here.trans (rest.trans unmasks))
  have whenLooked := undisturbed.between sound ((masks.trans early).trans here)
    (rest.trans unmasks)
  refine ⟨?_, whenLooked.1.trans whenReached.1.symm, ?_⟩
  · have apart : ∀ other ∈ Channel.before channel payload.allChannels, other ≠ channel :=
      fun other member same => Channel.not_mem_before channel _ (same ▸ member)
    exact Pass.confines_visits apart masks.safe.sound (fun _ => declared_of_before) _
      (whenReached.2.trans (undisturbed.masked sound).2.symm)
  · have apart : ∀ other ∈ later, other ≠ channel := fun other member same =>
      late (same ▸ member)
    have visits := Pass.confines_visits apart here.safe.sound laterDeclared
      (device.maskedPass payload).device.clock
    rw [← split] at visits
    exact visits ((undisturbed.visited sound).2.trans whenLooked.2.symm)

/-- Visits to other channels and a visit that finds nothing treat a channel as polled. -/
theorem treats_visitedPass (undisturbed : Undisturbed payload device)
    (sound : device.Sound payload) (declared : channel < payload.channelCount)
    (quiet : ¬device.Fires payload channel) :
    Treats channel
        (pollAccesses payload channel ((device.maskedPass payload).device.power channel = .active))
        id (device.maskedPass payload).device (device.visitedPass payload).device ∧
      Channel.within (device.visitedPass payload).report.detected channel = false := by
  have small := sound.shaped.lt_eight declared
  obtain ⟨before, accepted, after⟩ := confines_other_visits undisturbed sound declared
  obtain ⟨bus, visited, reads⟩ := Pass.visit_of_silent (silent_of_quiet declared quiet)
    (device.maskedPass payload).device.clock accepted
  rw [visited] at after
  have untouched := Treats.of_confined before.confined
  have playing : (device.passBefore payload channel).device.power channel =
      (device.maskedPass payload).device.power channel := by
    rw [Device.power, untouched.state, Option.map_id, Device.power]
    rfl
  rw [playing] at reads
  have looked : Treats channel _ id (device.passBefore payload channel).device
      { (device.passBefore payload channel).device with bus := bus } :=
    ⟨reads, Option.map_id_apply.symm, rfl⟩
  refine ⟨(untouched.after_free looked).tail (.of_confined after.confined), ?_⟩
  rw [after.told channel small (not_not_intro rfl)]
  exact (before.told channel small (not_not_intro rfl)).trans (Channel.within_zero channel)

/--
A channel on which nothing fires is masked, polled, and unmasked again if it was unmasked before.
Afterwards its state and its deferred work are as they were.
-/
theorem treats_survey (undisturbed : Undisturbed payload device) (sound : device.Sound payload)
    (declared : channel < payload.channelCount) (quiet : ¬device.Fires payload channel) :
    Treats channel (maskAccesses payload channel ++
        pollAccesses payload channel (device.power channel = .active) ++
        unmaskAccesses payload channel (device.unmasked channel))
      id device (device.survey payload).1 := by
  have whenVisited := undisturbed.visited sound
  have whenDone := undisturbed.surveyed sound
  have began := treats_maskedPass declared (undisturbed.masked sound).1
  obtain ⟨visited, undetected⟩ := treats_visitedPass undisturbed sound declared quiet
  have sofar := began.trans visited
  obtain ⟨state, held⟩ := sound.state declared
  have unmasked : device.unmasked channel = state.unmasked := by rw [Device.unmasked, held]; rfl
  have power : (device.maskedPass payload).device.power channel = device.power channel := by
    rw [Device.power, began.state, Device.power, held, Option.map_some, masked]
    split <;> rfl
  have closed : Treats channel (unmaskAccesses payload channel (device.unmasked channel))
      (remasked payload channel (device.unmasked channel))
      (device.visitedPass payload).device (device.surveyedPass payload).device := by
    refine treats_unmasked ((Channel.nodup_upTo _).filter _)
      (mem_quietChannels sound declared undetected) (fun fires => ?_) (fun tabled => ?_)
      (whenDone.1.trans whenVisited.1.symm)
    · rw [Device.waiting, DeferredQueue.isPending, sofar.item]
      exact ((sound.allowed channel).unmasked fires).2
    · rw [Device.unmasked, sofar.state, held]
      simp [masked, tabled]
  have whole := sofar.trans closed
  rw [(undisturbed.survey_eq sound).2]
  constructor
  · have made := whole.accesses
    rw [power] at made
    exact made
  · have changed := whole.state
    rw [held] at changed ⊢
    rw [unmasked] at changed
    exact changed.trans (congrArg some (remasked_masked payload channel state))
  · exact whole.item

/-! ## A pass in which nothing fires -/

/-- Nothing but the bus, the history and the states of channels changed. -/
def Still (before after : Device) : Prop :=
  after = { before with bus := after.bus, channels := after.channels, history := after.history }

theorem Still.trans (first : Still before middle) (second : Still middle after) :
    Still before after := by
  unfold Still at first second ⊢
  rw [first] at second
  exact second

/-- Work in which no call is refused meets no fault. -/
theorem leaves_of_clean {touched : UInt8 → Prop} {work : Work} (on : work.On touched)
    (clean : (work.leaves device).bus.refusals = device.bus.refusals) :
    work.leaves device = (work device).1 := by
  rw [refusals_leaves] at clean
  have met : (work device).2 = none := by
    by_contra failed
    exact absurd clean (Nat.ne_of_gt ((on.confined device).blamed failed))
  rw [Work.leaves, met]
  rfl

theorem still_toggle (role : Role) (script : Script) (unmasked : Bool)
    (clean : (toggle channel role script unmasked device).1.bus.refusals = device.bus.refusals) :
    Still device (toggle channel role script unmasked device).1 := by
  have ran : Work.On (fun _ => True) (run channel role script) := .run trivial role script
  unfold toggle at clean ⊢
  rw [Work.fst_inOrder_cons, Work.fst_inOrder_cons, Work.fst_inOrder_nil] at clean ⊢
  have accepted : ((run channel role script).leaves device).bus.refusals = device.bus.refusals :=
    (refusals_leaves _ _).symm.trans clean
  rw [leaves_of_clean ran accepted]
  rfl

/-- Work on some channels is still where it is so on each of them. -/
theorem still_each {work : UInt8 → Work} {channels : List UInt8}
    (on : ∀ channel, (work channel).On fun _ => True)
    (still : ∀ channel (held : Device), (work channel held).1.bus.refusals = held.bus.refusals →
      Still held (work channel held).1)
    (clean : (Work.each channels work device).1.bus.refusals = device.bus.refusals) :
    Still device (Work.each channels work device).1 := by
  induction channels generalizing device with
  | nil => rfl
  | cons channel others ih =>
      have first := ((on channel).confined device).calls.refusals
      have onOthers : (Work.each others work).On fun _ => True :=
        Work.on_each fun other _ => on other
      have rest := (onOthers.confined ((work channel).leaves device)).calls.refusals
      have whole : (Work.each (channel :: others) work device).1 =
          (Work.each others work ((work channel).leaves device)).1 := by
        simp only [Work.each, List.map_cons, Work.fst_inOrder_cons]
      rw [whole] at clean ⊢
      rw [refusals_leaves] at rest
      have accepted : ((work channel).leaves device).bus.refusals = device.bus.refusals := by
        rw [refusals_leaves]
        omega
      refine Still.trans ?_ (ih (clean.trans accepted.symm))
      rw [leaves_of_clean (on channel) accepted]
      exact still channel device ((refusals_leaves _ _).symm.trans accepted)

/-- So is a part of a pass that does such work. -/
theorem Pass.still_perform {work : UInt8 → Work} {channels : List UInt8} {pass : Pass}
    (on : ∀ channel, (work channel).On fun _ => True)
    (still : ∀ channel (held : Device), (work channel held).1.bus.refusals = held.bus.refusals →
      Still held (work channel held).1)
    (clean : (pass.perform (Work.each channels work)).device.bus.refusals =
      pass.device.bus.refusals) :
    Still pass.device (pass.perform (Work.each channels work)).device := by
  have whole : (pass.perform (Work.each channels work)).device =
      (Work.each channels work pass.device).1 :=
    leaves_of_clean (Work.on_each fun channel _ => on channel) clean
  rw [whole] at clean ⊢
  exact still_each on still clean

theorem still_unmaskInterrupts
    (clean : (unmaskInterrupts payload channel device).1.bus.refusals = device.bus.refusals) :
    Still device (unmaskInterrupts payload channel device).1 := by
  cases tabled : payload.interrupts? channel with
  | none =>
      rw [unmaskInterrupts, tabled]
      rfl
  | some table =>
      rw [unmaskInterrupts_of_table tabled] at clean ⊢
      exact still_toggle .unmask table.unmask true clean

theorem still_maskForSurvey
    (clean : (maskForSurvey payload channel device).1.bus.refusals = device.bus.refusals) :
    Still device (maskForSurvey payload channel device).1 := by
  cases tabled : payload.interrupts? channel with
  | none =>
      rw [maskForSurvey, tabled]
      rfl
  | some table =>
      rw [maskForSurvey_of_table tabled] at clean ⊢
      exact still_toggle .mask table.mask false clean

theorem still_unmaskAgain
    (clean : (Pass.unmaskAgain payload channel device).1.bus.refusals = device.bus.refusals) :
    Still device (Pass.unmaskAgain payload channel device).1 := by
  rw [Pass.unmaskAgain, Work.reading_apply] at clean ⊢
  split
  · rfl
  · rename_i opens
    rw [if_neg opens] at clean
    exact still_unmaskInterrupts clean

/-- Where nothing fires at all, no look that the pass takes shows anything. -/
theorem silent_of_nothing (nothing : ∀ channel, ¬device.Fires payload channel) :
    ∀ look ∈ device.surveyLooks payload, Silent payload look := by
  intro look taken table tabled source member
  by_contra shown
  exact nothing look.channel ⟨table, tabled, source, member, look, taken, rfl,
    (Bool.not_eq_false _).mp shown⟩

/-- Visits that find nothing only make their reads. -/
theorem Pass.visits_of_silent {pass : Pass} {channels : List UInt8} {start : Nat}
    (silent : ∀ look ∈ Pass.looks payload start channels pass, Silent payload look)
    (sound : pass.device.Sound payload)
    (declared : ∀ channel ∈ channels, channel < payload.channelCount)
    (clean : (pass.visits payload start channels).device.bus.refusals =
      pass.device.bus.refusals) :
    ∃ bus, pass.visits payload start channels =
      { pass with device := { pass.device with bus := bus } } := by
  induction channels generalizing pass with
  | nil => exact ⟨pass.device.bus, rfl⟩
  | cons channel others ih =>
      obtain ⟨declaredFirst, declaredOthers⟩ := List.forall_mem_cons.mp declared
      have first := Pass.proceeds_visit sound declaredFirst start
      have rest : Proceeds payload (pass.visit payload start channel)
          (pass.visits payload start (channel :: others)) :=
        Pass.proceeds_visits first.safe.sound declaredOthers start
      have accepted : (pass.visit payload start channel).device.bus.refusals =
          pass.device.bus.refusals := by
        have early := first.grows
        have late := rest.grows
        omega
      have here : Silent payload (pass.look channel) := by
        intro table tabled
        have taken : pass.look channel ∈ Pass.looks payload start (channel :: others) pass := by
          have found : payload.interrupts? channel = some table := tabled
          rw [looks, lookAt, found]
          exact List.mem_append_left _ (List.mem_singleton_self _)
        exact silent _ taken table tabled
      obtain ⟨seen, visited, _⟩ := Pass.visit_of_silent here start accepted
      obtain ⟨bus, ended⟩ := ih (fun look member => silent look (List.mem_append_right _ member))
        first.safe.sound declaredOthers (clean.trans accepted.symm)
      refine ⟨bus, ended.trans ?_⟩
      rw [visited]

/-- Where nothing fires at all, every channel ends a pass as it began it. -/
theorem channels_surveyedPass (undisturbed : Undisturbed payload device)
    (sound : device.Sound payload) (nothing : ∀ channel, ¬device.Fires payload channel) :
    (device.surveyedPass payload).device.channels = device.channels := by
  have ended := (proceeds_unended sound).safe.sound
  apply List.ext_getElem?
  intro place
  by_cases inside : place < payload.channelCount.toNat
  · have small : place < UInt8.size := Nat.lt_trans inside payload.channelCount.toNat_lt
    have declared : UInt8.ofNat place < payload.channelCount := by
      rw [UInt8.lt_iff_toNat_lt, UInt8.toNat_ofNat_of_lt' small]
      exact inside
    have kept := (treats_survey undisturbed sound declared (nothing _)).state
    rw [(undisturbed.survey_eq sound).2, Option.map_id, channel?, channel?,
      UInt8.toNat_ofNat_of_lt' small] at kept
    exact kept
  · have outside : payload.channels.length ≤ place := by
      rw [← sound.shaped.toNat_channelCount]
      exact Nat.le_of_not_lt inside
    rw [List.getElem?_eq_none (sound.length_channels.trans_le outside),
      List.getElem?_eq_none (ended.length_channels.trans_le outside)]

/-- A pass in which nothing fires at all changes nothing, and reports nothing. -/
theorem survey_of_nothing (undisturbed : Undisturbed payload device) (sound : device.Sound payload)
    (nothing : ∀ channel, ¬device.Fires payload channel) :
    (device.survey payload).1 = { device with
        bus := (device.survey payload).1.bus
        history := (device.survey payload).1.history } ∧
      (device.survey payload).2 = .nothing := by
  have whenMasked := undisturbed.masked sound
  have whenVisited := undisturbed.visited sound
  have whenDone := undisturbed.surveyed sound
  have masked : Still device (device.maskedPass payload).device :=
    (Pass.begun device).still_perform (fun _ => Work.on_maskForSurvey trivial)
      (fun _ _ => still_maskForSurvey) whenMasked.1
  obtain ⟨bus, visited⟩ : ∃ bus, device.visitedPass payload = { device.maskedPass payload with
      device := { (device.maskedPass payload).device with bus := bus } } :=
    Pass.visits_of_silent (silent_of_nothing nothing) (proceeds_maskedPass sound).safe.sound
      (fun _ member => Payload.mem_allChannels.mp member) (whenVisited.1.trans whenMasked.1.symm)
  have seen : Still (device.maskedPass payload).device (device.visitedPass payload).device := by
    rw [visited]
    rfl
  have unmasked : Still (device.visitedPass payload).device
      (device.surveyedPass payload).device :=
    (device.visitedPass payload).still_perform (fun _ => Work.on_unmaskAgain trivial)
      (fun _ _ => still_unmaskAgain) (whenDone.1.trans whenVisited.1.symm)
  have still : Still device (device.surveyedPass payload).device :=
    (masked.trans seen).trans unmasked
  have report : (device.surveyedPass payload).report = .nothing := by
    have same : (device.surveyedPass payload).report = (device.visitedPass payload).report := rfl
    rw [same, visited]
    rfl
  refine ⟨?_, report⟩
  rw [(undisturbed.survey_eq sound).2]
  unfold Still at still
  rw [channels_surveyedPass undisturbed sound nothing] at still
  rw [still]
  rfl

end Device

end AmpControl
