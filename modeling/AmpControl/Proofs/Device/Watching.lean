import AmpControl.Proofs.Device.Composition
import AmpControl.Proofs.Device.Encounter
import AmpControl.Proofs.Device.Escalation
import AmpControl.Proofs.Interrupt.Looks

/-!
# Watching the channels

Recovery passes and deferred work look at the status registers of channels. Here the looks that they
take are listed in order, and it is shown that the counters change by these looks and by nothing
else: scripts, power transitions, resets, restarts and lock-outs leave every counter as it is.
-/

namespace AmpControl

open Tuning (InterruptTable Payload)

namespace Device

variable {armed : Prop} {payload : Payload} {device before middle after : Device}
  {channel : UInt8} {looks early late : List Look}

/-! ## Counting looks -/

/-- The counters of a channel; a channel that is not there has none. -/
def tally (device : Device) (channel : UInt8) : List Counter :=
  ((device.channel? channel).map (·.counters)).getD []

/-- The counters of all channels once looks are counted, in order. -/
def noted (payload : Payload) (looks : List Look) (tally : UInt8 → List Counter) :
    UInt8 → List Counter :=
  looks.foldl (fun held look =>
    match payload.interrupts? look.channel with
    | some table => Function.update held look.channel (look.note table (held look.channel))
    | none => held) tally

theorem noted_append (payload : Payload) (early late : List Look) (tally : UInt8 → List Counter) :
    noted payload (early ++ late) tally = noted payload late (noted payload early tally) :=
  List.foldl_append

theorem tally_onChannel (device : Device) (channel : UInt8) {change : ChannelState → ChannelState}
    (keeps : ∀ state, (change state).counters = state.counters) :
    (device.onChannel channel change).tally = device.tally := by
  funext other
  rw [tally, channel?_onChannel, tally]
  split
  · cases device.channel? other with
    | none => rfl
    | some state => exact keeps state
  · rfl

/-- A poll counts its look at the channel, whether or not it comes to an error. -/
theorem tally_poll (table : InterruptTable) (channel : UInt8) (powered : Bool) (device : Device) :
    (device.poll table channel powered).1.tally = Function.update device.tally channel
      ((⟨channel, powered, device.bus⟩ : Look).note table (device.tally channel)) := by
  have counted := table.counters_classify ⟨channel, powered, device.bus⟩ (device.tally channel)
  funext other
  rw [tally, poll, channel?_onChannel]
  by_cases same : other = channel
  · rw [same, Function.update_self, if_pos rfl]
    cases held : device.channel? channel with
    | none =>
        have empty : device.tally channel = [] := by rw [tally, held]; rfl
        have absent (bus : Bus) : ({ device with bus := bus } : Device).channel? channel = none :=
          held
        rw [absent, empty]
        rfl
    | some state =>
        have here : device.tally channel = state.counters := by rw [tally, held]; rfl
        have there (bus : Bus) : ({ device with bus := bus } : Device).channel? channel =
            some state := held
        rw [there, here]
        rw [here] at counted
        exact counted
  · rw [Function.update_of_ne same, if_neg same]
    rfl

/--
Between two devices the counters changed by some looks and by nothing else, no payload was put in
place, and what is armed stayed the slot configuration in use.
-/
structure Watches (armed : Prop) (looks : List Look) (before after : Device) : Prop where
  inPlace : after.payload = before.payload
  installations : after.history.count .installed = before.history.count .installed
  slot : armed → after.slot = before.slot
  tally : ∀ payload, before.payload = some payload →
    after.tally = noted payload looks before.tally

namespace Watches

theorem refl (device : Device) : Watches armed [] device device :=
  ⟨rfl, rfl, fun _ => rfl, fun _ _ => rfl⟩

theorem trans (first : Watches armed early before middle)
    (second : Watches armed late middle after) : Watches armed (early ++ late) before after where
  inPlace := second.inPlace.trans first.inPlace
  installations := second.installations.trans first.installations
  slot := fun is => (second.slot is).trans (first.slot is)
  tally := fun payload inPlace => by
    rw [second.tally payload (first.inPlace.trans inPlace), first.tally payload inPlace,
      noted_append]

/-- What follows on looks without a look. -/
theorem tail (first : Watches armed looks before middle) (second : Watches armed [] middle after) :
    Watches armed looks before after := by
  have both := first.trans second
  rwa [List.append_nil] at both

/-- What leaves the states of the channels alone. -/
theorem of_same (inPlace : after.payload = before.payload) (slot : after.slot = before.slot)
    (channels : after.channels = before.channels)
    (installations : after.history.count .installed = before.history.count .installed) :
    Watches armed [] before after :=
  ⟨inPlace, installations, fun _ => slot, fun _ _ => by
    funext channel
    change (after.channels[channel.toNat]?.map _).getD [] = _
    rw [channels]
    rfl⟩

end Watches

theorem watches_record {event : Event} (other : event ≠ .installed) (device : Device) :
    Watches armed [] device (device.record event) :=
  .of_same rfl rfl rfl (List.count_cons_of_ne other)

theorem watches_onChannel (device : Device) (channel : UInt8)
    (change : ChannelState → ChannelState)
    (keeps : ∀ state, (change state).counters = state.counters) :
    Watches armed [] device (device.onChannel channel change) :=
  ⟨rfl, rfl, fun _ => rfl, fun _ _ => tally_onChannel device channel keeps⟩

theorem watches_latchFault (fault : Option TransportFault) (device : Device) :
    Watches armed [] device (device.latchFault fault) := by
  rw [latchFault_eq]
  exact .of_same rfl rfl rfl rfl

theorem watches_updates {change : Device → Device} (updates : Updates channel change)
    (device : Device) : Watches armed [] device (change device) := by
  cases updates with
  | began => exact watches_record (by simp) device
  | unmasked unmasked => exact watches_onChannel device channel _ fun _ => rfl
  | powered power => exact watches_onChannel device channel _ fun _ => rfl
  | cancelled => exact .of_same rfl rfl rfl rfl
  | scheduled => exact .of_same rfl rfl rfl rfl

end Device

/-! ## Work -/

namespace Work

open Device (Watches watches_latchFault watches_record watches_updates)

variable {armed : Prop} {work : Work}

/-- Work in which no counter changes. -/
def Counts (armed : Prop) (work : Work) : Prop :=
  ∀ device, Watches armed [] device (work device).1

theorem Counts.leaves (counts : Counts armed work) (device : Device) :
    Watches armed [] device (work.leaves device) :=
  (counts device).trans (watches_latchFault _ _)

theorem counts_inOrder {parts : List Work} (counts : ∀ part ∈ parts, Counts armed part) :
    Counts armed (inOrder parts) := fun device =>
  keeps_inOrder (Watches armed [] device)
    (fun part member middle sofar => sofar.trans ((counts part member).leaves middle))
    (.refl device)

/-- No work that is made of the primitives changes a counter. -/
theorem Counts.of_on (on : On (fun _ => True) work) : Counts armed work := by
  intro device
  induction on generalizing device with
  | idle => exact .refl device
  | run here role script =>
      exact (watches_record (by simp) device).trans (.of_same rfl rfl rfl rfl)
  | @replay channel here payload timing =>
      rw [Device.replay_eq]
      refine .of_same rfl rfl rfl ?_
      have unsaid : (Device.replayEvents payload device channel timing).count .installed = 0 := by
        rw [List.count_eq_zero]
        intro member
        obtain ⟨_, _, _, _, _, _, _, same⟩ := Device.mem_replayEvents.mp member
        cases same
      change List.count _ (_ ++ device.history) = _
      rw [List.count_append, unsaid, Nat.zero_add]
  | updating here updates on ih => exact (watches_updates updates device).trans (ih _)
  | reading on ih => exact ih device device
  | inOrder on ih => exact counts_inOrder (fun part member middle => ih part member middle) device

end Work

namespace Device

open Work (Counts counts_inOrder)

variable {armed : Prop} {payload : Payload} {device : Device} {channel : UInt8}

/-! ## Restarts -/

theorem counts_restartAll (payload : Payload) : Counts armed (restartAll payload) := by
  intro device
  rw [restartAll, Work.reading_apply]
  refine counts_inOrder (fun part member => ?_) device
  simp only [List.mem_append, List.mem_flatMap, List.mem_map, List.mem_cons, List.not_mem_nil,
    or_false] at member
  rcases member with ((rfl | ⟨channel, _, rfl | rfl⟩) | ⟨channel, _, rfl⟩) | ⟨channel, _, rfl⟩
  · intro held
    exact (watches_record (by simp) held).trans (.of_same rfl rfl rfl rfl)
  · intro held
    have cancelled : Watches armed [] held (held.cancelDeferred channel) := .of_same rfl rfl rfl rfl
    exact cancelled.trans (watches_onChannel _ channel _ fun _ => rfl)
  · exact .of_on (Work.on_initialise trivial)
  · exact .of_on (Work.on_restore trivial .active)
  · exact .of_on (Work.on_restore trivial .mute)

theorem counts_restartAndResume (payload : Payload) (channel : UInt8) :
    Counts armed (restartAndResume payload channel) := by
  intro device
  have restarts : Watches armed [] device (restartAll payload device).1 :=
    counts_restartAll payload device
  unfold restartAndResume
  cases restart : restartAll payload device with
  | mk restarted fault =>
      rw [restart] at restarts
      cases fault with
      | some fault => exact restarts
      | none =>
          have resumes : Counts armed (resumeInterrupts payload channel) :=
            .of_on (Work.on_resumeInterrupts trivial)
          exact restarts.trans (resumes restarted)

theorem watches_lockOut (payload : Payload) (channels : List UInt8) (device : Device) :
    Watches armed [] device (device.lockOut payload channels) := by
  rw [lockOut_eq_foldl]
  refine List.foldlRecOn (motive := fun held : Device => Watches armed [] device held) channels _
    (.refl device) fun held sofar channel _ => sofar.trans ?_
  have down : Counts armed (powerDown payload channel) := .of_on (Work.on_powerDown trivial)
  exact (down held).trans (.of_same rfl rfl rfl rfl)

theorem watches_escalate (payload : Payload) (device : Device) :
    Watches armed [] device (device.escalate payload) := by
  have outcome := escalation payload device
  generalize device.escalate payload = after at outcome ⊢
  cases outcome with
  | spared => exact .refl device
  | restarted =>
      have begun : Watches armed [] device device.beginRestart := .of_same rfl rfl rfl rfl
      exact begun.trans (counts_restartAll payload _)
  | lockedOut => exact watches_lockOut payload _ device

/-! ## Recovery passes -/

/-- The look that a poll takes at a channel, if the channel has an interrupt table. -/
def lookAt (payload : Payload) (channel : UInt8) (powered : Bool) (device : Device) : List Look :=
  match payload.interrupts? channel with
  | some _ => [⟨channel, powered, device.bus⟩]
  | none => []

/-- A poll of a channel that the payload in place watches. -/
theorem watches_poll {table : InterruptTable} (inPlace : device.payload = some payload)
    (tabled : payload.interrupts? channel = some table) (powered : Bool) :
    Watches armed (device.lookAt payload channel powered) device
      (device.poll table channel powered).1 := by
  refine ⟨rfl, rfl, fun _ => rfl, fun held there => ?_⟩
  obtain rfl : payload = held := Option.some.inj (inPlace.symm.trans there)
  rw [tally_poll, lookAt, tabled, noted, List.foldl_cons, List.foldl_nil]
  simp only [tabled]

namespace Pass

variable {pass before after : Pass} {table : InterruptTable} {remedy : Remedy}

theorem watches_perform {work : Work} (counts : Counts armed work) (pass : Pass) :
    Watches armed [] pass.device (pass.perform work).device := counts.leaves pass.device

theorem watches_apply (remedy : Remedy) (pass : Pass) :
    Watches armed [] pass.device (pass.apply payload channel remedy).device := by
  have resumes : Counts armed (resumeInterrupts payload channel) :=
    .of_on (Work.on_resumeInterrupts trivial)
  have counted : Watches armed [] pass.device (pass.noteReset channel).device :=
    .of_same rfl rfl rfl rfl
  cases remedy with
  | leave => exact .refl _
  | resume => exact watches_perform resumes _
  | hardReset =>
      rw [apply_hardReset]
      exact counted.trans (watches_perform (counts_restartAndResume payload channel) _)
  | softReset =>
      exact counted.trans (watches_perform (.of_on (Work.on_restartChannel trivial)) _)
  | shutDown =>
      exact watches_perform (.of_on (Work.on_powerDown trivial)) _
  | checkPower =>
      have checks : Watches armed [] pass.device (checkPower payload channel pass.device).1 := by
        unfold checkPower
        cases payload.channel? channel with
        | none => exact .refl _
        | some tables => exact .of_same rfl rfl rfl rfl
      unfold apply
      cases check : checkPower payload channel pass.device with
      | mk checked result =>
          rw [check] at checks
          cases result with
          | error fault => exact checks.trans (watches_latchFault (some fault) checked)
          | ok agrees =>
              cases agrees with
              | true => exact checks.trans (resumes.leaves checked)
              | false =>
                  have powers : Counts armed (powerUp payload channel) :=
                    .of_on (Work.on_powerUp trivial)
                  exact checks.trans (powers.leaves checked)

/-- Whatever is done about a detection, no counter changes any more. -/
theorem watches_judge (table : InterruptTable) (start : Nat) (channel : UInt8) (reading : Reading)
    (pass : Pass) :
    Watches armed [] pass.device (pass.judge payload table start channel reading).device := by
  have judged : Watches armed [] pass.device (pass.debounce start channel).1.device := by
    unfold debounce
    cases pass.device.channel? channel with
    | none => exact .refl _
    | some state =>
        have noted (debounce : Debounce) : Watches armed [] pass.device
            (pass.device.onChannel channel fun held => { held with debounce := debounce }) :=
          watches_onChannel pass.device channel _ fun _ => rfl
        exact noted _
  unfold judge
  cases debounced : pass.debounce start channel with
  | mk held verdict =>
      rw [debounced] at judged
      cases verdict with
      | stuck =>
          refine judged.trans (.of_same rfl rfl rfl ?_)
          exact List.count_cons_of_ne (by simp)
      | act =>
          have settled : Watches armed [] held.device (held.settled table channel).device := by
            have counted : Watches armed [] held.device (held.device.count fun stats =>
                { stats with recoveries := Stats.increment stats.recoveries }) :=
              .of_same rfl rfl rfl rfl
            have cleared : Counts armed (run channel .clear table.clear) :=
              .of_on (.run trivial .clear table.clear)
            exact (counted.trans (cleared.leaves _)).trans (.of_same rfl rfl rfl rfl)
          have recorded : Watches armed [] (held.settled table channel).device
              ((held.settled table channel).device.record
                (.recovered channel (held.remedy table channel reading))) :=
            watches_record (by simp) _
          have recovered : Watches armed [] held.device
              (held.recover payload table channel reading).device := by
            rw [recover_eq]
            exact (settled.trans recorded).trans (watches_apply _ ((held.settled table
              channel).silently (Device.record
                (.recovered channel (held.remedy table channel reading)))))
          exact judged.trans recovered

/-- A visit looks at the channel first, if it has an interrupt table. -/
theorem watches_visit (inPlace : pass.device.payload = some payload) (start : Nat)
    (channel : UInt8) :
    Watches armed (pass.device.lookAt payload channel (pass.device.power channel = .active))
      pass.device (pass.visit payload start channel).device := by
  have visit := visit_spec payload start channel pass
  generalize pass.visit payload start channel = after at visit ⊢
  have polls {table : InterruptTable} (tabled : payload.interrupts? channel = some table) :
      Watches armed _ pass.device _ :=
    watches_poll inPlace tabled (pass.device.power channel = .active)
  cases visit with
  | unwatched untabled =>
      rw [lookAt, untabled]
      exact .refl _
  | @unread table polled fault tabled poll =>
      have looked := polls tabled
      rw [poll] at looked
      exact looked.tail (watches_latchFault (some fault) polled)
  | @quiet table polled reading tabled poll =>
      have looked := polls tabled
      rw [poll] at looked
      exact looked
  | @fired table polled reading tabled poll =>
      have looked := polls tabled
      rw [poll] at looked
      exact looked.tail (watches_judge table start channel reading
        (({ pass with device := polled } : Pass).reporting (RecoveryReport.detect channel)))

/-- The looks that a pass takes at channels, one after the other. -/
def looks (payload : Payload) (start : Nat) : List UInt8 → Pass → List Look
  | [], _ => []
  | channel :: others, pass =>
      pass.device.lookAt payload channel (pass.device.power channel = .active) ++
        looks payload start others (pass.visit payload start channel)

theorem watches_visits (inPlace : pass.device.payload = some payload) (start : Nat)
    (channels : List UInt8) :
    Watches armed (looks payload start channels pass) pass.device
      (pass.visits payload start channels).device := by
  induction channels generalizing pass with
  | nil => exact .refl _
  | cons channel others ih =>
      have first : Watches armed _ pass.device _ := watches_visit inPlace start channel
      exact first.trans (ih (first.inPlace.trans inPlace))

end Pass

/-- The looks that a recovery pass takes. -/
def surveyLooks (payload : Payload) (device : Device) : List Look :=
  Pass.looks payload (device.maskedPass payload).device.clock payload.allChannels
    (device.maskedPass payload)

theorem watches_survey (inPlace : device.payload = some payload) :
    Watches armed (device.surveyLooks payload) device (device.survey payload).1 := by
  have masks : Counts armed (Work.each payload.allChannels (maskForSurvey payload)) :=
    .of_on (Work.on_each fun _ _ => Work.on_maskForSurvey trivial)
  have masked : Watches armed [] device (device.maskedPass payload).device := masks.leaves device
  have visited : Watches armed (device.surveyLooks payload) (device.maskedPass payload).device
      (device.visitedPass payload).device :=
    Pass.watches_visits (masked.inPlace.trans inPlace) _ _
  have unmasks : Counts armed (Work.each (device.quietChannels payload)
      (Pass.unmaskAgain payload)) := .of_on (Work.on_each fun _ _ => Work.on_unmaskAgain trivial)
  have unmasked : Watches armed [] (device.visitedPass payload).device
      (device.surveyedPass payload).device := unmasks.leaves _
  have ended : Watches armed [] (device.surveyedPass payload).device
      (device.endedPass payload) := by
    unfold endedPass
    split
    · exact watches_escalate payload _
    · exact .refl _
  rw [fst_survey]
  exact (((masked.trans visited).tail unmasked).tail ended).tail (watches_record (by simp) _)

end Device

end AmpControl
