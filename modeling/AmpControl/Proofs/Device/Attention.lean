import AmpControl.Proofs.Device.Chronicle

/-!
# Attention

A channel that plays is attended: its interrupts can fire, or deferred work waits that will unmask
it. A recovery pass masks every channel first and attends to each of them again, through its own
visit, through a restart of all channels, or in the end. The one way to lose a channel is a power
check that cannot be carried out on a channel for which no deferred work waits.
-/

namespace AmpControl

open Tuning (InterruptTable Payload)

namespace Standing

/-- A channel that plays can fire interrupts, or has deferred work to come. -/
def Attended (standing : Standing) : Prop :=
  standing.power = .active → standing.unmasked = true ∨ standing.waiting = true

theorem attended_anew (power : Power) : (anew power).Attended := by
  cases power with
  | shutdown => exact fun playing => absurd playing (by simp [anew, off])
  | active => exact fun _ => .inr rfl
  | mute => exact fun playing => absurd playing (by simp [anew, muted])

theorem attended_of_idle {standing : Standing} (idle : standing.power ≠ .active) :
    standing.Attended := fun playing => absurd playing idle

/-- How a channel stands once its interrupts may go on. -/
def resumed (standing : Standing) : Standing :=
  if standing.power = .active ∧ ¬standing.waiting then { standing with unmasked := true }
  else standing

theorem attended_resumed (standing : Standing) : standing.resumed.Attended := by
  intro playing
  unfold resumed at playing ⊢
  split
  · exact .inl rfl
  · rename_i waits
    rw [if_neg waits] at playing
    exact .inr (by simpa [playing] using waits)

/-- A channel that was restarted has nothing to resume. -/
theorem resumed_anew (power : Power) : (anew power).resumed = anew power := by
  cases power <;> rfl

/-- How a restarted channel stands: one that is shut down is left so. -/
def restarted (standing : Standing) : Standing :=
  if standing.power = .shutdown then standing else anew standing.power

theorem attended_restarted (standing : Standing) : standing.restarted.Attended := by
  unfold restarted
  split
  · rename_i down
    exact attended_of_idle (by simp [down])
  · exact attended_anew standing.power

/-- How a channel stands once it is unmasked again, if it has an interrupt table. -/
def unmaskedAgain (tabled : Bool) (standing : Standing) : Standing :=
  if standing.waiting ∨ standing.unmasked then standing
  else { standing with unmasked := standing.unmasked || tabled }

theorem attended_unmaskedAgain (standing : Standing) : (standing.unmaskedAgain true).Attended := by
  intro _
  unfold unmaskedAgain
  split
  · rename_i attended
    exact attended.symm
  · exact .inl (Bool.or_true _)

end Standing

namespace Reading

/-- Nothing is left to do only where the channel does not play. -/
theorem idle_of_leave {reading : Reading} {power : Power} (leaves : reading.remedy power = .leave) :
    power ≠ .active := by
  rintro rfl
  unfold remedy at leaves
  split at leaves
  · cases leaves
  split at leaves
  · split at leaves <;> cases leaves
  split at leaves
  · cases leaves
  · cases leaves

end Reading

namespace Device

variable {payload : Payload} {device before after : Device} {channel other : UInt8}
  {table : InterruptTable}

theorem sets_resumeInterrupts (declared : channel < payload.channelCount)
    (tabled : payload.interrupts? channel = some table) :
    Sets payload channel Standing.resumed (resumeInterrupts payload channel) := by
  intro device fits
  have unmasks := sets_unmaskInterrupts declared device fits
  rw [resumeInterrupts, Work.reading_apply]
  by_cases goesOn : device.power channel = .active ∧ ¬device.waiting channel
  · rw [if_pos goesOn]
    rw [tabled] at unmasks
    have same : (device.standing channel).resumed =
        { device.standing channel with unmasked := true } := if_pos goesOn
    rw [same]
    simpa using unmasks
  · rw [if_neg goesOn]
    have same : (device.standing channel).resumed = device.standing channel := if_neg goesOn
    rw [same]
    exact sets_idle device fits

theorem sets_unmaskAgain (declared : channel < payload.channelCount) :
    Sets payload channel (Standing.unmaskedAgain (payload.interrupts? channel).isSome)
      (Pass.unmaskAgain payload channel) := by
  intro device fits
  rw [Pass.unmaskAgain, Work.reading_apply]
  by_cases done : device.waiting channel = true ∨ device.unmasked channel = true
  · rw [if_pos done]
    have same : (device.standing channel).unmaskedAgain (payload.interrupts? channel).isSome =
        device.standing channel := if_pos done
    rw [same]
    exact sets_idle device fits
  · rw [if_neg done]
    have unmasks : (device.standing channel).unmaskedAgain (payload.interrupts? channel).isSome =
        { device.standing channel with
          unmasked := device.unmasked channel || (payload.interrupts? channel).isSome } :=
      if_neg done
    rw [unmasks]
    exact sets_unmaskInterrupts declared device fits

theorem sets_restartChannel (declared : channel < payload.channelCount) :
    Sets payload channel Standing.restarted (restartChannel payload channel) := by
  intro device fits
  rw [restartChannel, Work.reading_apply]
  by_cases down : device.power channel = .shutdown
  · have same : (device.standing channel).restarted = device.standing channel := if_pos down
    rw [same, down]
    exact sets_cons sets_softReset (sets_cons sets_initialise (sets_cons sets_idle sets_nil))
      device fits
  · have anew : (device.standing channel).restarted = .anew (device.power channel) := if_neg down
    rw [anew]
    exact sets_cons sets_softReset (sets_cons sets_initialise
      (sets_cons (sets_restore declared down) sets_nil)) device fits

/-- After a restart nothing is left to be resumed. -/
theorem standing_restartAndResume (sound : device.Sound payload)
    (declared : channel < payload.channelCount)
    (tabled : payload.interrupts? channel = some table) :
    (restartAndResume payload channel device).1.standing =
      fun other => .anew (device.power other) := by
  obtain ⟨safe, moved⟩ := restartAll_spec sound
  unfold restartAndResume
  cases restart : restartAll payload device with
  | mk restarted fault =>
      rw [restart] at safe moved
      cases fault with
      | some fault => exact moved
      | none =>
          have resumed := (sets_resumeInterrupts declared tabled restarted safe.sound.toFits).2
          rw [resumed, moved, Standing.resumed_anew]
          exact Function.update_eq_self channel _

/-! ## Visits -/

/--
What a part of a pass on a channel leaves behind: all channels were restarted, or this channel
alone was changed and is attended, or all channels stand as before, and something is lost.
-/
inductive Tends (channel : UInt8) (lost : Prop) (before after : Device) : Prop where
  | renewed (moved : after.standing = fun other => .anew (before.power other))
  | attended (standing : Standing) (attended : standing.Attended)
      (moved : after.standing = Function.update before.standing channel standing)
  | still (same : after.standing = before.standing) (reason : lost)

namespace Tends

variable {lost : Prop} {middle : Device}

/-- A first part that lets all channels stand. -/
theorem after_look (same : middle.standing = before.standing)
    (tends : Tends channel lost middle after) : Tends channel lost before after := by
  cases tends with
  | renewed moved =>
      refine .renewed (moved.trans (funext fun other => ?_))
      rw [power_of_standing_eq same]
  | attended standing attended moved => exact .attended standing attended (same ▸ moved)
  | still unmoved reason => exact .still (unmoved.trans same) reason

theorem mono (tends : Tends channel lost before after) {weaker : Prop} (weaken : lost → weaker) :
    Tends channel weaker before after := by
  cases tends with
  | renewed moved => exact .renewed moved
  | attended standing attended moved => exact .attended standing attended moved
  | still same reason => exact .still same (weaken reason)

/-- An attended channel stays so, whatever channel is tended to. -/
theorem keeps (tends : Tends other lost before after) (held : (before.standing channel).Attended) :
    (after.standing channel).Attended := by
  cases tends with
  | renewed moved =>
      rw [moved]
      exact Standing.attended_anew _
  | attended standing attended moved =>
      rw [moved]
      by_cases same : channel = other
      · rw [same, Function.update_self]
        exact attended
      · rw [Function.update_of_ne same]
        exact held
  | still same => exact same ▸ held

/-- Another channel becomes attended or stands as before. -/
theorem elsewhere (tends : Tends other lost before after) (apart : channel ≠ other) :
    (after.standing channel).Attended ∨ after.standing channel = before.standing channel := by
  cases tends with
  | renewed moved =>
      rw [moved]
      exact .inl (Standing.attended_anew _)
  | attended standing attended moved =>
      rw [moved, Function.update_of_ne apart]
      exact .inr rfl
  | still same => exact .inr (congrFun same channel)

/-- The channel itself becomes attended, unless something is lost. -/
theorem here (tends : Tends channel lost before after) :
    (after.standing channel).Attended ∨
      after.standing channel = before.standing channel ∧ lost := by
  cases tends with
  | renewed moved =>
      rw [moved]
      exact .inl (Standing.attended_anew _)
  | attended standing attended moved =>
      rw [moved, Function.update_self]
      exact .inl attended
  | still same reason => exact .inr ⟨congrFun same channel, reason⟩

end Tends

namespace Pass

variable {pass : Pass} {start : Nat}

/-- Work that makes something attended of its channel. -/
theorem tends_perform {lost : Prop} {work : Work} {change : Standing → Standing}
    (sets : Sets payload channel change work) (attends : ∀ standing, (change standing).Attended)
    (fits : pass.device.Fits payload) :
    Tends channel lost pass.device (pass.perform work).device :=
  .attended _ (attends _) ((standing_latchFault _ _).trans (sets pass.device fits).2)

/-- The power check of a channel cannot be carried out. -/
def UncheckedOn (payload : Payload) (channel : UInt8) (device : Device) : Prop :=
  ∃ fault, (checkPower payload channel device).2 = .error fault

theorem tends_checkPower (fits : pass.device.Fits payload)
    (declared : channel < payload.channelCount)
    (tabled : payload.interrupts? channel = some table) :
    Tends channel (UncheckedOn payload channel pass.device) pass.device
      (pass.apply payload channel .checkPower).device := by
  obtain ⟨steps, same⟩ : Steps payload (fun _ _ => False) pass.device
      (checkPower payload channel pass.device).1 ∧ _ := quiet_checkPower
  have still := fits.frame steps.frame
  unfold apply UncheckedOn
  cases check : checkPower payload channel pass.device with
  | mk checked result =>
      rw [check] at same still
      cases result with
      | error fault =>
          exact .still ((standing_latchFault checked (some fault)).trans same) ⟨fault, rfl⟩
      | ok agrees =>
          refine .after_look same ?_
          have looked : ({ pass with device := checked } : Pass).device.Fits payload := still
          cases agrees with
          | true =>
              exact tends_perform (sets_resumeInterrupts declared tabled)
                Standing.attended_resumed looked
          | false =>
              exact tends_perform (sets_powerUp declared) (fun _ => Standing.attended_anew .active)
                looked

theorem sound_noteReset (sound : pass.device.Sound payload) (channel : UInt8) :
    (pass.noteReset channel).device.Sound payload := by
  have counted : Safe payload pass.device (pass.noteReset channel).device :=
    safe_of_quiet sound (.single (.counted fun stats =>
      { stats with resets := Stats.increment stats.resets })) rfl
  exact counted.sound

theorem tends_apply (sound : pass.device.Sound payload) (declared : channel < payload.channelCount)
    (tabled : payload.interrupts? channel = some table) {remedy : Remedy}
    (idle : remedy = .leave → pass.device.power channel ≠ .active) :
    Tends channel (remedy = .checkPower ∧ UncheckedOn payload channel pass.device) pass.device
      (pass.apply payload channel remedy).device := by
  cases remedy with
  | checkPower =>
      exact (tends_checkPower sound.toFits declared tabled).mono fun failed => ⟨rfl, failed⟩
  | resume =>
      exact tends_perform (sets_resumeInterrupts declared tabled) Standing.attended_resumed
        sound.toFits
  | softReset =>
      have noted := sound_noteReset sound channel
      have restarted : Tends channel False (pass.noteReset channel).device
          ((pass.noteReset channel).perform (restartChannel payload channel)).device :=
        tends_perform (sets_restartChannel declared) Standing.attended_restarted noted.toFits
      have noting : (pass.noteReset channel).device.standing = pass.device.standing := rfl
      exact .after_look noting (restarted.mono False.elim)
  | shutDown =>
      exact tends_perform (sets_powerDown declared) (fun _ => Standing.attended_anew .shutdown)
        sound.toFits
  | leave =>
      exact .attended _ (Standing.attended_of_idle (idle rfl))
        (Function.update_eq_self channel _).symm
  | hardReset =>
      refine .renewed ((standing_latchFault _ _).trans ?_)
      exact standing_restartAndResume (sound_noteReset sound channel) declared tabled

theorem standing_skipStuck (table : InterruptTable) (channel : UInt8) (pass : Pass) :
    (pass.skipStuck table channel).device.standing = pass.device.standing :=
  standing_eq_of_parts rfl rfl

theorem standing_settled (table : InterruptTable) (channel : UInt8) (pass : Pass) :
    (pass.settled table channel).device.standing = pass.device.standing :=
  standing_latchFault _ _

theorem tends_recover (sound : pass.device.Sound payload)
    (declared : channel < payload.channelCount)
    (tabled : payload.interrupts? channel = some table) (reading : Reading) :
    Tends channel (pass.remedy table channel reading = .checkPower ∧
        UncheckedOn payload channel (pass.settled table channel).device) pass.device
      (pass.recover payload table channel reading).device := by
  have settled : Does payload none channel pass (pass.settled table channel) :=
    does_settled sound table
  have recorded : Does payload none channel (pass.settled table channel)
      ((pass.settled table channel).silently
        (Device.record (.recovered channel (pass.remedy table channel reading)))) :=
    .of_quiet settled.safe.sound (.single (.remarked (.recovered channel _) trivial)) rfl rfl
  have still : ((pass.settled table channel).silently (Device.record (.recovered channel
      (pass.remedy table channel reading)))).device.standing = pass.device.standing :=
    standing_settled table channel pass
  have idle : pass.remedy table channel reading = .leave →
      (pass.settled table channel).device.power channel ≠ .active := Reading.idle_of_leave
  rw [recover_eq]
  refine .after_look still ((tends_apply recorded.safe.sound declared tabled idle).mono ?_)
  rintro ⟨asked, fault, failed⟩
  refine ⟨asked, fault, ?_⟩
  rw [← failed]
  unfold checkPower
  cases payload.channel? channel <;> rfl

/--
A detection on the channel may be acted on, and asks for a check of its power, which cannot be
carried out.
-/
inductive LosesCheck (payload : Payload) (start : Nat) (channel : UInt8) (pass : Pass) : Prop where
  | failed {table : InterruptTable} {polled : Device} {reading : Reading} {debounce : Debounce}
      (tabled : payload.interrupts? channel = some table)
      (poll : pass.device.poll table channel (pass.device.power channel = .active) =
        (polled, .ok reading))
      (loud : reading.any = true)
      (held : polled.storm? channel = some debounce)
      (allowed : (polled.config.detect start debounce).2 = .act)
      (asked : (({ pass with device := polled } : Pass).taken start channel debounce).remedy table
        channel reading = .checkPower)
      (unchecked : UncheckedOn payload channel ((({ pass with device := polled } : Pass).taken start
        channel debounce).settled table channel).device) :
      LosesCheck payload start channel pass

/-- What may keep a visit from attending to its channel. -/
def Misses (payload : Payload) (start : Nat) (channel : UInt8) (before after : Pass) : Prop :=
  Channel.within after.report.detected channel = Channel.within before.report.detected channel ∨
    Channel.within after.report.stuck channel = true ∨ before.LosesCheck payload start channel

/-- A poll lets all channels stand. -/
theorem polled_spec {powered : Bool} {polled : Device} {result : Except TransportFault Reading}
    (sound : device.Sound payload)
    (poll : device.poll table channel powered = (polled, result)) :
    polled.standing = device.standing ∧ polled.Sound payload := by
  have same := standing_poll device table channel powered
  have steps : Steps payload (fun _ _ => False) device (device.poll table channel powered).1 :=
    steps_poll table channel powered
  rw [poll] at same steps
  exact ⟨same, (safe_of_quiet sound steps same).sound⟩

theorem taken_spec (sound : pass.device.Sound payload) (start : Nat) (channel : UInt8)
    (debounce : Debounce) :
    (pass.taken start channel debounce).device.standing = pass.device.standing ∧
      (pass.taken start channel debounce).device.Sound payload := by
  have same : (pass.taken start channel debounce).device.standing = pass.device.standing :=
    standing_onChannel_of_same pass.device channel (fun _ => rfl) fun _ => rfl
  exact ⟨same, (safe_of_quiet sound (.single (.changed channel _)) same).sound⟩

theorem tends_visit (sound : pass.device.Sound payload) (declared : channel < payload.channelCount)
    (start : Nat) :
    Tends channel (Misses payload start channel pass (pass.visit payload start channel)) pass.device
      (pass.visit payload start channel).device := by
  have visit := visit_spec payload start channel pass
  generalize pass.visit payload start channel = after at visit ⊢
  cases visit with
  | unwatched => exact .still rfl (.inl rfl)
  | @unread table polled fault tabled poll =>
      obtain ⟨same, _⟩ := polled_spec sound poll
      exact .still ((standing_latchFault polled (some fault)).trans same) (.inl rfl)
  | @quiet table polled reading tabled poll =>
      exact .still (polled_spec sound poll).1 (.inl rfl)
  | @fired table polled reading tabled poll loud =>
      obtain ⟨samePolled, soundPolled⟩ := polled_spec sound poll
      obtain ⟨debounce, held⟩ := storm?_of_declared soundPolled declared
      have read : ({ pass with device := polled } : Pass).device.Sound payload := soundPolled
      have here : ({ pass with device := polled } : Pass).device.storm? channel = some debounce :=
        held
      obtain ⟨sameTaken, soundTaken⟩ := taken_spec read start channel debounce
      refine .after_look (sameTaken.trans samePolled) ?_
      rw [judge_eq here]
      cases verdict : (polled.config.detect start debounce).2 with
      | stuck =>
          exact .still (standing_skipStuck table channel _)
            (.inr (.inl (stuck_skipStuck table (sound.shaped.lt_eight declared) _)))
      | act =>
          have tends := tends_recover soundTaken declared tabled reading
          refine tends.mono fun ⟨asked, unchecked⟩ => .inr (.inr ?_)
          exact .failed tabled poll loud held verdict asked unchecked

/-- Visits to other channels attend to a channel or let it stand. -/
theorem elsewhere_visits {channels : List UInt8} (sound : pass.device.Sound payload)
    (declared : ∀ other ∈ channels, other < payload.channelCount) (apart : channel ∉ channels)
    (start : Nat) :
    ((pass.visits payload start channels).device.standing channel).Attended ∨
      (pass.visits payload start channels).device.standing channel =
        pass.device.standing channel := by
  induction channels generalizing pass with
  | nil => exact .inr rfl
  | cons first others ih =>
      have here := declared first List.mem_cons_self
      have visited : Proceeds payload pass (pass.visit payload start first) :=
        proceeds_visit sound here start
      have rest := ih visited.safe.sound
        (fun other member => declared other (List.mem_cons_of_mem _ member))
        fun member => apart (List.mem_cons_of_mem _ member)
      rcases (tends_visit sound here start).elsewhere fun same => apart (same ▸ List.mem_cons_self)
        with attended | same
      · exact .inl (rest.elim id fun unmoved => unmoved ▸ attended)
      · exact rest.imp_right fun unmoved => unmoved.trans same

theorem keeps_visits {channels : List UInt8} (sound : pass.device.Sound payload)
    (declared : ∀ other ∈ channels, other < payload.channelCount) (apart : channel ∉ channels)
    (start : Nat) (attended : (pass.device.standing channel).Attended) :
    ((pass.visits payload start channels).device.standing channel).Attended := by
  rcases elsewhere_visits sound declared apart start with still | same
  · exact still
  · rw [same]
    exact attended

end Pass

/-! ## Whole passes -/

/-- Masking the interrupts of all channels lets deferred work wait. -/
theorem waiting_maskedPass (fits : device.Fits payload) (channel : UInt8) :
    (device.maskedPass payload).device.waiting channel = device.waiting channel := by
  have masks : (Work.each payload.allChannels (maskForSurvey payload) device).1.Fits payload ∧
      (Work.each payload.allChannels (maskForSurvey payload) device).1.waiting channel =
        device.waiting channel := by
    refine Work.keeps_inOrder
      (fun held => held.Fits payload ∧ held.waiting channel = device.waiting channel) ?_ ⟨fits, rfl⟩
    rintro part member held ⟨fitsHeld, same⟩
    obtain ⟨other, listed, rfl⟩ := List.mem_map.mp member
    obtain ⟨fitsAfter, moved⟩ :=
      sets_maskForSurvey (Payload.mem_allChannels.mp listed) held fitsHeld
    refine ⟨fitsAfter.frame (frame_latchFault _ _), ?_⟩
    have standing := congrArg Standing.waiting (congrFun
      ((standing_latchFault _ (maskForSurvey payload other held).2).trans moved) channel)
    refine standing.trans (Eq.trans ?_ same)
    by_cases here : channel = other
    · rw [here, Function.update_self]
      rfl
    · rw [Function.update_of_ne here]
      rfl
  exact (congrArg Standing.waiting (congrFun (standing_latchFault _ _) channel)).trans masks.2

/-- Of the channels that are unmasked again, every one with an interrupt table is attended. -/
theorem attended_unmaskAll {channels : List UInt8} (fits : device.Fits payload)
    (declared : ∀ other ∈ channels, other < payload.channelCount)
    (tabled : payload.interrupts? channel = some table)
    (cared : (device.standing channel).Attended ∨ channel ∈ channels) :
    ((Work.each channels (Pass.unmaskAgain payload) device).1.standing channel).Attended := by
  induction channels generalizing device with
  | nil => exact cared.resolve_right List.not_mem_nil
  | cons first others ih =>
      obtain ⟨fitsFirst, moved⟩ := sets_unmaskAgain (declared first List.mem_cons_self) device fits
      have fitsLeft := fitsFirst.frame (frame_latchFault _
        (Pass.unmaskAgain payload first device).2)
      rw [Work.each, List.map_cons, Work.fst_inOrder_cons]
      refine ih fitsLeft (fun other member => declared other (List.mem_cons_of_mem _ member)) ?_
      have left : ((Pass.unmaskAgain payload first).leaves device).standing = _ :=
        (standing_latchFault _ _).trans moved
      rw [left]
      by_cases here : channel = first
      · rw [here, Function.update_self, ← here, tabled]
        exact .inl (Standing.attended_unmaskedAgain _)
      · rw [Function.update_of_ne here]
        exact cared.imp_right fun member => (List.mem_cons.mp member).resolve_left here

theorem attended_escalate (sound : device.Sound payload) (declared : channel < payload.channelCount)
    (attended : (device.standing channel).Attended) :
    ((device.escalate payload).standing channel).Attended := by
  have outcome := escalation payload device
  generalize device.escalate payload = after at outcome ⊢
  cases outcome with
  | spared => exact attended
  | restarted =>
      have begun := safe_of_aside sound (aside_beginRestart device)
      rw [(restartAll_spec begun.sound).2]
      exact Standing.attended_anew _
  | lockedOut =>
      have down := (locked_lockOut sound declared).2
      exact Standing.attended_of_idle fun playing => absurd (down.symm.trans playing) (by simp)

/-- The visits of a pass attend to a channel, unless its own visit misses it. -/
theorem attends_visitedPass (sound : device.Sound payload)
    (declared : channel < payload.channelCount) :
    ((device.visitedPass payload).device.standing channel).Attended ∨
      device.waiting channel = false ∧
        (Channel.within (device.visitedPass payload).report.detected channel = false ∨
          Channel.within (device.visitedPass payload).report.stuck channel = true ∨
          (device.passBefore payload channel).LosesCheck payload
            (device.maskedPass payload).device.clock channel) := by
  obtain ⟨later, late, allLater, split⟩ := visitedPass_split device declared
  have before := proceeds_passBefore sound channel
  have visited := before.trans (Pass.proceeds_visit before.safe.sound declared
    (device.maskedPass payload).device.clock)
  have rest := Pass.spares_visits visited.safe.sound allLater late
    (device.maskedPass payload).device.clock
  have tends := Pass.tends_visit before.safe.sound declared
    (device.maskedPass payload).device.clock
  have attends (attended : (((device.passBefore payload channel).visit payload
      (device.maskedPass payload).device.clock channel).device.standing channel).Attended) :
      ((device.visitedPass payload).device.standing channel).Attended := by
    rw [split]
    exact Pass.keeps_visits visited.safe.sound allLater late _ attended
  cases waits : device.waiting channel with
  | true =>
      -- Deferred work that waits attends to the channel throughout.
      have start : ((device.maskedPass payload).device.standing channel).Attended :=
        fun _ => .inr ((waiting_maskedPass sound.toFits channel).trans waits)
      have reached : ((device.passBefore payload channel).device.standing channel).Attended :=
        Pass.keeps_visits (proceeds_maskedPass sound).safe.sound (fun _ => declared_of_before)
          (Channel.not_mem_before channel _) _ start
      exact .inl (attends (tends.keeps reached))
  | false =>
      rcases tends.here with attended | ⟨_, unseen | stuck | loses⟩
      · exact .inl (attends attended)
      · have undetected :
            Channel.within (device.passBefore payload channel).report.detected channel = false :=
          (spares_passBefore sound channel).detected.trans (Channel.within_zero channel)
        rw [split]
        exact .inr ⟨rfl, .inl (rest.detected.trans (unseen.trans undetected))⟩
      · rw [split]
        exact .inr ⟨rfl, .inr (.inl (rest.stuck.trans stuck))⟩
      · exact .inr ⟨rfl, .inr (.inr loses)⟩

/--
A recovery pass attends to every channel that was attended before, unless it reports the channel as
stuck, or loses the check of its power while no deferred work waits for it.
-/
theorem attends_survey (sound : device.Sound payload) (declared : channel < payload.channelCount)
    (tabled : payload.interrupts? channel = some table)
    (watched : device.unmasked channel = true ∨ device.waiting channel = true) :
    ((device.survey payload).1.standing channel).Attended ∨
      Channel.within (device.survey payload).2.stuck channel = true ∨
      device.waiting channel = false ∧ (device.passBefore payload channel).LosesCheck payload
        (device.maskedPass payload).device.clock channel := by
  have surveyed := proceeds_unended sound
  have visited := proceeds_visitedPass sound
  have small := sound.shaped.lt_eight declared
  have unmasks (cared : ((device.visitedPass payload).device.standing channel).Attended ∨
      channel ∈ device.quietChannels payload) :
      ((device.survey payload).1.standing channel).Attended := by
    have again := attended_unmaskAll visited.safe.sound.toFits
      (fun other member => (Channel.mem_among.mp member).1) tabled cared
    have resumed : ((device.surveyedPass payload).device.standing channel).Attended := by
      have latched : (device.surveyedPass payload).device.standing = _ := standing_latchFault _ _
      rw [latched]
      exact again
    rw [fst_survey]
    change ((device.endedPass payload).standing channel).Attended
    unfold endedPass
    split
    · exact attended_escalate surveyed.safe.sound declared resumed
    · exact resumed
  rcases attends_visitedPass sound declared with attended | ⟨free, undetected | stuck | loses⟩
  · exact .inl (unmasks (.inl attended))
  · refine .inl (unmasks (.inr (Channel.mem_among.mpr ⟨declared, ?_⟩)))
    have fires : device.unmasked channel = true :=
      watched.resolve_right fun waits => Bool.false_ne_true (free.symm.trans waits)
    rw [Channel.within_and, Channel.within_not _ small, undetected, Channel.within_mask]
    · simp [Payload.mem_allChannels, declared, fires]
    · intro other member
      exact sound.shaped.lt_eight (Payload.mem_allChannels.mp (List.mem_filter.mp member).1)
  · exact .inr (.inl stuck)
  · exact .inr (.inr ⟨free, loses⟩)

end Device

end AmpControl
