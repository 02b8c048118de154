import AmpControl.Proofs.Device.Safety

/-!
# Restarts

A restart of the hardware takes every channel through shutdown and brings it back: channels that
played or were muted are that again, and the others stay shut down. When restarts do not help, all
channels are shut down for good.
-/

namespace AmpControl.Device

open Tuning (Payload Timing)

variable {payload : Payload} {device : Device} {channel : UInt8}

/-! ## Loops over channels -/

/-- A loop that brings each channel into the same standing. -/
theorem standing_foldl {standing : Standing} {step : Device → UInt8 → Device}
    {channels : List UInt8}
    (moves : ∀ channel ∈ channels, ∀ held : Device, held.Fits payload →
      (step held channel).Fits payload ∧
        (step held channel).standing = Function.update held.standing channel standing)
    (fits : device.Fits payload) :
    (channels.foldl step device).Fits payload ∧
      (channels.foldl step device).standing =
        fun channel => if channel ∈ channels then standing else device.standing channel := by
  induction channels generalizing device with
  | nil => exact ⟨fits, by simp⟩
  | cons first others ih =>
      obtain ⟨fitsFirst, moved⟩ := moves first List.mem_cons_self device fits
      obtain ⟨fitsLast, rest⟩ :=
        ih (fun channel member => moves channel (List.mem_cons_of_mem _ member)) fitsFirst
      refine ⟨fitsLast, rest.trans (funext fun channel => ?_)⟩
      rw [moved]
      by_cases later : channel ∈ others
      · rw [if_pos later, if_pos (List.mem_cons_of_mem _ later)]
      · rw [if_neg later]
        by_cases now : channel = first
        · rw [now, Function.update_self, if_pos List.mem_cons_self]
        · rw [Function.update_of_ne now, if_neg]
          exact fun member => (List.mem_cons.mp member).elim now later

/-- A loop of safe work that puts each channel in force, where every step keeps what it needs. -/
theorem safe_foldl_renewing (kept : Device → Prop) {step : Device → UInt8 → Device}
    {channels : List UInt8}
    (renews : ∀ channel ∈ channels, ∀ held : Device, held.Sound payload → kept held →
      Safe payload held (step held channel) ∧ kept (step held channel) ∧
        (step held channel).InForce payload channel)
    (sound : device.Sound payload) (start : kept device) :
    Safe payload device (channels.foldl step device) ∧ kept (channels.foldl step device) ∧
      ∀ channel ∈ channels, (channels.foldl step device).InForce payload channel := by
  induction channels generalizing device with
  | nil => exact ⟨Safe.refl sound, start, fun _ member => absurd member List.not_mem_nil⟩
  | cons first others ih =>
      obtain ⟨safe, next, renewed⟩ := renews first List.mem_cons_self device sound start
      obtain ⟨rest, ending, others_renewed⟩ :=
        ih (fun channel member => renews channel (List.mem_cons_of_mem _ member)) safe.sound next
      refine ⟨safe.trans rest, ending, fun channel member => ?_⟩
      rcases List.mem_cons.mp member with now | later
      · rw [now]
        exact rest.inForce first renewed
      · exact others_renewed channel later

/-! ## Resets -/

theorem sets_afterHardReset (declared : channel < payload.channelCount) :
    Sets payload channel (fun _ => .off) (Work.silent (afterHardReset channel)) := by
  intro device fits
  obtain ⟨cancelled, freed⟩ : _ ∧ _ :=
    (sets_cancelDeferred : Sets payload channel _ _) device fits
  obtain ⟨state, held⟩ := cancelled.state declared
  refine ⟨cancelled.frame (frame_onChannel _ channel _), ?_⟩
  refine (standing_onChannel held _).trans ?_
  have still : (device.cancelDeferred channel).waiting channel = false := by
    rw [waiting, cancelDeferred, DeferredQueue.isPending_cancel, if_pos rfl]
  rw [show ((Work.silent (cancelDeferred channel) device).1.waiting channel) = false from still,
    freed, Function.update_idem]
  rfl

/-- What a hardware reset does to one channel, and the initialisation that follows. -/
def resetChannel (payload : Payload) (device : Device) (channel : UInt8) : Device :=
  (Work.inOrder [Work.silent (afterHardReset channel), initialise payload channel] device).1

theorem sets_resetChannel (declared : channel < payload.channelCount) (fits : device.Fits payload) :
    (device.resetChannel payload channel).Fits payload ∧
      (device.resetChannel payload channel).standing =
        Function.update device.standing channel .off :=
  sets_cons (sets_afterHardReset declared) (sets_cons sets_initialise sets_nil) device fits

theorem steps_resetChannel {stale : UInt8 → Timing → Prop} :
    Steps payload stale device (device.resetChannel payload channel) :=
  steps_cons (.tail (.single (.cancelled channel)) (.changed channel _)) fun _ _ =>
    steps_cons steps_initialise fun _ _ => .refl

/-- A channel is in force again after its reset. -/
theorem renews_resetChannel (sound : device.Sound payload)
    (declared : channel < payload.channelCount) (marked : device.Marked channel .anytime) :
    Safe payload device (device.resetChannel payload channel) ∧
      (device.resetChannel payload channel).InForce payload channel := by
  obtain ⟨tables, found⟩ := sound.shaped.tables declared
  have moved := (sets_resetChannel declared sound.toFits).2
  have steps : Steps payload (fun _ _ => False) device (device.resetChannel payload channel) :=
    steps_resetChannel
  have still : ((device.resetChannel payload channel).standing channel).power ≠ .active := by
    rw [moved, Function.update_self]
    simp [Standing.off]
  have inForce : (device.resetChannel payload channel).InForce payload channel := by
    intro _ timing needed
    rw [Standing.due_anytime still needed, resetChannel, Work.fst_inOrder_cons]
    refine delivered_leaves (delivered_initialise found ?_)
    have prepared : Steps payload (fun _ _ => False) device
        ((Work.silent (afterHardReset channel)).leaves device) :=
      steps_leaves (.tail (.single (.cancelled channel)) (.changed channel _))
    exact prepared.marked marked
  exact ⟨safe_of_steps sound steps (fun _ _ lost => lost.elim) moved (Standing.allowed_off _)
    fun _ => inForce, inForce⟩

/-- The device after the reset line was pulsed and every channel was reset. -/
def resetAll (payload : Payload) (device : Device) : Device :=
  payload.allChannels.foldl (resetChannel payload) (pulseReset.leaves device)

theorem steps_pulseReset :
    Steps payload (fun _ timing => timing = .anytime) device (pulseReset.leaves device) :=
  steps_leaves (.single (.pulsed fun _ => rfl))

theorem steps_resetAll :
    Steps payload (fun _ timing => timing = .anytime) device (device.resetAll payload) :=
  steps_pulseReset.trans (steps_foldl (fun _ _ => steps_resetChannel) _)

/-- After all channels were reset they are shut down, and in force. -/
theorem resetAll_spec (sound : device.Sound payload) :
    (device.resetAll payload).Sound payload ∧
      (∀ channel, (device.resetAll payload).standing channel = .off) ∧
      ∀ channel, (device.resetAll payload).InForce payload channel := by
  have same : (pulseReset.leaves device).standing = device.standing := standing_latchFault _ _
  have pulsed : Steps payload _ device (pulseReset.leaves device) := steps_pulseReset
  have soundPulsed : (pulseReset.leaves device).Sound payload :=
    sound_of_frame sound pulsed.frame fun channel => same ▸ sound.allowed channel
  -- The pulse outdates what was sent to any channel.
  have marked (channel : UInt8) : (pulseReset.leaves device).Marked channel .anytime := by
    refine ⟨.hardReset, ?_, rfl⟩
    rw [Work.leaves, history_latchFault]
    exact List.mem_cons_self
  have declared : ∀ channel ∈ payload.allChannels, channel < payload.channelCount :=
    fun channel member => Payload.mem_allChannels.mp member
  obtain ⟨safe, _, renewed⟩ : Safe payload (pulseReset.leaves device) (device.resetAll payload) ∧
      (∀ channel, (device.resetAll payload).Marked channel .anytime) ∧
      ∀ channel ∈ payload.allChannels, (device.resetAll payload).InForce payload channel := by
    refine safe_foldl_renewing (fun held => ∀ channel, held.Marked channel .anytime)
      (fun channel member held soundHeld outdated => ?_) soundPulsed marked
    obtain ⟨safe, renewed⟩ :=
      renews_resetChannel soundHeld (declared channel member) (outdated channel)
    exact ⟨safe, fun other => safe.advances.marked (outdated other), renewed⟩
  have moved : (device.resetAll payload).standing = fun channel =>
      if channel ∈ payload.allChannels then .off else (pulseReset.leaves device).standing channel :=
    (standing_foldl (fun channel member held fits =>
      sets_resetChannel (declared channel member) fits) soundPulsed.toFits).2
  refine ⟨safe.sound, fun channel => ?_, fun channel => ?_⟩
  · refine (congrFun moved channel).trans ?_
    by_cases there : channel < payload.channelCount
    · exact if_pos (Payload.mem_allChannels.mpr there)
    · refine (if_neg fun member => there (declared channel member)).trans ?_
      rw [same]
      exact (sound.allowed channel).eq_off (sound.power_of_undeclared there)
  · intro there
    exact renewed channel (Payload.mem_allChannels.mpr there) there

/-! ## Bringing channels back -/

/-- Brings channels back to a power state. -/
def restoreAll (payload : Payload) (former : Power) (channels : List UInt8) (device : Device) :
    Device :=
  channels.foldl (fun held channel => (restore payload former channel).leaves held) device

/-- Channels that are not locked are brought back. -/
theorem restoreAll_spec {former : Power} (powered : former ≠ .shutdown) {channels : List UInt8}
    (sound : device.Sound payload) (declared : ∀ channel ∈ channels, channel < payload.channelCount)
    (unlocked : ∀ channel ∈ channels, device.locked channel = false) :
    Safe payload device (restoreAll payload former channels device) ∧
      (restoreAll payload former channels device).standing =
        fun channel => if channel ∈ channels then .anew former else device.standing channel := by
  refine ⟨?_, (standing_foldl ?_ sound.toFits).2⟩
  · clear powered
    induction channels generalizing device with
    | nil => exact Safe.refl sound
    | cons first others ih =>
        have safe := safe_leaves (safe_restore sound (declared first List.mem_cons_self)
          (unlocked first List.mem_cons_self) former)
        refine safe.trans (ih safe.sound
          (fun channel member => declared channel (List.mem_cons_of_mem _ member)) ?_)
        intro channel member
        exact (safe.frame.locked channel).trans (unlocked channel (List.mem_cons_of_mem _ member))
  · intro channel member held fits
    obtain ⟨kept, moved⟩ := sets_restore (declared channel member) powered held fits
    exact ⟨kept.frame (frame_latchFault _ _), (standing_latchFault _ _).trans moved⟩

theorem within_maskOf (fits : device.Fits payload) {wanted : Power} :
    Channel.within (device.maskOf wanted) channel = true ↔
      channel < payload.channelCount ∧ device.power channel = wanted := by
  have count : UInt8.ofNat device.channels.length = payload.channelCount := by
    rw [fits.length_channels, ← fits.shaped.toNat_channelCount, UInt8.ofNat_toNat]
  rw [maskOf, count, Channel.within_mask]
  · simp [Channel.mem_upTo]
  · intro other member
    exact fits.shaped.lt_eight (Channel.mem_upTo.mp (List.mem_filter.mp member).1)

/-- The channels in a power state that are not locked. -/
def inPower (payload : Payload) (power : Power) (device : Device) : List UInt8 :=
  Channel.among (device.maskOf power &&& ~~~device.lockedOut) payload.channelCount

/-- The channels in a power state other than shut down are declared and not locked. -/
theorem mem_inPower (sound : device.Sound payload) {wanted : Power} (powered : wanted ≠ .shutdown) :
    channel ∈ device.inPower payload wanted ↔ device.power channel = wanted := by
  rw [inPower, Channel.mem_among, Channel.within_and, Bool.and_eq_true, within_maskOf sound.toFits]
  constructor
  · exact fun held => held.2.1.2
  · intro here
    have declared : channel < payload.channelCount := by
      by_contra undeclared
      exact powered (here.symm.trans (sound.power_of_undeclared undeclared))
    have unlocked : Channel.within device.lockedOut channel = false :=
      sound.unlocked (here ▸ powered)
    refine ⟨declared, ⟨declared, here⟩, ?_⟩
    rw [Channel.within_not _ (sound.shaped.lt_eight declared), unlocked]
    rfl

/-- A restart resets all channels, and then restores those that played and those that were muted. -/
theorem fst_restartAll (payload : Payload) (device : Device) :
    (restartAll payload device).1 =
      restoreAll payload .mute (device.inPower payload .mute)
        (restoreAll payload .active (device.inPower payload .active)
          (device.resetAll payload)) := by
  rw [restartAll, Work.reading_apply]
  simp only [Work.fst_inOrder_append, Work.fst_inOrder_map, Work.fst_inOrder_flatMap,
    Work.fst_inOrder_cons, Work.fst_inOrder_nil]
  rfl

/-- A restart brings every channel back to the power state it had. -/
theorem restartAll_spec (sound : device.Sound payload) :
    Safe payload device (restartAll payload device).1 ∧
      (restartAll payload device).1.standing = fun channel => .anew (device.power channel) := by
  obtain ⟨soundReset, off, inForce⟩ := resetAll_spec sound
  have steps : Steps payload _ device (device.resetAll payload) := steps_resetAll
  have reset : Safe payload device (device.resetAll payload) :=
    ⟨steps.frame, steps.advances, soundReset, fun channel _ => inForce channel⟩
  have declared (power : Power) :
      ∀ channel ∈ device.inPower payload power, channel < payload.channelCount :=
    fun channel member => (Channel.mem_among.mp member).1
  have unlocked {power : Power} (powered : power ≠ .shutdown) :
      ∀ channel ∈ device.inPower payload power, device.locked channel = false :=
    fun channel member => sound.unlocked ((mem_inPower sound powered).mp member ▸ powered)
  have isActive : Power.active ≠ .shutdown := by simp
  have isMute : Power.mute ≠ .shutdown := by simp
  obtain ⟨played, standingPlayed⟩ := restoreAll_spec isActive soundReset (declared .active)
    fun channel member => (reset.frame.locked channel).trans (unlocked isActive channel member)
  have sofar := reset.trans played
  obtain ⟨restored, standingRestored⟩ := restoreAll_spec isMute sofar.sound (declared .mute)
    fun channel member => (sofar.frame.locked channel).trans (unlocked isMute channel member)
  rw [fst_restartAll]
  refine ⟨sofar.trans restored, ?_⟩
  rw [standingRestored, standingPlayed]
  funext channel
  simp only [mem_inPower sound isMute, mem_inPower sound isActive, off]
  cases device.power channel <;> rfl

theorem power_of_standing_anew {after : Device}
    (moved : after.standing = fun channel => .anew (device.power channel)) :
    after.power = device.power := by
  funext channel
  have here : (after.standing channel).power = after.power channel := rfl
  rw [← here, moved, Standing.power_anew]

/-- A channel after its own reset and initialisation. -/
def renewed (payload : Payload) (channel : UInt8) (device : Device) : Device :=
  (Work.inOrder [softReset payload channel, initialise payload channel] device).1

theorem steps_renewed {stale : UInt8 → Timing → Prop} (lost : stale channel .anytime) :
    Steps payload stale device (device.renewed payload channel) :=
  steps_cons (steps_softReset lost) fun _ _ => steps_cons steps_initialise fun _ _ => .refl

/-- A reset loses what was sent to the channel, and the initialisation makes up for it. -/
theorem renewed_spec (fits : device.Fits payload) (declared : channel < payload.channelCount) :
    (device.renewed payload channel).standing = device.standing ∧
      (device.renewed payload channel).Delivered payload channel .anytime := by
  obtain ⟨tables, found⟩ := fits.shaped.tables declared
  constructor
  · have sets : Sets payload channel id
        (Work.inOrder [softReset payload channel, initialise payload channel]) :=
      sets_cons sets_softReset (sets_cons sets_initialise sets_nil)
    exact (sets device fits).2.trans (Function.update_eq_self channel _)
  · have marked : ((softReset payload channel).leaves device).Marked channel .anytime := by
      refine ⟨.ran channel .softReset (device.power channel) (device.waiting channel)
        (device.locked channel), ?_, rfl, rfl⟩
      rw [Work.leaves, history_latchFault, softReset, found]
      exact List.mem_cons_self
    rw [renewed, Work.fst_inOrder_cons]
    exact delivered_leaves (delivered_initialise found marked)

/-- Renewing a channel that is shut down puts it in force. -/
theorem renews_renewed (sound : device.Sound payload) (declared : channel < payload.channelCount)
    (down : device.power channel = .shutdown) :
    Safe payload device (device.renewed payload channel) ∧
      (device.renewed payload channel).InForce payload channel := by
  obtain ⟨same, anytime⟩ := renewed_spec sound.toFits declared
  have steps : Steps payload (fun other _ => other = channel) device
      (device.renewed payload channel) := steps_renewed rfl
  have inForce : (device.renewed payload channel).InForce payload channel := by
    have idle : Steps payload (fun _ _ => False) (device.renewed payload channel)
        (device.renewed payload channel) := .refl
    refine inForce_of_still idle not_false ?_ anytime
    rw [same]
    exact fun playing => absurd (down.symm.trans playing) (by simp)
  exact ⟨safe_of_steps sound steps (fun _ _ lost => lost)
    (same.trans (Function.update_eq_self channel _).symm) (sound.allowed channel) fun _ => inForce,
    inForce⟩

/-- Bringing a channel back puts in force what its power state asks for. -/
theorem inForce_restore (fits : device.Fits payload) (declared : channel < payload.channelCount)
    {former : Power} (powered : former ≠ .shutdown) (unlocked : device.locked channel = false)
    (anytime : device.Delivered payload channel .anytime) :
    (restore payload former channel device).1.InForce payload channel := by
  cases former with
  | shutdown => exact absurd rfl powered
  | active => exact inForce_powerUp fits declared unlocked anytime
  | mute =>
      have steps : Steps payload (fun _ timing => timing ≠ .anytime) device
          (restore payload .mute channel device).1 :=
        steps_restore (fun _ => unlocked) fun _ late => late
      refine inForce_of_still steps (fun lost => lost rfl) ?_ anytime
      rw [(sets_restore declared powered device fits).2, Function.update_self]
      simp [Standing.anew, Standing.muted]

/-- One channel, restarted by its own script, comes back to the power state it had. -/
theorem restartChannel_spec (sound : device.Sound payload)
    (declared : channel < payload.channelCount) :
    Safe payload device (restartChannel payload channel device).1 ∧
      (restartChannel payload channel device).1.power = device.power := by
  obtain ⟨same, anytime⟩ := renewed_spec sound.toFits declared
  have split : (restartChannel payload channel device).1 =
      (restore payload (device.power channel) channel).leaves (device.renewed payload channel) := by
    rw [restartChannel, Work.reading_apply, renewed]
    simp only [Work.fst_inOrder_cons, Work.fst_inOrder_nil]
  rw [split]
  by_cases down : device.power channel = .shutdown
  · rw [down]
    exact ⟨(renews_renewed sound declared down).1, power_of_standing_eq same⟩
  · have unlocked : device.locked channel = false := sound.unlocked down
    have early : Steps payload (fun other _ => other = channel) device
        (device.renewed payload channel) := steps_renewed rfl
    have unlockedRenewed := (early.frame.locked channel).trans unlocked
    have fits := sound.toFits.frame early.frame
    have late : Steps payload (fun other _ => other = channel) (device.renewed payload channel)
        (restore payload (device.power channel) channel (device.renewed payload channel)).1 :=
      steps_restore (fun _ => unlockedRenewed) fun _ _ => rfl
    have moved := (sets_restore declared down (device.renewed payload channel) fits).2
    rw [same] at moved
    have safe : Safe payload device
        (restore payload (device.power channel) channel (device.renewed payload channel)).1 :=
      safe_of_steps sound (early.trans late) (fun _ _ lost => lost) moved
        (unlocked ▸ Standing.allowed_anew _) fun _ =>
          inForce_restore fits declared down unlockedRenewed anytime
    refine ⟨safe_leaves safe, ?_⟩
    exact power_of_moved ((standing_latchFault _ _).trans moved) (Standing.power_anew _)

/-! ## Locking out -/

/-- Shuts one channel down for good. -/
def lockDown (payload : Payload) (device : Device) (channel : UInt8) : Device :=
  let down := (powerDown payload channel device).1
  { down.latch .lockedOut channel with lockedOut := down.lockedOut ||| Channel.bit channel }

theorem lockOut_eq_foldl (payload : Payload) (channels : List UInt8) (device : Device) :
    device.lockOut payload channels = channels.foldl (lockDown payload) device := rfl

theorem sets_lockDown (declared : channel < payload.channelCount) (fits : device.Fits payload) :
    (device.lockDown payload channel).Fits payload ∧
      (device.lockDown payload channel).standing =
        Function.update device.standing channel .off := by
  obtain ⟨kept, moved⟩ := sets_powerDown declared device fits
  exact ⟨⟨kept.shaped, kept.inPlace, kept.length_channels⟩, moved⟩

theorem locked_lockDown (sound : device.Sound payload) (declared : channel < payload.channelCount)
    (other : UInt8) :
    (device.lockDown payload channel).locked other =
      (device.locked other || decide (other = channel)) := by
  have steps : Steps payload (fun _ _ => False) device (powerDown payload channel device).1 :=
    steps_powerDown
  have kept := steps.frame.lockedOut
  rw [locked, lockDown, kept, Channel.within_or,
    Channel.within_bit (sound.shaped.lt_eight declared)]
  rfl

theorem leads_lockDown (sound : device.Sound payload) (declared : channel < payload.channelCount) :
    Leads payload device (device.lockDown payload channel) := by
  have down := safe_powerDown sound declared
  obtain ⟨fits, moved⟩ := sets_lockDown declared sound.toFits
  have small := sound.shaped.lt_eight declared
  refine ⟨down.frame.loadState, ⟨fun other held => ?_, down.advances.history⟩,
    ⟨fits, ⟨fun other => ?_, ?_⟩⟩, fun other held here timing due => ?_⟩
  · rw [locked_lockDown sound declared, held, Bool.true_or]
  · rw [moved, locked_lockDown sound declared]
    by_cases same : other = channel
    · rw [same, Function.update_self]
      exact Standing.allowed_off _
    · rw [Function.update_of_ne same, decide_eq_false same, Bool.or_false]
      exact sound.allowed other
  · exact (ErrorCode.channels_set_self _ _ small).trans
      (congrArg (· ||| Channel.bit channel) down.sound.recorded)
  · obtain ⟨marked, sent⟩ := down.inForce other held here timing due
    exact ⟨marked, sent⟩

theorem lockOut_spec {channels : List UInt8} (sound : device.Sound payload)
    (declared : ∀ channel ∈ channels, channel < payload.channelCount) :
    Leads payload device (device.lockOut payload channels) ∧
      (∀ channel, (device.lockOut payload channels).locked channel = true ↔
        device.locked channel = true ∨ channel ∈ channels) := by
  rw [lockOut_eq_foldl]
  induction channels generalizing device with
  | nil => exact ⟨(Safe.refl sound).leads, by simp⟩
  | cons first others ih =>
      have here := declared first List.mem_cons_self
      have down := leads_lockDown sound here
      obtain ⟨rest, locks⟩ :=
        ih down.sound fun channel member => declared channel (List.mem_cons_of_mem _ member)
      refine ⟨down.trans rest, fun channel => ?_⟩
      rw [List.foldl_cons, locks, locked_lockDown sound here]
      simp [or_assoc]

/-- The channels that are not locked yet. -/
def free (payload : Payload) (device : Device) : List UInt8 :=
  Channel.among (Channel.all payload.channelCount &&& ~~~device.lockedOut) payload.channelCount

theorem mem_free (shaped : payload.Shaped) :
    channel ∈ device.free payload ↔
      channel < payload.channelCount ∧ device.locked channel = false := by
  rw [free, Channel.mem_among, Channel.within_and]
  refine and_congr_right fun declared => ?_
  have small := shaped.lt_eight declared
  rw [Channel.within_all _ small, decide_eq_true declared, Bool.true_and,
    Channel.within_not _ small]
  simp [locked]

theorem aside_beginRestart (device : Device) : Aside device device.beginRestart :=
  ⟨⟨rfl, rfl, rfl, rfl, rfl, ErrorCode.channels_clear_of_ne _ (by decide)⟩, rfl, rfl⟩

/-- Locking out all channels that are not locked yet leaves every channel shut down. -/
theorem lockOut_free_spec (sound : device.Sound payload) :
    Leads payload device (device.lockOut payload (device.free payload)) ∧
      if (device.lockOut payload (device.free payload)).lockedOut = device.lockedOut then
        (device.lockOut payload (device.free payload)).power = device.power
      else ∀ channel,
        (device.lockOut payload (device.free payload)).power channel = .shutdown := by
  have mem_free {channel : UInt8} : channel ∈ device.free payload ↔
      channel < payload.channelCount ∧ device.locked channel = false := mem_free sound.shaped
  obtain ⟨leads, locks⟩ := lockOut_spec sound fun channel member => (mem_free.mp member).1
  refine ⟨leads, ?_⟩
  by_cases done : device.free payload = []
  · rw [done, lockOut_eq_foldl, List.foldl_nil, if_pos rfl]
  · rw [if_neg]
    · intro channel
      by_cases declared : channel < payload.channelCount
      · refine (leads.sound.allowed channel).locked ((locks channel).mpr ?_)
        cases held : device.locked channel with
        | true => exact .inl rfl
        | false => exact .inr (mem_free.mpr ⟨declared, held⟩)
      · exact leads.sound.power_of_undeclared declared
    · intro same
      obtain ⟨channel, member⟩ := List.exists_mem_of_ne_nil _ done
      have held := (locks channel).mpr (.inr member)
      rw [locked, same] at held
      exact absurd held (by simpa [locked] using (mem_free.mp member).2)

/--
What went wrong on the bus either leaves every channel in its power state, or locks channels out and
leaves all of them shut down.
-/
theorem escalate_spec (sound : device.Sound payload) :
    Leads payload device (device.escalate payload) ∧
      if (device.escalate payload).lockedOut = device.lockedOut then
        (device.escalate payload).power = device.power
      else ∀ channel, (device.escalate payload).power channel = .shutdown := by
  unfold escalate
  by_cases failing : ¬device.allFailing payload = true
  · rw [if_pos failing, if_pos rfl]
    exact ⟨(Safe.refl sound).leads, rfl⟩
  rw [if_neg failing]
  by_cases few : device.restarts < device.config.maxRestarts
  · rw [if_pos few]
    have begun := safe_of_aside sound (aside_beginRestart device)
    obtain ⟨restarted, moved⟩ := restartAll_spec begun.sound
    have safe := begun.trans restarted
    refine ⟨safe.leads, ?_⟩
    rw [if_pos safe.frame.lockedOut]
    exact power_of_standing_anew moved
  · rw [if_neg few]
    exact lockOut_free_spec sound

end AmpControl.Device
