import AmpControl.Proofs.Run.DeclaredCalls
import AmpControl.Proofs.Run.Watching

/-!
# Detections in a run

A journal tells of a run when a payload was put in place, which looks were taken at status registers
and when the counters of a channel were read. The counters of a device are those of its journal: no
detection is lost, and none is counted twice.
-/

namespace AmpControl

open Tuning (InterruptTable Payload Source)

namespace Counter

/-- The counters of a source after so many detections, each of them up to its largest value. -/
def counting (unread total : Nat) : Counter := ⟨UInt8.ofNatClamp unread, UInt64.ofNatClamp total⟩

theorem toNat_sinceRead (unread total : Nat) :
    (counting unread total).sinceRead.toNat = min unread (UInt8.size - 1) := by
  unfold counting UInt8.ofNatClamp
  split
  · rw [UInt8.toNat_ofNatLT]
    omega
  · rw [UInt8.toNat_ofNatLT]
    omega

theorem toNat_total (unread total : Nat) :
    (counting unread total).total.toNat = min total (UInt64.size - 1) := by
  unfold counting UInt64.ofNatClamp
  split
  · rw [UInt64.toNat_ofNatLT]
    omega
  · rw [UInt64.toNat_ofNatLT]
    omega

theorem record_counting (unread total : Nat) :
    (counting unread total).record = counting (unread + 1) (total + 1) := by
  have one : UInt8.ofNatClamp ((counting unread total).sinceRead.toNat + 1) =
      UInt8.ofNatClamp (unread + 1) := by
    apply UInt8.toNat_inj.mp
    have clamped := toNat_sinceRead ((counting unread total).sinceRead.toNat + 1) total
    have whole := toNat_sinceRead (unread + 1) total
    have held := toNat_sinceRead unread total
    simp only [counting] at clamped whole held ⊢
    omega
  have all : UInt64.ofNatClamp ((counting unread total).total.toNat + 1) =
      UInt64.ofNatClamp (total + 1) := by
    apply UInt64.toNat_inj.mp
    have clamped := toNat_total unread ((counting unread total).total.toNat + 1)
    have whole := toNat_total unread (total + 1)
    have held := toNat_total unread total
    simp only [counting] at clamped whole held ⊢
    omega
  rw [record, one, all]
  rfl

theorem afterRead_counting (unread total : Nat) :
    (counting unread total).afterRead = counting 0 total := rfl

end Counter

/-! ## The journal of a run -/

/-- What a run tells of the counters. -/
inductive Entry where
  /-- A payload was put in place. -/
  | installed
  | looked (look : Look)
  /-- The counters of a channel were read. -/
  | read (channel : UInt8)

namespace Entry

def isInstalled : Entry → Bool
  | installed => true
  | looked _ | read _ => false

def isRead (channel : UInt8) : Entry → Bool
  | read other => other == channel
  | installed | looked _ => false

/-- A look at a channel shows that a source fired. -/
def shows (channel : UInt8) (source : Source) : Entry → Bool
  | looked look => look.channel == channel && look.shows source
  | installed | read _ => false

/-- The detections of a source since the latest installation, in a journal with the latest first. -/
def total (channel : UInt8) (source : Source) (journal : List Entry) : Nat :=
  (journal.takeWhile fun entry => !entry.isInstalled).countP (shows channel source)

/-- The detections of a source since its counters were read, or since the latest installation. -/
def unread (channel : UInt8) (source : Source) (journal : List Entry) : Nat :=
  (journal.takeWhile fun entry => !entry.isInstalled && !entry.isRead channel).countP
    (shows channel source)

/-- The counters that a journal tells of. -/
def counter (journal : List Entry) (channel : UInt8) (source : Source) : Counter :=
  .counting (unread channel source journal) (total channel source journal)

variable {journal : List Entry} {channel : UInt8} {source : Source} {look : Look}

theorem counter_installed : counter (installed :: journal) channel source = Counter.zero := rfl

theorem counter_looked (journal : List Entry) (look : Look) (channel : UInt8) (source : Source) :
    counter (looked look :: journal) channel source =
      if look.channel == channel && look.shows source then (counter journal channel source).record
      else counter journal channel source := by
  have total_eq : total channel source (looked look :: journal) =
      total channel source journal +
        if look.channel == channel && look.shows source then 1 else 0 := by
    simp only [total, isInstalled, Bool.not_false, List.takeWhile_cons, if_true, List.countP_cons]
    rfl
  have unread_eq : unread channel source (looked look :: journal) =
      unread channel source journal +
        if look.channel == channel && look.shows source then 1 else 0 := by
    simp only [unread, isInstalled, isRead, Bool.not_false, Bool.and_true, List.takeWhile_cons,
      if_true, List.countP_cons]
    rfl
  rw [counter, total_eq, unread_eq]
  split
  · rw [counter, Counter.record_counting]
  · rfl

/-- Reading the counters of a channel concerns no other channel. -/
theorem counter_read (journal : List Entry) (reads channel : UInt8) (source : Source) :
    counter (read reads :: journal) channel source =
      if reads = channel then (counter journal channel source).afterRead
      else counter journal channel source := by
  have total_eq : total channel source (read reads :: journal) = total channel source journal := by
    simp [total, isInstalled, shows]
  by_cases same : reads = channel
  · have unread_eq : unread channel source (read reads :: journal) = 0 := by
      simp [unread, isInstalled, isRead, same]
    rw [if_pos same, counter, total_eq, unread_eq, counter, Counter.afterRead_counting]
  · have unread_eq : unread channel source (read reads :: journal) =
        unread channel source journal := by
      simp [unread, isInstalled, isRead, same, shows]
    rw [if_neg same, counter, total_eq, unread_eq, counter]

end Entry

/-- What is told of an operation on a device, the latest first. -/
def Operation.entries (operation : Operation) (device : Device) : List Entry :=
  match operation with
  | .counters channel =>
      match Request.counters channel device with
      | .ok _ _ => [.read channel]
      | .error _ _ => []
  | _ =>
      (operation.looks device).reverse.map .looked ++
        if (operation.perform device).history.count .installed =
          device.history.count .installed then [] else [.installed]

namespace Device

variable {payload : Payload} {device before after : Device} {channel : UInt8}
  {table : InterruptTable} {earlier : List Entry} {looks : List Look}

/-- What is told of a run, the latest first. -/
def journal : List Operation → Device → List Entry
  | [], _ => []
  | operation :: others, device =>
      journal others (operation.perform device) ++ operation.entries device

/-- The counters of a device are those that a journal tells of. -/
def Tallied (journal : List Entry) (device : Device) : Prop :=
  ∀ payload, device.payload = some payload → ∀ channel table,
    payload.interrupts? channel = some table →
      device.tally channel = table.sources.map (Entry.counter journal channel)

/-! ## Steps of a run -/

/-- One look that is counted is one more entry. -/
theorem note_counters (earlier : List Entry) (look : Look) (table : InterruptTable) :
    look.note table (table.sources.map (Entry.counter earlier look.channel)) =
      table.sources.map (Entry.counter (.looked look :: earlier) look.channel) := by
  apply List.ext_getElem?
  intro index
  rw [Look.getElem?_note, List.getElem?_map, List.getElem?_map]
  cases table.sources[index]? with
  | none => rfl
  | some source =>
      simp only [Option.map_some, Option.any_some, Entry.counter_looked, beq_self_eq_true,
        Bool.true_and]

theorem noted_counters (looks : List Look) (tabled : payload.interrupts? channel = some table)
    {tally : UInt8 → List Counter}
    (held : tally channel = table.sources.map (Entry.counter earlier channel)) :
    noted payload looks tally channel =
      table.sources.map (Entry.counter (looks.reverse.map .looked ++ earlier) channel) := by
  induction looks generalizing tally earlier with
  | nil => exact held
  | cons look others ih =>
      have entries : (look :: others).reverse.map Entry.looked ++ earlier =
          others.reverse.map Entry.looked ++ .looked look :: earlier := by simp
      rw [entries, noted, List.foldl_cons]
      apply ih
      by_cases here : look.channel = channel
      · subst here
        simp only [tabled, Function.update_self]
        rw [held, note_counters]
      · have kept : table.sources.map (Entry.counter (.looked look :: earlier) channel) =
            table.sources.map (Entry.counter earlier channel) := by
          apply List.map_congr_left
          intro source _
          rw [Entry.counter_looked, beq_false_of_ne here, Bool.false_and]
          rfl
        rw [kept, ← held]
        cases payload.interrupts? look.channel with
        | none => rfl
        | some other => exact Function.update_of_ne (Ne.symm here) _ _

theorem Watches.tallied {armed : Prop} (watches : Watches armed looks before after)
    (tallied : before.Tallied earlier) :
    after.Tallied (looks.reverse.map .looked ++ earlier) := by
  intro payload inPlace channel table tabled
  have there := watches.inPlace.symm.trans inPlace
  rw [watches.tally payload there]
  exact noted_counters looks tabled (tallied payload there channel table tabled)

/-- A payload brings counters at zero. -/
theorem tallied_adopt (shaped : payload.Shaped) (earlier : List Entry) (device : Device) :
    (device.adopt payload).Tallied (.installed :: earlier) := by
  intro held inPlace channel table tabled
  obtain rfl : payload = held := Option.some.inj inPlace
  have inside := UInt8.lt_iff_toNat_lt.mp (shaped.declared_of_interrupts tabled)
  have there : payload.allChannels[channel.toNat]? = some channel := by
    simp [Payload.allChannels, Channel.upTo, inside]
  have fresh : (device.adopt payload).channel? channel = some (freshChannel payload channel) := by
    change (payload.allChannels.map (freshChannel payload))[channel.toNat]? = _
    rw [List.getElem?_map, there]
    rfl
  have zeros : table.sources.map (Entry.counter (.installed :: earlier) channel) =
      List.replicate table.sources.length Counter.zero :=
    List.map_eq_replicate_iff.mpr fun _ _ => Entry.counter_installed
  rw [tally, fresh, zeros, Option.map_some, Option.getD_some, freshChannel, tabled]
  rfl

/-- Reading some of the counters of a channel. -/
def readCounters (channel : UInt8) (amount : Nat) (device : Device) : Device :=
  device.onChannel channel fun state =>
    { state with
      counters := (state.counters.take amount).map Counter.afterRead ++ state.counters.drop amount }

theorem counters_of_ready {state : ChannelState} (ready : device.ready? = some payload)
    (tabled : payload.interrupts? channel = some table)
    (held : device.channel? channel = some state) :
    Request.counters channel device =
      .ok ((table.sources.zip state.counters).map fun (source, counter) => (source.name, counter))
        (device.readCounters channel (table.sources.zip state.counters).length) := by
  unfold Request.counters
  refine (Request.bind_ok (Request.payload_of_ready ready) _).trans ?_
  rw [tabled]
  refine (Request.get_bind _ device).trans ?_
  rw [held]
  rfl

/-- Once the counters of a channel were read, none of its detections is unread. -/
theorem tallied_readCounters (tallied : device.Tallied earlier) {amount : Nat}
    (whole : (device.tally channel).length ≤ amount) :
    (device.readCounters channel amount).Tallied (.read channel :: earlier) := by
  intro payload inPlace other table tabled
  have held := tallied payload inPlace other table tabled
  rw [tally, readCounters, channel?_onChannel]
  by_cases here : other = channel
  · subst here
    have read : table.sources.map (Entry.counter (.read other :: earlier) other) =
        (device.tally other).map Counter.afterRead := by
      rw [held, List.map_map]
      apply List.map_congr_left
      intro source _
      rw [Entry.counter_read, if_pos rfl]
      rfl
    rw [if_pos rfl, read]
    cases found : device.channel? other with
    | none =>
        rw [tally, found]
        rfl
    | some state =>
        have counters : device.tally other = state.counters := by
          rw [tally, found]
          rfl
        rw [counters] at whole ⊢
        simp only [Option.map_some, Option.getD_some, List.take_of_length_le whole,
          List.drop_of_length_le whole, List.append_nil]
  · rw [if_neg here]
    rw [tally] at held
    rw [held]
    apply List.map_congr_left
    intro source _
    rw [Entry.counter_read, if_neg (Ne.symm here)]

/-- A device that is not ready does not tell its counters, and goes on as it was. -/
theorem tallied_counters (tallied : device.Tallied earlier) (reads : UInt8) :
    ((Request.counters reads).leaves device).Tallied
      (Operation.entries (.counters reads) device ++ earlier) := by
  cases ready : device.ready? with
  | none =>
      have same : Request.counters reads device = .error (.notReady device.loadState) device := by
        unfold Request.counters
        simp only [bind, EStateM.bind, Request.payload_of_unready ready]
      simp only [Operation.entries, Request.leaves, same]
      exact tallied
  | some payload =>
      cases tabled : payload.interrupts? reads with
      | none =>
          have same : Request.counters reads device = .ok [] device := by
            unfold Request.counters
            refine (Request.bind_ok (Request.payload_of_ready ready) _).trans ?_
            rw [tabled]
            rfl
          simp only [Operation.entries, Request.leaves, same]
          intro held inPlace other table watched
          obtain rfl : payload = held :=
            Option.some.inj ((ready?_eq_some ready).2.symm.trans inPlace)
          have apart : reads ≠ other := by
            rintro rfl
            rw [tabled] at watched
            cases watched
          rw [tallied payload inPlace other table watched]
          apply List.map_congr_left
          intro source _
          exact ((Entry.counter_read earlier reads other source).trans (if_neg apart)).symm
      | some table =>
          cases held : device.channel? reads with
          | none =>
              have same : Request.counters reads device =
                  .error (.invalidChannel reads) device := by
                unfold Request.counters
                refine (Request.bind_ok (Request.payload_of_ready ready) _).trans ?_
                rw [tabled]
                refine (Request.get_bind _ device).trans ?_
                rw [held]
                rfl
              simp only [Operation.entries, Request.leaves, same]
              exact tallied
          | some state =>
              have same := counters_of_ready ready tabled held
              simp only [Operation.entries, Request.leaves, same]
              apply tallied_readCounters tallied
              have inPlace := (ready?_eq_some ready).2
              have counters := tallied payload inPlace reads table tabled
              rw [tally, held] at counters ⊢
              have length : state.counters.length = table.sources.length := by
                rw [show state.counters = _ from counters, List.length_map]
              simp [length]

theorem tallied_perform (operation : Operation)
    (tallied : device.Tallied earlier) :
    (operation.perform device).Tallied (operation.entries device ++ earlier) := by
  by_cases reads : ∃ channel, operation = .counters channel
  · obtain ⟨channel, rfl⟩ := reads
    exact tallied_counters tallied channel
  · have recounts := operation.recounts (fun channel same => reads ⟨channel, same⟩) device
    have told : operation.entries device = (operation.looks device).reverse.map .looked ++
        if (operation.perform device).history.count .installed =
          device.history.count .installed then [] else [.installed] := by
      cases operation <;> first | rfl | exact absurd ⟨_, rfl⟩ reads
    rw [told]
    generalize operation.perform device = after at recounts
    generalize operation.looks device = looks at recounts
    cases recounts with
    | watched watches =>
        rw [if_pos watches.installations, List.append_nil]
        exact watches.tallied tallied
    | @installed asked after payload asks shaped watches =>
        have one : after.history.count .installed = device.history.count .installed + 1 := by
          rw [watches.installations, ← asks.installations]
          exact List.count_cons_self
        rw [if_neg (by omega)]
        exact watches.tallied (tallied_adopt shaped earlier asked)

theorem tallied_after (operations : List Operation) (tallied : device.Tallied earlier) :
    (device.after operations).Tallied (device.journal operations ++ earlier) := by
  induction operations generalizing device earlier with
  | nil => exact tallied
  | cons first others ih =>
      have rest := ih (tallied_perform first tallied)
      rw [← List.append_assoc] at rest
      exact rest

/--
Whatever is asked of a device and whatever calls fail on the way, as long as a payload is in place
every interrupt source of a channel has one counter. Its total is the number of looks since the
latest installation that found the source fired, and what is unread is the number of those since the
counters of the channel were read; both stay at their largest value. A device that is ready tells
exactly these counters.
-/
theorem detections_counted (config : Config) (firmware : FirmwareSource)
    (operations : List Operation) (payload : Payload)
    (inPlace : (reached config firmware operations).payload = some payload) (channel : UInt8)
    (table : InterruptTable) (tabled : payload.interrupts? channel = some table) :
    let device := reached config firmware operations
    let told := (initial config firmware).journal operations
    ∃ state, device.channel? channel = some state ∧
      state.counters.length = table.sources.length ∧
      (∀ (index : Nat) (source : Source) (counter : Counter), table.sources[index]? = some source →
        state.counters[index]? = some counter →
        counter.total.toNat = min (Entry.total channel source told) (UInt64.size - 1) ∧
        counter.sinceRead.toNat = min (Entry.unread channel source told) (UInt8.size - 1)) ∧
      (device.loadState = .ready → ∃ after, Request.counters channel device =
        .ok ((table.sources.zip state.counters).map fun (source, counter) =>
          (source.name, counter)) after) := by
  intro device told
  have initially : (initial config firmware).Tallied [] := fun _ none => nomatch none
  have tallied : device.Tallied (told ++ []) := tallied_after operations initially
  rw [List.append_nil] at tallied
  have counters := tallied payload inPlace channel table tabled
  have fitted := fitting_reached config firmware operations payload inPlace
  have declared := fitted.shaped.declared_of_interrupts tabled
  obtain ⟨state, held, length⟩ := fitted.state declared
  rw [sourceCount, tabled] at length
  rw [tally, held] at counters
  refine ⟨state, held, length, fun index source counter found counted => ?_, fun ready => ?_⟩
  · have same : state.counters = table.sources.map (Entry.counter told channel) := counters
    rw [same, List.getElem?_map, found] at counted
    obtain rfl := Option.some.inj counted
    exact ⟨Counter.toNat_total _ _, Counter.toNat_sinceRead _ _⟩
  · have isReady : device.ready? = some payload := by
      rw [ready?, if_pos ready]
      exact inPlace
    exact ⟨_, counters_of_ready isReady tabled held⟩

/-- A source that fires twice, the second time after its counters were read. -/
def firedTwice : List Operation :=
  let fires := Operation.disturb (Bus.Transport.preset 0 (Register.ofParts 0 0 0x10) 2)
  [.load 1, fires, .handleInterrupt, .counters 0, fires, .handleInterrupt]

/-- Both detections are in the total, and the second of them is unread. -/
theorem firedTwice_counted :
    ∃ payload table source state, (reached .standard .small firedTwice).payload = some payload ∧
      payload.interrupts? 0 = some table ∧ table.sources = [source] ∧
      (reached .standard .small firedTwice).channel? 0 = some state ∧
      ∀ counter, state.counters[0]? = some counter →
        counter.total.toNat = 2 ∧ counter.sinceRead.toNat = 1 := by
  let fault : Source := ⟨"fault", Register.ofParts 0 0 0x10, 0x02, 0, false⟩
  have read : (((reached .standard .small firedTwice).payload.bind (·.interrupts? 0)).map
      (·.sources)) = some [fault] := by decide +kernel
  obtain ⟨table, found, sources⟩ := Option.map_eq_some_iff.mp read
  obtain ⟨payload, inPlace, tabled⟩ := Option.bind_eq_some_iff.mp found
  obtain ⟨state, held, _, counted, _⟩ := detections_counted .standard .small firedTwice payload
    inPlace 0 table tabled
  refine ⟨payload, table, fault, state, inPlace, tabled, sources, held, fun counter here => ?_⟩
  obtain ⟨total, unread⟩ := counted 0 fault counter (by rw [sources]; rfl) here
  rw [total, unread]
  decide +kernel

end Device

end AmpControl
