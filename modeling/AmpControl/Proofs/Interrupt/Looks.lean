import AmpControl.Interrupt.Classification
import Mathlib.Data.List.Nodup

/-!
# Looks at the status registers

A poll looks at the status registers of one channel. Reads change no register and do not make later
reads fail, so what is found is settled by the bus at the beginning of the poll: a source is counted
if and only if it is polled, its register can be read, and the register holds one of its bits. This
holds of every source by itself, whether or not the registers of other sources can be read.
-/

namespace AmpControl

open Bus (Call)
open Tuning (InterruptTable Source)

/-! ## What reads yield -/

namespace Bus

variable {channel : UInt8} {bus : Bus}

/-- A channel that refuses to select a bank refuses all reads. -/
theorem refuses_read_of_select {transport : Transport} {bank : Bank} (register : Register)
    (refused : transport.refuses (.select channel bank) = true) :
    transport.refuses (.read channel register) = true := by
  simp only [Transport.refuses] at refused ⊢
  rw [refused, Bool.true_or]

/-- An attempt to read or select leaves registers and refusals as they are. -/
theorem attempt_reads (call : Call) (reads : call.isWrite = false) (apart : call ≠ .reset)
    (bus : Bus) :
    (bus.attempt call).1.transport.registers = bus.transport.registers ∧
      (bus.attempt call).1.transport.refuses = bus.transport.refuses ∧
      (bus.attempt call).2 = !bus.transport.refuses call := by
  have applied : bus.transport.registers.apply call = bus.transport.registers := by
    cases call <;> first | exact absurd rfl apart | rfl | cases reads
  unfold attempt Transport.attempt
  cases refused : bus.transport.refuses call with
  | true => exact ⟨rfl, rfl, rfl⟩
  | false => exact ⟨applied, rfl, rfl⟩

theorem select_reads (channel : UInt8) (bank : Bank) (bus : Bus) :
    (bus.select channel bank).1.transport.registers = bus.transport.registers ∧
      (bus.select channel bank).1.transport.refuses = bus.transport.refuses ∧
      ((bus.select channel bank).2 = false →
        bus.transport.refuses (.select channel bank) = true) := by
  unfold select
  split
  · exact ⟨rfl, rfl, fun refused => by cases refused⟩
  · obtain ⟨registers, refuses, carriedOut⟩ :=
      attempt_reads (.select channel bank) rfl (by simp) bus
    refine ⟨registers, refuses, fun refused => ?_⟩
    have carried : (!bus.transport.refuses (.select channel bank)) = false :=
      carriedOut.symm.trans refused
    simpa using carried

/-- A read yields what the register holds, unless it is refused, and changes nothing else. -/
theorem read_eq (channel : UInt8) (register : Register) (bus : Bus) :
    (bus.read channel register).1.transport.registers = bus.transport.registers ∧
      (bus.read channel register).1.transport.refuses = bus.transport.refuses ∧
      (bus.read channel register).2 =
        if bus.transport.refuses (.read channel register) then none
        else some (bus.transport.registers channel register) := by
  obtain ⟨registers, refuses, unselected⟩ := select_reads channel register.bank bus
  cases selected : (bus.select channel register.bank).2 with
  | false =>
      have refused := refuses_read_of_select register (unselected selected)
      simp only [read, access, selected, refused, Bool.false_eq_true, if_false, if_true]
      exact ⟨registers, refuses, trivial⟩
  | true =>
      obtain ⟨still, again, carriedOut⟩ := attempt_reads (.read channel register) rfl (by simp)
        (bus.select channel register.bank).1
      rw [refuses] at carriedOut
      simp only [read, access, selected, if_true]
      refine ⟨still.trans registers, again.trans refuses, ?_⟩
      rw [carriedOut, still, registers]
      cases bus.transport.refuses (.read channel register) <;> rfl

/-- Reads do not change what later reads yield. -/
theorem snd_read_after_read (channel : UInt8) (first second : Register) (bus : Bus) :
    ((bus.read channel first).1.read channel second).2 = (bus.read channel second).2 := by
  obtain ⟨registers, refuses, _⟩ := read_eq channel first bus
  rw [(read_eq channel second _).2.2, (read_eq channel second bus).2.2, registers, refuses]

end Bus

/-! ## Looks -/

/-- A look at the status registers of a channel, as a bus stands. -/
structure Look where
  channel : UInt8
  /-- The channel is taken for powered, so its clock-based sources are polled as well. -/
  powered : Bool
  bus : Bus

namespace Look

/-- The register of a source can be read, and it holds a bit of the source. -/
def holds (look : Look) (source : Source) : Bool :=
  (look.bus.read look.channel source.status).2.any fun value => value &&& source.mask != 0

/-- A source is polled and found to have fired. -/
def shows (look : Look) (source : Source) : Bool :=
  (look.powered || !source.clockBased) && look.holds source

/-- The counters of a table once a look is counted. -/
def note (look : Look) (table : InterruptTable) (counters : List Counter) : List Counter :=
  counters.mapIdx fun index counter =>
    if (table.sources[index]?).any look.shows then counter.record else counter

theorem getElem?_note (look : Look) (table : InterruptTable) (counters : List Counter)
    (index : Nat) :
    (look.note table counters)[index]? = (counters[index]?).map fun counter =>
      if (table.sources[index]?).any look.shows then counter.record else counter := by
  rw [note, List.getElem?_mapIdx]

/-- A look that shows nothing counts nothing. -/
theorem note_of_silent {look : Look} {table : InterruptTable}
    (silent : ∀ source ∈ table.sources, look.shows source = false) (counters : List Counter) :
    look.note table counters = counters := by
  apply List.ext_getElem?
  intro index
  rw [getElem?_note]
  have unshown : (table.sources[index]?).any look.shows = false := by
    cases found : table.sources[index]? with
    | none => rfl
    | some source => exact silent source (List.mem_of_getElem? found)
  rw [unshown]
  cases counters[index]? <;> rfl

end Look

namespace Poll

variable {look : Look} {poll : Poll} {source : Source} {index : Nat}

/-- A poll on its way has seen what the look that it takes yields, and so will its later reads. -/
structure Takes (look : Look) (poll : Poll) : Prop where
  seen : ∀ entry ∈ poll.seen, entry.2 = (look.bus.read look.channel entry.1).2
  reads : ∀ register,
    (poll.bus.read look.channel register).2 = (look.bus.read look.channel register).2

theorem takes_start (look : Look) (counters : List Counter) :
    Takes look (start counters look.bus) :=
  ⟨fun _ member => absurd member List.not_mem_nil, fun _ => rfl⟩

/-- Whether or not a register was read before, the poll goes by what the look yields. -/
theorem Takes.status (takes : Takes look poll) (register : Register) :
    Takes look (poll.status look.channel register).1 ∧
      (poll.status look.channel register).2 = (look.bus.read look.channel register).2 ∧
      (poll.status look.channel register).1.counters = poll.counters ∧
      (poll.status look.channel register).1.reading = poll.reading := by
  unfold Poll.status
  cases found : poll.seen.find? fun entry => entry.1 == register with
  | some entry =>
      have same : entry.1 = register := by simpa using List.find?_some found
      refine ⟨takes, ?_, rfl, rfl⟩
      rw [← same]
      exact takes.seen entry (List.mem_of_find?_eq_some found)
  | none =>
      refine ⟨⟨fun entry member => ?_, fun other => ?_⟩, takes.reads register, rfl, rfl⟩
      · rcases List.mem_append.mp member with old | new
        · exact takes.seen entry old
        · rw [List.mem_singleton.mp new]
          exact takes.reads register
      · exact (Bus.snd_read_after_read look.channel register other poll.bus).trans
          (takes.reads other)

theorem Takes.visit (takes : Takes look poll) (index : Nat) (source : Source) :
    Takes look (poll.visit look.channel index source) ∧
      (poll.visit look.channel index source).counters =
        (if look.holds source then poll.counters.modify index Counter.record
          else poll.counters) ∧
      (poll.visit look.channel index source).reading =
        if look.holds source then poll.reading.add index source else poll.reading := by
  obtain ⟨still, value, counters, reading⟩ := takes.status source.status
  unfold Poll.visit Look.holds
  rw [← value]
  cases outcome : poll.status look.channel source.status with
  | mk after seen =>
      rw [outcome] at still counters reading
      cases seen with
      | none => exact ⟨still, counters, reading⟩
      | some held =>
          have shown : (some held).any (fun value => value &&& source.mask != 0) =
              (held &&& source.mask != 0) := rfl
          rw [shown]
          by_cases clear : held &&& source.mask = 0
          · simp only [clear, bne_self_eq_false, if_true, Bool.false_eq_true, if_false]
            exact ⟨still, counters, reading⟩
          · simp only [clear, bne_iff_ne, ne_eq, not_false_eq_true, if_true, if_false]
            exact ⟨⟨still.seen, still.reads⟩,
              congrArg (List.modify · index Counter.record) counters,
              congrArg (Reading.add · index source) reading⟩

/-- Every source that is visited is counted in its place if and only if the look finds it fired. -/
theorem Takes.counters_visitAll (takes : Takes look poll) {sources : List (Source × Nat)}
    (distinct : (sources.map Prod.snd).Nodup) (index : Nat) :
    (visitAll look.channel sources poll).counters[index]? = (poll.counters[index]?).map
      fun counter =>
        if sources.any (fun entry => entry.2 == index && look.holds entry.1) then counter.record
        else counter := by
  induction sources generalizing poll with
  | nil => exact (id_map' _).symm
  | cons entry others ih =>
      obtain ⟨source, place⟩ := entry
      obtain ⟨apart, distinctOthers⟩ := List.nodup_cons.mp distinct
      obtain ⟨still, counters, _⟩ := takes.visit place source
      rw [visitAll, ih still distinctOthers, counters, List.any_cons]
      by_cases here : place = index
      · have elsewhere : others.any (fun entry => entry.2 == index && look.holds entry.1) =
            false := by
          rw [List.any_eq_false]
          intro other member
          have off : other.2 ≠ index := by
            intro same
            exact apart (List.mem_map.mpr ⟨other, member, same.trans here.symm⟩)
          simp [off]
        rw [elsewhere, here, beq_self_eq_true, Bool.true_and, Bool.or_false]
        cases held : look.holds source with
        | false => simp only [Bool.false_eq_true, if_false]
        | true =>
            rw [if_pos rfl, List.getElem?_modify_eq]
            cases poll.counters[index]? <;> rfl
      · have same : (if look.holds source then poll.counters.modify place Counter.record
            else poll.counters)[index]? = poll.counters[index]? := by
          split
          · rw [List.getElem?_modify_ne _ _ here]
          · rfl
        rw [same, beq_false_of_ne here, Bool.false_and, Bool.false_or]

/-- What the look finds fired is taken into the reading, in order. -/
theorem Takes.reading_visitAll (takes : Takes look poll) (sources : List (Source × Nat)) :
    (visitAll look.channel sources poll).reading =
      (sources.filter fun entry => look.holds entry.1).foldl
        (fun reading entry => reading.add entry.2 entry.1) poll.reading := by
  induction sources generalizing poll with
  | nil => rfl
  | cons entry others ih =>
      obtain ⟨source, place⟩ := entry
      obtain ⟨still, _, reading⟩ := takes.visit place source
      rw [visitAll, ih still, reading, List.filter_cons]
      split <;> rfl

end Poll

/-- The sources that are polled stand in their own places. -/
theorem Poll.nodup_polled (table : InterruptTable) (powered : Bool) :
    ((Poll.polled table powered).map Prod.snd).Nodup := by
  have places : (table.sources.zipIdx.map Prod.snd).Nodup := by
    rw [List.zipIdx_map_snd]
    exact List.nodup_range' ..
  exact (List.filter_sublist.map Prod.snd).nodup places

theorem Poll.mem_polled {table : InterruptTable} {powered : Bool} {source : Source} {index : Nat} :
    (source, index) ∈ Poll.polled table powered ↔
      table.sources[index]? = some source ∧ (powered || !source.clockBased) = true := by
  rw [Poll.polled, List.mem_filter, List.mk_mem_zipIdx_iff_getElem?]

/-- A poll counts what its look shows, also when it comes to an error. -/
theorem Tuning.InterruptTable.counters_classify (table : InterruptTable) (look : Look)
    (counters : List Counter) :
    (table.classify look.channel look.powered counters look.bus).counters =
      look.note table counters := by
  apply List.ext_getElem?
  intro index
  have takes := Poll.takes_start look counters
  rw [classify, takes.counters_visitAll (Poll.nodup_polled table _), Look.getElem?_note]
  have shown : (Poll.polled table look.powered).any
      (fun entry => entry.2 == index && look.holds entry.1) =
        (table.sources[index]?).any look.shows := by
    rw [Bool.eq_iff_iff, List.any_eq_true, Option.any_eq_true]
    constructor
    · rintro ⟨⟨source, place⟩, member, fired⟩
      obtain ⟨found, polled⟩ := Poll.mem_polled.mp member
      rw [Bool.and_eq_true, beq_iff_eq] at fired
      obtain ⟨rfl, held⟩ := fired
      exact ⟨source, found, Bool.and_eq_true_iff.mpr ⟨polled, held⟩⟩
    · rintro ⟨source, found, shown⟩
      obtain ⟨polled, held⟩ := Bool.and_eq_true_iff.mp shown
      exact ⟨(source, index), Poll.mem_polled.mpr ⟨found, polled⟩, by simp [held]⟩
  rw [shown]
  rfl

/-- A poll whose look shows nothing detects nothing. -/
theorem Tuning.InterruptTable.reading_of_silent {table : InterruptTable} {look : Look}
    (silent : ∀ source ∈ table.sources, look.shows source = false) (counters : List Counter) :
    (table.classify look.channel look.powered counters look.bus).reading = .quiet := by
  have nothing : (Poll.polled table look.powered).filter (fun entry => look.holds entry.1) = [] := by
    rw [List.filter_eq_nil_iff]
    rintro ⟨source, place⟩ member
    obtain ⟨found, polled⟩ := Poll.mem_polled.mp member
    have unshown := silent source (List.mem_of_getElem? found)
    rw [Look.shows, polled, Bool.true_and] at unshown
    exact Bool.eq_false_iff.mp unshown
  rw [classify, (Poll.takes_start look counters).reading_visitAll, nothing]
  rfl

end AmpControl
