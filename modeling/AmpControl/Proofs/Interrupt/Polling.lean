import AmpControl.Proofs.Bus.Accesses
import AmpControl.Proofs.Bus.Reading

/-!
# Polls that share their reads

Sources that share a status register are polled with one read of it, also where the read fails. What
a poll finds and counts is nevertheless what it would find if every source read its register for
itself, and a fault is reported in the same cases; only the number of failed reads is smaller.
-/

namespace AmpControl

open Bus (Call anyRefused readRow)
open Tuning (InterruptTable Source)

/-- What sources amount to that fired, each given with its place. -/
def Reading.ofFired (fired : List (Source × Nat)) : Reading where
  actions := (fired.map fun entry => entry.1.actions).foldl (· ||| ·) 0
  clockFired := fired.any fun entry => entry.1.clockBased
  otherFired := fired.any fun entry => !entry.1.clockBased
  detected := fired.map Prod.snd

/-- Visits a source that reads its status register for itself. -/
def Poll.visitAlone (channel : UInt8) (index : Nat) (source : Source) (poll : Poll) : Poll :=
  let outcome := poll.bus.read channel source.status
  match outcome.2 with
  | none => { poll with bus := outcome.1, failures := poll.failures + 1 }
  | some value =>
      if value &&& source.mask = 0 then { poll with bus := outcome.1 }
      else
        { poll with
          bus := outcome.1
          counters := poll.counters.modify index Counter.record
          reading := poll.reading.add index source }

/-- Polls the sources of a table with a read for each of them. -/
def Tuning.InterruptTable.classifyAlone (table : InterruptTable) (channel : UInt8)
    (powered : Bool) (counters : List Counter) (bus : Bus) : Poll :=
  (Poll.polled table powered).foldl
    (fun poll entry => poll.visitAlone channel entry.2 entry.1) (Poll.start counters bus)

theorem Reading.foldl_add (fired : List (Source × Nat)) (reading : Reading) :
    fired.foldl (fun reading entry => reading.add entry.2 entry.1) reading =
      ⟨(fired.map fun entry => entry.1.actions).foldl (· ||| ·) reading.actions,
        reading.clockFired || fired.any fun entry => entry.1.clockBased,
        reading.otherFired || fired.any fun entry => !entry.1.clockBased,
        reading.detected ++ fired.map Prod.snd⟩ := by
  induction fired generalizing reading with
  | nil => simp
  | cons entry others ih =>
      rw [List.foldl_cons, ih, List.map_cons, List.foldl_cons, List.any_cons, List.any_cons,
        List.map_cons]
      simp only [Reading.add, Bool.or_assoc, List.append_assoc, List.singleton_append]

/-- A source shows in a look by the bits of its register, if the register can be read. -/
theorem Look.shows_eq (look : Look) (source : Source) :
    look.shows source = ((look.powered || !source.clockBased) &&
      (!look.bus.transport.refuses (.read look.channel source.status) &&
        look.bus.transport.registers look.channel source.status &&& source.mask != 0)) := by
  rw [Look.shows, Look.holds, (Bus.read_eq look.channel source.status look.bus).2.2]
  cases look.bus.transport.refuses (.read look.channel source.status) <;> rfl

namespace Poll

variable {look : Look} {poll alone : Poll}

/-! ## Reads -/

/-- Visiting a source leaves the registers to be read that were unread before and are not its own. -/
theorem readAll_visit (channel : UInt8) (index : Nat) (source : Source) (registers : List Register)
    (poll : Poll) :
    (poll.bus.readAll channel (poll.unread (source.status :: registers))).1 =
      ((poll.visit channel index source).bus.readAll channel
        ((poll.visit channel index source).unread registers)).1 := by
  rw [(bus_visit channel index source poll).1, unread_visit, unread_cons channel]
  unfold status
  cases poll.seen.find? fun entry => entry.1 == source.status with
  | some entry => rfl
  | none => rfl

/-- A poll leaves the bus as reading each unread register once would. -/
theorem bus_visitAll (channel : UInt8) (sources : List (Source × Nat)) (poll : Poll) :
    (visitAll channel sources poll).bus = (poll.bus.readAll channel
      (poll.unread (sources.map fun entry => entry.1.status))).1 := by
  induction sources generalizing poll with
  | nil => rfl
  | cons entry others ih =>
      obtain ⟨source, index⟩ := entry
      rw [visitAll, ih, List.map_cons, readAll_visit channel index]

/-- Visiting a source counts its read if it is the first of its register and is refused. -/
theorem Takes.failures_visit (takes : Takes look poll) (index : Nat) (source : Source)
    (registers : List Register) :
    poll.failures + (poll.unread (source.status :: registers)).countP
        (fun register => look.bus.transport.refuses (.read look.channel register)) =
      (poll.visit look.channel index source).failures +
        ((poll.visit look.channel index source).unread registers).countP
          (fun register => look.bus.transport.refuses (.read look.channel register)) := by
  have yields := takes.reads source.status
  rw [(Bus.read_eq look.channel source.status look.bus).2.2] at yields
  rw [(bus_visit look.channel index source poll).2, unread_visit, unread_cons look.channel,
    List.countP_append, ← Nat.add_assoc]
  congr 1
  unfold Poll.status
  cases poll.seen.find? fun entry => entry.1 == source.status with
  | some entry => rfl
  | none =>
      simp only [yields, Option.isNone_none, if_true, List.countP_singleton]
      cases look.bus.transport.refuses (.read look.channel source.status) <;> rfl

/-- A poll counts each register once that it cannot read. -/
theorem Takes.failures_visitAll (takes : Takes look poll) (sources : List (Source × Nat)) :
    (visitAll look.channel sources poll).failures = poll.failures +
      (poll.unread (sources.map fun entry => entry.1.status)).countP
        (fun register => look.bus.transport.refuses (.read look.channel register)) := by
  induction sources generalizing poll with
  | nil => rfl
  | cons entry others ih =>
      obtain ⟨source, index⟩ := entry
      rw [visitAll, ih (takes.visit index source).1, List.map_cons, takes.failures_visit index]

/-! ## Sources that read for themselves -/

theorem Takes.visitAlone (takes : Takes look poll) (index : Nat) (source : Source) :
    Takes look (poll.visitAlone look.channel index source) ∧
      (poll.visitAlone look.channel index source).counters =
        (if look.holds source then poll.counters.modify index Counter.record
          else poll.counters) ∧
      (poll.visitAlone look.channel index source).reading =
        (if look.holds source then poll.reading.add index source else poll.reading) ∧
      (poll.visitAlone look.channel index source).failures = poll.failures +
        if look.bus.transport.refuses (.read look.channel source.status) then 1 else 0 := by
  have later (register : Register) :
      ((poll.bus.read look.channel source.status).1.read look.channel register).2 =
        (look.bus.read look.channel register).2 :=
    (Bus.snd_read_after_read look.channel source.status register poll.bus).trans
      (takes.reads register)
  have yields := takes.reads source.status
  rw [(Bus.read_eq look.channel source.status look.bus).2.2] at yields
  unfold Poll.visitAlone Look.holds
  rw [← takes.reads source.status]
  cases refused : look.bus.transport.refuses (.read look.channel source.status) with
  | true =>
      rw [refused, if_pos rfl] at yields
      simp only [yields]
      exact ⟨⟨takes.seen, later⟩, rfl, rfl, rfl⟩
  | false =>
      rw [refused, if_neg Bool.false_ne_true] at yields
      simp only [yields, Option.any_some]
      by_cases clear : look.bus.transport.registers look.channel source.status &&& source.mask = 0
      · simp only [clear, bne_self_eq_false, if_true, Bool.false_eq_true, if_false]
        exact ⟨⟨takes.seen, later⟩, trivial, trivial, rfl⟩
      · simp only [clear, bne_iff_ne, ne_eq, not_false_eq_true, if_true, if_false,
          Bool.false_eq_true]
        exact ⟨⟨takes.seen, later⟩, trivial, trivial, rfl⟩

/-- Shared reads or not, the same is counted and found. -/
theorem Takes.agree (takes : Takes look poll) (takesAlone : Takes look alone)
    (counters : alone.counters = poll.counters) (reading : alone.reading = poll.reading)
    (sources : List (Source × Nat)) :
    let ended := sources.foldl
      (fun poll entry => poll.visitAlone look.channel entry.2 entry.1) alone
    ended.counters = (visitAll look.channel sources poll).counters ∧
      ended.reading = (visitAll look.channel sources poll).reading := by
  induction sources generalizing poll alone with
  | nil => exact ⟨counters, reading⟩
  | cons entry others ih =>
      obtain ⟨source, index⟩ := entry
      obtain ⟨still, counted, found⟩ := takes.visit index source
      obtain ⟨stillAlone, countedAlone, foundAlone, _⟩ := takesAlone.visitAlone index source
      refine ih still stillAlone ?_ ?_
      · rw [countedAlone, counted, counters]
      · rw [foundAlone, found, reading]

theorem Takes.failures_alone (takes : Takes look alone) (sources : List (Source × Nat)) :
    (sources.foldl (fun poll entry => poll.visitAlone look.channel entry.2 entry.1)
        alone).failures = alone.failures + sources.countP fun entry =>
      look.bus.transport.refuses (.read look.channel entry.1.status) := by
  induction sources generalizing alone with
  | nil => rfl
  | cons entry others ih =>
      obtain ⟨source, index⟩ := entry
      obtain ⟨still, _, _, failures⟩ := takes.visitAlone index source
      rw [List.foldl_cons, ih still, failures, List.countP_cons, Nat.add_right_comm, Nat.add_assoc]

end Poll

/-! ## Whole polls -/

namespace Tuning.InterruptTable

variable (table : InterruptTable) (look : Look) (counters : List Counter)

theorem attempts_classify :
    (table.classify look.channel look.powered counters look.bus).bus.transport.attempts.reverse =
      look.bus.transport.attempts.reverse ++ (readRow look.bus.transport.refuses look.channel
        (look.bus.selected? look.channel) (table.polledRegisters look.powered)).flatten := by
  rw [classify, Poll.bus_visitAll, Poll.unread_start]
  exact Bus.attempts_readAll look.channel _ look.bus

theorem failures_classify :
    (table.classify look.channel look.powered counters look.bus).failures =
      (readRow look.bus.transport.refuses look.channel (look.bus.selected? look.channel)
        (table.polledRegisters look.powered)).countP anyRefused := by
  rw [classify, (Poll.takes_start look counters).failures_visitAll, Poll.unread_start,
    Bus.countP_readRow]
  exact Nat.zero_add _

theorem reading_classify :
    (table.classify look.channel look.powered counters look.bus).reading =
      .ofFired (table.sources.zipIdx.filter fun entry => look.shows entry.1) := by
  have shown : ((Poll.polled table look.powered).filter fun entry => look.holds entry.1) =
      table.sources.zipIdx.filter fun entry => look.shows entry.1 := by
    rw [Poll.polled, List.filter_filter]
    exact List.filter_congr fun entry _ => Bool.and_comm _ _
  rw [classify, (Poll.takes_start look counters).reading_visitAll, shown, Reading.foldl_add]
  rfl

/-- Whether some read is refused does not depend on how often registers are read. -/
theorem failures_alone_eq_zero_iff :
    (table.classifyAlone look.channel look.powered counters look.bus).failures = 0 ↔
      (table.classify look.channel look.powered counters look.bus).failures = 0 := by
  have alone := (Poll.takes_start look counters).failures_alone (Poll.polled table look.powered)
  rw [classifyAlone, alone, failures_classify, Bus.countP_readRow, Poll.start, Nat.zero_add,
    List.countP_eq_zero, List.countP_eq_zero, polledRegisters]
  simp only [List.mem_eraseDups, List.mem_map, forall_exists_index, and_imp,
    forall_apply_eq_imp_iff₂]

end Tuning.InterruptTable

/--
A poll reads each status register of the polled sources once, in the order in which they first
occur, with a selection of the bank where it is needed. A source has fired if it is polled, its
register could be read, and the register holds one of its bits. Each source that fired is counted
once in its place, and nothing else is counted, whatever the poll comes to. If registers could not
be read the poll ends in the fault with their number, which stays at its largest value, and
otherwise in what the sources amount to that fired. The same is counted and found if every source
reads its register for itself.
-/
theorem polled_as_if_alone (table : InterruptTable) (channel : UInt8) (powered : Bool)
    (counters : List Counter) (bus : Bus) :
    let fires (source : Source) : Bool := (powered || !source.clockBased) &&
      (!bus.transport.refuses (.read channel source.status) &&
        bus.transport.registers channel source.status &&& source.mask != 0)
    let reads := readRow bus.transport.refuses channel (bus.selected? channel)
      (table.polledRegisters powered)
    let poll := table.classify channel powered counters bus
    let alone := table.classifyAlone channel powered counters bus
    poll.bus.transport.attempts.reverse = bus.transport.attempts.reverse ++ reads.flatten ∧
    poll.counters = (counters.mapIdx fun index counter =>
      if (table.sources[index]?).any fires then counter.record else counter) ∧
    poll.result channel = TransportFault.answer channel (reads.countP anyRefused)
      (.ofFired (table.sources.zipIdx.filter fun entry => fires entry.1)) ∧
    alone.counters = poll.counters ∧
    ∀ reading, alone.result channel = .ok reading ↔ poll.result channel = .ok reading := by
  intro fires reads poll alone
  let look : Look := ⟨channel, powered, bus⟩
  have shows : look.shows = fires := funext look.shows_eq
  have results (poll : Poll) :
      poll.result channel = TransportFault.answer channel poll.failures poll.reading := by
    rw [TransportFault.answer_eq]
    rfl
  have takes := Poll.takes_start look counters
  obtain ⟨counted, found⟩ := takes.agree takes rfl rfl (Poll.polled table powered)
  refine ⟨table.attempts_classify look counters, ?_, ?_, counted, fun reading => ?_⟩
  · rw [← shows]
    exact table.counters_classify look counters
  · rw [results, table.failures_classify look, table.reading_classify look, shows]
  · rw [results, results, TransportFault.answer_eq_ok, TransportFault.answer_eq_ok]
    exact and_congr (table.failures_alone_eq_zero_iff look counters)
      (iff_of_eq (congrArg (· = reading) found))

end AmpControl
