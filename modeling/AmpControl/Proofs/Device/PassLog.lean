import AmpControl.Proofs.Device.Encounter
import AmpControl.Proofs.Interrupt.Debounce

/-!
# The log of recovery passes

The history tells which recovery passes were made since the payload was put in place, what each of
them reported, and which channels it recovered. As long as the hardware is not reset, the detections
on a channel are judged by one row of storm windows, so what the passes tell of it follows from the
times at which they began.
-/

namespace AmpControl

/-- A recovery pass as the history tells of it. -/
structure PassRecord where
  start : Nat
  report : RecoveryReport
  /-- The channels that were cleared and recovered. -/
  recovered : List UInt8
  deriving DecidableEq, Repr

namespace PassRecord

/-- Something fired on a channel. -/
def detects (channel : UInt8) (pass : PassRecord) : Bool :=
  Channel.within pass.report.detected channel

/-- A channel was reported as stuck. -/
def sticks (channel : UInt8) (pass : PassRecord) : Bool :=
  Channel.within pass.report.stuck channel

/-- A detection was acted on or skipped, as it was judged. -/
def Follows (channel : UInt8) (verdict : Verdict) (pass : PassRecord) : Prop :=
  match verdict with
  | .act => channel ∈ pass.recovered ∧ pass.sticks channel = false
  | .stuck => channel ∉ pass.recovered ∧ pass.sticks channel = true

end PassRecord

/-- What the history tells of recovery passes since a payload was put in place. -/
structure PassLog where
  /-- The passes, the latest first. -/
  passes : List PassRecord
  /-- The channels that the pass under way recovered. -/
  recovered : List UInt8
  /-- The hardware was reset. -/
  wasReset : Bool
  deriving DecidableEq, Repr

namespace PassLog

def empty : PassLog := ⟨[], [], false⟩

def add (event : Event) (log : PassLog) : PassLog :=
  match event with
  | .installed => empty
  | .hardReset => { log with wasReset := true }
  | .recovered channel _ => { log with recovered := channel :: log.recovered }
  | .surveyed start report =>
      { log with passes := ⟨start, report, log.recovered⟩ :: log.passes, recovered := [] }
  | .ran _ _ _ _ _ | .poweringUp _ | .dispatched _ _ | .stuck _ => log

def addAll (events : List Event) (log : PassLog) : PassLog := events.foldr add log

/-- What a history tells, from the latest installation on. -/
def ofHistory (history : List Event) : PassLog := addAll history empty

theorem add_of_minor {event : Event} (minor : event.isMilestone = false) (log : PassLog) :
    add event log = log := by
  cases event <;> first | rfl | cases minor

/-- Milestones tell all of it. -/
theorem addAll_filter (events : List Event) (log : PassLog) :
    addAll (events.filter Event.isMilestone) log = addAll events log := by
  induction events with
  | nil => rfl
  | cons event others ih =>
      rw [List.filter_cons]
      split
      · exact congrArg (add event) ih
      · rename_i minor
        have skipped : addAll (event :: others) log = addAll others log :=
          add_of_minor (Bool.eq_false_of_not_eq_true minor) _
        rw [skipped, ih]

theorem addAll_append (late early : List Event) (log : PassLog) :
    addAll (late ++ early) log = addAll late (addAll early log) :=
  List.foldr_append

variable {events : List Event} {log : PassLog}

/-- What a pass does on its way ends no pass. -/
theorem passes_addAll (ofPass : ∀ event ∈ events, event.isOfPass = true) (log : PassLog) :
    (addAll events log).passes = log.passes := by
  induction events with
  | nil => rfl
  | cons event others ih =>
      have rest := ih fun other member => ofPass other (List.mem_cons_of_mem _ member)
      have here := ofPass event List.mem_cons_self
      cases event <;> first | exact rest | cases here

theorem wasReset_addAll (ofPass : ∀ event ∈ events, event.isOfPass = true) (log : PassLog) :
    (addAll events log).wasReset = false ↔ log.wasReset = false ∧ .hardReset ∉ events := by
  induction events with
  | nil => simp [addAll]
  | cons event others ih =>
      have rest := ih fun other member => ofPass other (List.mem_cons_of_mem _ member)
      have here := ofPass event List.mem_cons_self
      cases event with
      | hardReset => simp [addAll, add]
      | stuck channel => simpa [addAll, add] using rest
      | recovered channel remedy => simpa [addAll, add] using rest
      | _ => cases here

theorem mem_recovered_addAll (ofPass : ∀ event ∈ events, event.isOfPass = true) (log : PassLog)
    (channel : UInt8) :
    channel ∈ (addAll events log).recovered ↔
      (∃ remedy, .recovered channel remedy ∈ events) ∨ channel ∈ log.recovered := by
  induction events with
  | nil => simp [addAll]
  | cons event others ih =>
      have rest := ih fun other member => ofPass other (List.mem_cons_of_mem _ member)
      have here := ofPass event List.mem_cons_self
      cases event with
      | hardReset => simpa [addAll, add] using rest
      | stuck channel => simpa [addAll, add] using rest
      | recovered other remedy =>
          have grown : (addAll (.recovered other remedy :: others) log).recovered =
              other :: (addAll others log).recovered := rfl
          rw [grown, List.mem_cons, rest]
          constructor
          · rintro (rfl | ⟨told, member⟩ | old)
            · exact .inl ⟨remedy, List.mem_cons_self⟩
            · exact .inl ⟨told, List.mem_cons_of_mem _ member⟩
            · exact .inr old
          · rintro (⟨told, member⟩ | old)
            · rcases List.mem_cons.mp member with same | later
              · cases same
                exact .inl rfl
              · exact .inr (.inl ⟨told, later⟩)
            · exact .inr (.inr old)
      | _ => cases here

end PassLog

/-! ## Storms -/

/--
The passes, the latest first, tell of a channel what its storm windows say, and leave the storm
window behind.
-/
inductive Judged (config : Config) (channel : UInt8) : List PassRecord → Debounce → Prop where
  | nothing : Judged config channel [] .fresh
  | silent {pass : PassRecord} {passes : List PassRecord} {debounce : Debounce}
      (earlier : Judged config channel passes debounce) (silent : pass.detects channel = false) :
      Judged config channel (pass :: passes) debounce
  | loud {pass : PassRecord} {passes : List PassRecord} {debounce : Debounce}
      (earlier : Judged config channel passes debounce) (loud : pass.detects channel = true)
      (follows : pass.Follows channel (config.detect pass.start debounce).2) :
      Judged config channel (pass :: passes) (config.detect pass.start debounce).1

namespace PassRecord

/-- The passes that found something on a channel, the earliest first. -/
def detections (channel : UInt8) (passes : List PassRecord) : List PassRecord :=
  (passes.filter (detects channel)).reverse

/-- Of passes in order, those that began before a window was over that the first of them opened. -/
def storm (window : Nat) : List PassRecord → List PassRecord
  | [] => []
  | first :: others => (first :: others).filter fun pass => pass.start ≤ first.start + window

theorem detections_cons (channel : UInt8) (pass : PassRecord) (passes : List PassRecord) :
    detections channel (pass :: passes) =
      detections channel passes ++ (if pass.detects channel then [pass] else []) := by
  unfold detections
  rw [List.filter_cons]
  split
  · rw [List.reverse_cons]
  · rw [List.append_nil]

end PassRecord

namespace PassRecord

variable {config : Config} {channel : UInt8} {limit : UInt32} {pass first : PassRecord}
  {found others : List PassRecord}

/-- The first `limit` detections of a row were acted on, and the others skipped. -/
structure Limited (channel : UInt8) (limit : UInt32) (found : List PassRecord) : Prop where
  acted : ∀ pass ∈ found.take limit.toNat, pass.Follows channel .act
  skipped : limit.toNat ≠ UInt32.size - 1 →
    ∀ pass ∈ found.drop limit.toNat, pass.Follows channel .stuck

/-- One more detection, judged by how many there were. -/
theorem Limited.grow (limited : Limited channel limit found)
    (follows : pass.Follows channel (Debounce.verdict limit (found.length + 1))) :
    Limited channel limit (found ++ [pass]) := by
  constructor
  · intro other member
    rw [List.take_append] at member
    rcases List.mem_append.mp member with early | last
    · exact limited.acted other early
    · have few : found.length + 1 ≤ limit.toNat := by
        by_contra many
        rw [Nat.sub_eq_zero_of_le (by omega), List.take_zero] at last
        exact List.not_mem_nil last
      rw [Debounce.verdict_of_le few] at follows
      rw [List.mem_singleton.mp (List.mem_of_mem_take last)]
      exact follows
  · intro countable other member
    rw [List.drop_append] at member
    rcases List.mem_append.mp member with early | last
    · exact limited.skipped countable other early
    · have many : limit.toNat < found.length + 1 := by
        by_contra few
        rw [List.drop_eq_nil_of_le (by simp; omega)] at last
        exact List.not_mem_nil last
      rw [Debounce.verdict_of_lt many countable] at follows
      rw [List.mem_singleton.mp (List.mem_of_mem_drop last)]
      exact follows

theorem storm_append (window : Nat) (first : PassRecord) (others : List PassRecord)
    (pass : PassRecord) :
    storm window (first :: others ++ [pass]) = storm window (first :: others) ++
      if pass.start ≤ first.start + window then [pass] else [] := by
  have split : storm window (first :: others ++ [pass]) = storm window (first :: others) ++
      [pass].filter fun pass => pass.start ≤ first.start + window :=
    List.filter_append (p := fun pass : PassRecord => pass.start ≤ first.start + window)
      (first :: others) [pass]
  rw [split, List.filter_singleton, Bool.cond_decide]

theorem storm_of_le {window : Nat}
    (inside : ∀ pass ∈ first :: others, pass.start ≤ first.start + window) :
    storm window (first :: others) = first :: others :=
  List.filter_eq_self.mpr fun pass member => decide_eq_true (inside pass member)

theorem length_storm_le (window : Nat) (found : List PassRecord) :
    (storm window found).length ≤ found.length := by
  cases found with
  | nil => exact Nat.le_refl 0
  | cons first others => exact List.length_filter_le _ _

/-- While a storm lasts, the window was opened by its first detection and counts all of them. -/
def Counts (debounce : Debounce) : List PassRecord → Prop
  | [] => debounce = .fresh
  | first :: others => debounce = .counting (others.length + 1) first.start

/-- The detections of a channel so far, the earliest first, and the window that they left. -/
structure Weathered (config : Config) (channel : UInt8) (found : List PassRecord)
    (debounce : Debounce) : Prop where
  limited : Limited channel config.stormLimit
    (storm (Bus.milliseconds config.stormWindow.toNat) found)
  counts : storm (Bus.milliseconds config.stormWindow.toNat) found = found → Counts debounce found

/-- The first of all detections opens a window. -/
theorem Weathered.opens {debounce : Debounce} (weathered : Weathered config channel [] debounce)
    (follows : pass.Follows channel (config.detect pass.start debounce).2) :
    Weathered config channel [pass] (config.detect pass.start debounce).1 := by
  have fresh : debounce = .fresh := weathered.counts rfl
  have first : config.detect pass.start debounce =
      (.counting 1 pass.start, Debounce.verdict config.stormLimit 1) := by
    rw [fresh, Config.detect, Debounce.detect_fresh]
  rw [first] at follows ⊢
  refine ⟨?_, fun _ => rfl⟩
  have alone : storm (Bus.milliseconds config.stormWindow.toNat) [pass] = [] ++ [pass] := by
    simp [storm]
  rw [alone]
  exact weathered.limited.grow follows

/-- A detection while the storm lasts is one more of it. -/
theorem Weathered.inside {debounce : Debounce}
    (weathered : Weathered config channel (first :: others) debounce)
    (lasts : storm (Bus.milliseconds config.stormWindow.toNat) (first :: others) = first :: others)
    (inside : pass.start ≤ first.start + Bus.milliseconds config.stormWindow.toNat)
    (follows : pass.Follows channel (config.detect pass.start debounce).2) :
    Weathered config channel (first :: others ++ [pass])
      (config.detect pass.start debounce).1 := by
  have counted : debounce = .counting (others.length + 1) first.start := weathered.counts lasts
  have next : config.detect pass.start debounce = (.counting (others.length + 2) first.start,
      Debounce.verdict config.stormLimit (others.length + 2)) := by
    rw [counted, Config.detect, Debounce.detect_counting inside]
  rw [next] at follows ⊢
  constructor
  · have limited := weathered.limited
    rw [lasts] at limited
    rw [storm_append, lasts, if_pos inside]
    exact limited.grow follows
  · intro _
    simp [Counts]

/-- A detection after the storm leaves it as it was. -/
theorem Weathered.outside {debounce later : Debounce}
    (weathered : Weathered config channel (first :: others) debounce)
    (outside : ¬pass.start ≤ first.start + Bus.milliseconds config.stormWindow.toNat) :
    Weathered config channel (first :: others ++ [pass]) later := by
  have same : storm (Bus.milliseconds config.stormWindow.toNat) (first :: others ++ [pass]) =
      storm (Bus.milliseconds config.stormWindow.toNat) (first :: others) := by
    rw [storm_append, if_neg outside, List.append_nil]
  constructor
  · rw [same]
    exact weathered.limited
  · intro all
    have shorter := length_storm_le (Bus.milliseconds config.stormWindow.toNat) (first :: others)
    rw [← same, all, List.length_append, List.length_singleton] at shorter
    exact absurd shorter (Nat.not_succ_le_self _)

theorem Weathered.grow {debounce : Debounce} (weathered : Weathered config channel found debounce)
    (later : ∀ earlier ∈ found, earlier.start ≤ pass.start)
    (follows : pass.Follows channel (config.detect pass.start debounce).2) :
    Weathered config channel (found ++ [pass]) (config.detect pass.start debounce).1 := by
  cases found with
  | nil => exact weathered.opens follows
  | cons first others =>
      by_cases inside : pass.start ≤ first.start + Bus.milliseconds config.stormWindow.toNat
      · -- Time does not go back, so the storm lasted until now.
        have lasts := storm_of_le fun earlier member => (later earlier member).trans inside
        exact weathered.inside lasts inside follows
      · exact weathered.outside inside

end PassRecord

open PassRecord (detections Weathered)

/-- What passes that were judged tell of a channel. -/
theorem Judged.weathered {config : Config} {channel : UInt8} {passes : List PassRecord}
    {debounce : Debounce} (judged : Judged config channel passes debounce)
    (ordered : passes.Pairwise fun later earlier => earlier.start ≤ later.start) :
    Weathered config channel (detections channel passes) debounce := by
  induction judged with
  | nothing =>
      refine ⟨⟨fun pass member => ?_, fun _ pass member => ?_⟩, fun _ => rfl⟩
      · exact absurd (List.mem_of_mem_take member) List.not_mem_nil
      · exact absurd (List.mem_of_mem_drop member) List.not_mem_nil
  | silent earlier silent ih =>
      rw [PassRecord.detections_cons, silent, if_neg Bool.false_ne_true, List.append_nil]
      exact ih ordered.of_cons
  | loud earlier loud follows ih =>
      obtain ⟨latest, rest⟩ := List.pairwise_cons.mp ordered
      rw [PassRecord.detections_cons, if_pos loud]
      refine (ih rest).grow (fun other member => latest other ?_) follows
      exact (List.mem_filter.mp (List.mem_reverse.mp member)).1

end AmpControl
