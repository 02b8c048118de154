import AmpControl.Proofs.Bus.Ensemble
import Mathlib.Data.List.MinMax
import Mathlib.Order.Nat

/-!
# Scripts on different channels do not disturb each other

Scripts that take turns on one bus, each on a channel of its own, come to the same as scripts that
are carried out one after another: the same faults, and on every channel the same registers, the
same remembered bank and the same calls. Only the time differs, which scripts that take turns spend
together. Without delay each of them is over as soon as its own pauses are.
-/

namespace AmpControl.Bus

open Tuning (Command Script)

/-! ## One after another -/

/-- Carries out scripts one after another, and tells the fault of each with its channel. -/
def inTurn : List (UInt8 × Script) → Bus → Bus × List (UInt8 × Option TransportFault)
  | [], bus => (bus, [])
  | (channel, script) :: others, bus =>
      let outcome := bus.execute channel script
      let rest := inTurn others outcome.1
      (rest.1, (channel, outcome.2) :: rest.2)

variable {origin bus before after : Bus} {channel : UInt8} {script : Script}
  {scripts order : List (UInt8 × Script)}

theorem lane_execute_congr (same : lane channel before = lane channel after) (script : Script) :
    lane channel (before.execute channel script).1 =
        lane channel (after.execute channel script).1 ∧
      (before.execute channel script).2 = (after.execute channel script).2 := by
  obtain ⟨lanes, failures⟩ := lane_carryOutAll_congr same script 0
  exact ⟨lanes, congrArg (TransportFault.ofCount channel) failures⟩

/-- A channel without a script keeps its lane. -/
theorem lane_inTurn_of_notMem (absent : channel ∉ scripts.map (·.1)) (bus : Bus) :
    lane channel (inTurn scripts bus).1 = lane channel bus := by
  induction scripts generalizing bus with
  | nil => rfl
  | cons entry others ih =>
      obtain ⟨apart, further⟩ := List.ne_and_not_mem_of_not_mem_cons absent
      exact (ih further _).trans (lane_carryOutAll_of_ne apart entry.2 0 bus)

/-- A script that follows others has the channel as if it were the only one. -/
theorem inTurn_of_nodup (apart : (scripts.map (·.1)).Nodup) (bus : Bus) :
    (inTurn scripts bus).2 = scripts.map (fun entry => (entry.1, (bus.execute entry.1 entry.2).2)) ∧
      ∀ entry ∈ scripts,
        lane entry.1 (inTurn scripts bus).1 = lane entry.1 (bus.execute entry.1 entry.2).1 := by
  induction scripts generalizing bus with
  | nil => exact ⟨rfl, fun _ member => absurd member List.not_mem_nil⟩
  | cons first others ih =>
      obtain ⟨absent, apart⟩ := List.nodup_cons.mp apart
      obtain ⟨faults, lanes⟩ := ih apart (bus.execute first.1 first.2).1
      have undisturbed : ∀ entry ∈ others,
          lane entry.1 (bus.execute first.1 first.2).1 = lane entry.1 bus := by
        intro entry member
        have different : entry.1 ≠ first.1 := fun same =>
          absent (List.mem_map.mpr ⟨entry, member, same⟩)
        exact lane_carryOutAll_of_ne different first.2 0 bus
      constructor
      · rw [inTurn, faults, List.map_cons]
        refine congrArg _ (List.map_congr_left fun entry member => ?_)
        rw [(lane_execute_congr (undisturbed entry member) entry.2).2]
      · intro entry member
        rcases List.mem_cons.mp member with rfl | later
        · exact lane_inTurn_of_notMem absent _
        · exact (lanes entry later).trans
            (lane_execute_congr (undisturbed entry later) entry.2).1

namespace Ensemble

variable {ensemble ended : Ensemble} {allowed : Ensemble → Nat → Prop}

/-! ## Taking turns -/

/-- A script has come as far as if it had the bus for itself. -/
def Tracks (origin : Bus) (entry : UInt8 × Script) (bus : Bus) (job : Job) : Prop :=
  job.channel = entry.1 ∧ ∃ finished, entry.2 = finished ++ job.remaining.getD [] ∧
    lane entry.1 bus = lane entry.1 (carryOutAll entry.1 finished 0 origin).1 ∧
    job.failures = (carryOutAll entry.1 finished 0 origin).2

/-- All scripts have come as far as if each had the bus for itself, and nothing else has changed. -/
structure Follows (origin : Bus) (scripts : List (UInt8 × Script)) (ensemble : Ensemble) :
    Prop where
  tracks : List.Forall₂ (fun entry job => Tracks origin entry ensemble.bus job) scripts
    ensemble.jobs
  elsewhere : ∀ channel, channel ∉ scripts.map (·.1) →
    lane channel ensemble.bus = lane channel origin

theorem follows_start (origin : Bus) (scripts : List (UInt8 × Script)) :
    Follows origin scripts (start origin scripts) := by
  refine ⟨?_, fun _ _ => rfl⟩
  rw [start, List.forall₂_map_right_iff]
  exact List.forall₂_same.mpr fun entry _ => ⟨rfl, [], rfl, rfl, rfl⟩

/-- A turn of a script carries on what it would do alone. -/
theorem Tracks.advance {entry : UInt8 × Script} {job : Job} (tracks : Tracks origin entry bus job)
    (unfinished : job.finished = false) :
    Tracks origin entry (job.advance bus).1 (job.advance bus).2 := by
  obtain ⟨same, finished, division, lanes, failures⟩ := tracks
  cases remaining : job.remaining with
  | none => simp [Job.finished, remaining] at unfinished
  | some script =>
      rw [remaining] at division
      cases script with
      | nil =>
          rw [Job.advance_of_end remaining]
          exact ⟨same, finished, division, lanes, failures⟩
      | cons command others =>
          obtain ⟨moved, channel, rest, count, _⟩ :=
            Job.advance_of_command bus remaining
          obtain ⟨there, carriedOut⟩ := lane_carryOut_congr lanes command
          refine ⟨channel.trans same, finished ++ [command], ?_, ?_, ?_⟩
          · rw [rest, division]
            simp
          · rw [moved, same, carryOutAll_concat]
            exact there
          · rw [count, same, carryOutAll_concat, failures, carriedOut]

/-- A turn of a script leaves alone what the others do. -/
theorem lane_advance_of_ne {job : Job} (apart : channel ≠ job.channel) (bus : Bus) :
    lane channel (job.advance bus).1 = lane channel bus := by
  cases remaining : job.remaining with
  | none => rw [Job.advance, remaining]
  | some script =>
      cases script with
      | nil => rw [Job.advance_of_end remaining]
      | cons command others =>
          rw [(Job.advance_of_command _ remaining).1]
          exact lane_carryOut_of_ne apart command bus

/--
One job of a row is replaced. What relates the scripts with the jobs changes for this job, and stays
for the jobs in other places.
-/
theorem forall₂_set {fits stays : UInt8 × Script → Job → Prop} {jobs : List Job} {place : Nat}
    {old new : Job} (related : List.Forall₂ fits scripts jobs) (found : jobs[place]? = some old)
    (here : ∀ entry, scripts[place]? = some entry → fits entry old → stays entry new)
    (there : ∀ other entry job, other ≠ place → scripts[other]? = some entry → fits entry job →
      stays entry job) :
    List.Forall₂ stays scripts (jobs.set place new) := by
  obtain ⟨length, each⟩ := List.forall₂_iff_get.mp related
  obtain ⟨within, rfl⟩ := List.getElem?_eq_some_iff.mp found
  refine List.forall₂_iff_get.mpr ⟨by rw [length, List.length_set], fun other inside inJobs => ?_⟩
  have inOld : other < jobs.length := List.length_set ▸ inJobs
  by_cases same : other = place
  · subst same
    simp only [List.get_eq_getElem, List.getElem_set_self]
    exact here _ (List.getElem?_eq_getElem inside) (each other inside inOld)
  · simp only [List.get_eq_getElem, List.getElem_set_ne (Ne.symm same)]
    exact there other _ _ same (List.getElem?_eq_getElem inside) (each other inside inOld)

/-- Scripts in different places have different channels. -/
theorem channel_ne {first second : UInt8 × Script} {place other : Nat}
    (apart : (scripts.map (·.1)).Nodup) (here : scripts[place]? = some first)
    (there : scripts[other]? = some second) (different : other ≠ place) : second.1 ≠ first.1 := by
  intro same
  have inside : other < (scripts.map (·.1)).length := by
    rw [List.length_map]
    exact (List.getElem?_eq_some_iff.mp there).1
  refine different ((List.getElem?_inj inside apart).mp ?_)
  rw [List.getElem?_map, List.getElem?_map, here, there]
  exact congrArg some same

/-- Whatever happens next, all scripts come as far as if each had the bus for itself. -/
theorem Follows.step {after : Ensemble} (follows : Follows origin scripts ensemble)
    (apart : (scripts.map (·.1)).Nodup) (step : Step allowed ensemble after) :
    Follows origin scripts after := by
  obtain ⟨tracks, elsewhere⟩ := follows
  cases step with
  | waited later allows => exact ⟨tracks, elsewhere⟩
  | advanced found unfinished due =>
      rename_i place job
      obtain ⟨entry, here, owner⟩ : ∃ entry, scripts[place]? = some entry ∧
          job.channel = entry.1 := by
        obtain ⟨length, each⟩ := List.forall₂_iff_get.mp tracks
        obtain ⟨within, rfl⟩ := List.getElem?_eq_some_iff.mp found
        exact ⟨_, List.getElem?_eq_getElem (length ▸ within), (each place _ within).1⟩
      constructor
      · refine forall₂_set tracks found (fun _ _ tracks => tracks.advance unfinished) ?_
        intro other second job' different there tracks
        have undisturbed := lane_advance_of_ne
          (owner ▸ channel_ne apart here there different) ensemble.bus
        obtain ⟨same, finished, division, lanes, failures⟩ := tracks
        exact ⟨same, finished, division, undisturbed.trans lanes, failures⟩
      · intro channel absent
        have different : channel ≠ job.channel := fun same =>
          absent (List.mem_map.mpr ⟨entry, List.mem_of_getElem? here, by rw [same, owner]⟩)
        exact (lane_advance_of_ne different ensemble.bus).trans (elsewhere channel absent)

theorem Follows.of_runs (apart : (scripts.map (·.1)).Nodup)
    (runs : Runs allowed (start origin scripts) ended) : Follows origin scripts ended := by
  induction runs with
  | refl => exact follows_start origin scripts
  | tail _ step ih => exact ih.step apart step

/-- Scripts that are over have come as far as if each had had the bus for itself. -/
theorem Follows.over (follows : Follows origin scripts ended) (isOver : ended.IsOver) :
    ended.results = scripts.map (fun entry => (entry.1, (origin.execute entry.1 entry.2).2)) ∧
      ∀ entry ∈ scripts,
        lane entry.1 ended.bus = lane entry.1 (origin.execute entry.1 entry.2).1 := by
  have whole : List.Forall₂ (fun job entry =>
      (job.channel, job.fault) = (entry.1, (origin.execute entry.1 entry.2).2) ∧
        lane entry.1 ended.bus = lane entry.1 (origin.execute entry.1 entry.2).1)
      ended.jobs scripts := by
    refine ((List.forall₂_and_left _ _).mpr ⟨isOver, follows.tracks.flip⟩).imp ?_
    rintro job entry ⟨finished, same, done, division, lanes, failures⟩
    rw [Option.isNone_iff_eq_none.mp finished] at division
    obtain rfl : entry.2 = done := division.trans (List.append_nil done)
    exact ⟨by rw [same, Job.fault, failures, same]; rfl, lanes⟩
  constructor
  · rw [results, ← List.forall₂_eq_eq_eq, List.forall₂_map_left_iff, List.forall₂_map_right_iff]
    exact whole.imp fun _ _ both => both.1
  · exact ((List.forall₂_and_left _ _).mp (whole.imp fun _ _ both => ⟨both.2, trivial⟩).flip).1

/-! ## Without delay -/

/-- The microseconds of the script that pauses longest. -/
def longest (scripts : List (UInt8 × Script)) : Nat :=
  (scripts.map fun entry => pauses entry.2).foldr max 0

/-- A script has spent its own pauses, and nothing else, since the start. -/
structure OnTime (origin : Bus) (entry : UInt8 × Script) (clock : Nat) (job : Job) : Prop where
  ahead : job.finished = false →
    max clock job.resume + pauses (job.remaining.getD []) = origin.clock + pauses entry.2
  ended : job.finished = true → job.resume = origin.clock + pauses entry.2 ∧ job.resume ≤ clock

/-- No script has been delayed. -/
structure Timely (origin : Bus) (scripts : List (UInt8 × Script)) (ensemble : Ensemble) :
    Prop where
  onTime : List.Forall₂ (fun entry job => OnTime origin entry ensemble.bus.clock job) scripts
    ensemble.jobs
  started : origin.clock ≤ ensemble.bus.clock
  bounded : ensemble.bus.clock ≤ origin.clock + longest scripts

theorem timely_start (origin : Bus) (scripts : List (UInt8 × Script)) :
    Timely origin scripts (start origin scripts) := by
  refine ⟨?_, Nat.le_refl _, Nat.le_add_right _ _⟩
  rw [start, List.forall₂_map_right_iff]
  exact List.forall₂_same.mpr fun entry _ =>
    ⟨fun _ => congrArg (· + pauses entry.2) (Nat.max_zero _), nofun⟩

theorem OnTime.advance {entry : UInt8 × Script} {job : Job}
    (onTime : OnTime origin entry bus.clock job) (unfinished : job.finished = false)
    (due : job.resume ≤ bus.clock) : OnTime origin entry bus.clock (job.advance bus).2 := by
  have ahead := onTime.ahead unfinished
  rw [max_eq_left due] at ahead
  cases remaining : job.remaining with
  | none => simp [Job.finished, remaining] at unfinished
  | some script =>
      rw [remaining] at ahead
      cases script with
      | nil =>
          rw [Job.advance_of_end remaining]
          exact ⟨fun goesOn => Bool.noConfusion goesOn, fun _ => ⟨ahead, Nat.le_refl _⟩⟩
      | cons command others =>
          obtain ⟨_, _, rest, _, put⟩ := Job.advance_of_command bus remaining
          refine ⟨fun _ => ?_, fun isOver => ?_⟩
          · rw [rest, put due, ← ahead, Nat.add_assoc]
            rfl
          · simp [Job.finished, rest] at isOver

/-- A script whose pause lasts on stays on time while time passes, until its pause is over. -/
theorem OnTime.wait {entry : UInt8 × Script} {job : Job} {clock instant : Nat}
    (onTime : OnTime origin entry clock job) (later : clock ≤ instant)
    (early : job.finished = false → instant ≤ job.resume) :
    OnTime origin entry instant job := by
  refine ⟨fun unfinished => ?_, fun isOver => ?_⟩
  · have before := early unfinished
    rw [max_eq_right before, ← onTime.ahead unfinished, max_eq_right (later.trans before)]
  · obtain ⟨end_, past⟩ := onTime.ended isOver
    exact ⟨end_, past.trans later⟩

theorem pauses_le_longest {entry : UInt8 × Script} (member : entry ∈ scripts) :
    pauses entry.2 ≤ longest scripts :=
  List.le_max_of_le (List.mem_map_of_mem member) (Nat.le_refl _)

theorem Timely.step {after : Ensemble} (timely : Timely origin scripts ensemble)
    (step : Step Prompt ensemble after) : Timely origin scripts after := by
  obtain ⟨onTime, started, bounded⟩ := timely
  cases step with
  | advanced found unfinished due =>
      rename_i place job
      rw [← Job.clock_advance job ensemble.bus] at started bounded
      refine ⟨?_, started, bounded⟩
      simp only [Job.clock_advance]
      exact forall₂_set onTime found (fun _ _ onTime => onTime.advance unfinished due)
        fun _ _ _ _ _ onTime => onTime
  | waited later allows =>
      rename_i instant
      obtain ⟨⟨job, member, unfinished⟩, early⟩ := allows
      refine ⟨?_, started.trans later, ?_⟩
      · refine (((List.forall₂_and_left _ _).mpr ⟨early, onTime.flip⟩).imp ?_).flip
        exact fun job entry ⟨early, onTime⟩ => onTime.wait later early
      · obtain ⟨entry, inScripts, ahead⟩ : ∃ entry ∈ scripts,
            max ensemble.bus.clock job.resume + pauses (job.remaining.getD []) =
              origin.clock + pauses entry.2 := by
          obtain ⟨place, within, rfl⟩ := List.mem_iff_getElem.mp member
          obtain ⟨length, each⟩ := List.forall₂_iff_get.mp onTime
          exact ⟨_, List.getElem_mem (length ▸ within), (each place _ within).ahead unfinished⟩
        have long := pauses_le_longest inScripts
        have soon := early job member unfinished
        have last := le_max_right ensemble.bus.clock job.resume
        show instant ≤ origin.clock + longest scripts
        omega

theorem Timely.of_runs (runs : Runs Prompt (start origin scripts) ended) :
    Timely origin scripts ended := by
  induction runs with
  | refl => exact timely_start origin scripts
  | tail _ step ih => exact ih.step step

/-- Scripts that are over were over when their own pauses were, the last one with the longest. -/
theorem Timely.over (timely : Timely origin scripts ended) (isOver : ended.IsOver) :
    ended.jobs.map (·.resume) = scripts.map (fun entry => origin.clock + pauses entry.2) ∧
      ended.bus.clock = origin.clock + longest scripts := by
  have ends : List.Forall₂ (fun job entry => job.resume = origin.clock + pauses entry.2 ∧
      job.resume ≤ ended.bus.clock) ended.jobs scripts := by
    refine ((List.forall₂_and_left _ _).mpr ⟨isOver, timely.onTime.flip⟩).imp ?_
    exact fun _ _ ⟨finished, onTime⟩ => onTime.ended finished
  constructor
  · rw [← List.forall₂_eq_eq_eq, List.forall₂_map_left_iff, List.forall₂_map_right_iff]
    exact ends.imp fun _ _ both => both.1
  · refine Nat.le_antisymm timely.bounded ?_
    have within : longest scripts ≤ ended.bus.clock - origin.clock := by
      refine List.max_le_of_forall_le _ _ fun span member => ?_
      obtain ⟨entry, inScripts, rfl⟩ := List.mem_map.mp member
      have past : ∀ entry ∈ scripts, origin.clock + pauses entry.2 ≤ ended.bus.clock :=
        ((List.forall₂_and_left _ _).mp
          (ends.imp fun _ _ both => ⟨both.1 ▸ both.2, trivial⟩).flip).1
      have := past entry inScripts
      omega
    have := timely.started
    omega

/-! ## Isolation -/

/--
Scripts on different channels do not disturb each other. Wherever they stand, they can be carried
out to their ends. However they took turns, and whenever, their faults and the lanes of all channels
are then those of carrying them out one after another, in any order. Without delay each of them is
over when its own pauses are, and so the longest pauses decide when all of them are. The scheduler
delays none of them.
-/
theorem scripts_isolated (bus : Bus) (scripts : List (UInt8 × Script))
    (apart : (scripts.map (·.1)).Nodup) :
    (∀ underway, Runs Anytime (start bus scripts) underway →
      ∃ ended, Runs Prompt underway ended ∧ ended.IsOver) ∧
    (∀ ended order, Runs Anytime (start bus scripts) ended → ended.IsOver → order.Perm scripts →
      ended.results.Perm (inTurn order bus).2 ∧
        ∀ channel, lane channel ended.bus = lane channel (inTurn order bus).1) ∧
    (∀ ended, Runs Prompt (start bus scripts) ended → ended.IsOver →
      ended.jobs.map (·.resume) = scripts.map (fun entry => bus.clock + pauses entry.2) ∧
        ended.bus.clock = bus.clock + longest scripts) ∧
    ∃ ended, Runs Prompt (start bus scripts) ended ∧ ended.IsOver ∧
      executeAll scripts bus = (ended.bus, ended.jobs.map Job.fault) := by
  refine ⟨fun underway _ => exists_over underway, ?_, ?_, runs_executeAll bus scripts⟩
  · intro ended order runs isOver reordered
    have follows := Follows.of_runs apart runs
    obtain ⟨faults, lanes⟩ := follows.over isOver
    have apartInOrder : (order.map (·.1)).Nodup := (reordered.map _).nodup_iff.mpr apart
    obtain ⟨faultsInOrder, lanesInOrder⟩ := inTurn_of_nodup apartInOrder bus
    constructor
    · rw [faults, faultsInOrder]
      exact (reordered.symm).map _
    · intro channel
      by_cases used : channel ∈ scripts.map (·.1)
      · obtain ⟨entry, member, rfl⟩ := List.mem_map.mp used
        rw [lanes entry member, lanesInOrder entry (reordered.mem_iff.mpr member)]
      · rw [follows.elsewhere channel used, lane_inTurn_of_notMem]
        exact fun inOrder => used ((reordered.map _).mem_iff.mp inOrder)
  · exact fun ended runs isOver => (Timely.of_runs runs).over isOver

/-- Two scripts, one of them on a channel that fails. -/
def halfFailing : List (UInt8 × Script) :=
  [(0, [.write (.ofParts 0 0 1) 7, .pause 3, .write (.ofParts 0 1 2) 8]),
    (1, [.write (.ofParts 0 0 1) 9, .pause 2, .pause 3])]

/-- The bus on which the second of two channels fails. -/
def failingBus : Bus := ⟨Transport.failChannel 1 .new, Bus.new.selected, 0⟩

theorem halfFailing_isolated :
    ∃ ended, Runs Prompt (start failingBus halfFailing) ended ∧ ended.IsOver ∧
      ended.results.Perm [(1, some ⟨1, 1⟩), (0, none)] ∧ ended.bus.clock = 5000 := by
  obtain ⟨-, inAnyOrder, prompt, ended, runs, isOver, -⟩ :=
    scripts_isolated failingBus halfFailing (by decide)
  have faults := (inAnyOrder ended halfFailing.reverse runs.anytime isOver
    halfFailing.reverse_perm).1
  exact ⟨ended, runs, isOver, faults, (prompt ended runs isOver).2⟩

end Ensemble

end AmpControl.Bus
