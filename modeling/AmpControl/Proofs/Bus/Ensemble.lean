import AmpControl.Bus.Schedule
import AmpControl.Proofs.Bus.Lane
import Mathlib.Algebra.GroupWithZero.Nat
import Mathlib.Data.List.Forall2
import Mathlib.Logic.Relation
import Mathlib.Order.Lattice

/-!
# Scripts that take turns

Scripts on the same bus take turns after every command, in any order. A script that pauses may go on
once its pause is over; it does so without delay where time never passes the end of a pause. The
scheduler lets every script go on until it pauses, which is one of the ways to take turns.
-/

namespace AmpControl.Bus

open Tuning (Command Script)

/-! ## Single commands -/

/-- The microseconds that a command waits. -/
def pauseOf : Command → Nat
  | .pause time => milliseconds time.toNat
  | .write _ _ | .burst _ _ | .update _ _ _ => 0

/-- The microseconds that a script waits in all its pauses. -/
def pauses (script : Script) : Nat := (script.map pauseOf).sum

theorem clock_access (channel : UInt8) (register : Register) (call : Call) (bus : Bus) :
    (bus.access channel register call).1.clock = bus.clock := by
  have selected : (bus.select channel register.bank).1.clock = bus.clock := by
    unfold select
    split <;> rfl
  unfold access
  simp only
  split <;> exact selected

theorem clock_carryOut (channel : UInt8) (command : Command) (bus : Bus) :
    (bus.carryOut channel command).1.clock = bus.clock + pauseOf command := by
  cases command with
  | write register value => exact clock_access channel register _ bus
  | burst register data => exact clock_access channel register _ bus
  | update register mask value => exact clock_access channel register _ bus
  | pause time => rfl

namespace Job

/-- Carries out the next command of a script; one without a command is over. -/
def advance (job : Job) (bus : Bus) : Bus × Job :=
  match job.remaining with
  | none => (bus, job)
  | some [] => (bus, { job with remaining := none, resume := bus.clock })
  | some (.pause time :: others) =>
      (bus, { job with remaining := some others, resume := bus.clock + milliseconds time.toNat })
  | some (command :: others) =>
      let outcome := bus.carryOut job.channel command
      (outcome.1,
        { job with
          remaining := some others
          failures := if outcome.2 then job.failures else job.failures + 1 })

/-- The turns that a script needs until it is over. -/
def size (job : Job) : Nat := (job.remaining.map fun script => script.length + 1).getD 0

variable {job : Job} {bus : Bus} {command : Command} {others : Script}

theorem advance_of_end (ends : job.remaining = some []) :
    job.advance bus = (bus, { job with remaining := none, resume := bus.clock }) := by
  simp only [advance, ends]

/-- A command that is no pause is carried out at once. -/
theorem advance_of_access (next : job.remaining = some (command :: others))
    (carriesOut : ∀ time, command ≠ .pause time) :
    job.advance bus = ((bus.carryOut job.channel command).1, { job with
      remaining := some others
      failures :=
        if (bus.carryOut job.channel command).2 then job.failures else job.failures + 1 }) := by
  cases command with
  | pause time => exact absurd rfl (carriesOut time)
  | write | burst | update => simp only [advance, next]

/-- One command: a pause puts the script off, any other command is carried out. -/
theorem advance_of_command (bus : Bus) (next : job.remaining = some (command :: others)) :
    (job.advance bus).1 = { (bus.carryOut job.channel command).1 with clock := bus.clock } ∧
      (job.advance bus).2.channel = job.channel ∧
      (job.advance bus).2.remaining = some others ∧
      (job.advance bus).2.failures =
        (if (bus.carryOut job.channel command).2 then job.failures else job.failures + 1) ∧
      (job.resume ≤ bus.clock →
        max bus.clock (job.advance bus).2.resume = bus.clock + pauseOf command) := by
  have still := clock_carryOut job.channel command bus
  cases command with
  | pause time =>
      have started : job.advance bus =
          (bus, { job with
            remaining := some others, resume := bus.clock + milliseconds time.toNat }) := by
        simp only [advance, next]
      rw [started]
      exact ⟨rfl, rfl, rfl, rfl, fun _ => max_eq_right (Nat.le_add_right _ _)⟩
  | write | burst | update =>
      rw [advance_of_access next fun _ => nofun, ← still.trans (Nat.add_zero _)]
      exact ⟨rfl, rfl, rfl, rfl, max_eq_left⟩

theorem clock_advance (job : Job) (bus : Bus) : (job.advance bus).1.clock = bus.clock := by
  cases remaining : job.remaining with
  | none => simp only [advance, remaining]
  | some script =>
      cases script with
      | nil => rw [advance_of_end remaining]
      | cons command others => rw [(advance_of_command _ remaining).1]

theorem size_eq_zero : job.size = 0 ↔ job.finished = true := by
  unfold size finished
  cases job.remaining <;> simp

end Job

/-! ## Taking turns -/

/-- Scripts under way on one bus. -/
structure Ensemble where
  bus : Bus
  jobs : List Job

namespace Ensemble

def start (bus : Bus) (scripts : List (UInt8 × Script)) : Ensemble :=
  ⟨bus, scripts.map fun entry => Job.start entry.1 entry.2⟩

/-- All scripts are carried out to their ends. -/
def IsOver (ensemble : Ensemble) : Prop := ∀ job ∈ ensemble.jobs, job.finished = true

/-- The fault of each script, with its channel. -/
def results (ensemble : Ensemble) : List (UInt8 × Option TransportFault) :=
  ensemble.jobs.map fun job => (job.channel, job.fault)

/-- What may happen next, while time may pass up to the instants that are allowed. -/
inductive Step (allowed : Ensemble → Nat → Prop) : Ensemble → Ensemble → Prop where
  /-- A script that does not pause carries out its next command. -/
  | advanced {ensemble : Ensemble} {place : Nat} {job : Job}
      (found : ensemble.jobs[place]? = some job) (unfinished : job.finished = false)
      (due : job.resume ≤ ensemble.bus.clock) :
      Step allowed ensemble
        ⟨(job.advance ensemble.bus).1, ensemble.jobs.set place (job.advance ensemble.bus).2⟩
  | waited {ensemble : Ensemble} {instant : Nat} (later : ensemble.bus.clock ≤ instant)
      (allows : allowed ensemble instant) :
      Step allowed ensemble { ensemble with bus := { ensemble.bus with clock := instant } }

/-- A row of steps. -/
def Runs (allowed : Ensemble → Nat → Prop) : Ensemble → Ensemble → Prop :=
  Relation.ReflTransGen (Step allowed)

/-- Time passes whenever it likes. -/
def Anytime : Ensemble → Nat → Prop := fun _ _ => True

/-- Time passes while some script is under way, and never beyond the end of a pause. -/
def Prompt (ensemble : Ensemble) (instant : Nat) : Prop :=
  (∃ job ∈ ensemble.jobs, job.finished = false) ∧
    ∀ job ∈ ensemble.jobs, job.finished = false → instant ≤ job.resume

variable {ensemble middle after : Ensemble} {allowed : Ensemble → Nat → Prop} {bus : Bus}
  {jobs : List Job} {job : Job} {place : Nat}

theorem Runs.anytime (runs : Runs allowed ensemble after) : Runs Anytime ensemble after := by
  induction runs with
  | refl => exact .refl
  | tail _ step ih =>
      cases step with
      | advanced found unfinished due => exact ih.tail (.advanced found unfinished due)
      | waited later _ => exact ih.tail (.waited later trivial)

/-! ## The scheduler -/

/-- The turns that all scripts together need until they are over. -/
def size (jobs : List Job) : Nat := (jobs.map Job.size).sum

theorem size_eq_roundsNeeded (jobs : List Job) : Job.roundsNeeded jobs = size jobs := by
  rw [size, List.sum_eq_foldl, List.foldl_map]
  rfl

/-- A script that goes on until it pauses or ends takes one turn after the other. -/
theorem runs_proceed (script : Script) (channel : UInt8) (failures resume : Nat)
    (found : jobs[place]? = some ⟨channel, some script, resume, failures⟩)
    (due : resume ≤ bus.clock) :
    Runs allowed ⟨bus, jobs⟩ ⟨(Job.proceed channel script failures bus).1,
        jobs.set place (Job.proceed channel script failures bus).2⟩ ∧
      (Job.proceed channel script failures bus).1.clock = bus.clock ∧
      (Job.proceed channel script failures bus).2.size ≤ script.length := by
  have first : Step allowed ⟨bus, jobs⟩ _ := .advanced found rfl due
  induction script generalizing failures bus jobs with
  | nil => exact ⟨.single first, rfl, Nat.le_refl _⟩
  | cons command others ih =>
      have inside : place < jobs.length := (List.getElem?_eq_some_iff.mp found).1
      have goesOn (carriesOut : ∀ time, command ≠ .pause time) :
          Job.proceed channel (command :: others) failures bus =
            Job.proceed channel others
              (if (bus.carryOut channel command).2 then failures else failures + 1)
              (bus.carryOut channel command).1 ∧
          Job.advance ⟨channel, some (command :: others), resume, failures⟩ bus =
            ((bus.carryOut channel command).1, ⟨channel, some others, resume,
              if (bus.carryOut channel command).2 then failures else failures + 1⟩) ∧
          (bus.carryOut channel command).1.clock = bus.clock := by
        have still := clock_carryOut channel command bus
        cases command with
        | pause time => exact absurd rfl (carriesOut time)
        | write | burst | update => exact ⟨rfl, rfl, still⟩
      by_cases pausing : ∃ time, command = .pause time
      · obtain ⟨time, rfl⟩ := pausing
        exact ⟨.single first, rfl, Nat.le_refl _⟩
      · obtain ⟨proceeds, advances, still⟩ := goesOn fun time same => pausing ⟨time, same⟩
        rw [advances] at first
        have placed := List.getElem?_set_self (a := (⟨channel, some others, resume,
          if (bus.carryOut channel command).2 then failures else failures + 1⟩ : Job)) inside
        have due' : resume ≤ (bus.carryOut channel command).1.clock := still ▸ due
        obtain ⟨runs, clock, short⟩ := ih _ placed due' (.advanced placed rfl due')
        rw [List.set_set] at runs
        rw [proceeds]
        exact ⟨.head first runs, clock.trans still, short.trans (Nat.le_succ _)⟩

theorem runs_turn (allowed : Ensemble → Nat → Prop) (bus : Bus) (found : jobs[place]? = some job) :
    Runs allowed ⟨bus, jobs⟩ ⟨(job.turn bus).1, jobs.set place (job.turn bus).2⟩ ∧
      (job.turn bus).1.clock = bus.clock ∧ (job.turn bus).2.size ≤ job.size ∧
      (job.finished = false → job.resume ≤ bus.clock → (job.turn bus).2.size < job.size) := by
  obtain ⟨inside, here⟩ := List.getElem?_eq_some_iff.mp found
  have same : jobs.set place job = jobs := by rw [← here, List.set_getElem_self]
  obtain ⟨channel, remaining, resume, failures⟩ := job
  cases remaining with
  | none =>
      rw [Job.turn, same]
      exact ⟨.refl, rfl, Nat.le_refl _, nofun⟩
  | some script =>
      simp only [Job.turn]
      by_cases due : resume ≤ bus.clock
      · rw [if_pos due]
        obtain ⟨runs, clock, short⟩ := runs_proceed script channel failures resume found due
        have shorter := Nat.lt_succ_of_le short
        exact ⟨runs, clock, shorter.le, fun _ _ => shorter⟩
      · rw [if_neg due, same]
        exact ⟨.refl, rfl, Nat.le_refl _, fun _ already => absurd already due⟩

/-- A round is a row of turns of the scripts that have not had theirs yet. -/
theorem runs_round (allowed : Ensemble → Nat → Prop) (early jobs : List Job) (bus : Bus) :
    Runs allowed ⟨bus, early ++ jobs⟩ ⟨(Job.round jobs bus).1, early ++ (Job.round jobs bus).2⟩ ∧
      size (Job.round jobs bus).2 ≤ size jobs ∧
      ((∃ job ∈ jobs, job.finished = false ∧ job.resume ≤ bus.clock) →
        size (Job.round jobs bus).2 < size jobs) := by
  induction jobs generalizing early bus with
  | nil => exact ⟨.refl, Nat.le_refl _, fun ⟨_, member, _⟩ => absurd member List.not_mem_nil⟩
  | cons job others ih =>
      have found : (early ++ job :: others)[early.length]? = some job := by simp
      obtain ⟨turn, clock, short, shorter⟩ :=
        runs_turn allowed bus found
      obtain ⟨rest, restShort, restShorter⟩ := ih (early ++ [(job.turn bus).2]) (job.turn bus).1
      have moved : (early ++ job :: others).set early.length (job.turn bus).2 =
          early ++ [(job.turn bus).2] ++ others := by simp
      rw [moved] at turn
      simp only [List.append_assoc, List.singleton_append] at turn rest
      simp only [Job.round, size, List.map_cons, List.sum_cons] at restShort restShorter ⊢
      refine ⟨turn.trans rest, Nat.add_le_add short restShort, ?_⟩
      rintro ⟨next, member, unfinished, due⟩
      rcases List.mem_cons.mp member with rfl | later
      · exact Nat.add_lt_add_of_lt_of_le (shorter unfinished due) restShort
      · exact Nat.add_lt_add_of_le_of_lt short
          (restShorter ⟨next, later, unfinished, clock ▸ due⟩)

/-- The clock moves on until some script can go on, and not beyond the end of a pause. -/
theorem runs_catchUp (unfinished : ∃ job ∈ jobs, job.finished = false) (bus : Bus) :
    Runs Prompt ⟨bus, jobs⟩ ⟨Job.catchUp jobs bus, jobs⟩ ∧
      ∃ job ∈ jobs, job.finished = false ∧ job.resume ≤ (Job.catchUp jobs bus).clock := by
  unfold Job.catchUp
  cases earliest : Job.earliestResume jobs with
  | none =>
      obtain ⟨job, member, goesOn⟩ := unfinished
      have empty := List.min?_eq_none_iff.mp earliest
      rw [List.map_eq_nil_iff, List.filter_eq_nil_iff] at empty
      exact absurd (by rw [goesOn]; rfl) (empty job member)
  | some resume =>
      obtain ⟨held, least⟩ := List.min?_eq_some_iff.mp earliest
      obtain ⟨job, listed, rfl⟩ := List.mem_map.mp held
      obtain ⟨member, goesOn⟩ := List.mem_filter.mp listed
      have under : job.finished = false := by simpa using goesOn
      refine ⟨?_, job, member, under, le_max_right _ _⟩
      by_cases already : job.resume ≤ bus.clock
      · simp only [max_eq_left already]
        exact .refl
      · have later : bus.clock ≤ job.resume := Nat.le_of_not_le already
        simp only [max_eq_right later]
        refine .single (.waited later ⟨unfinished, fun other among awaits => ?_⟩)
        apply least
        exact List.mem_map_of_mem (List.mem_filter.mpr ⟨among, by simp [awaits]⟩)

/-- Rounds go on until every script is over, if there may be enough of them. -/
theorem runs_rounds (bound : Nat) (jobs : List Job) (bus : Bus) (enough : size jobs ≤ bound) :
    Runs Prompt ⟨bus, jobs⟩ ⟨(Job.rounds bound jobs bus).1, (Job.rounds bound jobs bus).2⟩ ∧
      IsOver ⟨(Job.rounds bound jobs bus).1, (Job.rounds bound jobs bus).2⟩ := by
  induction bound generalizing jobs bus with
  | zero =>
      have none := List.sum_eq_zero_iff_forall_eq_nat.mp (Nat.le_zero.mp enough)
      exact ⟨.refl, fun job member => Job.size_eq_zero.mp (none _ (List.mem_map_of_mem member))⟩
  | succ bound ih =>
      unfold Job.rounds
      by_cases isOver : jobs.all Job.finished = true
      · rw [if_pos isOver]
        exact ⟨.refl, List.all_eq_true.mp isOver⟩
      · rw [if_neg isOver]
        have unfinished : ∃ job ∈ jobs, job.finished = false := by simpa using isOver
        obtain ⟨waits, ready⟩ := runs_catchUp unfinished bus
        obtain ⟨turns, _, shorter⟩ :=
          runs_round Prompt [] jobs (Job.catchUp jobs bus)
        obtain ⟨runs, ends⟩ := ih (Job.round jobs (Job.catchUp jobs bus)).2
          (Job.round jobs (Job.catchUp jobs bus)).1
          (Nat.le_of_lt_succ ((shorter ready).trans_le enough))
        exact ⟨(waits.trans turns).trans runs, ends⟩

/-- Whatever scripts are under way, they can be carried out to their ends without delay. -/
theorem exists_over (ensemble : Ensemble) :
    ∃ ended, Runs Prompt ensemble ended ∧ ended.IsOver :=
  ⟨_, runs_rounds (size ensemble.jobs) ensemble.jobs ensemble.bus (Nat.le_refl _)⟩

/-- Scripts that are carried out side by side take turns without delay until they are over. -/
theorem runs_executeAll (bus : Bus) (scripts : List (UInt8 × Script)) :
    ∃ ended, Runs Prompt (start bus scripts) ended ∧ ended.IsOver ∧
      executeAll scripts bus = (ended.bus, ended.jobs.map Job.fault) := by
  obtain ⟨runs, ends⟩ := runs_rounds (Job.roundsNeeded (start bus scripts).jobs)
    (start bus scripts).jobs bus (size_eq_roundsNeeded _).ge
  exact ⟨_, runs, ends, rfl⟩

end Ensemble

end AmpControl.Bus
