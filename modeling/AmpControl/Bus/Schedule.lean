import AmpControl.Bus.Execution

/-!
# Scripts side by side

Several scripts can be carried out at once. They take turns: a script that pauses gives way until
its pause is over, and one that does not pause goes on to its end. When all of them pause, the clock
moves on to the end of the shortest pause.
-/

namespace AmpControl.Bus

open Tuning (Script)

/-- A script on its way. -/
structure Job where
  channel : UInt8
  /-- The commands that are still to be carried out, none once the script is over. -/
  remaining : Option Script
  /-- When the script may go on. -/
  resume : Nat
  failures : Nat
  deriving DecidableEq, Repr

namespace Job

def start (channel : UInt8) (script : Script) : Job := ⟨channel, some script, 0, 0⟩

def finished (job : Job) : Bool := job.remaining.isNone

def fault (job : Job) : Option TransportFault := TransportFault.ofCount job.channel job.failures

/-- Carries out commands up to and including the first pause. -/
def proceed (channel : UInt8) : Script → (failures : Nat) → Bus → Bus × Job
  | [], failures, bus => (bus, ⟨channel, none, bus.clock, failures⟩)
  | .pause time :: others, failures, bus =>
      (bus, ⟨channel, some others, bus.clock + milliseconds time.toNat, failures⟩)
  | command :: others, failures, bus =>
      let outcome := bus.carryOut channel command
      proceed channel others (if outcome.2 then failures else failures + 1) outcome.1

/-- One turn of a script, in which nothing happens while it pauses. -/
def turn (job : Job) (bus : Bus) : Bus × Job :=
  match job.remaining with
  | some script =>
      if job.resume ≤ bus.clock then proceed job.channel script job.failures bus else (bus, job)
  | none => (bus, job)

/-- One turn of each script, in order. -/
def round : List Job → Bus → Bus × List Job
  | [], bus => (bus, [])
  | job :: others, bus =>
      let (after, moved) := job.turn bus
      let (ended, rest) := round others after
      (ended, moved :: rest)

def earliestResume (jobs : List Job) : Option Nat :=
  ((jobs.filter fun job => !job.finished).map (·.resume)).min?

/-- The bus at a time when some script can go on. -/
def catchUp (jobs : List Job) (bus : Bus) : Bus :=
  match earliestResume jobs with
  | some resume => { bus with clock := max bus.clock resume }
  | none => bus

/-- Rounds of turns until every script is over, at most `bound` of them. -/
def rounds : (bound : Nat) → List Job → Bus → Bus × List Job
  | 0, jobs, bus => (bus, jobs)
  | bound + 1, jobs, bus =>
      if jobs.all finished then (bus, jobs)
      else
        let (after, moved) := round jobs (catchUp jobs bus)
        rounds bound moved after

/-- The number of rounds in which every script is over: each one moves at least one of them on. -/
def roundsNeeded (jobs : List Job) : Nat :=
  jobs.foldl (fun needed job =>
    needed + (job.remaining.map fun script => script.length + 1).getD 0) 0

end Job

/-- Carries out scripts side by side and returns the fault of each. -/
def executeAll (scripts : List (UInt8 × Script)) (bus : Bus) :
    Bus × List (Option TransportFault) :=
  let jobs := scripts.map fun entry => Job.start entry.1 entry.2
  let (after, ended) := Job.rounds (Job.roundsNeeded jobs) jobs bus
  (after, ended.map Job.fault)

end AmpControl.Bus
