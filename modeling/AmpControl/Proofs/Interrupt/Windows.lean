import AmpControl.Proofs.Interrupt.Debounce
import Mathlib.Data.List.Induction
import Mathlib.Tactic.ByContra

/-!
# Storm windows

A detection is judged by the number of detections in the window that is open, and windows are opened
by detections. So a channel that is found stuck had more detections than the limit within the length
of one window. Conversely consecutive windows begin more than a window's length apart, so a span of
this length meets at most two of them, and more than twice the limit of detections in it are too
many for one of the two.
-/

namespace AmpControl.Debounce

/-- Judges detections one after another, each with its time. -/
def judge (limit : UInt32) (window : Nat) : Debounce → List Nat → List (Nat × Verdict)
  | _, [] => []
  | debounce, time :: later =>
      let outcome := debounce.detect time limit window
      (time, outcome.2) :: judge limit window outcome.1 later

/-- What is left of the debounce after detections. -/
def detectAll (limit : UInt32) (window : Nat) (debounce : Debounce) (times : List Nat) : Debounce :=
  times.foldl (fun debounce time => (debounce.detect time limit window).1) debounce

/--
The first detection of the window that is open after a row of detections: the first one of all opens
a window, and so does every one that comes later than the length of a window after its beginning.
-/
def windowStart (window : Nat) (times : List Nat) : Option Nat :=
  times.foldl (fun opened time =>
    match opened with
    | none => some time
    | some start => if start + window < time then some time else some start) none

variable {limit : UInt32} {window first last opened amount : Nat} {times earlier : List Nat}
  {debounce : Debounce}

theorem map_judge (debounce : Debounce) (times : List Nat) :
    (debounce.judge limit window times).map Prod.fst = times := by
  induction times generalizing debounce with
  | nil => rfl
  | cons time later ih => rw [judge, List.map_cons, ih]

theorem judge_append (debounce : Debounce) (early late : List Nat) :
    debounce.judge limit window (early ++ late) = debounce.judge limit window early ++
      (debounce.detectAll limit window early).judge limit window late := by
  induction early generalizing debounce with
  | nil => rfl
  | cons time later ih =>
      rw [List.cons_append, judge, judge, ih]
      rfl

/-- A judgement in a row is the one that follows on the detections before it. -/
theorem judge_split {before rest : List (Nat × Verdict)} {time : Nat} {verdict : Verdict}
    (split : debounce.judge limit window times = before ++ (time, verdict) :: rest) :
    ∃ later, times = before.map Prod.fst ++ time :: later ∧
      verdict =
        ((debounce.detectAll limit window (before.map Prod.fst)).detect time limit window).2 := by
  have named := congrArg (List.map Prod.fst) split
  rw [map_judge, List.map_append, List.map_cons] at named
  refine ⟨rest.map Prod.fst, named, ?_⟩
  have length : (debounce.judge limit window (before.map Prod.fst)).length = before.length := by
    rw [← List.length_map Prod.fst, map_judge, List.length_map]
  rw [named, judge_append] at split
  obtain ⟨_, here⟩ := List.append_inj split length
  rw [judge] at here
  exact (congrArg Prod.snd (List.cons.inj here).1).symm

/-- A detection after the open window is over is the first of the next one. -/
theorem detect_of_over {now : Nat} (past : debounce.isOver now window = true) :
    debounce.detect now limit window = (counting 1 now, verdict limit 1) := by
  rw [detect, note, if_pos past]
  rfl

/-- Either the window is over or it is one in which detections are counted. -/
theorem over_or_counting (debounce : Debounce) (now window : Nat) :
    debounce.isOver now window = true ∨
      ∃ amount opened, debounce = counting amount opened ∧ now ≤ opened + window := by
  obtain ⟨count, opened⟩ := debounce
  cases opened with
  | none => exact Or.inl rfl
  | some opened =>
      by_cases past : opened + window < now
      · exact Or.inl (decide_eq_true past)
      · refine Or.inr ⟨count.toNat, opened, ?_, Nat.le_of_not_lt past⟩
        rw [counting, ofNatClamp_toNat]

/-- A detection is acted on only as long as the limit is kept. -/
theorem le_of_verdict (countable : limit.toNat < UInt32.size - 1)
    (acted : verdict limit amount ≠ .stuck) : amount ≤ limit.toNat := by
  by_contra many
  exact acted (verdict_of_lt (Nat.lt_of_not_le many) (Nat.ne_of_lt countable))

/-! ## Stuck channels had too many detections -/

theorem windowStart_concat (window : Nat) (times : List Nat) (now : Nat) :
    windowStart window (times ++ [now]) =
      match windowStart window times with
      | none => some now
      | some start => if start + window < now then some now else some start := by
  rw [windowStart, List.foldl_append]
  rfl

/-- The window that a row of detections left open, and how many of them it counts at most. -/
inductive Leaves (window : Nat) : List Nat → Debounce → Prop where
  | unopened : Leaves window [] fresh
  | opened {times : List Nat} {start amount : Nat} (began : windowStart window times = some start)
      (member : start ∈ times) (counted : amount ≤ times.countP fun time => start ≤ time) :
      Leaves window times (counting amount start)

theorem Leaves.detect (leaves : Leaves window times debounce) {now : Nat}
    (latest : ∀ time ∈ times, time ≤ now) (limit : UInt32) :
    Leaves window (times ++ [now]) (debounce.detect now limit window).1 := by
  have last : now ∈ times ++ [now] := List.mem_append_right _ (List.mem_singleton_self now)
  cases leaves with
  | unopened =>
      rw [detect_fresh]
      exact .opened rfl last (by simp)
  | @opened _ start amount began member counted =>
      by_cases past : start + window < now
      · have ended : (counting amount start).isOver now window = true := decide_eq_true past
        rw [detect_of_over ended]
        refine .opened ?_ last ?_
        · rw [windowStart_concat, began]
          exact if_pos past
        · rw [List.countP_append]
          simp
      · rw [detect_counting (Nat.le_of_not_lt past)]
        refine .opened ?_ (List.mem_append_left _ member) ?_
        · rw [windowStart_concat, began]
          exact if_neg past
        · rw [List.countP_append, List.countP_singleton, if_pos (by simpa using latest start member)]
          exact Nat.add_le_add_right counted 1

theorem leaves_detectAll (limit : UInt32) (window : Nat) {times : List Nat}
    (ordered : times.Pairwise (· ≤ ·)) : Leaves window times (fresh.detectAll limit window times) := by
  induction times using List.reverseRecOn with
  | nil => exact .unopened
  | append_singleton earlier now ih =>
      obtain ⟨before, _, latest⟩ := List.pairwise_append.mp ordered
      rw [detectAll, List.foldl_append]
      exact (ih before).detect (fun time member => latest time member now List.mem_cons_self) limit

/-- More than one detection has to come before a channel is stuck, for the limit is positive. -/
theorem verdict_first (positive : 1 ≤ limit) : verdict limit 1 = .act := by
  apply verdict_of_le
  rwa [UInt32.le_iff_toNat_le] at positive

/-- A detection after the open window is over is acted on. -/
theorem Leaves.acts (leaves : Leaves window times debounce) (positive : 1 ≤ limit) {start now : Nat}
    (began : windowStart window times = some start) (past : start + window < now) :
    (debounce.detect now limit window).2 = .act := by
  cases leaves with
  | unopened => cases began
  | @opened _ _ amount here member counted =>
      obtain rfl := Option.some.inj (here.symm.trans began)
      have ended : (counting amount _).isOver now window = true := decide_eq_true past
      rw [detect_of_over ended]
      exact verdict_first positive

/-- A channel is stuck if there were as many detections as the limit within one window's length. -/
theorem Leaves.le_countP_of_stuck (leaves : Leaves window times debounce) (positive : 1 ≤ limit)
    {now : Nat} (latest : ∀ time ∈ times, time ≤ now)
    (stuck : (debounce.detect now limit window).2 = .stuck) :
    limit.toNat ≤ times.countP fun time => now ≤ time + window ∧ time ≤ now := by
  cases leaves with
  | unopened =>
      rw [detect_fresh] at stuck
      cases stuck.symm.trans (verdict_first positive)
  | @opened _ start amount began member counted =>
      by_cases past : start + window < now
      · have acts := Leaves.acts (.opened began member counted) positive began past
        cases stuck.symm.trans acts
      · rw [detect_counting (Nat.le_of_not_lt past)] at stuck
        have many : limit.toNat ≤ amount := by
          by_contra few
          cases stuck.symm.trans (verdict_of_le (Nat.lt_of_not_le few) : verdict limit _ = _)
        refine Nat.le_trans many (Nat.le_trans counted (List.countP_mono_left fun time member late => ?_))
        have notEarlier : start ≤ time := of_decide_eq_true late
        have notLater := latest time member
        exact decide_eq_true ⟨by omega, notLater⟩

/-! ## Too many detections make a channel stuck -/

/-- No detection between two times was found to be one too many. -/
def ActedWithin (first last : Nat) (judged : List (Nat × Verdict)) : Prop :=
  ∀ entry ∈ judged, first ≤ entry.1 → entry.1 ≤ last → entry.2 ≠ .stuck

/-- What the open window leaves of the limit shrinks with every detection that is acted on. -/
theorem countP_cons_le {time : Nat} (slack : Nat) (countable : limit.toNat < UInt32.size - 1)
    (inside : time ≤ opened + window)
    (acted : ActedWithin first last
      ((counting amount opened).judge limit window (time :: times)))
    (bound : ActedWithin first last ((counting (amount + 1) opened).judge limit window times) →
      (times.countP fun time => first ≤ time ∧ time ≤ last) ≤
        limit.toNat - (amount + 1) + slack) :
    ((time :: times).countP fun time => first ≤ time ∧ time ≤ last) ≤
      limit.toNat - amount + slack := by
  rw [judge, detect_counting inside] at acted
  obtain ⟨here, rest⟩ := List.forall_mem_cons.mp acted
  have later := bound rest
  rw [List.countP_cons]
  by_cases within : first ≤ time ∧ time ≤ last
  · have kept := le_of_verdict countable (here within.1 within.2)
    simp only [within, and_self, decide_true, if_true]
    omega
  · simp only [within, decide_false, Bool.false_eq_true, if_false]
    omega

/-- A span that ends before the open window does has no more detections than the limit leaves. -/
theorem countP_le_of_window (countable : limit.toNat < UInt32.size - 1)
    (ordered : times.Pairwise (· ≤ ·)) (ends : last ≤ opened + window)
    (acted : ActedWithin first last ((counting amount opened).judge limit window times)) :
    (times.countP fun time => first ≤ time ∧ time ≤ last) ≤ limit.toNat - amount := by
  induction times generalizing amount with
  | nil => exact Nat.zero_le _
  | cons time later ih =>
      obtain ⟨follow, orderedLater⟩ := List.pairwise_cons.mp ordered
      by_cases inside : time ≤ opened + window
      · exact countP_cons_le 0 countable inside acted (ih orderedLater)
      · have none : ((time :: later).countP fun time => first ≤ time ∧ time ≤ last) = 0 := by
          rw [List.countP_eq_zero]
          intro other member
          have after : time ≤ other := by
            rcases List.mem_cons.mp member with rfl | member
            · exact Nat.le_refl other
            · exact follow other member
          simp only [decide_eq_true_eq]
          omega
        rw [none]
        exact Nat.zero_le _

/-- A span that begins with a new window has no more detections than the limit. -/
theorem countP_le_of_over (positive : 1 ≤ limit) (countable : limit.toNat < UInt32.size - 1)
    {time : Nat} (ordered : (time :: times).Pairwise (· ≤ ·)) (begins : first ≤ time)
    (short : last ≤ first + window) (past : debounce.isOver time window = true)
    (acted : ActedWithin first last (debounce.judge limit window (time :: times))) :
    ((time :: times).countP fun time => first ≤ time ∧ time ≤ last) ≤ limit.toNat := by
  rw [judge, detect_of_over past] at acted
  have bound := countP_le_of_window countable (List.pairwise_cons.mp ordered).2
    (show last ≤ time + window by omega) (List.forall_mem_cons.mp acted).2
  have least : 1 ≤ limit.toNat := UInt32.le_iff_toNat_le.mp positive
  rw [List.countP_cons]
  split <;> omega

/-- A span meets at most two windows, and the one that is open at its beginning counts already. -/
theorem countP_le_of_counting (positive : 1 ≤ limit) (countable : limit.toNat < UInt32.size - 1)
    (ordered : times.Pairwise (· ≤ ·)) (begins : ∀ time ∈ times, first ≤ time)
    (short : last ≤ first + window)
    (acted : ActedWithin first last ((counting amount opened).judge limit window times)) :
    (times.countP fun time => first ≤ time ∧ time ≤ last) ≤
      limit.toNat - amount + limit.toNat := by
  induction times generalizing amount with
  | nil => exact Nat.zero_le _
  | cons time later ih =>
      obtain ⟨_, orderedLater⟩ := List.pairwise_cons.mp ordered
      by_cases inside : time ≤ opened + window
      · exact countP_cons_le _ countable inside acted (ih orderedLater fun time member =>
          begins time (List.mem_cons_of_mem _ member))
      · have past : (counting amount opened).isOver time window = true :=
          decide_eq_true (Nat.lt_of_not_le inside)
        have bound := countP_le_of_over positive countable ordered
          (begins time List.mem_cons_self) short past acted
        omega

theorem countP_le_two_mul (positive : 1 ≤ limit) (countable : limit.toNat < UInt32.size - 1)
    (ordered : times.Pairwise (· ≤ ·)) (short : last ≤ first + window)
    (acted : ActedWithin first last (debounce.judge limit window times)) :
    (times.countP fun time => first ≤ time ∧ time ≤ last) ≤ 2 * limit.toNat := by
  induction times generalizing debounce with
  | nil => exact Nat.zero_le _
  | cons time later ih =>
      obtain ⟨follow, orderedLater⟩ := List.pairwise_cons.mp ordered
      by_cases early : time < first
      · have outside : ¬(first ≤ time ∧ time ≤ last) := by omega
        rw [List.countP_cons]
        simp only [outside, decide_false, Bool.false_eq_true, if_false]
        exact ih orderedLater (List.forall_mem_cons.mp acted).2
      · have begins : ∀ other ∈ time :: later, first ≤ other := by
          intro other member
          rcases List.mem_cons.mp member with rfl | member
          · exact Nat.le_of_not_lt early
          · exact Nat.le_trans (Nat.le_of_not_lt early) (follow other member)
        rcases over_or_counting debounce time window with past | ⟨amount, opened, rfl, _⟩
        · have bound := countP_le_of_over positive countable ordered
            (Nat.le_of_not_lt early) short past acted
          omega
        · have bound := countP_le_of_counting positive countable ordered begins short acted
          omega

/-- Of more detections in a span than two windows allow, one is found to be one too many. -/
theorem exists_stuck_of_many (positive : 1 ≤ limit) (countable : limit.toNat < UInt32.size - 1)
    (ordered : times.Pairwise (· ≤ ·)) (short : last ≤ first + window)
    (many : 2 * limit.toNat <
      (debounce.judge limit window times).countP fun entry => first ≤ entry.1 ∧ entry.1 ≤ last) :
    ∃ time, (time, .stuck) ∈ debounce.judge limit window times ∧ first ≤ time ∧ time ≤ last := by
  by_contra none
  have acted : ActedWithin first last (debounce.judge limit window times) := by
    rintro ⟨time, verdict⟩ member begins ends rfl
    exact none ⟨time, member, begins, ends⟩
  have bound := countP_le_two_mul positive countable ordered short acted
  have same : (debounce.judge limit window times).countP
        (fun entry => first ≤ entry.1 ∧ entry.1 ≤ last) =
      times.countP fun time => first ≤ time ∧ time ≤ last := by
    have named : (debounce.judge limit window times).map Prod.fst = times :=
      map_judge debounce times
    conv_rhs => rw [← named]
    rw [List.countP_map]
    rfl
  omega

/--
Detections at times that do not decrease are judged right up to a factor of two. Where one is found
to be one too many, at least as many as the limit came before it within the length of a window. One
that comes after the open window is over is acted on. And of more than twice the limit within the
length of a window at least one is found to be one too many.
-/
theorem storms_judged (positive : 1 ≤ limit) (countable : limit.toNat < UInt32.size - 1)
    (ordered : times.Pairwise (· ≤ ·)) :
    let judged := fresh.judge limit window times
    judged.map Prod.fst = times ∧
    (∀ earlier time later, judged = earlier ++ (time, .stuck) :: later → limit.toNat ≤
      earlier.countP fun entry => time ≤ entry.1 + window ∧ entry.1 ≤ time) ∧
    (∀ earlier time verdict later start, judged = earlier ++ (time, verdict) :: later →
      windowStart window (earlier.map Prod.fst) = some start → start + window < time →
        verdict = .act) ∧
    (∀ first last, last ≤ first + window →
      2 * limit.toNat < judged.countP (fun entry => first ≤ entry.1 ∧ entry.1 ≤ last) →
        ∃ time, (time, .stuck) ∈ judged ∧ first ≤ time ∧ time ≤ last) := by
  refine ⟨map_judge fresh times, ?_, ?_, ?_⟩
  · intro earlier time later split
    obtain ⟨rest, rfl, judged⟩ := judge_split split
    obtain ⟨before, _, latest⟩ := List.pairwise_append.mp ordered
    have counted := (leaves_detectAll limit window before).le_countP_of_stuck positive
      (fun other member => latest other member time List.mem_cons_self) judged.symm
    rwa [List.countP_map] at counted
  · intro earlier time verdict later start split began past
    obtain ⟨rest, rfl, judged⟩ := judge_split split
    obtain ⟨before, _, _⟩ := List.pairwise_append.mp ordered
    rw [judged]
    exact (leaves_detectAll limit window before).acts positive began past
  · intro first last short many
    exact exists_stuck_of_many positive countable ordered short many

/-- Of five detections within the length of a window one is stuck, where two are allowed. -/
theorem crowded_span_has_stuck :
    (1 : UInt32) ≤ 2 ∧ (2 : UInt32).toNat < UInt32.size - 1 ∧
      [0, 4, 9, 10, 10, 25].Pairwise (· ≤ ·) ∧
      ∃ time, (time, .stuck) ∈ fresh.judge 2 10 [0, 4, 9, 10, 10, 25] ∧ 0 ≤ time ∧ time ≤ 10 := by
  have positive : (1 : UInt32) ≤ 2 := by decide
  have countable : (2 : UInt32).toNat < UInt32.size - 1 := by decide
  have ordered : [0, 4, 9, 10, 10, 25].Pairwise (· ≤ ·) := by decide
  obtain ⟨_, _, _, crowded⟩ := @storms_judged 2 10 _ positive countable ordered
  exact ⟨positive, countable, ordered, crowded 0 10 (by decide) (by decide)⟩

end AmpControl.Debounce
