import CollectorFeed.Settings
import CollectorFeed.Proofs.Broadcast.Consistency

/-!
# Ends of intervals

Nobody waits for an interval to end. Whoever looks at the clock ends every interval that has ended
since somebody last did, one after the other, and so it is in no one's hands how many are ended at
once. `CatchesUp` tells that loop turn by turn. It comes to a stop unless intervals have no length
(`exists_catchesUp_iff`), and what it stops in is the state that the queue computes
(`catchesUp_iff`). Times and lengths are counted in one unit, and it makes no difference which one
that is.

`caughtUp_closeIntervals` says what that state is: the current interval is the one that the clock is
in, nothing but budgets and counts of writes and reads has changed, and it makes no difference
whether the clock was looked at in between.
-/

set_option autoImplicit false

namespace CollectorFeed

variable {α : Type}

/-- Repeating something once more may as well begin with it. -/
theorem repeat_succ_eq {β : Type} (f : β → β) (count : Nat) (b : β) :
    Nat.repeat f (count + 1) b = Nat.repeat f count (f b) := by
  induction count with
  | zero => rfl
  | succ count ih => exact congrArg f ih

namespace PaceState

/-- Time at which the current interval ends. -/
def intervalEnd (s : PaceState α) : Nat :=
  s.intervalStart + s.policy.interval

variable [PacingNumber α]

/-! ## The end of one interval -/

theorem policy_recomputeLimit (s : PaceState α) : s.recomputeLimit.policy = s.policy := by
  unfold recomputeLimit
  split <;> rfl

/-- The budget does not depend on when the interval began. -/
theorem recomputeLimit_intervalStart (s : PaceState α) (start : Nat) :
    recomputeLimit { s with intervalStart := start } =
      { s.recomputeLimit with intervalStart := start } := by
  by_cases idle : s.readers = 0 ∨ s.writers = 0
  · have idle' : s.readers = 0 ∨ writers { s with intervalStart := start } = 0 := idle
    rw [recomputeLimit, recomputeLimit, if_pos idle, if_pos idle']
  · have busy : ¬ (s.readers = 0 ∨ writers { s with intervalStart := start } = 0) := idle
    rw [recomputeLimit, recomputeLimit, if_neg idle, if_neg busy]
    rfl

theorem closeInterval_of_perWriter {s : PaceState α} (rule : s.policy.rule = .perWriter) :
    s.closeInterval =
      { s.recomputeLimit with
        intervalStart := s.intervalEnd
        reads := 0
        writes := s.writes.map (Option.map fun _ => 0) } := by
  rw [closeInterval]
  simp only [rule, recomputeLimit_intervalStart]
  rfl

theorem closeInterval_of_writeBehind {s : PaceState α} (rule : s.policy.rule = .writeBehind) :
    s.closeInterval =
      { s.advanceIdeal.foldAverage with
        intervalStart := s.intervalEnd
        intervalWrites := 0 } := by
  rw [closeInterval]
  simp only [rule]
  rfl

theorem policy_closeInterval (s : PaceState α) : s.closeInterval.policy = s.policy := by
  cases rule : s.policy.rule with
  | perWriter =>
    rw [closeInterval_of_perWriter rule]
    exact s.policy_recomputeLimit
  | writeBehind =>
    rw [closeInterval_of_writeBehind rule]
    rfl

theorem intervalStart_closeInterval (s : PaceState α) :
    s.closeInterval.intervalStart = s.intervalEnd := by
  cases rule : s.policy.rule with
  | perWriter => rw [closeInterval_of_perWriter rule]
  | writeBehind => rw [closeInterval_of_writeBehind rule]

/-! ## What ends of intervals leave alone -/

/-- Two states that differ in budgets, averages and counts of an interval only. -/
structure SamePlace (s r : PaceState α) : Prop where
  /-- Messages and readers are where they were. -/
  extent : r.extent = s.extent
  /-- The numbers that pacing is set up with do not change. -/
  policy : r.policy = s.policy
  /-- The same slots are in use. -/
  slots : r.writes.map Option.isSome = s.writes.map Option.isSome
  /-- Pacing is on or off as it was. -/
  active : r.active = s.active
  /-- Pacing was turned on as often as before. -/
  activations : r.activations = s.activations

omit [PacingNumber α] in
theorem SamePlace.refl (s : PaceState α) : SamePlace s s :=
  ⟨rfl, rfl, rfl, rfl, rfl⟩

omit [PacingNumber α] in
theorem SamePlace.trans {p s r : PaceState α} (first : SamePlace p s) (second : SamePlace s r) :
    SamePlace p r :=
  ⟨second.extent.trans first.extent, second.policy.trans first.policy,
    second.slots.trans first.slots, second.active.trans first.active,
    second.activations.trans first.activations⟩

theorem samePlace_recomputeLimit (s : PaceState α) : SamePlace s s.recomputeLimit := by
  unfold recomputeLimit
  split
  · exact SamePlace.refl s
  · exact ⟨rfl, rfl, rfl, rfl, rfl⟩

theorem samePlace_closeInterval (s : PaceState α) : SamePlace s s.closeInterval := by
  cases rule : s.policy.rule with
  | perWriter =>
    have budget := samePlace_recomputeLimit s
    rw [closeInterval_of_perWriter rule]
    refine ⟨budget.extent, budget.policy, ?_, budget.active, budget.activations⟩
    -- counts go back to zero where there are any
    show (s.writes.map _).map _ = _
    rw [List.map_map]
    exact List.map_congr_left fun count _ => Option.isSome_map
  | writeBehind =>
    rw [closeInterval_of_writeBehind rule]
    exact ⟨rfl, rfl, rfl, rfl, rfl⟩

theorem samePlace_closeIntervals (s : PaceState α) (now : Nat) :
    SamePlace s (s.closeIntervals now) := by
  unfold closeIntervals
  generalize s.endedIntervals now = count
  induction count with
  | zero => exact SamePlace.refl s
  | succ count ih => exact ih.trans (samePlace_closeInterval _)

/-! ## All intervals that have ended -/

/-- As long as the current interval has not ended nothing happens. -/
theorem closeIntervals_of_lt {s : PaceState α} {now : Nat} (running : now < s.intervalEnd) :
    s.closeIntervals now = s := by
  unfold intervalEnd at running
  have none_ : s.endedIntervals now = 0 := by
    unfold endedIntervals
    rcases Nat.eq_zero_or_pos s.policy.interval with empty | positive
    · rw [empty, Nat.div_zero]
    · exact Nat.div_eq_of_lt (by omega)
  rw [closeIntervals, none_]
  rfl

/-- If the current interval has ended, it is the first one to be ended. -/
theorem closeIntervals_of_le {s : PaceState α} {now : Nat} (positive : 0 < s.policy.interval)
    (ended : s.intervalEnd ≤ now) :
    s.closeIntervals now = s.closeInterval.closeIntervals now := by
  have more : s.endedIntervals now = s.closeInterval.endedIntervals now + 1 := by
    have long : s.policy.interval ≤ now - s.intervalStart := Nat.le_sub_of_add_le' ended
    rw [endedIntervals, endedIntervals, policy_closeInterval, intervalStart_closeInterval,
      intervalEnd, Nat.sub_add_eq, Nat.div_eq_sub_div positive long]
  rw [closeIntervals, more, repeat_succ_eq, closeIntervals]

/-! ## The loop -/

/-- Ending intervals at a time as a loop: as long as the current interval has ended, it is closed
and the next one is looked at. `CatchesUp now s r` says that from `s` this comes to a stop in `r`. -/
inductive CatchesUp (now : Nat) : PaceState α → PaceState α → Prop
  /-- The current interval has not ended. -/
  | stop {s : PaceState α} (running : now < s.intervalEnd) : CatchesUp now s s
  /-- The current interval has ended. -/
  | turn {s r : PaceState α} (ended : s.intervalEnd ≤ now) (rest : CatchesUp now s.closeInterval r) :
      CatchesUp now s r

/-- The loop stops in one state at most, and nowhere without having ended all intervals. -/
theorem CatchesUp.eq_closeIntervals {now : Nat} {s r : PaceState α}
    (positive : 0 < s.policy.interval) (stops : CatchesUp now s r) : r = s.closeIntervals now := by
  induction stops with
  | stop running => exact (closeIntervals_of_lt running).symm
  | @turn s r ended rest ih =>
    rw [closeIntervals_of_le positive ended]
    exact ih (by rwa [policy_closeInterval])

/-- Each turn brings the end of the current interval nearer to the clock, by its length. -/
theorem catchesUp_closeIntervals {s : PaceState α} (positive : 0 < s.policy.interval) (now : Nat) :
    CatchesUp now s (s.closeIntervals now) := by
  by_cases running : now < s.intervalEnd
  · rw [closeIntervals_of_lt running]
    exact .stop running
  · have ended : s.intervalEnd ≤ now := Nat.not_lt.1 running
    have nearer : now - s.closeInterval.intervalStart < now - s.intervalStart := by
      rw [intervalStart_closeInterval]
      unfold intervalEnd at ended ⊢
      omega
    have positive' : 0 < s.closeInterval.policy.interval := by rwa [policy_closeInterval]
    rw [closeIntervals_of_le positive ended]
    exact .turn ended (catchesUp_closeIntervals positive' now)
termination_by now - s.intervalStart

theorem catchesUp_iff {now : Nat} {s r : PaceState α} (positive : 0 < s.policy.interval) :
    CatchesUp now s r ↔ r = s.closeIntervals now :=
  ⟨CatchesUp.eq_closeIntervals positive, fun same => same ▸ catchesUp_closeIntervals positive now⟩

/-- Intervals of no length never come to an end, once the first one has begun. -/
theorem exists_catchesUp_iff {now : Nat} {s : PaceState α} :
    (∃ r, CatchesUp now s r) ↔ 0 < s.policy.interval ∨ now < s.intervalStart := by
  constructor
  · rintro ⟨r, stops⟩
    induction stops with
    | @stop s running =>
      unfold intervalEnd at running
      omega
    | @turn s r ended rest ih =>
      rw [policy_closeInterval, intervalStart_closeInterval, intervalEnd] at ih
      omega
  · rintro (positive | early)
    · exact ⟨_, catchesUp_closeIntervals positive now⟩
    · exact ⟨s, .stop (Nat.lt_add_right _ early)⟩

/-! ## Where the clock is -/

/-- When the loop stops, the current interval has not ended. -/
theorem CatchesUp.lt_intervalEnd {now : Nat} {s r : PaceState α} (stops : CatchesUp now s r) :
    now < r.intervalEnd := by
  induction stops with
  | stop running => exact running
  | turn ended rest ih => exact ih

/-- Intervals have no gaps, so the current one begins a whole number of intervals later. -/
theorem CatchesUp.exists_intervalStart_eq {now : Nat} {s r : PaceState α}
    (stops : CatchesUp now s r) :
    ∃ count, r.intervalStart = s.intervalStart + count * s.policy.interval := by
  induction stops with
  | stop running => exact ⟨0, by simp⟩
  | @turn s r ended rest ih =>
    obtain ⟨count, same⟩ := ih
    rw [policy_closeInterval, intervalStart_closeInterval, intervalEnd] at same
    exact ⟨count + 1, by rw [same, Nat.succ_mul]; omega⟩

/-- No interval is begun before the clock has come to it. -/
theorem CatchesUp.intervalStart_le {now : Nat} {s r : PaceState α} (stops : CatchesUp now s r)
    (begun : s.intervalStart ≤ now) : r.intervalStart ≤ now := by
  induction stops with
  | stop running => exact begun
  | @turn s r ended rest ih =>
    apply ih
    rwa [intervalStart_closeInterval]

/-- Whoever looked at the clock in between only did a part of the work. -/
theorem CatchesUp.closeIntervals_eq {now later : Nat} {s r : PaceState α}
    (stops : CatchesUp now s r) (positive : 0 < s.policy.interval) (order : now ≤ later) :
    r.closeIntervals later = s.closeIntervals later := by
  induction stops with
  | stop running => rfl
  | @turn s r ended rest ih =>
    rw [closeIntervals_of_le positive (Nat.le_trans ended order)]
    exact ih (by rwa [policy_closeInterval])

/-! ## All of it together -/

/-- What is true of the state in which all intervals that have ended at a time are ended. -/
structure CaughtUp (s : PaceState α) (now : Nat) : Prop where
  /-- Ending them one by one comes to a stop, in this state and in no other one. -/
  stops : ∀ r, CatchesUp now s r ↔ r = s.closeIntervals now
  /-- The current interval begins a whole number of intervals later, and the clock has not come to
  its end. It is the same one if that was so before, and otherwise the clock is in it. -/
  moved : ∃ count, (s.closeIntervals now).intervalStart =
      s.intervalStart + count * s.policy.interval ∧
    now < (s.closeIntervals now).intervalStart + s.policy.interval ∧
    (now < s.intervalStart + s.policy.interval → count = 0) ∧
    (s.intervalStart + s.policy.interval ≤ now → (s.closeIntervals now).intervalStart ≤ now)
  /-- A look at the clock in between makes no difference to the state. -/
  composed : ∀ later, now ≤ later →
    (s.closeIntervals now).closeIntervals later = s.closeIntervals later
  /-- No message is put or released. -/
  head : (s.closeIntervals now).head = s.head
  tail : (s.closeIntervals now).tail = s.tail
  /-- The same slots are in use. -/
  slots : (s.closeIntervals now).writes.map Option.isSome = s.writes.map Option.isSome
  /-- Nobody comes or goes. -/
  readers : (s.closeIntervals now).readers = s.readers
  /-- Pacing is not turned on or off. -/
  active : (s.closeIntervals now).active = s.active

/-- Ending intervals comes to a stop in the interval that the clock is in, it may be done in any
number of parts, and it changes nothing but budgets and the counts of an interval. -/
theorem caughtUp_closeIntervals (s : PaceState α) (positive : 0 < s.policy.interval) (now : Nat) :
    s.CaughtUp now := by
  have stops := catchesUp_closeIntervals positive now
  have place := samePlace_closeIntervals s now
  have running := stops.lt_intervalEnd
  rw [intervalEnd, place.policy] at running
  obtain ⟨count, start⟩ := stops.exists_intervalStart_eq
  exact {
    stops := fun r => catchesUp_iff positive
    moved := by
      refine ⟨count, start, running, ?_, fun ended => stops.intervalStart_le (by omega)⟩
      intro early
      -- nothing happens, and intervals have a length, so the start is no interval later
      rw [closeIntervals_of_lt early] at start
      have none_ : count * s.policy.interval = 0 := by omega
      exact (Nat.mul_eq_zero.1 none_).resolve_right (Nat.ne_of_gt positive)
    composed := fun later order => stops.closeIntervals_eq positive order
    head := congrArg Extent.head place.extent
    tail := congrArg Extent.tail place.extent
    slots := place.slots
    readers := congrArg Extent.readers place.extent
    active := place.active }

/-- A queue at which nobody looked at the clock for three intervals and a half. -/
theorem caughtUp_closeIntervals_longGap :
    0 < (PaceState.new 100 PacingPolicy.usual 1000000).policy.interval ∧
      (PaceState.new 100 PacingPolicy.usual 1000000).CaughtUp 1035000 ∧
      ((PaceState.new 100 PacingPolicy.usual 1000000).closeIntervals 1035000).intervalStart =
        1030000 :=
  ⟨by decide, caughtUp_closeIntervals _ (by decide) 1035000, rfl⟩

end PaceState

end CollectorFeed
