import CollectorFeed.Proofs.Pacing.Adjustments
import CollectorFeed.Proofs.Pacing.Fractions
import Mathlib.Algebra.Order.Group.MinMax
import Mathlib.Tactic.Ring

/-!
# The budget of a writer

Where each writer has a budget of its own, the budget is computed anew whenever an interval ends. The
number is moved towards the share that readers left to each writer, and then brought into bounds,
first the free space and then the least budget, so that the least budget wins where the two are at
odds.

The budget changes in no other way: `budgetPath_adjustAll` gives, for any adjustments of the
counters, the states in which it was computed anew, one after the other. The main statement is
`budgeted_adjustAll`. The budget never falls below the least one, it is never above both bounds right
after it was computed anew, and as long as readers keep up a pace that is within the bounds, the
distance of the budget to its goal shrinks by the weight of the old budget each time.
-/

set_option autoImplicit false

namespace CollectorFeed

namespace PaceState

variable {α : Type} [PacingNumber α]

/-! ## Where the budget is computed anew -/

/-- The states in which the intervals end that an adjustment ends. -/
def intervalEndsAt (s : PaceState α) : Adjustment → List (PaceState α)
  | .closeIntervals now => List.iterate closeInterval s (s.endedIntervals now)
  | _ => []

/-- The states in which intervals end, in order. -/
def intervalEnds (s : PaceState α) : List Adjustment → List (PaceState α)
  | [] => []
  | adjustment :: rest => s.intervalEndsAt adjustment ++ (s.adjust adjustment).intervalEnds rest

/-- The states in which an adjustment computes the budget anew: at once, or at the end of every
interval if writers have budgets of their own. -/
def recomputationsAt (s : PaceState α) : Adjustment → List (PaceState α)
  | .recomputeLimit => [s]
  | .closeIntervals now =>
    match s.policy.rule with
    | .perWriter => s.intervalEndsAt (.closeIntervals now)
    | .writeBehind => []
  | _ => []

/-- The states in which the budget is computed anew, in order. -/
def recomputations (s : PaceState α) : List Adjustment → List (PaceState α)
  | [] => []
  | adjustment :: rest => s.recomputationsAt adjustment ++ (s.adjust adjustment).recomputations rest

/-- The budget goes from one number to another, and nothing changes it but that it is computed anew
in some states, one after the other. -/
inductive BudgetPath : α → List (PaceState α) → α → Prop
  /-- The budget stays as it is. -/
  | stay (budget : α) : BudgetPath budget [] budget
  /-- The budget is computed anew. -/
  | move {e : PaceState α} {rest : List (PaceState α)} {budget : α}
      (path : BudgetPath e.recomputeLimit.limit rest budget) : BudgetPath e.limit (e :: rest) budget

theorem BudgetPath.append {start middle budget : α} {first second : List (PaceState α)}
    (path : BudgetPath start first middle) (further : BudgetPath middle second budget) :
    BudgetPath start (first ++ second) budget := by
  induction path with
  | stay _ => exact further
  | move _ ih => exact .move (ih further)

/-- If writers have budgets of their own, the end of an interval computes the budget anew. -/
theorem limit_closeInterval_of_perWriter {s : PaceState α} (rule : s.policy.rule = .perWriter) :
    s.closeInterval.limit = s.recomputeLimit.limit := by
  rw [closeInterval_of_perWriter rule]

/-- If they have one together, the end of an interval does not touch the budget. -/
theorem limit_closeInterval_of_writeBehind {s : PaceState α}
    (rule : s.policy.rule = .writeBehind) : s.closeInterval.limit = s.limit := by
  rw [closeInterval_of_writeBehind rule]
  rfl

theorem budgetPath_closeIntervals {s : PaceState α} (rule : s.policy.rule = .perWriter)
    (count : Nat) :
    BudgetPath s.limit (List.iterate closeInterval s count)
      (Nat.repeat closeInterval count s).limit := by
  induction count generalizing s with
  | zero => exact .stay s.limit
  | succ count ih =>
    have rule' : s.closeInterval.policy.rule = .perWriter := by rwa [policy_closeInterval]
    have path := ih rule'
    rw [limit_closeInterval_of_perWriter rule] at path
    rw [repeat_succ_eq]
    exact .move path

theorem limit_closeIntervals_of_writeBehind {s : PaceState α} (rule : s.policy.rule = .writeBehind)
    (now : Nat) : (s.closeIntervals now).limit = s.limit := by
  unfold closeIntervals
  generalize s.endedIntervals now = count
  induction count generalizing s with
  | zero => rfl
  | succ count ih =>
    have rule' : s.closeInterval.policy.rule = .writeBehind := by rwa [policy_closeInterval]
    rw [repeat_succ_eq, ih rule', limit_closeInterval_of_writeBehind rule]

theorem limit_pace (s : PaceState α) (slot now : Nat) : (s.pace slot now).2.limit = s.limit := by
  simp only [pace, noticeFilling]
  split <;> rfl

theorem limit_noticeEmptying (s : PaceState α) : s.noticeEmptying.limit = s.limit := by
  unfold noticeEmptying
  split <;> rfl

theorem budgetPath_adjust (s : PaceState α) (adjustment : Adjustment) :
    BudgetPath s.limit (s.recomputationsAt adjustment) (s.adjust adjustment).limit := by
  cases adjustment with
  | recomputeLimit => exact .move (.stay _)
  | closeIntervals now =>
    dsimp only [recomputationsAt, adjust]
    cases rule : s.policy.rule with
    | perWriter => exact budgetPath_closeIntervals rule (s.endedIntervals now)
    | writeBehind =>
      rw [limit_closeIntervals_of_writeBehind rule]
      exact .stay s.limit
  | pace slot now =>
    rw [adjust, limit_pace]
    exact .stay s.limit
  | noticeEmptying =>
    rw [adjust, limit_noticeEmptying]
    exact .stay s.limit
  | _ => exact .stay s.limit

/-- Whatever is done to the counters, the budget is the one that was computed last, and each time it
was computed from the one before. -/
theorem budgetPath_adjustAll (s : PaceState α) (adjustments : List Adjustment) :
    BudgetPath s.limit (s.recomputations adjustments) (s.adjustAll adjustments).limit := by
  induction adjustments generalizing s with
  | nil => exact .stay s.limit
  | cons adjustment rest ih => exact (budgetPath_adjust s adjustment).append (ih _)

/-- If nobody computes a budget out of turn, it is computed anew at the end of every interval where
writers have budgets of their own, and never where they have one together. -/
theorem recomputations_of_inTurn {s : PaceState α} {adjustments : List Adjustment}
    (inTurn : .recomputeLimit ∉ adjustments) :
    s.recomputations adjustments =
      match s.policy.rule with
      | .perWriter => s.intervalEnds adjustments
      | .writeBehind => [] := by
  induction adjustments generalizing s with
  | nil => split <;> rfl
  | cons adjustment rest ih =>
    rw [List.mem_cons, not_or] at inTurn
    obtain ⟨other, inTurn'⟩ := inTurn
    have first : s.recomputationsAt adjustment =
        match s.policy.rule with
        | .perWriter => s.intervalEndsAt adjustment
        | .writeBehind => [] := by
      cases adjustment with
      | recomputeLimit => exact absurd rfl other
      | closeIntervals now => rfl
      | _ => split <;> rfl
    -- an adjustment leaves the policy alone, so the rule is the same for what comes behind it
    rw [recomputations, first, ih inTurn', policy_adjust]
    cases s.policy.rule with
    | perWriter => rfl
    | writeBehind => rfl

/-- Wherever the budget is computed anew, the policy is the one of the queue. -/
theorem policy_of_mem_iterate {s e : PaceState α} {count : Nat}
    (mem : e ∈ List.iterate closeInterval s count) : e.policy = s.policy := by
  induction count generalizing s with
  | zero => cases mem
  | succ count ih =>
    rcases List.mem_cons.1 mem with rfl | later
    · rfl
    · exact (ih later).trans s.policy_closeInterval

theorem policy_of_mem_recomputations {s e : PaceState α} {adjustments : List Adjustment}
    (mem : e ∈ s.recomputations adjustments) : e.policy = s.policy := by
  induction adjustments generalizing s with
  | nil => cases mem
  | cons adjustment rest ih =>
    rcases List.mem_append.1 mem with first | later
    · cases adjustment with
      | recomputeLimit => rw [List.mem_singleton.1 first]
      | closeIntervals now =>
        dsimp only [recomputationsAt] at first
        split at first
        · exact policy_of_mem_iterate first
        · cases first
      | _ => cases first
    · exact (ih later).trans (s.policy_adjust adjustment)

/-! ## The number that is computed -/

section Fractions

/-- Without readers or without writers the budget stays as it is. -/
theorem recomputeLimit_of_idle {s : PaceState ℚ} (idle : s.readers = 0 ∨ s.writers = 0) :
    s.recomputeLimit = s :=
  if_pos idle

theorem limit_recomputeLimit {s : PaceState ℚ} (busy : ¬ (s.readers = 0 ∨ s.writers = 0)) :
    s.recomputeLimit.limit =
      max (min ((1 - s.policy.alpha) * s.limit +
        s.policy.alpha * ((s.reads : ℚ) / s.readers / s.writers)) s.halfFree)
        s.policy.minWrites := by
  rw [recomputeLimit, if_neg busy]
  show max (min ((((1 : ℕ) : ℚ) - s.policy.alpha) * s.limit + _) _) _ = _
  rw [Nat.cast_one]
  rfl

theorem minWrites_le_recomputeLimit {s : PaceState ℚ} (enough : s.policy.minWrites ≤ s.limit) :
    s.policy.minWrites ≤ s.recomputeLimit.limit := by
  by_cases idle : s.readers = 0 ∨ s.writers = 0
  · rwa [recomputeLimit_of_idle idle]
  · rw [limit_recomputeLimit idle]
    exact le_max_right _ _

theorem recomputeLimit_le {s : PaceState ℚ} (readers : 1 ≤ s.readers) (writers : 1 ≤ s.writers) :
    s.recomputeLimit.limit ≤ max (s.policy.minWrites : ℚ) s.halfFree := by
  have busy : ¬ (s.readers = 0 ∨ s.writers = 0) := by omega
  rw [limit_recomputeLimit busy, max_comm]
  exact max_le_max le_rfl (min_le_right _ _)

/-- Bringing a number into bounds takes it no farther from a number within them. -/
theorem abs_clamp_sub_le {x goal least most : ℚ} (above : least ≤ goal) (below : goal ≤ most) :
    |max (min x most) least - goal| ≤ |x - goal| := by
  calc |max (min x most) least - goal|
      = |max (min x most) least - max (min goal most) least| := by
        rw [min_eq_left below, max_eq_left above]
    _ ≤ |min x most - min goal most| := abs_max_sub_max_le_abs _ _ _
    _ ≤ max |x - goal| |most - most| := abs_min_sub_min_le_max _ _ _ _
    _ = |x - goal| := by simp

/-- What readers that took so many messages in an interval leave to each writer. -/
def fairShare (reads readers writers : Nat) : ℚ :=
  reads / (readers * writers)

/-- A state in which the budget is computed from so many reads by so many readers for so many
writers, with a share that is within the bounds. -/
structure AimsAt (e : PaceState ℚ) (reads readers writers : Nat) : Prop where
  reads_eq : e.reads = reads
  readers_eq : e.readers = readers
  writers_eq : e.writers = writers
  /-- The share is the least budget or more. -/
  least_le : e.policy.minWrites ≤ fairShare reads readers writers
  /-- The share fits into half of the free space. -/
  le_most : fairShare reads readers writers ≤ e.halfFree

/-- Computing the budget anew brings it nearer to the share, by the weight of the old budget. -/
theorem AimsAt.abs_sub_le {e : PaceState ℚ} {reads readers writers : Nat}
    (aims : e.AimsAt reads readers writers) (someReader : 1 ≤ readers) (someWriter : 1 ≤ writers)
    (weight : e.policy.alpha ≤ 1) :
    |e.recomputeLimit.limit - fairShare reads readers writers| ≤
      (1 - e.policy.alpha) * |e.limit - fairShare reads readers writers| := by
  have busy : ¬ (e.readers = 0 ∨ e.writers = 0) := by
    rw [aims.readers_eq, aims.writers_eq]
    omega
  have share : (e.reads : ℚ) / e.readers / e.writers = fairShare reads readers writers := by
    rw [aims.reads_eq, aims.readers_eq, aims.writers_eq, fairShare, div_div]
  rw [limit_recomputeLimit busy, share]
  refine (abs_clamp_sub_le aims.least_le aims.le_most).trans (le_of_eq ?_)
  -- before it is brought into bounds the new budget is a weighted mean of the old one and the share
  generalize fairShare reads readers writers = goal
  have mean : (1 - e.policy.alpha) * e.limit + e.policy.alpha * goal - goal =
      (1 - e.policy.alpha) * (e.limit - goal) := by ring
  rw [mean, abs_mul, abs_of_nonneg (sub_nonneg.2 weight)]

namespace BudgetPath

variable {start budget : ℚ} {states : List (PaceState ℚ)} {policy : PacingPolicy ℚ}

/-- A budget that is the least one or more remains so. -/
theorem minWrites_le (path : BudgetPath start states budget)
    (same : ∀ e ∈ states, e.policy = policy) (enough : policy.minWrites ≤ start) :
    policy.minWrites ≤ budget := by
  induction path with
  | stay budget => exact enough
  | @move e rest budget path ih =>
    obtain ⟨first, others⟩ := List.forall_mem_cons.1 same
    apply ih others
    rw [← first] at enough ⊢
    exact minWrites_le_recomputeLimit enough

/-- As long as the share stays the same and within the bounds, each step of the path brings the
budget nearer to it. -/
theorem abs_sub_le (path : BudgetPath start states budget)
    (same : ∀ e ∈ states, e.policy = policy) (weight : policy.alpha ≤ 1)
    {reads readers writers : Nat} (someReader : 1 ≤ readers) (someWriter : 1 ≤ writers)
    (aims : ∀ e ∈ states, e.AimsAt reads readers writers) :
    |budget - fairShare reads readers writers| ≤
      (1 - policy.alpha) ^ states.length * |start - fairShare reads readers writers| := by
  induction path with
  | stay budget => simp
  | @move e rest budget path ih =>
    obtain ⟨first, others⟩ := List.forall_mem_cons.1 same
    obtain ⟨aimsFirst, aimsOthers⟩ := List.forall_mem_cons.1 aims
    have step := aimsFirst.abs_sub_le someReader someWriter (by rwa [first])
    rw [first] at step
    have weight' : 0 ≤ (1 - policy.alpha) ^ rest.length := pow_nonneg (sub_nonneg.2 weight) _
    generalize fairShare reads readers writers = goal at *
    calc |budget - goal|
        ≤ (1 - policy.alpha) ^ rest.length * |e.recomputeLimit.limit - goal| :=
          ih others aimsOthers
      _ ≤ (1 - policy.alpha) ^ rest.length * ((1 - policy.alpha) * |e.limit - goal|) :=
          mul_le_mul_of_nonneg_left step weight'
      _ = (1 - policy.alpha) ^ (e :: rest).length * |e.limit - goal| := by
          rw [List.length_cons, pow_succ, mul_assoc]

end BudgetPath

/-! ## All of it together -/

/-- What is true of the budget of a writer while the counters are adjusted. -/
structure Budgeted (s : PaceState ℚ) (adjustments : List Adjustment) : Prop where
  /-- The budget changes by being computed anew, and in no other way. -/
  path : BudgetPath s.limit (s.recomputations adjustments) (s.adjustAll adjustments).limit
  /-- The budget of a new queue is never below the least one. -/
  least_new : ∀ capacity start,
    s.policy.minWrites ≤ ((PaceState.new capacity s.policy start).adjustAll adjustments).limit
  /-- A budget that is not below the least one never falls below it. -/
  least : s.policy.minWrites ≤ s.limit → s.policy.minWrites ≤ (s.adjustAll adjustments).limit
  /-- Whenever the budget has been computed anew for some reader and some writer, it is above one of
  its bounds at most. -/
  most : ∀ e ∈ s.recomputations adjustments, 1 ≤ e.readers → 1 ≤ e.writers →
    e.recomputeLimit.limit ≤ max (s.policy.minWrites : ℚ) e.halfFree
  /-- If it is always computed from the same share, which is within the bounds, it comes nearer to
  the share each time. -/
  nearer : ∀ reads readers writers, 1 ≤ readers → 1 ≤ writers →
    (∀ e ∈ s.recomputations adjustments, e.AimsAt reads readers writers) →
    |(s.adjustAll adjustments).limit - fairShare reads readers writers| ≤
      (1 - s.policy.alpha) ^ (s.recomputations adjustments).length *
        |s.limit - fairShare reads readers writers|
  /-- If writers have budgets of their own, it is computed anew at the end of each interval. -/
  perWriter : s.policy.rule = .perWriter → .recomputeLimit ∉ adjustments →
    s.recomputations adjustments = s.intervalEnds adjustments
  /-- If they have one together, ends of intervals leave it as it is. -/
  writeBehind : s.policy.rule = .writeBehind → .recomputeLimit ∉ adjustments →
    (s.adjustAll adjustments).limit = s.limit

/-- Whatever is done to the counters, the budget of a writer stays within its bounds, and it follows
the share that readers leave to a writer. -/
theorem budgeted_adjustAll (s : PaceState ℚ) (weight : s.policy.alpha ≤ 1)
    (adjustments : List Adjustment) : s.Budgeted adjustments where
  path := budgetPath_adjustAll s adjustments
  least_new := by
    intro capacity start
    refine (budgetPath_adjustAll _ adjustments).minWrites_le ?_ le_rfl
    intro e mem
    exact policy_of_mem_recomputations (s := PaceState.new capacity s.policy start) mem
  least := (budgetPath_adjustAll s adjustments).minWrites_le
    fun e mem => policy_of_mem_recomputations mem
  most := by
    intro e mem readers writers
    rw [← policy_of_mem_recomputations mem]
    exact recomputeLimit_le readers writers
  nearer := by
    intro reads readers writers someReader someWriter aims
    refine (budgetPath_adjustAll s adjustments).abs_sub_le ?_ weight someReader someWriter aims
    exact fun e mem => policy_of_mem_recomputations mem
  perWriter := by
    intro rule inTurn
    rw [recomputations_of_inTurn inTurn, rule]
  writeBehind := by
    intro rule inTurn
    have path := budgetPath_adjustAll s adjustments
    rw [recomputations_of_inTurn inTurn, rule] at path
    generalize (s.adjustAll adjustments).limit = budget at path
    generalize s.limit = start at path
    cases path with
    | stay => rfl

/-- A queue with room for a thousand messages, one reader and two writers. Half of the weight is on
the newest interval, in which the reader has taken a hundred messages. -/
def steadyQueue : PaceState ℚ :=
  (PaceState.new 1000 ⟨4 / 5, 3 / 5, 1 / 2, 10, 10000, .perWriter⟩ 0).adjustAll
    ([.addReader, .addWriter, .addWriter] ++ List.replicate 100 .noteRead)

/-- The budget goes from ten to thirty and is forty, with a share of fifty. -/
theorem budgeted_adjustAll_steadyQueue :
    steadyQueue.policy.alpha ≤ 1 ∧
      steadyQueue.Budgeted (.closeIntervals 10000 :: List.replicate 100 .noteRead ++
        [.closeIntervals 20000]) ∧
      (steadyQueue.adjustAll (.closeIntervals 10000 :: List.replicate 100 .noteRead ++
        [.closeIntervals 20000])).limit = 40 := by
  refine ⟨?_, budgeted_adjustAll _ ?_ _, ?_⟩
  · decide +kernel
  · decide +kernel
  · decide +kernel

/-- A queue with one budget for all writers, at the end of an interval in which its reader has taken
a hundred messages. All weight is on the newest interval. -/
def sharedQueue : PaceState ℚ :=
  (PaceState.new 1000 ⟨4 / 5, 3 / 5, 1, 10, 10000, .writeBehind⟩ 0).adjustAll
    ([.addReader, .addWriter] ++ List.replicate 100 .noteRead)

/-- Where all writers have one budget together, the budget of a writer does not come nearer to a
share at the ends of intervals. -/
theorem not_nearer_sharedQueue :
    ¬ ∀ (s : PaceState ℚ) (adjustments : List Adjustment) (reads readers writers : Nat),
      0 ≤ s.policy.alpha → s.policy.alpha ≤ 1 → 1 ≤ readers → 1 ≤ writers →
      (∀ e ∈ s.intervalEnds adjustments, e.AimsAt reads readers writers) →
      |(s.adjustAll adjustments).limit - fairShare reads readers writers| ≤
        (1 - s.policy.alpha) ^ (s.intervalEnds adjustments).length *
          |s.limit - fairShare reads readers writers| := by
  intro claim
  have ends : sharedQueue.intervalEnds [.closeIntervals 10000] = [sharedQueue] := rfl
  have aims : sharedQueue.AimsAt 100 1 1 := by
    constructor <;> decide +kernel
  have nearer := claim sharedQueue [.closeIntervals 10000] 100 1 1 (by decide +kernel)
    (by decide +kernel) le_rfl le_rfl (by simpa [ends] using aims)
  revert nearer
  decide +kernel

end Fractions

end PaceState

end CollectorFeed
