import CollectorFeed.Proofs.Pacing.Budget

/-!
# Readers that would keep up

Where all writers have one budget together, a queue follows what they write. The average is taken over
the writes of the intervals, and at the end of each interval the ideal position moves on by the
average, but not past the tail. It is where a reader would be that keeps up with the average.

Both are kept within bounds by one invariant (`PaceState.Trailing`): neither the ideal position nor the
average nor the writes of the current interval are greater than the tail. So the sum that the ideal
position is computed from is twice the tail at most. It fits into 64 bits as long as the tail is below
half of what they hold, and the ideal position does not go back until then. Afterwards it may
(`PaceState.ideal_back_of_longInterval`).

A weighted mean is not greater than both of its numbers, so the average is not greater than all counts
that were taken into it. These are counts of whole intervals, unless somebody computes the average out
of turn (`PaceState.not_average_le_outOfTurn`). Main statement: `PaceState.writeBehind_adjustAll`.
-/

set_option autoImplicit false

namespace CollectorFeed

open PacingNumber

/-- The time that an adjustment looks at, if it looks at the clock. -/
def Adjustment.clock? : Adjustment → Option Nat
  | closeIntervals now => some now
  | pace _ now => some now
  | _ => none

namespace PaceState

/-! ## Writes of intervals -/

section Counts

variable {α : Type} [PacingNumber α]

/-- Writes of the current interval behind an adjustment, if there were so many before it. -/
def countBehind (s : PaceState α) (count : Nat) : Adjustment → Nat
  | .noteWrite _ => count + 1
  | .closeIntervals now => if s.endedIntervals now = 0 then count else 0
  | _ => count

/-- Writes of the intervals that an adjustment ends. The first of them is the current interval, and
nobody wrote anything in the others. -/
def closedAt (s : PaceState α) (count : Nat) : Adjustment → List Nat
  | .closeIntervals now =>
    match s.endedIntervals now with
    | 0 => []
    | more + 1 => count :: List.replicate more 0
  | _ => []

/-- Writes of the current interval, where an adjustment takes them into the average before it ends. -/
def earlyAt (count : Nat) : Adjustment → List Nat
  | .foldAverage => [count]
  | _ => []

/-- Writes of the intervals that adjustments end, in order, told by the writes themselves. -/
def closedCounts (s : PaceState α) (count : Nat) : List Adjustment → List Nat
  | [] => []
  | adjustment :: rest =>
    s.closedAt count adjustment ++
      (s.adjust adjustment).closedCounts (s.countBehind count adjustment) rest

/-- Writes of intervals up to where they are taken into the average before the interval ends. -/
def earlyCounts (s : PaceState α) (count : Nat) : List Adjustment → List Nat
  | [] => []
  | adjustment :: rest =>
    earlyAt count adjustment ++
      (s.adjust adjustment).earlyCounts (s.countBehind count adjustment) rest

theorem earlyCounts_eq_nil {s : PaceState α} {count : Nat} {adjustments : List Adjustment}
    (inTurn : .foldAverage ∉ adjustments) : s.earlyCounts count adjustments = [] := by
  induction adjustments generalizing s count with
  | nil => rfl
  | cons adjustment rest ih =>
    rw [List.mem_cons, not_or] at inTurn
    obtain ⟨other, inTurn'⟩ := inTurn
    have nothing : earlyAt count adjustment = [] := by
      cases adjustment with
      | foldAverage => exact absurd rfl other
      | _ => rfl
    rw [earlyCounts, nothing, ih inTurn', List.nil_append]

theorem policy_repeat_closeInterval (s : PaceState α) (count : Nat) :
    (Nat.repeat closeInterval count s).policy = s.policy := by
  induction count with
  | zero => rfl
  | succ count ih => exact (policy_closeInterval _).trans ih

/-- Counters that have the same writes, average and ideal position. -/
structure SameBooks (s r : PaceState α) : Prop where
  policy : r.policy = s.policy
  tail : r.tail = s.tail
  ideal : r.idealPosition = s.idealPosition
  writes : r.intervalWrites = s.intervalWrites
  average : r.average = s.average

/-- What an adjustment is to the books. -/
inductive Booking (s : PaceState α) : Adjustment → Prop
  /-- Somebody writes. -/
  | write (slot : Nat) : Booking s (.noteWrite slot)
  /-- Intervals end. -/
  | close (now : Nat) : Booking s (.closeIntervals now)
  /-- The average is computed out of turn. -/
  | fold : Booking s .foldAverage
  /-- It is nothing to them. -/
  | other {adjustment : Adjustment} (same : SameBooks s (s.adjust adjustment))
      (count : ∀ count, s.countBehind count adjustment = count) : Booking s adjustment

theorem booking (s : PaceState α) (adjustment : Adjustment) : Booking s adjustment := by
  cases adjustment with
  | noteWrite slot => exact .write slot
  | closeIntervals now => exact .close now
  | foldAverage => exact .fold
  | pace slot now =>
    refine .other ?_ fun _ => rfl
    simp only [adjust, pace, noticeFilling]
    split <;> exact ⟨rfl, rfl, rfl, rfl, rfl⟩
  | noticeEmptying =>
    refine .other ?_ fun _ => rfl
    simp only [adjust, noticeEmptying]
    split <;> exact ⟨rfl, rfl, rfl, rfl, rfl⟩
  | recomputeLimit =>
    refine .other ?_ fun _ => rfl
    simp only [adjust, recomputeLimit]
    split <;> exact ⟨rfl, rfl, rfl, rfl, rfl⟩
  | _ => exact .other ⟨rfl, rfl, rfl, rfl, rfl⟩ fun _ => rfl

/-- The queue counts the writes of the current interval. -/
theorem intervalWrites_adjust {s : PaceState α} (rule : s.policy.rule = .writeBehind)
    (adjustment : Adjustment) :
    (s.adjust adjustment).intervalWrites = s.countBehind s.intervalWrites adjustment := by
  cases s.booking adjustment with
  | write slot => rfl
  | close now =>
    simp only [adjust, closeIntervals, countBehind]
    cases s.endedIntervals now with
    | zero => rfl
    | succ more =>
      -- the last of the intervals that end leaves a new one, in which nobody has written yet
      have rule' : (Nat.repeat closeInterval more s).policy.rule = .writeBehind := by
        rwa [policy_repeat_closeInterval]
      show (Nat.repeat closeInterval more s).closeInterval.intervalWrites = _
      rw [closeInterval_of_writeBehind rule', if_neg (Nat.succ_ne_zero more)]
  | fold => rfl
  | other same count => rw [same.writes, count]

end Counts

/-! ## Weighted means -/

variable {s : PaceState ℚ} {bound : ℚ}

theorem smooth_eq (s : PaceState ℚ) (old sample : ℚ) :
    s.smooth old sample = (1 - s.policy.alpha) * old + s.policy.alpha * sample := by
  show (((1 : ℕ) : ℚ) - s.policy.alpha) * old + s.policy.alpha * sample = _
  rw [Nat.cast_one]

theorem smooth_nonneg (least : 0 ≤ s.policy.alpha) (most : s.policy.alpha ≤ 1) {old sample : ℚ}
    (first : 0 ≤ old) (second : 0 ≤ sample) : 0 ≤ s.smooth old sample := by
  rw [smooth_eq]
  exact add_nonneg (mul_nonneg (sub_nonneg.2 most) first) (mul_nonneg least second)

theorem smooth_le (least : 0 ≤ s.policy.alpha) (most : s.policy.alpha ≤ 1) {old sample : ℚ}
    (first : old ≤ bound) (second : sample ≤ bound) : s.smooth old sample ≤ bound := by
  calc s.smooth old sample
      = (1 - s.policy.alpha) * old + s.policy.alpha * sample := s.smooth_eq old sample
    _ ≤ (1 - s.policy.alpha) * bound + s.policy.alpha * bound :=
        add_le_add (mul_le_mul_of_nonneg_left first (sub_nonneg.2 most))
          (mul_le_mul_of_nonneg_left second least)
    _ = bound := by ring

/-- The new average is the count itself or the mean of the count and the old average. -/
theorem average_foldAverage (s : PaceState ℚ) :
    s.foldAverage.average = s.intervalWrites ∨
      s.foldAverage.average = s.smooth s.average s.intervalWrites := by
  have average : s.foldAverage.average = if isZero s.average then (s.intervalWrites : ℚ)
      else s.smooth s.average s.intervalWrites := rfl
  rw [average]
  split
  · exact .inl rfl
  · exact .inr rfl

/-! ## The invariant -/

/-- What is true of a queue with one budget for all writers at all times. -/
structure Trailing (s : PaceState ℚ) : Prop where
  /-- All writers have one budget together. -/
  rule : s.policy.rule = .writeBehind
  /-- Averages are weighted means. -/
  least : 0 ≤ s.policy.alpha
  most : s.policy.alpha ≤ 1
  /-- Nothing is greater than the tail. -/
  ideal : s.idealPosition ≤ s.tail
  writes : s.intervalWrites ≤ s.tail
  average : s.average ≤ s.tail
  /-- The average is not below zero. -/
  nonneg : 0 ≤ s.average

theorem trailing_new (capacity : Nat) {policy : PacingPolicy ℚ} (start : Nat)
    (rule : policy.rule = .writeBehind) (least : 0 ≤ policy.alpha) (most : policy.alpha ≤ 1) :
    (PaceState.new capacity policy start).Trailing :=
  ⟨rule, least, most, Nat.le_refl 0, Nat.le_refl 0, le_refl _, le_refl _⟩

namespace Trailing

theorem foldAverage_nonneg (trailing : s.Trailing) : 0 ≤ s.foldAverage.average := by
  have sample : (0 : ℚ) ≤ s.intervalWrites := Nat.cast_nonneg _
  rcases s.average_foldAverage with same | mean
  · rwa [same]
  · rw [mean]
    exact smooth_nonneg trailing.least trailing.most trailing.nonneg sample

theorem foldAverage_le (trailing : s.Trailing) (average : s.average ≤ bound)
    (sample : (s.intervalWrites : ℚ) ≤ bound) : s.foldAverage.average ≤ bound := by
  rcases s.average_foldAverage with same | mean
  · rwa [same]
  · rw [mean]
    exact smooth_le trailing.least trailing.most average sample

theorem foldAverage (trailing : s.Trailing) : s.foldAverage.Trailing :=
  ⟨trailing.rule, trailing.least, trailing.most, trailing.ideal, trailing.writes,
    trailing.foldAverage_le trailing.average (Nat.cast_le.2 trailing.writes),
    trailing.foldAverage_nonneg⟩

theorem advanceIdeal (trailing : s.Trailing) : s.advanceIdeal.Trailing :=
  ⟨trailing.rule, trailing.least, trailing.most, Nat.min_le_right _ _, trailing.writes,
    trailing.average, trailing.nonneg⟩

theorem closeInterval (trailing : s.Trailing) : s.closeInterval.Trailing := by
  have folded := trailing.advanceIdeal.foldAverage
  rw [closeInterval_of_writeBehind trailing.rule]
  exact ⟨folded.rule, folded.least, folded.most, folded.ideal, Nat.zero_le _, folded.average,
    folded.nonneg⟩

theorem repeat_closeInterval (trailing : s.Trailing) (count : Nat) :
    (Nat.repeat PaceState.closeInterval count s).Trailing := by
  induction count with
  | zero => exact trailing
  | succ count ih => exact ih.closeInterval

theorem of_sameBooks (trailing : s.Trailing) {r : PaceState ℚ} (same : SameBooks s r) :
    r.Trailing := by
  obtain ⟨policy, tail, ideal, writes, average⟩ := same
  constructor
  · rw [policy]
    exact trailing.rule
  · rw [policy]
    exact trailing.least
  · rw [policy]
    exact trailing.most
  · rw [ideal, tail]
    exact trailing.ideal
  · rw [writes, tail]
    exact trailing.writes
  · rw [average, tail]
    exact trailing.average
  · rw [average]
    exact trailing.nonneg

/-- The tail moves on with every write. -/
theorem noteWrite (trailing : s.Trailing) (slot : Nat) : (s.noteWrite slot).Trailing where
  rule := trailing.rule
  least := trailing.least
  most := trailing.most
  ideal := Nat.le_succ_of_le trailing.ideal
  writes := Nat.succ_le_succ trailing.writes
  average := trailing.average.trans (Nat.cast_le.2 (Nat.le_succ s.tail))
  nonneg := trailing.nonneg

theorem adjust (trailing : s.Trailing) (adjustment : Adjustment) :
    (s.adjust adjustment).Trailing := by
  cases s.booking adjustment with
  | write slot => exact trailing.noteWrite slot
  | close now => exact trailing.repeat_closeInterval _
  | fold => exact trailing.foldAverage
  | other same => exact trailing.of_sameBooks same

theorem adjustAll (trailing : s.Trailing) (adjustments : List Adjustment) :
    (s.adjustAll adjustments).Trailing := by
  induction adjustments generalizing s with
  | nil => exact trailing
  | cons adjustment rest ih => exact ih (trailing.adjust adjustment)

/-- The invariant holds as well where one of several intervals ends that are ended at once. -/
theorem of_mem_iterate (trailing : s.Trailing) {count : Nat} {e : PaceState ℚ}
    (mem : e ∈ List.iterate PaceState.closeInterval s count) : e.Trailing := by
  induction count generalizing s with
  | zero => cases mem
  | succ count ih =>
    rcases List.mem_cons.1 mem with rfl | later
    · exact trailing
    · exact ih trailing.closeInterval later

theorem of_mem_intervalEnds (trailing : s.Trailing) {adjustments : List Adjustment}
    {e : PaceState ℚ} (mem : e ∈ s.intervalEnds adjustments) : e.Trailing := by
  induction adjustments generalizing s with
  | nil => cases mem
  | cons adjustment rest ih =>
    rcases List.mem_append.1 mem with first | later
    · cases adjustment with
      | closeIntervals now => exact trailing.of_mem_iterate first
      | _ => cases first
    · exact ih (trailing.adjust adjustment) later

/-! ## The sum and the ideal position -/

/-- The ideal position and the whole part of the average come to twice the tail at most. -/
theorem sum_le (trailing : s.Trailing) : s.idealPosition + wholePart s.average ≤ 2 * s.tail := by
  have whole : wholePart s.average ≤ s.tail := by
    show ⌊s.average⌋.toNat ≤ s.tail
    rw [Int.toNat_le]
    exact_mod_cast (Int.floor_le s.average).trans trailing.average
  have ideal := trailing.ideal
  omega

/-- As long as the tail is below half of what 64 bits hold, the sum is computed without loss. -/
theorem sum_lt (trailing : s.Trailing) (small : s.tail < 2 ^ 63) :
    s.idealPosition + wholePart s.average < UInt64.size := by
  have sum := trailing.sum_le
  have size : UInt64.size = 2 * 2 ^ 63 := rfl
  omega

theorem ideal_le_closeInterval (trailing : s.Trailing) (small : s.tail < 2 ^ 63) :
    s.idealPosition ≤ s.closeInterval.idealPosition := by
  rw [closeInterval_of_writeBehind trailing.rule]
  show s.idealPosition ≤ min ((s.idealPosition + wholePart s.average) % UInt64.size) s.tail
  rw [Nat.mod_eq_of_lt (trailing.sum_lt small)]
  exact le_min (Nat.le_add_right _ _) trailing.ideal

end Trailing

theorem tail_repeat_closeInterval (s : PaceState ℚ) (count : Nat) :
    (Nat.repeat closeInterval count s).tail = s.tail := by
  induction count with
  | zero => rfl
  | succ count ih => exact (congrArg Extent.tail (extent_closeInterval _)).trans ih

theorem tail_le_adjust (s : PaceState ℚ) (adjustment : Adjustment) :
    s.tail ≤ (s.adjust adjustment).tail := by
  cases s.booking adjustment with
  | write slot => exact Nat.le_succ _
  | close now => exact (s.tail_repeat_closeInterval _).ge
  | fold => exact Nat.le_refl _
  | other same => exact same.tail.ge

theorem tail_le_adjustAll (s : PaceState ℚ) (adjustments : List Adjustment) :
    s.tail ≤ (s.adjustAll adjustments).tail := by
  induction adjustments generalizing s with
  | nil => exact Nat.le_refl _
  | cons adjustment rest ih => exact (s.tail_le_adjust adjustment).trans (ih _)

namespace Trailing

theorem ideal_le_repeat (trailing : s.Trailing) (small : s.tail < 2 ^ 63) (count : Nat) :
    s.idealPosition ≤ (Nat.repeat PaceState.closeInterval count s).idealPosition := by
  induction count with
  | zero => exact Nat.le_refl _
  | succ count ih =>
    have small' : (Nat.repeat PaceState.closeInterval count s).tail < 2 ^ 63 := by
      rwa [tail_repeat_closeInterval]
    exact ih.trans ((trailing.repeat_closeInterval count).ideal_le_closeInterval small')

theorem ideal_le_adjust (trailing : s.Trailing) (small : s.tail < 2 ^ 63) (adjustment : Adjustment) :
    s.idealPosition ≤ (s.adjust adjustment).idealPosition := by
  cases s.booking adjustment with
  | write slot => exact Nat.le_refl _
  | close now => exact trailing.ideal_le_repeat small _
  | fold => exact Nat.le_refl _
  | other same => exact same.ideal.ge

/-- The ideal position never goes back. -/
theorem ideal_le_adjustAll (trailing : s.Trailing) {adjustments : List Adjustment}
    (small : (s.adjustAll adjustments).tail < 2 ^ 63) :
    s.idealPosition ≤ (s.adjustAll adjustments).idealPosition := by
  induction adjustments generalizing s with
  | nil => exact Nat.le_refl _
  | cons adjustment rest ih =>
    have now : s.tail < 2 ^ 63 :=
      Nat.lt_of_le_of_lt (s.tail_le_adjustAll (adjustment :: rest)) small
    exact (trailing.ideal_le_adjust now adjustment).trans (ih (trailing.adjust adjustment) small)

/-! ## The average -/

theorem average_closeInterval_le (trailing : s.Trailing) (average : s.average ≤ bound)
    (sample : (s.intervalWrites : ℚ) ≤ bound) : s.closeInterval.average ≤ bound := by
  rw [closeInterval_of_writeBehind trailing.rule]
  exact trailing.advanceIdeal.foldAverage_le average sample

/-- Intervals in which nobody wrote anything bring the average down. -/
theorem average_repeat_le (trailing : s.Trailing) (average : s.average ≤ bound)
    (sample : (s.intervalWrites : ℚ) ≤ bound) (count : Nat) :
    (Nat.repeat PaceState.closeInterval count s).average ≤ bound := by
  induction count generalizing s with
  | zero => exact average
  | succ count ih =>
    -- the first interval takes the count into the average, and there is none for the others
    have none_ : s.closeInterval.intervalWrites = 0 := by
      rw [closeInterval_of_writeBehind trailing.rule]
    rw [repeat_succ_eq]
    refine ih trailing.closeInterval (trailing.average_closeInterval_le average sample) ?_
    rw [none_, Nat.cast_zero]
    exact trailing.nonneg.trans average

theorem average_adjust_le (trailing : s.Trailing) (average : s.average ≤ bound)
    {adjustment : Adjustment}
    (closed : ∀ count ∈ s.closedAt s.intervalWrites adjustment, (count : ℚ) ≤ bound)
    (early : ∀ count ∈ earlyAt s.intervalWrites adjustment, (count : ℚ) ≤ bound) :
    (s.adjust adjustment).average ≤ bound := by
  cases s.booking adjustment with
  | write slot => exact average
  | close now =>
    simp only [PaceState.adjust, closeIntervals]
    simp only [closedAt] at closed
    cases ended : s.endedIntervals now with
    | zero => exact average
    | succ more =>
      rw [ended] at closed
      exact trailing.average_repeat_le average (closed _ List.mem_cons_self) _
  | fold => exact trailing.foldAverage_le average (early _ List.mem_cons_self)
  | other same => exact same.average.trans_le average

/-- The average is not greater than all counts that are taken into it. -/
theorem average_adjustAll_le (trailing : s.Trailing) (average : s.average ≤ bound)
    {adjustments : List Adjustment}
    (closed : ∀ count ∈ s.closedCounts s.intervalWrites adjustments, (count : ℚ) ≤ bound)
    (early : ∀ count ∈ s.earlyCounts s.intervalWrites adjustments, (count : ℚ) ≤ bound) :
    (s.adjustAll adjustments).average ≤ bound := by
  induction adjustments generalizing s with
  | nil => exact average
  | cons adjustment rest ih =>
    obtain ⟨closedFirst, closedRest⟩ := List.forall_mem_append.1 closed
    obtain ⟨earlyFirst, earlyRest⟩ := List.forall_mem_append.1 early
    rw [← intervalWrites_adjust trailing.rule] at closedRest earlyRest
    exact ih (trailing.adjust adjustment)
      (trailing.average_adjust_le average closedFirst earlyFirst) closedRest earlyRest

end Trailing

/-! ## All of it together -/

/-- The greatest of some counts, zero if there are none. -/
def greatestOf (counts : List Nat) : Nat :=
  counts.foldr max 0

theorem le_greatestOf {counts : List Nat} {count : Nat} (mem : count ∈ counts) :
    count ≤ greatestOf counts := by
  induction counts with
  | nil => cases mem
  | cons first rest ih =>
    rcases List.mem_cons.1 mem with rfl | later
    · exact Nat.le_max_left _ _
    · exact (ih later).trans (Nat.le_max_right _ _)

/-- What is true of the ideal position and of the average, from a new queue on. -/
structure WriteBehind (new : PaceState ℚ) (adjustments : List Adjustment) : Prop where
  /-- The ideal position is not past the tail. -/
  ideal_le : (new.adjustAll adjustments).idealPosition ≤ (new.adjustAll adjustments).tail
  /-- It never goes back, as long as the tail is below half of what 64 bits hold. -/
  forward : ∀ further, (new.adjustAll (adjustments ++ further)).tail < 2 ^ 63 →
    (new.adjustAll adjustments).idealPosition ≤
      (new.adjustAll (adjustments ++ further)).idealPosition
  /-- The average is not below zero. -/
  nonneg : 0 ≤ (new.adjustAll adjustments).average
  /-- It is not above the greatest count of an interval that has ended, if it is never computed but
  at the end of an interval. -/
  average_le : .foldAverage ∉ adjustments →
    (new.adjustAll adjustments).average ≤ greatestOf (new.closedCounts 0 adjustments)
  /-- Otherwise it is not above the greatest of these counts and of the counts with which it was
  computed before the end of an interval. -/
  average_le_early : (new.adjustAll adjustments).average ≤
    greatestOf (new.closedCounts 0 adjustments ++ new.earlyCounts 0 adjustments)
  /-- The ideal position and the whole part of the average come to twice the tail at most, and so
  they do wherever they are added, which is where intervals end. -/
  sum_le : ∀ e ∈ new.adjustAll adjustments :: new.intervalEnds adjustments,
    e.idealPosition + wholePart e.average ≤ 2 * e.tail
  /-- Their sum fits into 64 bits. -/
  sum_lt : ∀ e ∈ new.adjustAll adjustments :: new.intervalEnds adjustments, e.tail < 2 ^ 63 →
    e.idealPosition + wholePart e.average < UInt64.size

/-- Whatever is done to the counters of a queue with one budget for all writers, the ideal position
follows the tail and the average stays within the counts that it is computed from. -/
theorem writeBehind_adjustAll (capacity : Nat) (policy : PacingPolicy ℚ) (start : Nat)
    (rule : policy.rule = .writeBehind) (least : 0 ≤ policy.alpha) (most : policy.alpha ≤ 1)
    (adjustments : List Adjustment) :
    (PaceState.new capacity policy start).WriteBehind adjustments := by
  have new := trailing_new capacity start rule least most
  have trailing := new.adjustAll adjustments
  have everywhere : ∀ e ∈ (PaceState.new capacity policy start).adjustAll adjustments ::
      (PaceState.new capacity policy start).intervalEnds adjustments, e.Trailing :=
    List.forall_mem_cons.2 ⟨trailing, fun e mem => new.of_mem_intervalEnds mem⟩
  have average_le_early : ((PaceState.new capacity policy start).adjustAll adjustments).average ≤
      greatestOf ((PaceState.new capacity policy start).closedCounts 0 adjustments ++
        (PaceState.new capacity policy start).earlyCounts 0 adjustments) := by
    refine new.average_adjustAll_le (Nat.cast_nonneg _) ?_ ?_
    · exact fun count mem => Nat.cast_le.2 (le_greatestOf (List.mem_append_left _ mem))
    · exact fun count mem => Nat.cast_le.2 (le_greatestOf (List.mem_append_right _ mem))
  refine ⟨trailing.ideal, ?_, trailing.nonneg, ?_, average_le_early, ?_, ?_⟩
  · intro further small
    rw [adjustAll_append] at small ⊢
    exact trailing.ideal_le_adjustAll small
  · intro inTurn
    rwa [earlyCounts_eq_nil inTurn, List.append_nil] at average_le_early
  · exact fun e mem => (everywhere e mem).sum_le
  · exact fun e mem => (everywhere e mem).sum_lt

/-- All writers have one budget together, and half of the weight is on the newest interval. -/
def halfNewest : PacingPolicy ℚ :=
  ⟨4 / 5, 3 / 5, 1 / 2, 10, 10000, .writeBehind⟩

/-- Six messages are written in the first interval and two in the second. -/
def twoIntervals : List Adjustment :=
  .addWriter :: List.replicate 6 (.noteWrite 0) ++ .closeIntervals 10000 ::
    List.replicate 2 (.noteWrite 0) ++ [.closeIntervals 20000]

/-- A reader that keeps up has the messages of the first interval, and the average is four. -/
theorem writeBehind_adjustAll_twoIntervals :
    (PaceState.new 1000 halfNewest 0).WriteBehind twoIntervals ∧
      ((PaceState.new 1000 halfNewest 0).adjustAll twoIntervals).idealPosition = 6 ∧
      ((PaceState.new 1000 halfNewest 0).adjustAll twoIntervals).average = 4 := by
  refine ⟨writeBehind_adjustAll 1000 halfNewest 0 ?_ ?_ ?_ twoIntervals, ?_, ?_⟩
  · rfl
  · decide +kernel
  · decide +kernel
  · decide +kernel
  · decide +kernel

theorem adjustAll_replicate_noteWrite (capacity : Nat) (policy : PacingPolicy ℚ) (start : Nat)
    (count : Nat) :
    (PaceState.new capacity policy start).adjustAll (List.replicate count (.noteWrite 0)) =
      { PaceState.new capacity policy start with tail := count, intervalWrites := count } := by
  induction count with
  | zero => rfl
  | succ count ih =>
    rw [List.replicate_succ', adjustAll_append, ih]
    rfl

/-- The ideal position may go back where the tail is not below half of what 64 bits hold: it is the
tail, and so is the average, which never changes, and their sum begins again at zero. -/
theorem ideal_back_of_longInterval :
    ∃ (policy : PacingPolicy ℚ) (adjustments : List Adjustment),
      policy.rule = .writeBehind ∧ 0 ≤ policy.alpha ∧ policy.alpha ≤ 1 ∧
      ((PaceState.new 1000 policy 0).adjustAll adjustments).tail = 2 ^ 63 ∧
      ((PaceState.new 1000 policy 0).adjustAll (adjustments ++ [.closeIntervals 30000])).idealPosition <
        ((PaceState.new 1000 policy 0).adjustAll adjustments).idealPosition := by
  refine ⟨⟨4 / 5, 3 / 5, 0, 10, 10000, .writeBehind⟩,
    List.replicate (2 ^ 63) (.noteWrite 0) ++ [.closeIntervals 20000], rfl, ?_, ?_, ?_, ?_⟩
  · decide +kernel
  · decide +kernel
  · rw [adjustAll_append, adjustAll_replicate_noteWrite]
    decide +kernel
  · rw [adjustAll_append, adjustAll_append, adjustAll_replicate_noteWrite]
    decide +kernel

/-- One message is written in the first interval. In the second, somebody computes the average after
five messages and does not wait for the end. -/
def outOfTurn : List Adjustment :=
  .addWriter :: .noteWrite 0 :: .closeIntervals 10000 :: List.replicate 5 (.noteWrite 0) ++
    [.foldAverage]

/-- An average that is computed out of turn may be above the counts of all intervals that have ended,
also where the clock never goes back. -/
theorem not_average_le_outOfTurn :
    ¬ ∀ (capacity : Nat) (policy : PacingPolicy ℚ) (start : Nat) (adjustments : List Adjustment),
      policy.rule = .writeBehind → 0 ≤ policy.alpha → policy.alpha ≤ 1 →
      (start :: adjustments.filterMap Adjustment.clock?).Pairwise (· ≤ ·) →
      ((PaceState.new capacity policy start).adjustAll adjustments).average ≤
        greatestOf ((PaceState.new capacity policy start).closedCounts 0 adjustments) := by
  intro claim
  have bounded := claim 1000 ⟨4 / 5, 3 / 5, 1, 10, 10000, .writeBehind⟩ 0 outOfTurn rfl
    (by decide +kernel) (by decide +kernel) (by decide +kernel)
  revert bounded
  decide +kernel

end PaceState

end CollectorFeed
