import CollectorFeed.Proofs.Pacing.Intervals

/-!
# Adjustments of the counters

Everything that happens to the counters of a queue is a sequence of a dozen adjustments. A property
of all states that a queue can come to is proved once for `PaceState.adjust` and then holds of
`PaceState.adjustAll`.
-/

set_option autoImplicit false

namespace CollectorFeed

/-- What can be done to the counters of a queue. -/
inductive Adjustment
  /-- A writer comes. -/
  | addWriter
  /-- The writer in a slot goes. -/
  | removeWriter (slot : Nat)
  /-- A reader comes. -/
  | addReader
  /-- A reader goes. -/
  | removeReader
  /-- The writer in a slot puts a message. -/
  | noteWrite (slot : Nat)
  /-- A reader takes a message. -/
  | noteRead
  /-- The oldest message that is kept is another one. -/
  | moveHead (position : Nat)
  /-- Somebody looks at the clock and ends the intervals that have ended. -/
  | closeIntervals (now : Nat)
  /-- It is checked whether the writer in a slot has to wait. -/
  | pace (slot now : Nat)
  /-- It is checked whether pacing can be turned off. -/
  | noticeEmptying
  /-- The budget is computed anew. -/
  | recomputeLimit
  /-- The writes of the interval are taken into the average. -/
  | foldAverage
deriving DecidableEq

namespace PaceState

variable {α : Type}

/-- The oldest message that is kept is another one. -/
def moveHead (s : PaceState α) (position : Nat) : PaceState α :=
  { s with head := position }

variable [PacingNumber α]

/-- One adjustment. -/
def adjust (s : PaceState α) : Adjustment → PaceState α
  | .addWriter => s.addWriter.2
  | .removeWriter slot => s.removeWriter slot
  | .addReader => s.addReader
  | .removeReader => s.removeReader
  | .noteWrite slot => s.noteWrite slot
  | .noteRead => s.noteRead
  | .moveHead position => s.moveHead position
  | .closeIntervals now => s.closeIntervals now
  | .pace slot now => (s.pace slot now).2
  | .noticeEmptying => s.noticeEmptying
  | .recomputeLimit => s.recomputeLimit
  | .foldAverage => s.foldAverage

/-- Adjustments one after the other. -/
def adjustAll (s : PaceState α) (adjustments : List Adjustment) : PaceState α :=
  adjustments.foldl adjust s

theorem adjustAll_append (s : PaceState α) (first second : List Adjustment) :
    s.adjustAll (first ++ second) = (s.adjustAll first).adjustAll second :=
  List.foldl_append

/-! ## What no adjustment changes -/

theorem policy_adjust (s : PaceState α) (adjustment : Adjustment) :
    (s.adjust adjustment).policy = s.policy := by
  cases adjustment with
  | closeIntervals now => exact (samePlace_closeIntervals s now).policy
  | pace slot now =>
    simp only [adjust, pace, noticeFilling]
    split <;> rfl
  | noticeEmptying =>
    simp only [adjust, noticeEmptying]
    split <;> rfl
  | recomputeLimit => exact s.policy_recomputeLimit
  | _ => rfl

theorem policy_adjustAll (s : PaceState α) (adjustments : List Adjustment) :
    (s.adjustAll adjustments).policy = s.policy := by
  induction adjustments generalizing s with
  | nil => rfl
  | cons adjustment rest ih => exact (ih (s.adjust adjustment)).trans (s.policy_adjust adjustment)

theorem capacity_adjust (s : PaceState α) (adjustment : Adjustment) :
    (s.adjust adjustment).capacity = s.capacity := by
  cases adjustment with
  | closeIntervals now => exact congrArg Extent.capacity (extent_closeIntervals s now)
  | pace slot now => exact congrArg Extent.capacity (extent_pace s slot now)
  | noticeEmptying => exact congrArg Extent.capacity (extent_noticeEmptying s)
  | recomputeLimit => exact congrArg Extent.capacity (extent_recomputeLimit s)
  | _ => rfl

theorem capacity_adjustAll (s : PaceState α) (adjustments : List Adjustment) :
    (s.adjustAll adjustments).capacity = s.capacity := by
  induction adjustments generalizing s with
  | nil => rfl
  | cons adjustment rest ih =>
    exact (ih (s.adjust adjustment)).trans (s.capacity_adjust adjustment)

end PaceState

end CollectorFeed
