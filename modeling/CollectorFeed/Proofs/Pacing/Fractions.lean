import CollectorFeed.Queue.PacingNumber
import Mathlib.Data.Rat.Floor

/-!
# Pacing in exact fractions

The pacing rules read over fractions, where nothing is rounded. What is proved about budgets and
averages as numbers is proved for this reading.
-/

set_option autoImplicit false

namespace CollectorFeed

/-- Exact fractions. -/
instance : PacingNumber ℚ where
  ofCount count := count
  add a b := a + b
  sub a b := a - b
  mul a b := a * b
  div a b := a / b
  atLeast a b := decide (b ≤ a)
  below a b := decide (a < b)
  isZero a := decide (a = 0)
  lesser a b := min a b
  greater a b := max a b
  wholePart a := ⌊a⌋.toNat

end CollectorFeed
