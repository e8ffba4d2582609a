import CollectorFeed.Octets

/-!
# Numbers of the pacing rules

Shares of a queue, write budgets and averages are computed in a number type of its own, so that the
same rules can be read over doubles, as they run, and over exact fractions.
-/

set_option autoImplicit false

namespace CollectorFeed

/-- A number type in which shares, budgets and averages are computed. -/
class PacingNumber (α : Type) where
  /-- The number nearest to a count. -/
  ofCount : Nat → α
  /-- Sum of two numbers. -/
  add : α → α → α
  /-- Difference of two numbers. -/
  sub : α → α → α
  /-- Product of two numbers. -/
  mul : α → α → α
  /-- Quotient of two numbers. -/
  div : α → α → α
  /-- Whether the first number is the second or above it. -/
  atLeast : α → α → Bool
  /-- Whether the first number is below the second. -/
  below : α → α → Bool
  /-- Whether a number is zero. -/
  isZero : α → Bool
  /-- The lesser of two numbers. -/
  lesser : α → α → α
  /-- The greater of two numbers. -/
  greater : α → α → α
  /-- The whole part as a count, zero for a number below zero. -/
  wholePart : α → Nat

/-- Doubles. Where one of two numbers is none, the other one is the lesser and the greater of them.
The whole part stays within 64 bits, and that of what is no number is zero. -/
instance : PacingNumber Float where
  ofCount count := (UInt64.ofNat count).toFloat
  add a b := a + b
  sub a b := a - b
  mul a b := a * b
  div a b := a / b
  atLeast a b := b ≤ a
  below a b := a < b
  isZero a := a == 0
  lesser a b := if a < b then a else if b.isNaN then a else b
  greater a b := if b < a then a else if b.isNaN then a else b
  wholePart a := a.toUInt64.toNat

end CollectorFeed
