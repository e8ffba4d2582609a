/-!
# Written numbers

A decimal number as it stands in a text: sign, whole digits, a fraction and an exponent. It is kept
as it is written, because some readers of it want a whole number that is written as one, and others
the double that it comes to.

The double is computed in two steps. Digits are taken into a whole number as long as that stays
below 2 to the power of 64; digits of the fraction behind that are ignored. Then the number is
multiplied by, or divided by, a power of ten. For numbers of many digits the result may be off by a
last bit from the nearest double.
-/

set_option autoImplicit false

namespace CollectorFeed

/-- A decimal number as it is written. -/
structure Numeral where
  /-- Whether it has a minus sign. -/
  negative : Bool
  /-- Digits in front of the point. -/
  whole : List Nat
  /-- Digits behind the point, if there is one. -/
  fraction? : Option (List Nat)
  /-- Whether the exponent is below zero, and its digits, if there is one. -/
  exponent? : Option (Bool × List Nat)
deriving DecidableEq, Repr

namespace Numeral

/-! ## Reading -/

/-- The digits at the front of a text, and what follows them. -/
def digits (text : List Char) : List Nat × List Char :=
  ((text.takeWhile Char.isDigit).map fun c => c.toNat - 48, text.dropWhile Char.isDigit)

/-- One or more digits at the front of a text, and what follows them. -/
def someDigits? (text : List Char) : Option (List Nat × List Char) :=
  match digits text with
  | ([], _) => none
  | found => some found

/-- A sign at the front of a text; nothing stands for a plus. -/
def sign (text : List Char) : Bool × List Char :=
  match text with
  | '-' :: rest => (true, rest)
  | '+' :: rest => (false, rest)
  | _ => (false, text)

/-- Whether whole digits are written without a needless zero in front. -/
def isPlain : List Nat → Bool
  | 0 :: _ :: _ => false
  | _ => true

/-- The fraction at the front of a text, if there is one, and what follows it. -/
def readFraction? (text : List Char) : Option (Option (List Nat) × List Char) :=
  match text with
  | '.' :: rest => (someDigits? rest).map fun found => (some found.1, found.2)
  | _ => some (none, text)

/-- The exponent at the end of a text, if there is one. -/
def readExponent? (text : List Char) : Option (Option (Bool × List Nat)) :=
  match text with
  | [] => some none
  | first :: rest =>
    if first = 'e' ∨ first = 'E' then
      match someDigits? (sign rest).2 with
      | some (found, []) => some (some ((sign rest).1, found))
      | _ => none
    else none

/-- The number that a text is, if it is one. -/
def ofChars? (text : List Char) : Option Numeral := do
  let (negative, text) := match text with
    | '-' :: rest => (true, rest)
    | _ => (false, text)
  let (whole, text) ← someDigits? text
  if !isPlain whole then none
  let (fraction?, text) ← readFraction? text
  let exponent? ← readExponent? text
  return ⟨negative, whole, fraction?, exponent?⟩

/-- A count as it is written. -/
def ofNat (count : Nat) : Numeral :=
  ⟨false, (Nat.toDigits 10 count).map fun c => c.toNat - 48, none, none⟩

/-! ## Values -/

/-- The number that digits spell. -/
def valueOf (digits : List Nat) : Nat :=
  digits.foldl (fun value digit => value * 10 + digit) 0

/-- The whole number that is written, if it is written as a whole number without a sign. -/
def count? (numeral : Numeral) : Option Nat :=
  if numeral.negative || numeral.fraction?.isSome || numeral.exponent?.isSome then none
  else some (valueOf numeral.whole)

/-- Takes digits into a number as long as it stays below 2 to the power of 64. Gives the number and
how many digits were left. -/
def absorb (significand : Nat) : List Nat → Nat × Nat
  | [] => (significand, 0)
  | digit :: rest =>
    if significand * 10 + digit < 2 ^ 64 then absorb (significand * 10 + digit) rest
    else (significand, rest.length + 1)

/-- The exponent that is written. -/
def writtenExponent (numeral : Numeral) : Int :=
  match numeral.exponent? with
  | some (below, digits) => if below then -(valueOf digits : Int) else valueOf digits
  | none => 0

/-- The whole number and the power of ten that a number comes to without its sign. -/
def parts (numeral : Numeral) : Nat × Int :=
  let (significand, wholeLeft) := absorb 0 numeral.whole
  let fraction := numeral.fraction?.getD []
  let (significand, fractionLeft) := absorb significand fraction
  (significand, wholeLeft - (fraction.length - fractionLeft : Nat) + numeral.writtenExponent)

/-- The greatest power of ten that is a double. -/
def greatestPower : Nat := 308

/-- The double nearest to a power of ten. -/
def powerOfTen (exponent : Nat) : Float :=
  Float.ofScientific 1 false exponent

/-- A double divided by a power of ten, in steps that are doubles themselves. -/
def lower (value : Float) (exponent : Nat) : Float :=
  if exponent ≤ greatestPower then value / powerOfTen exponent
  else if value == 0 then value
  else lower (value / powerOfTen greatestPower) (exponent - greatestPower)
termination_by exponent
decreasing_by
  rename_i above _
  simp only [greatestPower] at above ⊢
  omega

/-- A double multiplied by a power of ten, unless that is too great for a double. -/
def raise? (value : Float) (exponent : Nat) : Option Float :=
  if exponent ≤ greatestPower then
    let raised := value * powerOfTen exponent
    if raised.isInf then none else some raised
  else if value == 0 then some value
  else none

/-- The double that a number comes to, unless it is too great for one. -/
def double? (numeral : Numeral) : Option Float := do
  let (significand, exponent) := numeral.parts
  let value := (UInt64.ofNat significand).toFloat
  let size ← match exponent with
    | .ofNat up => raise? value up
    | .negSucc down => some (lower value (down + 1))
  return if numeral.negative then -size else size

end Numeral

end CollectorFeed
