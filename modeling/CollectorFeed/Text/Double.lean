/-!
# Texts of doubles

A double is written with the fewest digits that read back as the same double, and with those of them
that lie nearest to it; the greater one of two that lie equally near. It is written without an
exponent, however long that is.

Every number in an interval around a double reads back as that double. The ends of the interval lie
half way to the neighbours, and they belong to it if the last bit of the double is zero.
-/

set_option autoImplicit false

namespace CollectorFeed

namespace Double

/-- The numbers that read back as one positive double, in fractions of 2 to the power of 1076. -/
structure Interval where
  /-- The lower end. -/
  low : Nat
  /-- The double itself. -/
  value : Nat
  /-- The upper end. -/
  high : Nat
  /-- Whether the ends belong to the interval. -/
  isClosed : Bool

/-- Denominator of the fractions in which intervals are given. -/
def unit : Nat := Nat.pow 2 1076

/-- The interval of the positive double with the given bits. -/
def Interval.ofBits (bits : Nat) : Interval :=
  let biased := bits / Nat.pow 2 52 % 2048
  let fraction := bits % Nat.pow 2 52
  let mantissa := if biased = 0 then fraction else fraction + Nat.pow 2 52
  let scale := Nat.pow 2 (max biased 1 - 1)
  let below := if fraction = 0 ∧ 1 < biased then 1 else 2
  { low := (4 * mantissa - below) * scale
    value := 4 * mantissa * scale
    high := (4 * mantissa + 2) * scale
    isClosed := mantissa % 2 = 0 }

/-- The power of ten of a place, as a fraction. -/
def placeValue : Int → Nat × Nat
  | .ofNat up => (Nat.pow 10 up, 1)
  | .negSucc down => (1, Nat.pow 10 (down + 1))

namespace Interval

/-- Whether the interval holds the multiple of a place's power of ten. -/
def holds (i : Interval) (place : Int) (multiple : Nat) : Bool :=
  let (numerator, denominator) := placeValue place
  let number := multiple * numerator * unit
  if i.isClosed then i.low * denominator ≤ number && number ≤ i.high * denominator
  else i.low * denominator < number && number < i.high * denominator

/-- The greatest multiple of a place's power of ten that is not above the double. -/
def multipleBelow (i : Interval) (place : Int) : Nat :=
  let (numerator, denominator) := placeValue place
  i.value * denominator / (numerator * unit)

/-- Whether the multiple below the double lies nearer to it than the one above. -/
def isNearerBelow (i : Interval) (place : Int) : Bool :=
  let (numerator, denominator) := placeValue place
  2 * i.value * denominator < (2 * i.multipleBelow place + 1) * numerator * unit

/-- The multiple of a place's power of ten that stands for the double, if one does. -/
def multiple? (i : Interval) (place : Int) : Option Nat :=
  let below := i.multipleBelow place
  match i.holds place below, i.holds place (below + 1) with
  | true, true => some (if i.isNearerBelow place then below else below + 1)
  | true, false => some below
  | false, true => some (below + 1)
  | false, false => none

/-- Number of digits in front of the point; below zero for the number of zeros behind it. -/
def magnitude (i : Interval) : Int :=
  if unit ≤ i.value then (Nat.toDigits 10 (i.value / unit)).length
  else 1 - (Nat.toDigits 10 ((unit - 1) / i.value)).length

/-- A multiple and its place; ten times a place is once the next one. -/
def carried (multiple : Nat) (place : Int) : Nat × Int :=
  if multiple % 10 = 0 then (multiple / 10, place + 1) else (multiple, place)

/-- The multiple and the place that stand for the double with the fewest digits. Seventeen digits
are always enough. -/
def shortest (i : Interval) : Nat × Int :=
  let found? := (List.range 17).findSome? fun few =>
    let place := i.magnitude - (few + 1 : Nat)
    (i.multiple? place).map fun multiple => carried multiple place
  found?.getD (0, 0)

end Interval

/-- Digits with a point so many places from their end. -/
def withPoint (digits : List Char) (behind : Nat) : List Char :=
  let padded := List.replicate (behind + 1 - digits.length) '0' ++ digits
  padded.take (padded.length - behind) ++ '.' :: padded.drop (padded.length - behind)

/-- A multiple of a place's power of ten, written without an exponent. -/
def positional (multiple : Nat) (place : Int) : List Char :=
  match place with
  | .ofNat up => Nat.toDigits 10 multiple ++ List.replicate up '0'
  | .negSucc down => withPoint (Nat.toDigits 10 multiple) (down + 1)

/-- Text of a double without its sign. -/
def magnitudeText (value : Float) : String :=
  if value.isInf then "inf"
  else if value == 0 then "0"
  else
    let (multiple, place) := (Interval.ofBits value.abs.toBits.toNat).shortest
    String.ofList (positional multiple place)

/-- Text of a double. -/
def text (value : Float) : String :=
  if value.isNaN then "NaN"
  else if value.toBits.toNat < Nat.pow 2 63 then magnitudeText value
  else "-" ++ magnitudeText value

end Double

end CollectorFeed
