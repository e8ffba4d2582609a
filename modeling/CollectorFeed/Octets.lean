/-!
# Octets and big-endian words

Feeds, records and BGP messages are sequences of octets. A number in them stands in big-endian
order: its most significant octet comes first. This module gives the reading of an octet sequence
as a number, the writing of a number in a given count of octets, and sequences of a fixed length.

Main statements: a written number is as long as asked (`length_ofNat`), reads back up to what its
octets can hold (`toNat_ofNat`), and octets are the writing of the number they spell
(`ofNat_toNat`).
-/

set_option autoImplicit false

namespace CollectorFeed

/-- A sequence of octets. -/
abbrev Octets := List UInt8

namespace Octets

/-! ## Big-endian numbers -/

/-- The number that octets spell, the most significant octet first. -/
def toNat (octets : Octets) : Nat :=
  octets.foldl (fun value octet => value * 256 + octet.toNat) 0

/-- The last `width` octets of a number. -/
def ofNat : Nat → Nat → Octets
  | 0, _ => []
  | width + 1, value => ofNat width (value / 256) ++ [UInt8.ofNat value]

/-- The least number that does not fit into `width` octets. -/
def bound (width : Nat) : Nat :=
  Nat.pow 256 width

@[simp] theorem bound_zero : bound 0 = 1 := rfl

theorem bound_succ (width : Nat) : bound (width + 1) = bound width * 256 := rfl

theorem bound_pos (width : Nat) : 0 < bound width :=
  Nat.pow_pos (by decide)

@[simp] theorem toNat_nil : toNat [] = 0 := rfl

theorem toNat_append_singleton (octets : Octets) (octet : UInt8) :
    toNat (octets ++ [octet]) = toNat octets * 256 + octet.toNat := by
  simp [toNat, List.foldl_append]

@[simp] theorem length_ofNat (width value : Nat) : (ofNat width value).length = width := by
  induction width generalizing value with
  | zero => rfl
  | succ width ih => simp [ofNat, ih]

/-- A number that was written reads back as what its octets can hold of it. -/
theorem toNat_ofNat (width value : Nat) : toNat (ofNat width value) = value % bound width := by
  induction width generalizing value with
  | zero => simp [ofNat, Nat.mod_one]
  | succ width ih =>
    have last : (UInt8.ofNat value).toNat = value % 256 := by simp
    rw [ofNat, toNat_append_singleton, ih, last, bound_succ, Nat.mul_comm (bound width) 256,
      Nat.mod_mul]
    omega

/-- Octets in front weigh as much as the octets behind them leave room for. -/
theorem foldl_from (octets : Octets) (start : Nat) :
    octets.foldl (fun value octet => value * 256 + octet.toNat) start
      = start * bound octets.length + toNat octets := by
  induction octets generalizing start with
  | nil => simp
  | cons octet rest ih =>
    have front : toNat (octet :: rest) = octet.toNat * bound rest.length + toNat rest := by
      rw [toNat, List.foldl_cons, ih]
      simp
    rw [List.foldl_cons, ih, front, List.length_cons, bound_succ, Nat.add_mul, Nat.mul_assoc,
      Nat.mul_comm 256, Nat.add_assoc]

theorem toNat_cons (octet : UInt8) (rest : Octets) :
    toNat (octet :: rest) = octet.toNat * bound rest.length + toNat rest := by
  rw [toNat, List.foldl_cons, foldl_from]
  simp

theorem toNat_lt (octets : Octets) : toNat octets < bound octets.length := by
  induction octets with
  | nil => simp
  | cons octet rest ih =>
    rw [toNat_cons, List.length_cons, bound_succ]
    have first : octet.toNat * bound rest.length ≤ 255 * bound rest.length :=
      Nat.mul_le_mul_right _ (by have := octet.toNat_lt; omega)
    omega

theorem ofNat_succ (width value : Nat) :
    ofNat (width + 1) value = UInt8.ofNat (value / bound width) :: ofNat width value := by
  induction width generalizing value with
  | zero => simp [ofNat]
  | succ width ih =>
    rw [ofNat, ih, Nat.div_div_eq_div_mul, Nat.mul_comm 256 (bound width), ← bound_succ, ofNat]
    rfl

theorem ofNat_add_mul (width value above : Nat) :
    ofNat width (above * bound width + value) = ofNat width value := by
  induction width generalizing value above with
  | zero => rfl
  | succ width ih =>
    have high : (above * bound (width + 1) + value) / 256 = above * bound width + value / 256 := by
      rw [bound_succ, ← Nat.mul_assoc]
      omega
    have low : UInt8.ofNat (above * bound (width + 1) + value) = UInt8.ofNat value := by
      apply UInt8.toNat_inj.mp
      rw [bound_succ, ← Nat.mul_assoc]
      simp
    rw [ofNat, high, ih, low, ofNat]

/-- Octets are the writing of the number that they spell. -/
theorem ofNat_toNat (octets : Octets) : ofNat octets.length (toNat octets) = octets := by
  induction octets with
  | nil => rfl
  | cons octet rest ih =>
    have small := toNat_lt rest
    have high :
        (octet.toNat * bound rest.length + toNat rest) / bound rest.length = octet.toNat := by
      rw [Nat.add_comm, Nat.add_mul_div_right _ _ (bound_pos _), Nat.div_eq_of_lt small,
        Nat.zero_add]
    rw [List.length_cons, ofNat_succ, toNat_cons, high, ofNat_add_mul, ih, UInt8.ofNat_toNat]

end Octets

/-! ## Sequences of fixed length -/

/-- Exactly `count` octets. -/
structure FixedOctets (count : Nat) where
  /-- The octets themselves. -/
  toList : Octets
  /-- Their number is the one asked for. -/
  length_toList : toList.length = count
deriving DecidableEq

namespace FixedOctets

variable {count : Nat}

/-- The first `count` octets of a sequence, completed with zeros where it is too short. -/
def padded (count : Nat) (front : Octets) : FixedOctets count where
  toList := (front ++ List.replicate count 0).take count
  length_toList := by simp

@[ext] theorem ext {a b : FixedOctets count} (same : a.toList = b.toList) : a = b := by
  cases a; cases b; simp_all

/-- A sequence of the right length is kept as it is. -/
theorem toList_padded {front : Octets} (exact_length : front.length = count) :
    (padded count front).toList = front := by
  simp [padded, ← exact_length]

@[simp] theorem padded_toList (octets : FixedOctets count) : padded count octets.toList = octets :=
  ext (toList_padded octets.length_toList)

/-- The number the octets spell. -/
def toNat (octets : FixedOctets count) : Nat :=
  Octets.toNat octets.toList

end FixedOctets

end CollectorFeed
