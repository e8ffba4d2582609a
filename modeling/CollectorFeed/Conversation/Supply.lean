import CollectorFeed.Stream.Framer

/-!
# Supplies of records

A conversation takes its records from a supply. What it needs to know of one is how to ask for the
next record, how to ask for a recovery scan, and that it cannot go on taking records for ever. A
framer over a stream of octets is a supply.
-/

set_option autoImplicit false

namespace CollectorFeed

/-- A supply of records. -/
class RecordSupply (φ : Type) where
  /-- The next record. -/
  next : φ → Except FeedError FramedRecord × φ
  /-- One recovery scan. -/
  rescan : φ → Except FeedError UInt16 × φ
  /-- One more than the offset at which the supply last asked for octets; zero before it did. -/
  touched : φ → Nat
  /-- A bound on the number of records that are left. -/
  left : φ → Nat
  /-- Every record uses up some of the supply. -/
  left_lt_of_next {supply after : φ} {record : FramedRecord} :
    next supply = (.ok record, after) → left after < left supply
  /-- A recovery scan never adds to the supply. -/
  left_le_of_rescan {supply after : φ} {length : UInt16} :
    rescan supply = (.ok length, after) → left after ≤ left supply

instance : RecordSupply Framer where
  next := Framer.next
  rescan := Framer.rescan
  touched framer := framer.source.touched
  left framer := framer.source.unread.length
  left_lt_of_next := Framer.next_unread_lt
  left_le_of_rescan := Framer.rescan_unread_le

end CollectorFeed
