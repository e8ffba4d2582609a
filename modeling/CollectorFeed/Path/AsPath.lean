import CollectorFeed.Reader
import CollectorFeed.Path.Attribute

/-!
# AS paths

An AS path is a sequence of segments. A segment has a kind, a count of AS numbers in one octet, and
so many AS numbers, all of the width that the path is written with.

A segment is written with the last octet of its count, so a path of segments with at most 255
numbers each reads back.
-/

set_option autoImplicit false

namespace CollectorFeed

/-- One segment of an AS path. -/
structure PathSegment where
  /-- Set, sequence, or their kinds inside a confederation. -/
  kind : UInt8
  /-- The AS numbers in order. -/
  asns : List UInt32
deriving DecidableEq, Repr

namespace PathSegment

/-- The written form of a segment. -/
def encode (width : AsnWidth) (segment : PathSegment) : Octets :=
  segment.kind :: UInt8.ofNat segment.asns.length :: segment.asns.flatMap (encodeAsn width)

/-- Takes a segment from a buffer; its AS numbers are taken only if all of them are there. -/
def reader (width : AsnWidth) : Reader PathSegment := do
  let kind ← Reader.u8
  let count ← Reader.u8
  Reader.need (count.toNat * width.octetCount)
  let asns ← Reader.times (Reader.asn width) count.toNat
  return ⟨kind, asns⟩

/-- Whether the segment has an AS number that two octets cannot hold. -/
def isWide (segment : PathSegment) : Bool :=
  segment.asns.any fun asn => AsnWidth.two.greatest < asn.toNat

end PathSegment

namespace AsPath

/-- The written form of a path. -/
def encode (width : AsnWidth) (segments : List PathSegment) : Octets :=
  segments.flatMap (PathSegment.encode width)

/-- Takes segments until the buffer is empty. -/
def reader (width : AsnWidth) : Reader (List PathSegment) :=
  Reader.many 1 (PathSegment.reader width)

/-- The path that octets spell. -/
def decode (width : AsnWidth) (octets : Octets) : Except FeedError (List PathSegment) :=
  ((reader width).run octets).1

end AsPath

end CollectorFeed
