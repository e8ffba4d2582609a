import CollectorFeed.Record.Kinds

/-!
# Records and their headers

A record is a header of twelve octets and a body. The header gives the time, type and subtype of the
record and the length of its body. A body length outside of the accepted bounds is refused.
-/

set_option autoImplicit false

namespace CollectorFeed

/-- Header of a record. -/
structure RecordHeader where
  /-- Seconds since the epoch. -/
  timestamp : UInt32
  /-- Number of the record type. -/
  type : UInt16
  /-- Number of the subtype. -/
  subtype : UInt16
  /-- Octets of the body; the header is not counted. -/
  length : UInt32
deriving DecidableEq, Repr

namespace RecordHeader

/-- Octets of a header. -/
def octetCount : Nat := 12

/-- The registered type of the record, if its number is one. -/
def knownType? (header : RecordHeader) : Option RecordType :=
  RecordType.ofCode? header.type

/-- The written form of a header. -/
def encode (header : RecordHeader) : Octets :=
  Octets.ofNat 4 header.timestamp.toNat ++ Octets.ofNat 2 header.type.toNat ++
    Octets.ofNat 2 header.subtype.toNat ++ Octets.ofNat 4 header.length.toNat

@[simp] theorem length_encode (header : RecordHeader) : header.encode.length = octetCount := by
  simp [encode, octetCount]

/-- The header that the first twelve of the given octets spell. -/
def ofOctets (octets : Octets) : RecordHeader where
  timestamp := UInt32.ofNat (Octets.toNat (octets.take 4))
  type := UInt16.ofNat (Octets.toNat ((octets.drop 4).take 2))
  subtype := UInt16.ofNat (Octets.toNat ((octets.drop 6).take 2))
  length := UInt32.ofNat (Octets.toNat ((octets.drop 8).take 4))

end RecordHeader

/-- Bounds on the length of a body. -/
structure LengthLimits where
  /-- Greatest accepted length. -/
  max : UInt32
  /-- Least accepted length. -/
  min : UInt32
deriving DecidableEq, Repr

namespace LengthLimits

/-- Whether a body of the given length is accepted. -/
def accepts (limits : LengthLimits) (length : UInt32) : Bool :=
  limits.min ≤ length && length ≤ limits.max

/-- Refuses a header whose body length is out of bounds. -/
def check (limits : LengthLimits) (header : RecordHeader) : Except FeedError Unit :=
  if limits.accepts header.length then .ok ()
  else .error (.lengthOutOfBounds header.length limits.min limits.max)

end LengthLimits

/-- A record cut out of a stream. -/
structure FramedRecord where
  /-- Header of the record. -/
  header : RecordHeader
  /-- Body of the record. -/
  body : Octets
  /-- Recovery scans that were needed before the record was found. -/
  recoveries : Nat
deriving DecidableEq

end CollectorFeed
