import CollectorFeed.Reader

/-!
# Aggregators

The router that formed an aggregate is named by an AS number and an identifier of four octets. The
length of the value tells the width of the AS number.
-/

set_option autoImplicit false

namespace CollectorFeed

/-- The router that formed an aggregate. -/
structure Aggregator where
  /-- Its AS number. -/
  asn : UInt32
  /-- Its identifier. -/
  id : Quad
deriving DecidableEq

namespace Aggregator

/-- Width of the AS number in a value of so many octets. -/
def width? (length : Nat) : Option AsnWidth :=
  if length = 8 then some .four else if length = 6 then some .two else none

/-- Takes an aggregator whose AS number has the given width. -/
def reader (width : AsnWidth) : Reader Aggregator := do
  let asn ← Reader.asn width
  let id ← Reader.quad
  return ⟨asn, id⟩

/-- The aggregator that octets spell. -/
def decode (octets : Octets) : Except FeedError Aggregator :=
  match width? octets.length with
  | some width => ((reader width).run octets).1
  | none => .error (.contradiction (.aggregatorLength octets.length))

/-- The written form with AS numbers of the given width. -/
def encode (width : AsnWidth) (aggregator : Aggregator) : Octets :=
  encodeAsn width aggregator.asn ++ aggregator.id.toList

end Aggregator

end CollectorFeed
