import CollectorFeed.Path.AsPath
import CollectorFeed.Path.Aggregator

/-!
# Attributes for sessions with narrow AS numbers

Table dumps give AS numbers in four octets. For a session that speaks two octets, paths and
aggregators are written anew with `transitionAsn` in place of every AS number that does not fit, and
the full value follows in an attribute of its own, unless the route already has such an attribute.
What cannot be read is kept as it is.
-/

set_option autoImplicit false

namespace CollectorFeed

namespace Narrowing

/-- Flags of the attributes that hold full values. -/
def fullFlags : UInt8 :=
  AttributeFlags.optional ||| AttributeFlags.transitive

/-- The attribute that holds a full value, if one is called for. -/
def fullValue (called : Bool) (kind : AttributeKind) (value : Octets) : List PathAttribute :=
  if called then [PathAttribute.ofKind fullFlags kind value] else []

/-- A path attribute with narrow AS numbers, and its full value where that says more. -/
def path (hasFull : Bool) (attr : PathAttribute) : List PathAttribute :=
  match AsPath.decode .four attr.value with
  | .ok segments =>
    { attr with value := AsPath.encode .two segments } ::
      fullValue (segments.any PathSegment.isWide && !hasFull) .as4Path attr.value
  | .error _ => [attr]

/-- An aggregator with a narrow AS number, and its full value where that says more. -/
def aggregator (hasFull : Bool) (attr : PathAttribute) : List PathAttribute :=
  match Aggregator.decode attr.value with
  | .ok router =>
    { attr with value := router.encode .two } ::
      fullValue (decide (AsnWidth.two.greatest < router.asn.toNat) && !hasFull) .as4Aggregator
        attr.value
  | .error _ => [attr]

/-- Whether a route has an attribute of a kind. -/
def hasKind (kind : AttributeKind) (attributes : List PathAttribute) : Bool :=
  attributes.any fun attr => attr.kind? = some kind

/-- What stands for one attribute in a session with narrow AS numbers. -/
def one (hasFullPath hasFullAggregator : Bool) (attr : PathAttribute) :
    List PathAttribute :=
  if attr.kind? = some .asPath then path hasFullPath attr
  else if attr.kind? = some .aggregator ∧ attr.value.length = 8 then
    aggregator hasFullAggregator attr
  else [attr]

end Narrowing

/-- The attributes of a route for a session with AS numbers of the given width. -/
def adaptAttributes (width : AsnWidth) (attributes : List PathAttribute) : List PathAttribute :=
  match width with
  | .four => attributes
  | .two =>
    attributes.flatMap <| Narrowing.one (Narrowing.hasKind .as4Path attributes)
      (Narrowing.hasKind .as4Aggregator attributes)

end CollectorFeed
