import CollectorFeed.Reader
import CollectorFeed.Path.Attribute

/-!
# Reachability attributes in table dumps

Inside of a table dump the attribute that carries networks and their next hop is shortened to the
length of the next hop and the next hop: family, use and network stand in the record. In a BGP
message it has all of them, so it is completed from the record.

A value that begins with a zero octet has the full form already, since no next hop is empty.
-/

set_option autoImplicit false

namespace CollectorFeed

/-- What a record of a table dump says of all its routes. -/
structure RouteTarget where
  /-- Family of the network. -/
  family : AddressFamily
  /-- What the route is for. -/
  use : SubsequentFamily
  /-- The network that the routes lead to. -/
  network : Network
deriving DecidableEq

namespace Reachability

/-- The full form: family, use, next hop behind its length, a reserved octet, and the network. -/
def full (target : RouteTarget) (nextHop : Octets) : Octets :=
  Octets.ofNat 2 target.family.code.toNat ++ target.use.code :: UInt8.ofNat nextHop.length ::
    (nextHop ++ 0 :: target.network.encode)

/-- Takes the next hop behind its length. -/
def nextHop : Reader Octets := do
  let length ← Reader.u8
  Reader.take length.toNat

/-- The full form of a value that stands in a table dump. -/
def complete (target : RouteTarget) (value : Octets) : Except FeedError Octets :=
  if value.head? = some 0 then .ok value
  else
    match (nextHop.run value).1 with
    | .ok hop => .ok (full target hop)
    | .error _ => .error (.malformedAttribute .nextHopTooLong)

end Reachability

end CollectorFeed
