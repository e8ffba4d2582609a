import CollectorFeed.Reader
import CollectorFeed.Text.Utf8

/-!
# The index of routers

A table dump opens with the routers whose routes it holds. Routes name a router by its place in
this index. The entry of a router begins with an octet of which one bit tells the family of its
address and another one the width of its AS number; the other bits are kept.
-/

set_option autoImplicit false

namespace CollectorFeed

/-! ## Routers -/

/-- A router that the collector listens to. -/
structure Peer where
  /-- The octet that tells the form of the entry. -/
  type : UInt8
  /-- Identifier of the router. -/
  bgpId : Quad
  /-- Address of the router. -/
  address : Address
  /-- AS number of the router. -/
  asn : UInt32
deriving DecidableEq

namespace Peer

/-- Bit of the type octet for an IPv6 address. -/
def ipv6Bit : UInt8 := 0x1

/-- Bit of the type octet for an AS number of four octets. -/
def wideAsnBit : UInt8 := 0x2

/-- Family that a type octet announces. -/
def typeFamily (type : UInt8) : AddressFamily :=
  if type &&& ipv6Bit != 0 then .ipv6 else .ipv4

/-- Width of AS numbers that a type octet announces. -/
def typeWidth (type : UInt8) : AsnWidth :=
  if type &&& wideAsnBit != 0 then .four else .two

/-- The type octet of an address and an AS number: four octets only for numbers that need them. -/
def typeFor (address : Address) (asn : UInt32) : UInt8 :=
  (if AsnWidth.two.greatest < asn.toNat then wideAsnBit else 0) |||
    (if address.family = .ipv6 then ipv6Bit else 0)

/-- A router with the type octet of its address and AS number. -/
def ofAddress (bgpId : Quad) (address : Address) (asn : UInt32) : Peer :=
  ⟨typeFor address asn, bgpId, address, asn⟩

/-- The written form of an entry. An AS number is cut to the width that the type announces. -/
def encode (peer : Peer) : Octets :=
  peer.type :: (peer.bgpId.toList ++ peer.address.octets ++
    Octets.ofNat (typeWidth peer.type).octetCount peer.asn.toNat)

/-- Takes an entry from a buffer. -/
def reader : Reader Peer := do
  let type ← Reader.u8
  let bgpId ← Reader.quad
  let address ← Reader.address (typeFamily type)
  let asn ← Reader.asn (typeWidth type)
  return ⟨type, bgpId, address, asn⟩

end Peer

/-! ## The index -/

/-- The routers of a table dump. -/
structure PeerIndex where
  /-- Identifier of the collector. -/
  collector : Quad
  /-- Name of the view that was dumped. -/
  viewName : String
  /-- The routers in the order in which routes name them. -/
  peers : List Peer
deriving DecidableEq

namespace PeerIndex

/-- The router at a place of the index. -/
def peer? (index : PeerIndex) (place : Nat) : Option Peer :=
  index.peers[place]?

/-- The written form of an index. The length of the name and the number of routers are cut to two
octets. -/
def encode (index : PeerIndex) : Octets :=
  let name := Utf8.encode index.viewName
  index.collector.toList ++ Octets.ofNat 2 name.length ++ name ++
    Octets.ofNat 2 index.peers.length ++ index.peers.flatMap Peer.encode

/-- Takes an index from a buffer. -/
def reader : Reader PeerIndex := do
  let collector ← Reader.quad
  let nameLength ← Reader.u16
  let name ← Reader.take nameLength.toNat
  let count ← Reader.u16
  let peers ← Reader.times Peer.reader count.toNat
  return ⟨collector, Utf8.lossy name, peers⟩

end PeerIndex

end CollectorFeed
