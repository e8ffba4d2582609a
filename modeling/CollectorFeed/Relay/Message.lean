import CollectorFeed.Reader
import CollectorFeed.Record.Kinds

/-!
# Relayed messages

While a collector is connected to a router it relays every BGP message that comes from it, behind a
header with the two ends of the connection. The message is passed on octet by octet as it is; all
that is asked of it is that it is longer than a bare BGP header and begins with the marker, which is
sixteen octets of ones.
-/

set_option autoImplicit false

namespace CollectorFeed

/-! ## BGP messages -/

/-- The octets every BGP message begins with. -/
def bgpMarker : Octets :=
  List.replicate 16 0xFF

/-- Octets of the header of a BGP message: marker, length and type. -/
def bgpHeaderLength : Nat := 19

/-- Type of the BGP message that announces routes. -/
def bgpUpdateType : UInt8 := 2

/-! ## Relayed messages -/

/-- A BGP message with the connection it came over. -/
structure RelayedMessage where
  /-- Width of the AS numbers. -/
  width : AsnWidth
  /-- AS number of the router. -/
  peerAsn : UInt32
  /-- AS number of the collector. -/
  localAsn : UInt32
  /-- Number of the interface. -/
  interface : UInt16
  /-- Address of the router. -/
  peerAddress : Address
  /-- Address of the collector. -/
  localAddress : Address
  /-- The message itself. -/
  message : Octets
deriving DecidableEq

namespace RelayedMessage

/-- Refuses a remainder that is no BGP message with a body. -/
def checkMessage (message : Octets) : Except FeedError Unit :=
  if message.length ≤ bgpHeaderLength then .error (.cutShort (.relayedMessage message.length))
  else if message.take bgpMarker.length = bgpMarker then .ok ()
  else .error .missingMarker

/-- Takes a relayed message; the message is all that is left behind the header. -/
def reader (width : AsnWidth) : Reader RelayedMessage := do
  let peerAsn ← Reader.asn width
  let localAsn ← Reader.asn width
  let interface ← Reader.u16
  let family ← Reader.u16
  let peerAddress ← Reader.address (AddressFamily.ofRelayField family)
  let localAddress ← Reader.address (AddressFamily.ofRelayField family)
  let message ← Reader.peek
  match checkMessage message with
  | .ok () => return ⟨width, peerAsn, localAsn, interface, peerAddress, localAddress, message⟩
  | .error e => Reader.fail e

/-- The relayed message that a body spells. -/
def decode (width : AsnWidth) (body : Octets) : Except FeedError RelayedMessage :=
  ((reader width).run body).1

/-- The written form, with the given family field. -/
def encode (relayed : RelayedMessage) (family : UInt16) : Octets :=
  Octets.ofNat relayed.width.octetCount relayed.peerAsn.toNat ++
    Octets.ofNat relayed.width.octetCount relayed.localAsn.toNat ++
    Octets.ofNat 2 relayed.interface.toNat ++ Octets.ofNat 2 family.toNat ++
    relayed.peerAddress.octets ++ relayed.localAddress.octets ++ relayed.message

end RelayedMessage

/-! ## Records -/

/-- What a record of relayed messages holds. -/
inductive RelayRecord
  /-- A message to pass on. -/
  | message (relayed : RelayedMessage)
  /-- A known subtype with nothing to pass on. -/
  | ignored (subtype : RelaySubtype)
deriving DecidableEq

namespace RelayRecord

/-- What a body of the given subtype number holds. -/
def decode (subtype : UInt16) (body : Octets) : Except FeedError RelayRecord :=
  match RelaySubtype.ofCode? subtype with
  | none => .error (.unexpectedSubtype RecordType.relay.code subtype)
  | some known =>
    match known.forwardedWidth? with
    | none => .ok (.ignored known)
    | some width => (RelayedMessage.decode width body).map .message

/-- What a body with microseconds in its first four octets holds. -/
def decodeTimed (subtype : UInt16) (body : Octets) : Except FeedError RelayRecord :=
  match Reader.u32.run body with
  | (.ok _, rest) => decode subtype rest
  | (.error e, _) => .error e

end RelayRecord

end CollectorFeed
