import CollectorFeed.FeedError

/-!
# Registered kinds

Types of records, their subtypes, and kinds of path attributes, each with its registered number and
name. Reading the number of a kind gives the kind back.
-/

set_option autoImplicit false

namespace CollectorFeed

/-! ## Types of records -/

/-- Type of a record. -/
inductive RecordType
  | tableDump
  | tableDumpV2
  | relay
  | relayTimed
deriving DecidableEq, Repr

namespace RecordType

/-- Registered number of a type. -/
def code : RecordType → UInt16
  | tableDump => 12
  | tableDumpV2 => 13
  | relay => 16
  | relayTimed => 17

/-- The type with a registered number, if there is one. -/
def ofCode? (code : UInt16) : Option RecordType :=
  if code = 12 then some tableDump
  else if code = 13 then some tableDumpV2
  else if code = 16 then some relay
  else if code = 17 then some relayTimed
  else none

theorem ofCode?_code (type : RecordType) : ofCode? type.code = some type := by
  cases type <;> rfl

/-- Registered name of a type. -/
def name : RecordType → String
  | tableDump => "TABLE_DUMP"
  | tableDumpV2 => "TABLE_DUMP_V2"
  | relay => "BGP4MP"
  | relayTimed => "BGP4MP_ET"

end RecordType

/-! ## Subtypes of relayed messages -/

/-- Subtype of a record that relays what passed between a router and the collector. -/
inductive RelaySubtype
  | stateChange
  | message
  | messageAs4
  | stateChangeAs4
  | messageLocal
  | messageAs4Local
deriving DecidableEq, Repr

namespace RelaySubtype

/-- Registered number of a subtype. -/
def code : RelaySubtype → UInt16
  | stateChange => 0
  | message => 1
  | messageAs4 => 4
  | stateChangeAs4 => 5
  | messageLocal => 6
  | messageAs4Local => 7

/-- The subtype with a registered number, if there is one. -/
def ofCode? (code : UInt16) : Option RelaySubtype :=
  if code = 0 then some stateChange
  else if code = 1 then some message
  else if code = 4 then some messageAs4
  else if code = 5 then some stateChangeAs4
  else if code = 6 then some messageLocal
  else if code = 7 then some messageAs4Local
  else none

theorem ofCode?_code (subtype : RelaySubtype) : ofCode? subtype.code = some subtype := by
  cases subtype <;> rfl

/-- Name of a subtype. -/
def name : RelaySubtype → String
  | stateChange => "StateChange"
  | message => "Message"
  | messageAs4 => "MessageAs4"
  | stateChangeAs4 => "StateChangeAs4"
  | messageLocal => "MessageLocal"
  | messageAs4Local => "MessageAs4Local"

/-- Width of AS numbers in the subtypes whose messages are passed on. -/
def forwardedWidth? : RelaySubtype → Option AsnWidth
  | message => some .two
  | messageAs4 => some .four
  | _ => none

end RelaySubtype

/-! ## Subtypes of table dumps -/

/-- Subtype of a record of a table dump. -/
inductive TableDumpSubtype
  | peerIndexTable
  | ribIpv4Unicast
  | ribIpv4Multicast
  | ribIpv6Unicast
  | ribIpv6Multicast
  | ribGeneric
  | geoPeerTable
  | ribIpv4UnicastAddPath
  | ribIpv4MulticastAddPath
  | ribIpv6UnicastAddPath
  | ribIpv6MulticastAddPath
  | ribGenericAddPath
deriving DecidableEq, Repr

namespace TableDumpSubtype

/-- All subtypes in the order of their numbers, which begin at one. -/
def all : List TableDumpSubtype :=
  [peerIndexTable, ribIpv4Unicast, ribIpv4Multicast, ribIpv6Unicast, ribIpv6Multicast, ribGeneric,
    geoPeerTable, ribIpv4UnicastAddPath, ribIpv4MulticastAddPath, ribIpv6UnicastAddPath,
    ribIpv6MulticastAddPath, ribGenericAddPath]

/-- Registered number of a subtype. -/
def code : TableDumpSubtype → UInt16
  | peerIndexTable => 1
  | ribIpv4Unicast => 2
  | ribIpv4Multicast => 3
  | ribIpv6Unicast => 4
  | ribIpv6Multicast => 5
  | ribGeneric => 6
  | geoPeerTable => 7
  | ribIpv4UnicastAddPath => 8
  | ribIpv4MulticastAddPath => 9
  | ribIpv6UnicastAddPath => 10
  | ribIpv6MulticastAddPath => 11
  | ribGenericAddPath => 12

/-- The subtype with a registered number, if there is one. -/
def ofCode? (code : UInt16) : Option TableDumpSubtype :=
  if code = 0 then none else all[code.toNat - 1]?

theorem ofCode?_code (subtype : TableDumpSubtype) : ofCode? subtype.code = some subtype := by
  cases subtype <;> rfl

/-- Name of a subtype. -/
def name : TableDumpSubtype → String
  | peerIndexTable => "PeerIndexTable"
  | ribIpv4Unicast => "RibIpv4Unicast"
  | ribIpv4Multicast => "RibIpv4Multicast"
  | ribIpv6Unicast => "RibIpv6Unicast"
  | ribIpv6Multicast => "RibIpv6Multicast"
  | ribGeneric => "RibGeneric"
  | geoPeerTable => "GeoPeerTable"
  | ribIpv4UnicastAddPath => "RibIpv4UnicastAddPath"
  | ribIpv4MulticastAddPath => "RibIpv4MulticastAddPath"
  | ribIpv6UnicastAddPath => "RibIpv6UnicastAddPath"
  | ribIpv6MulticastAddPath => "RibIpv6MulticastAddPath"
  | ribGenericAddPath => "RibGenericAddPath"

/-- Family and use of the routes in a record of one family. -/
def family? : TableDumpSubtype → Option (AddressFamily × SubsequentFamily)
  | ribIpv4Unicast => some (.ipv4, .unicast)
  | ribIpv4Multicast => some (.ipv4, .multicast)
  | ribIpv6Unicast => some (.ipv6, .unicast)
  | ribIpv6Multicast => some (.ipv6, .multicast)
  | _ => none

/-- Whether records of the subtype hold nothing that is passed on: places of routers, and routes
that carry a path number. -/
def isIgnored : TableDumpSubtype → Bool
  | geoPeerTable | ribIpv4UnicastAddPath | ribIpv4MulticastAddPath | ribIpv6UnicastAddPath
  | ribIpv6MulticastAddPath | ribGenericAddPath => true
  | _ => false

end TableDumpSubtype

/-! ## Kinds of path attributes -/

/-- Kind of a path attribute that is told apart from the others. -/
inductive AttributeKind
  | origin
  | asPath
  | nextHop
  | aggregator
  | mpReach
  | mpUnreach
  | as4Path
  | as4Aggregator
deriving DecidableEq, Repr

namespace AttributeKind

/-- Registered number of a kind. -/
def code : AttributeKind → UInt8
  | origin => 1
  | asPath => 2
  | nextHop => 3
  | aggregator => 7
  | mpReach => 14
  | mpUnreach => 15
  | as4Path => 17
  | as4Aggregator => 18

/-- The kind with a registered number, if it is one of these. -/
def ofCode? (code : UInt8) : Option AttributeKind :=
  if code = 1 then some origin
  else if code = 2 then some asPath
  else if code = 3 then some nextHop
  else if code = 7 then some aggregator
  else if code = 14 then some mpReach
  else if code = 15 then some mpUnreach
  else if code = 17 then some as4Path
  else if code = 18 then some as4Aggregator
  else none

theorem ofCode?_code (kind : AttributeKind) : ofCode? kind.code = some kind := by
  cases kind <;> rfl

/-- Registered name of a kind. -/
def name : AttributeKind → String
  | origin => "ORIGIN"
  | asPath => "AS_PATH"
  | nextHop => "NEXT_HOP"
  | aggregator => "AGGREGATOR"
  | mpReach => "MP_REACHABLE_NLRI"
  | mpUnreach => "MP_UNREACHABLE_NLRI"
  | as4Path => "AS4_PATH"
  | as4Aggregator => "AS4_AGGREGATOR"

end AttributeKind

/-! ## Numbers without a kind -/

/-- What was found under a number, or the error that the number is not registered. -/
def registered {α : Type} (registry : Registry) (value : Nat) : Option α → Except FeedError α
  | some kind => .ok kind
  | none => .error (.unregistered registry value)

end CollectorFeed
