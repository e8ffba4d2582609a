import CollectorFeed.Rib.PeerIndex
import CollectorFeed.Rib.Record

/-!
# Records of a table dump

The body of a record of a table dump is read by its subtype: the index of routers, routes to a
network, or something that is passed over. A subtype that is not registered is refused.
-/

set_option autoImplicit false

namespace CollectorFeed

/-- What a record of a table dump holds. -/
inductive TableDumpRecord
  /-- The index of routers. -/
  | index (index : PeerIndex)
  /-- Routes to a network. -/
  | rib (record : RibRecord)
  /-- A known subtype with nothing to pass on. -/
  | skipped (subtype : TableDumpSubtype)
deriving DecidableEq

namespace TableDumpRecord

/-- Takes the body of a record of the given subtype. -/
def reader (subtype : TableDumpSubtype) : Reader TableDumpRecord :=
  match subtype with
  | .peerIndexTable => return .index (← PeerIndex.reader)
  | .ribIpv4Unicast | .ribIpv4Multicast | .ribIpv6Unicast | .ribIpv6Multicast =>
    return .rib (← RibRecord.familyReader subtype)
  | .ribGeneric => do
    match ← RibRecord.genericReader with
    | some record => return .rib record
    | none => return .skipped subtype
  | .geoPeerTable | .ribIpv4UnicastAddPath | .ribIpv4MulticastAddPath | .ribIpv6UnicastAddPath
  | .ribIpv6MulticastAddPath | .ribGenericAddPath => return .skipped subtype

/-- What a body of the given subtype number holds. Octets behind what is read are ignored. -/
def decode (subtype : UInt16) (body : Octets) : Except FeedError TableDumpRecord :=
  match TableDumpSubtype.ofCode? subtype with
  | some known => ((reader known).run body).1
  | none => .error (.unexpectedSubtype RecordType.tableDumpV2.code subtype)

end TableDumpRecord

end CollectorFeed
