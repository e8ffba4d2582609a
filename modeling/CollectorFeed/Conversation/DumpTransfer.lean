import CollectorFeed.Conversation.Holdback
import CollectorFeed.Conversation.Surroundings
import CollectorFeed.Rib.TableDump
import CollectorFeed.Settings

/-!
# Taking in a table dump

A table dump opens with the index of routers. Every router is bound to a session, and a table is
kept for it. The routes of a record are held until the record after it was decoded as well; then
they are committed to the tables of their routers. A malformed record takes the held routes with it
and ends the taking in, because nothing tells where the next record begins; what was committed
stays.
-/

set_option autoImplicit false

namespace CollectorFeed

/-- How far a table dump has come. -/
inductive DumpPhase
  /-- The index has not come yet. -/
  | opening
  /-- Routes are taken in. -/
  | intake
  /-- Routes are handed over. -/
  | handover
  /-- Everything is done. -/
  | done
deriving DecidableEq, Repr

/-- Name of a phase. -/
def DumpPhase.name : DumpPhase → String
  | opening => "AwaitIndex"
  | intake => "Streaming"
  | handover => "Draining"
  | done => "Done"

/-- The routes of one router. -/
structure PeerTable where
  /-- The router. -/
  peer : Peer
  /-- Its session. -/
  session : SessionId
  /-- Whether a route was ever committed. -/
  hasData : Bool
  /-- Whether the routes were handed over or given up. -/
  resolved : Bool
  /-- The committed routes. -/
  routes : Array DumpedRoute
deriving DecidableEq

namespace PeerTable

/-- A table without routes. -/
def new (peer : Peer) (session : SessionId) : PeerTable where
  peer := peer
  session := session
  hasData := false
  resolved := false
  routes := #[]

/-- Whether there is no route to hand over. -/
def isEmpty (table : PeerTable) : Bool :=
  table.routes.isEmpty

/-- Adds a route. -/
def commit (table : PeerTable) (route : DumpedRoute) : PeerTable :=
  { table with routes := table.routes.push route, hasData := true }

/-- The table with nothing left to do. -/
def resolve (table : PeerTable) : PeerTable :=
  { table with routes := #[], resolved := true }

end PeerTable

/-- What came of handing the routes over. -/
structure HandoverReport where
  /-- Rounds that were finished. -/
  rounds : Nat
  /-- Waits between rounds. -/
  sleeps : Nat
  /-- Routers whose routes were handed over. -/
  flushedPeers : Nat
  /-- Routes that went into the queue. -/
  flushedRoutes : Nat
  /-- Routers whose sessions had their routes deleted. -/
  cleanedPeers : Nat
  /-- Whether it was broken off. -/
  cancelled : Bool
deriving DecidableEq, Repr

/-- The report before the first round. -/
def HandoverReport.zero : HandoverReport :=
  ⟨0, 0, 0, 0, 0, false⟩

/-- Counters of a table dump. -/
structure DumpStats where
  /-- Records that were taken. -/
  records : Nat
  /-- Routes that were committed. -/
  committedRoutes : Nat
  /-- Times that held routes were dropped. -/
  discardedBatches : Nat
  /-- Records that were passed over. -/
  skippedRecords : Nat
  /-- What came of handing the routes over. -/
  handover : HandoverReport
deriving DecidableEq, Repr

/-- Counters before the first record. -/
def DumpStats.zero : DumpStats :=
  ⟨0, 0, 0, 0, .zero⟩

/-- The routes of one record, each with the place of its router. -/
abbrev RouteBatch := List (UInt16 × DumpedRoute)

/-- A table dump on its way. -/
structure DumpTransfer where
  /-- How far it has come. -/
  phase : DumpPhase
  /-- How it is handed over. -/
  settings : DumpSettings
  /-- What is done with the messages of the sessions that it creates. -/
  handling : Handling
  /-- The index, once it has come. -/
  index? : Option PeerIndex
  /-- The tables in the order of the index. -/
  tables : List PeerTable
  /-- The routes that are held. -/
  pending : Holdback RouteBatch
  /-- Counters. -/
  stats : DumpStats
deriving DecidableEq

namespace DumpTransfer

/-- A table dump before its first record. -/
def new (settings : DumpSettings) (handling : Handling) : DumpTransfer where
  phase := .opening
  settings := settings
  handling := handling
  index? := none
  tables := []
  pending := .empty
  stats := .zero

/-! ## The index -/

/-- The key of the session of a router. The identifier of the collector stands for its address,
which a table dump does not tell. -/
def keyOf (settings : DumpSettings) (collector : Quad) (peer : Peer) : SessionKey :=
  (SessionKey.onBgpPort peer.asn settings.localAsn peer.address (.v4 collector)).onPorts
    settings.tcpPort settings.tcpPort

variable {ω : Type} [Surroundings ω]

/-- The session of a router. A new one is provisional, and the width of its AS numbers is open. -/
def bindPeer (settings : DumpSettings) (handling : Handling) (collector : Quad) (peer : Peer) :
    StateM ω (Except SessionRefusal PeerTable) := do
  match ← Surroundings.findOrCreate (keyOf settings collector peer) handling none with
  | .error e => return .error e
  | .ok (id, isNew) =>
    if isNew then Surroundings.setState id .provisional .manualStop
    return .ok (.new peer id)

/-- The tables of all routers, unless a session cannot be created. -/
def bindPeers (settings : DumpSettings) (handling : Handling) (collector : Quad) :
    List Peer → StateM ω (Except SessionRefusal (List PeerTable))
  | [] => return .ok []
  | peer :: rest => do
    match ← bindPeer settings handling collector peer with
    | .error e => return .error e
    | .ok table =>
      match ← bindPeers settings handling collector rest with
      | .error e => return .error e
      | .ok tables => return .ok (table :: tables)

/-- Whether a header is that of an index. -/
def opensDump (header : RecordHeader) : Bool :=
  header.knownType? = some .tableDumpV2 && header.subtype = TableDumpSubtype.peerIndexTable.code

/-- Takes the record that opens a table dump. -/
def acceptIndex (dump : DumpTransfer) (record : FramedRecord) :
    StateM ω (Except FeedError Unit × DumpTransfer) := do
  let refusal := FeedError.unexpectedSubtype record.header.type record.header.subtype
  if !opensDump record.header then return (.error refusal, dump)
  match TableDumpRecord.decode record.header.subtype record.body with
  | .error e => return (.error e, dump)
  | .ok (.index index) =>
    match ← bindPeers dump.settings dump.handling index.collector index.peers with
    | .error e => return (.error (.session e), dump)
    | .ok tables =>
      return (.ok (), { dump with phase := .intake, index? := some index, tables := tables })
  | .ok _ => return (.error refusal, dump)

/-! ## Routes -/

/-- Drops the routes that are held. -/
def dropHeld (dump : DumpTransfer) : DumpTransfer :=
  match dump.pending.drop with
  | (some _, pending) =>
    { dump with
      pending := pending
      stats := { dump.stats with discardedBatches := dump.stats.discardedBatches + 1 } }
  | (none, pending) => { dump with pending := pending }

/-- Adds one route to the table of its router. -/
def commitRoute (dump : DumpTransfer) (place : UInt16) (route : DumpedRoute) : DumpTransfer :=
  if place.toNat < dump.tables.length then
    { dump with
      tables := dump.tables.modify place.toNat fun table => table.commit route
      stats := { dump.stats with committedRoutes := dump.stats.committedRoutes + 1 } }
  else dump

/-- Adds routes to the tables of their routers. -/
def commit (dump : DumpTransfer) (batch : RouteBatch) : DumpTransfer :=
  batch.foldl (fun dump entry => dump.commitRoute entry.1 entry.2) dump

/-- Drops the routes that are held and takes in no more. -/
def breakOff (dump : DumpTransfer) : DumpTransfer :=
  { dump.dropHeld with phase := .handover }

/-- Drops the routes that are held and passes over a record. -/
def skipRecord (dump : DumpTransfer) : DumpTransfer :=
  ({ dump with
    stats := { dump.stats with skippedRecords := dump.stats.skippedRecords + 1 } }).dropHeld

/-- The routes of a record, each with the place of its router. -/
def batchOf (record : RibRecord) : RouteBatch :=
  record.entries.map fun entry => (entry.peerPlace, ⟨record.target, entry.attributes⟩)

/-- Whether a route names a router that the index does not list. -/
def namesUnlisted (dump : DumpTransfer) (record : RibRecord) : Bool :=
  record.entries.any fun entry => dump.tables.length ≤ entry.peerPlace.toNat

/-- Holds routes and commits those that they confirm. -/
def hold (dump : DumpTransfer) (batch : RouteBatch) : DumpTransfer :=
  let (confirmed?, pending) := dump.pending.confirm batch
  let dump := { dump with pending := pending }
  match confirmed? with
  | some confirmed => dump.commit confirmed
  | none => dump

/-- Takes the routes of a record. A record without routes confirms nothing. -/
def acceptRib (dump : DumpTransfer) (record : RibRecord) : DumpTransfer :=
  if record.entries.isEmpty then dump.dropHeld
  else if dump.namesUnlisted record then dump.breakOff
  else dump.hold (batchOf record)

/-- Takes what was decoded from a record of the given type and subtype. -/
def acceptDecoded (dump : DumpTransfer) (type subtype : UInt16) :
    Except FeedError TableDumpRecord → Except FeedError Unit × DumpTransfer
  | .ok (.index _) => (.error (.unexpectedSubtype type subtype), dump)
  | .ok (.skipped _) => (.ok (), dump.skipRecord)
  | .ok (.rib record) => (.ok (), dump.acceptRib record)
  | .error (.unexpectedSubtype type subtype) => (.error (.unexpectedSubtype type subtype), dump)
  | .error (.networkTooLong _ _) => (.ok (), dump.skipRecord)
  | .error _ => (.ok (), dump.breakOff)

/-- Takes a record behind the index. -/
def acceptRoutes (dump : DumpTransfer) (record : FramedRecord) :
    Except FeedError Unit × DumpTransfer :=
  let dump := if record.recoveries > 0 then dump.dropHeld else dump
  if record.header.knownType? = some .tableDumpV2 then
    dump.acceptDecoded record.header.type record.header.subtype
      (TableDumpRecord.decode record.header.subtype record.body)
  else (.error (.unexpectedType record.header.type), dump)

/-- Counts a record. -/
def noteRecord (dump : DumpTransfer) : DumpTransfer :=
  { dump with stats := { dump.stats with records := dump.stats.records + 1 } }

/-- Takes a record. An error breaks the conversation off. -/
def accept (dump : DumpTransfer) (record : FramedRecord) :
    StateM ω (Except FeedError Unit × DumpTransfer) := do
  match dump.phase with
  | .opening => dump.noteRecord.acceptIndex record
  | .intake => return dump.noteRecord.acceptRoutes record
  | .handover | .done => return (.ok (), dump.noteRecord)

/-- Commits the routes that are held, which have nothing to wait for any more. -/
def releaseHeld (dump : DumpTransfer) : DumpTransfer :=
  match dump.pending.release with
  | (some batch, pending) => { dump with pending := pending }.commit batch
  | (none, pending) => { dump with pending := pending }

/-- Takes in no more routes. -/
def stopIntake (dump : DumpTransfer) : DumpTransfer :=
  if dump.phase = .intake then { dump with phase := .handover } else dump

/-- Ends the taking in at the end of the stream. -/
def closeIntake (dump : DumpTransfer) : DumpTransfer :=
  dump.releaseHeld.stopIntake

end DumpTransfer

end CollectorFeed
