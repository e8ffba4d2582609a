import CollectorFeed.Conversation.Connection
import CollectorFeed.Proofs.TableDump.Uptake
import CollectorFeed.Proofs.Update.Reception

/-!
# Table dumps from end to end

A connection is sent the octets of a table dump: an index, and records of routes. If the dump is
well formed (`WellFormed`), and the surroundings serve it (`WellServed`), the queue takes one UPDATE
message for every entry of every record: router by router in the order of the index, for each router
in the order of the records, and within a record in the order of its entries. Whoever reads a
message finds in it the network of the record, and the attributes and the next hop of the entry
(`Connection.handedOver_run`).
-/

set_option autoImplicit false

namespace CollectorFeed

/-! ## The dump -/

/-- A table dump as a collector writes it. -/
structure WrittenDump where
  /-- The index of routers. -/
  index : DumpedIndex
  /-- The records of routes behind it. -/
  ribs : List DumpedRib

/-- An entry with the record that it stands in. -/
abbrev WrittenEntry := DumpedRib × RibEntry

/-- What an entry must be to be handed over in one message. -/
@[mk_iff] structure WrittenEntry.Deliverable (peers : Nat) (entry : WrittenEntry) : Prop where
  /-- Its router is listed. -/
  listed : entry.2.peerPlace.toNat < peers
  /-- At most one attribute carries networks. -/
  once : entry.2.reaches.length ≤ 1
  /-- One does so unless the network is one for IPv4 unicast. -/
  needed : ¬(entry.1.family = .ipv4 ∧ entry.1.use = .unicast) → entry.2.reaches ≠ []
  /-- The message is not too long. -/
  fits : (UpdateMessage.octets (entry.1.route entry.2).attributes
    (entry.1.route entry.2).trailingNetwork?).length ≤ 65535

instance (peers : Nat) (entry : WrittenEntry) : Decidable (entry.Deliverable peers) :=
  decidable_of_iff _ (WrittenEntry.deliverable_iff peers entry).symm

instance (limits : LengthLimits) (record : FramedRecord) : Decidable (record.Whole limits) :=
  decidable_of_iff (record.header.length.toNat = record.body.length ∧
      limits.accepts record.header.length = true ∧ record.recoveries = 0)
    ⟨fun ⟨length, accepted, recoveries⟩ => ⟨length, accepted, recoveries⟩,
      fun ⟨length, accepted, recoveries⟩ => ⟨length, accepted, recoveries⟩⟩

namespace WrittenDump

/-- The records of a dump. -/
def records (dump : WrittenDump) : List FramedRecord :=
  dump.index.record :: dump.ribs.map DumpedRib.record

/-- The octets of a dump. -/
def octets (dump : WrittenDump) : Octets :=
  encodeAll dump.records

/-- The entries of all records, in the order in which they stand in the stream. -/
def entries (dump : WrittenDump) : List WrittenEntry :=
  dump.ribs.flatMap fun rib => rib.entries.map fun entry => (rib, entry)

/-- The entries of the router at a place of the index. -/
def entriesOf (dump : WrittenDump) (place : Nat) : List WrittenEntry :=
  dump.entries.filter fun entry => entry.2.peerPlace.toNat = place

/-- The entries of all routers, in the order of the index. -/
def delivery (dump : WrittenDump) : List WrittenEntry :=
  (List.range dump.index.peers.length).flatMap dump.entriesOf

/-- What a dump must be to be handed over. -/
@[mk_iff] structure WellFormed (dump : WrittenDump) (limits : LengthLimits) : Prop where
  /-- The index can be written. -/
  index : dump.index.Dumpable
  /-- No router is listed twice. -/
  apart : dump.index.peers.Pairwise fun peer other =>
    ¬(peer.asn = other.asn ∧ peer.address = other.address)
  /-- The records of routes can be written. -/
  ribs : ∀ rib ∈ dump.ribs, rib.Dumpable
  /-- Every record gives routes. -/
  filled : ∀ rib ∈ dump.ribs, rib.entries ≠ []
  /-- Every entry can be handed over. -/
  deliverable : ∀ entry ∈ dump.entries, entry.Deliverable dump.index.peers.length
  /-- The lengths of all records are accepted. -/
  whole : ∀ record ∈ dump.records, record.Whole limits

instance (dump : WrittenDump) (limits : LengthLimits) : Decidable (dump.WellFormed limits) :=
  decidable_of_iff _ (wellFormed_iff dump limits).symm

theorem mem_entries {dump : WrittenDump} {entry : WrittenEntry} :
    entry ∈ dump.entries ↔ entry.1 ∈ dump.ribs ∧ entry.2 ∈ entry.1.entries := by
  obtain ⟨rib, entry⟩ := entry
  simp [entries]

/-- Items with numbers below a bound, sorted by number, are the same items in another order. -/
theorem perm_flatMap_filter {α : Type} (number : α → Nat) (items : List α) (bound : Nat) :
    ((List.range bound).flatMap fun place => items.filter fun item => number item = place).Perm
      (items.filter fun item => number item < bound) := by
  induction bound with
  | zero => simp
  | succ bound ih =>
    -- below the next bound is what is below this one, and what is at it
    have split := List.filter_append_perm (fun item => decide (number item < bound))
      (items.filter fun item => number item < bound + 1)
    have below : (items.filter fun item => number item < bound + 1).filter
        (fun item => decide (number item < bound)) =
          items.filter fun item => number item < bound := by
      rw [List.filter_filter]
      congr 1
      funext item
      grind
    have just : (items.filter fun item => number item < bound + 1).filter
        (fun item => !decide (number item < bound)) =
          items.filter fun item => number item = bound := by
      rw [List.filter_filter]
      congr 1
      funext item
      grind
    rw [below, just] at split
    rw [List.range_succ, List.flatMap_append, List.flatMap_singleton]
    exact (ih.append_right _).trans split

/-- Every entry is handed over once. -/
theorem perm_delivery {dump : WrittenDump}
    (listed : ∀ entry ∈ dump.entries, entry.2.peerPlace.toNat < dump.index.peers.length) :
    dump.delivery.Perm dump.entries := by
  have sorted := perm_flatMap_filter (fun entry : WrittenEntry => entry.2.peerPlace.toNat)
    dump.entries dump.index.peers.length
  have all : (dump.entries.filter fun entry =>
      entry.2.peerPlace.toNat < dump.index.peers.length) = dump.entries :=
    List.filter_eq_self.2 fun entry there => decide_eq_true (listed entry there)
  rw [all] at sorted
  exact sorted

end WrittenDump

/-- The routes of a record to the router at a place are those of its entries. -/
theorem DumpedRib.routesTo_content (rib : DumpedRib) (place : Nat) :
    rib.content.routesTo place =
      ((rib.entries.map fun entry => (rib, entry)).filter fun entry : WrittenEntry =>
        entry.2.peerPlace.toNat = place).map fun entry => entry.1.route entry.2 := by
  unfold RibRecord.routesTo content
  dsimp only
  generalize rib.entries = entries
  induction entries with
  | nil => rfl
  | cons entry rest ih =>
    rw [List.map_cons, List.map_cons, List.filterMap_cons, ih, List.filter_cons]
    by_cases named : entry.peerPlace.toNat = place
    · simp [RibEntry.completed, DumpedRib.route, named]
    · simp [RibEntry.completed, named]

theorem WrittenDump.routesTo_contents (dump : WrittenDump) (place : Nat) :
    (dump.ribs.map DumpedRib.content).flatMap (RibRecord.routesTo place) =
      (dump.entriesOf place).map fun entry => entry.1.route entry.2 := by
  rw [entriesOf, entries, List.filter_flatMap, List.map_flatMap, List.flatMap_map]
  congr 1
  funext rib
  exact rib.routesTo_content place

/-! ## The messages of a router -/

/-- What a message conveys to those who listen: for the session of the router of an entry, it says
what the entry says of the network of its record. -/
structure Conveys (sessions : List SessionId) (message : Message) (entry : WrittenEntry) :
    Prop where
  session : sessions[entry.2.peerPlace.toNat]? = some message.session
  origin : message.origin = .tableTransfer
  update : ∃ update, ReceivedUpdate.receive message.octets = some update ∧
    Announces entry.1 entry.2 update

/-- The entries of a router have one message each, in order. -/
theorem forall₂_conveys_transfer {peers : Nat} {sessions : List SessionId} {session : SessionId}
    {entries : List WrittenEntry} (dumpable : ∀ entry ∈ entries, entry.2.Dumpable)
    (deliverable : ∀ entry ∈ entries, entry.Deliverable peers)
    (bound : ∀ entry ∈ entries, sessions[entry.2.peerPlace.toNat]? = some session) :
    List.Forall₂ (Conveys sessions)
      (PeerTable.transfer session .four (entries.map fun entry => entry.1.route entry.2))
      entries := by
  induction entries with
  | nil => exact .nil
  | cons entry rest ih =>
    rw [List.forall_mem_cons] at dumpable deliverable bound
    obtain ⟨listed, once, needed, fits⟩ := deliverable.1
    rw [UpdateMessage.length_octets] at fits
    obtain ⟨octets, update, encoded, received, announces⟩ :=
      DumpedRib.announces_updateMessage dumpable.1 once needed fits
    have first : PeerTable.transfer session .four
        ((entry :: rest).map fun entry => entry.1.route entry.2) =
          ⟨session, .tableTransfer, octets⟩ ::
            PeerTable.transfer session .four (rest.map fun entry => entry.1.route entry.2) := by
      rw [PeerTable.transfer, List.map_cons, List.filterMap_cons, encoded]
      rfl
    rw [first]
    exact .cons ⟨bound.1, rfl, update, received, announces⟩
      (ih dumpable.2 deliverable.2 bound.2)

/-! ## The tables of a dump -/

/-- The tables that all entries of a dump are committed to. -/
def WrittenDump.tables (dump : WrittenDump) (sessions : List SessionId) : List PeerTable :=
  commitTables (List.zipWith .new dump.index.peers sessions)
    ((dump.ribs.map DumpedRib.content).flatMap DumpTransfer.batchOf)

/-- What holds of empty tables holds of all tables of a new dump. -/
theorem forall_mem_zipWith_new {holds : PeerTable → Prop}
    (each : ∀ peer session, holds (.new peer session)) (peers : List Peer)
    (sessions : List SessionId) : ∀ table ∈ List.zipWith .new peers sessions, holds table := by
  intro table there
  obtain ⟨place, inside, rfl⟩ := List.getElem_of_mem there
  rw [List.getElem_zipWith]
  exact each _ _

namespace WrittenDump

variable {dump : WrittenDump} {sessions : List SessionId}

theorem map_session_tables (same : sessions.length = dump.index.peers.length) :
    (dump.tables sessions).map PeerTable.session = sessions := by
  have second := List.map_snd_zip (Nat.le_of_eq same)
  rw [List.zip, List.map_zipWith] at second
  rw [tables, map_commitTables (fun _ _ => rfl), List.map_zipWith]
  exact second

theorem resolved_tables : ∀ table ∈ dump.tables sessions, table.resolved = false := by
  have same : (dump.tables sessions).map PeerTable.resolved =
      (List.zipWith .new dump.index.peers sessions).map PeerTable.resolved :=
    map_commitTables (fun _ _ => rfl) _ _
  have all : ∀ resolved ∈ (dump.tables sessions).map PeerTable.resolved, resolved = false := by
    rw [same, List.forall_mem_map]
    exact forall_mem_zipWith_new (fun _ _ => rfl) _ _
  exact List.forall_mem_map.1 all

theorem honest_tables : ∀ table ∈ dump.tables sessions, table.Honest :=
  honest_commitTables (forall_mem_zipWith_new PeerTable.honest_new _ _) _

theorem routes_tables {place : Nat} {table : PeerTable}
    (there : (dump.tables sessions)[place]? = some table) :
    table.routes.toList = (dump.entriesOf place).map fun entry => entry.1.route entry.2 := by
  rw [tables, getElem?_commitTables] at there
  obtain ⟨origin, before, rfl⟩ := Option.map_eq_some_iff.1 there
  have empty : ∀ table ∈ List.zipWith PeerTable.new dump.index.peers sessions,
      table.routes.toList = [] := forall_mem_zipWith_new (fun _ _ => rfl) _ _
  rw [PeerTable.routes_commitAll, empty origin (List.mem_of_getElem? before), List.nil_append,
    routesAt_flatMap_batchOf, routesTo_contents]

/-- The tables in the order of the index have the messages of all entries. -/
theorem forall₂_conveys_tables {limits : LengthLimits} (wellFormed : dump.WellFormed limits)
    (same : sessions.length = dump.index.peers.length) :
    List.Forall₂ (Conveys sessions) ((dump.tables sessions).flatMap (·.messages none))
      dump.delivery := by
  have sessions_ := map_session_tables same
  have count : (dump.tables sessions).length = dump.index.peers.length := by
    rw [← same, ← List.length_map PeerTable.session, sessions_]
  have places : List.Forall₂ (fun table place => (dump.tables sessions)[place]? = some table)
      (dump.tables sessions) (List.range dump.index.peers.length) := by
    rw [List.forall₂_iff_get]
    refine ⟨by rw [count, List.length_range], ?_⟩
    intro place inside inside'
    simp
  -- from here on it is one table and the entries of its router
  refine List.rel_flatMap places fun table place there => ?_
  rw [PeerTable.messages, routes_tables there]
  have bound : sessions[place]? = some table.session := by
    rw [← sessions_, List.getElem?_map, there]
    rfl
  have inside : ∀ entry ∈ dump.entriesOf place,
      entry ∈ dump.entries ∧ entry.2.peerPlace.toNat = place := by
    intro entry mem
    exact (List.mem_filter.1 mem).imp_right of_decide_eq_true
  apply forall₂_conveys_transfer
  · intro entry mem
    obtain ⟨rib, within⟩ := mem_entries.1 (inside entry mem).1
    exact (wellFormed.ribs _ rib).entries _ within
  · exact fun entry mem => wellFormed.deliverable entry (inside entry mem).1
  · intro entry mem
    rw [(inside entry mem).2, bound]

end WrittenDump

/-! ## The conversation -/

/-- The surroundings serve a conversation: nothing gets in its way, every session can be had, and no
two keys share one. -/
structure WellServed (exchanges : List Exchange) : Prop where
  unhindered : Unhindered [] exchanges
  granted : Granted exchanges
  apart : ∀ one ∈ bindings exchanges, ∀ other ∈ bindings exchanges,
    one.2 = other.2 → one.1 = other.1

/-- What is handed over of a dump: its routers are bound to sessions, one each, and every entry has
one message for the session of its router. -/
structure HandedOver (settings : DumpSettings) (dump : WrittenDump) (sessions : List SessionId)
    (exchanges : List Exchange) : Prop where
  /-- The sessions are those of the routers. -/
  bound : List.Forall₂ (fun peer id =>
    (DumpTransfer.keyOf settings dump.index.collector peer, id) ∈ bindings exchanges)
    dump.index.peers sessions
  /-- No two routers share a session. -/
  distinct : sessions.Nodup
  /-- There are as many messages as entries, in the order of the index, each with what its entry
  says. -/
  messages : List.Forall₂ (Conveys sessions) (passedOn exchanges) dump.delivery
  /-- No entry is left out, and none comes twice. -/
  complete : dump.delivery.Perm dump.entries

theorem WellServed.within {front made back : List Exchange}
    (served : WellServed (front ++ made ++ back)) (quiet : Quiet front) : WellServed made := by
  obtain ⟨unhindered, granted, apart⟩ := served
  rw [granted_append, granted_append] at granted
  rw [bindings_append, bindings_append] at apart
  refine ⟨(unhindered_append.1 unhindered).1.behind quiet.ended?_eq_none, granted.1.2, ?_⟩
  intro one there other there'
  exact apart one (List.mem_append_left _ (List.mem_append_right _ there)) other
    (List.mem_append_left _ (List.mem_append_right _ there'))

/-- Calls that pass nothing on, in front of a hand-over or behind it, do not matter. -/
theorem HandedOver.amid {settings : DumpSettings} {dump : WrittenDump} {sessions : List SessionId}
    {front made back : List Exchange} (handed : HandedOver settings dump sessions made)
    (quiet : Quiet front) (quiet' : Quiet back) :
    HandedOver settings dump sessions (front ++ made ++ back) where
  bound := by
    refine handed.bound.imp fun peer id there => ?_
    rw [bindings_append, bindings_append]
    exact List.mem_append_left _ (List.mem_append_right _ there)
  distinct := handed.distinct
  messages := by
    rw [passedOn_append, passedOn_append, quiet.passedOn_eq_nil, quiet'.passedOn_eq_nil,
      List.nil_append, List.append_nil]
    exact handed.messages
  complete := handed.complete

namespace DumpTransfer

/-- A key tells the AS number and the address of its router. -/
theorem peer_of_keyOf {settings : DumpSettings} {collector : Quad} {peer other : Peer}
    (same : keyOf settings collector peer = keyOf settings collector other) :
    peer.asn = other.asn ∧ peer.address = other.address :=
  ⟨congrArg SessionKey.peerAsn same, congrArg SessionKey.peerAddress same⟩

/-- Routers that differ are bound to sessions that differ. -/
theorem nodup_sessions {settings : DumpSettings} {collector : Quad} {peers : List Peer}
    {sessions : List SessionId} {bound : List (SessionKey × SessionId)}
    (each : List.Forall₂ (fun peer id => (keyOf settings collector peer, id) ∈ bound) peers
      sessions)
    (differ : peers.Pairwise fun peer other =>
      ¬(peer.asn = other.asn ∧ peer.address = other.address))
    (apart : ∀ one ∈ bound, ∀ other ∈ bound, one.2 = other.2 → one.1 = other.1) :
    sessions.Nodup := by
  induction each with
  | nil => exact List.nodup_nil
  | @cons peer id peers sessions first others ih =>
    rw [List.pairwise_cons] at differ
    refine List.nodup_cons.2 ⟨fun again => ?_, ih differ.2⟩
    -- another router with the same session would have the same key
    obtain ⟨place, inside, rfl⟩ := List.getElem_of_mem again
    have inside' : place < peers.length := by
      rw [others.length_eq]
      exact inside
    have other := others.get inside' inside
    exact differ.1 _ (List.getElem_mem inside') (peer_of_keyOf (apart _ first _ other rfl))

end DumpTransfer

namespace Connection

variable {ω : Type} [Surroundings ω]

/-- Behind the index all entries are committed to the tables of their routers. -/
theorem ensures_takeRecords_dump (settings : DumpSettings) (handling : Handling)
    {dump : WrittenDump} {supply : Framer} {sessions : List SessionId}
    (wellFormed : dump.WellFormed supply.limits)
    (stands : supply.source.Stands (encodeAll (dump.ribs.map DumpedRib.record)))
    (same : sessions.length = dump.index.peers.length) :
    Ensures (DumpTransfer.takeRecords supply
      (DumpTransfer.opened settings handling dump.index sessions) : StateM (Minutes ω) _)
      fun result made => Quiet made ∧ ∃ behind after, result = (.over (.ok ()), behind, after) ∧
        (NeverStopped made → after.closeIntake.tables = dump.tables sessions ∧
          after.closeIntake.settings = settings) := by
  have width : (DumpTransfer.opened settings handling dump.index sessions).tables.length =
      dump.index.peers.length := by
    refine List.length_zipWith.trans ?_
    rw [same, Nat.min_self]
  have good : ∀ rib ∈ dump.ribs,
      goodRib? (DumpTransfer.opened settings handling dump.index sessions).tables.length
        rib.record = some rib.content := by
    intro rib there
    rw [width]
    apply DumpTransfer.goodRib?_record (wellFormed.ribs rib there) (wellFormed.filled rib there)
    intro entry within
    exact (wellFormed.deliverable (rib, entry) (WrittenDump.mem_entries.2 ⟨there, within⟩)).listed
  have whole : ∀ rib ∈ dump.ribs, rib.record.Whole supply.limits := by
    intro rib there
    exact wellFormed.whole _ (List.mem_cons_of_mem _ (List.mem_map_of_mem there))
  refine (DumpTransfer.ensures_takeRecords_good rfl (List.forall_mem_map.2 ?_)
    (List.forall_mem_map.2 whole) stands).mono ?_
  · intro rib there
    rw [good rib there]
    rfl
  · rintro result made ⟨quiet, behind, after, rfl, unbroken⟩
    refine ⟨quiet, behind, after, rfl, fun unstopped => ?_⟩
    obtain ⟨continues, fed⟩ := unbroken unstopped
    constructor
    · -- nothing is held behind the index, so what is held at the end is of the last record
      exact DumpTransfer.tables_closeIntake rfl rfl good (fun rib there => rfl) fed
    · exact (DumpTransfer.settings_closeIntake after).trans continues.settings

/-- The tables of a dump are handed over, entry by entry. -/
theorem ensures_handOver_dump {transfer : DumpTransfer} {dump : WrittenDump} {limits : LengthLimits}
    {sessions : List SessionId} (attempted : transfer.settings.pollAttempts ≠ 0)
    (wellFormed : dump.WellFormed limits) (same : sessions.length = dump.index.peers.length)
    (distinct : sessions.Nodup) (tables : transfer.tables = dump.tables sessions) :
    Ensures (transfer.handOver : StateM (Minutes ω) _) fun _ made => Unhindered [] made →
      List.Forall₂ (Conveys sessions) (passedOn made) dump.delivery := by
  have unresolved : ∀ table ∈ transfer.tables, table.resolved = false := by
    rw [tables]
    exact WrittenDump.resolved_tables
  have honest : ∀ table ∈ transfer.tables, table.Honest := by
    rw [tables]
    exact WrittenDump.honest_tables
  have apart : transfer.tables.Pairwise fun table other => table.session ≠ other.session := by
    rw [tables, ← List.pairwise_map, WrittenDump.map_session_tables same]
    exact distinct
  refine (transfer.ensures_handOver_unhindered attempted unresolved honest apart).mono ?_
  intro _ made passed unhindered
  rw [passed unhindered, tables]
  exact WrittenDump.forall₂_conveys_tables wellFormed same

/-- Behind the index a dump is taken in and handed over. -/
theorem ensures_proceed (settings : DumpSettings) (handling : Handling) {dump : WrittenDump}
    {supply : Framer} {sessions : List SessionId} (attempted : settings.pollAttempts ≠ 0)
    (wellFormed : dump.WellFormed supply.limits)
    (stands : supply.source.Stands (encodeAll (dump.ribs.map DumpedRib.record)))
    (same : sessions.length = dump.index.peers.length) :
    Ensures ((DumpTransfer.opened settings handling dump.index sessions).proceed supply :
      StateM (Minutes ω) _) fun _ made => Unhindered [] made → sessions.Nodup →
        List.Forall₂ (Conveys sessions) (passedOn made) dump.delivery := by
  refine .bind (ensures_takeRecords_dump settings handling wellFormed stands same) ?_
  rintro result front ⟨quiet, behind, after, rfl, unbroken⟩
  by_cases sound : NeverStopped front ∧ sessions.Nodup
  · obtain ⟨unstopped, distinct⟩ := sound
    obtain ⟨tables, settled⟩ := unbroken unstopped
    rw [← settled] at attempted
    refine .bind (ensures_handOver_dump attempted wellFormed same distinct tables) ?_
    rintro _ middle handed
    refine .pure fun unhindered _ => ?_
    rw [List.append_nil] at unhindered ⊢
    rw [passedOn_append, quiet.passedOn_eq_nil]
    exact handed (unhindered.behind quiet.ended?_eq_none)
  · -- the calls so far rule out what is assumed of all of them
    refine .bind after.closeIntake.ensures_handOver ?_
    rintro _ middle -
    refine .pure fun unhindered distinct => absurd ⟨?_, distinct⟩ sound
    exact ((neverStopped_append _ _).1 unhindered.unstopped).1

/-- A dump that is run from its first record is handed over. -/
theorem ensures_run_dump (settings : DumpSettings) (handling : Handling) {dump : WrittenDump}
    {supply : Framer} (attempted : settings.pollAttempts ≠ 0)
    (wellFormed : dump.WellFormed supply.limits)
    (stands : supply.source.Stands (encodeAll (dump.ribs.map DumpedRib.record))) :
    Ensures ((DumpTransfer.new settings handling).run dump.index.record supply :
      StateM (Minutes ω) _) fun _ made => WellServed made →
        ∃ sessions, HandedOver settings dump sessions made := by
  refine .bind (DumpTransfer.ensures_accept_index settings handling wellFormed.index) ?_
  rintro result front ⟨quiet, ⟨sessions, rfl, bound⟩ | ⟨⟨e, left, rfl⟩, denied⟩⟩
  · have same : sessions.length = dump.index.peers.length := bound.length_eq.symm
    refine (ensures_proceed settings handling attempted wellFormed stands same).mono ?_
    intro result back handed served
    -- what was bound first is bound in the whole conversation
    have bound : List.Forall₂ (fun peer id =>
        (DumpTransfer.keyOf settings dump.index.collector peer, id) ∈ bindings (front ++ back))
        dump.index.peers sessions := by
      refine bound.imp fun peer id there => ?_
      rw [bindings_append]
      exact List.mem_append_left _ there
    have distinct := DumpTransfer.nodup_sessions bound wellFormed.apart served.apart
    have messages := handed (served.unhindered.behind quiet.ended?_eq_none) distinct
    refine ⟨sessions, bound, distinct, ?_, ?_⟩
    · rw [passedOn_append, quiet.passedOn_eq_nil]
      exact messages
    · exact WrittenDump.perm_delivery fun entry there => (wellFormed.deliverable entry there).listed
  · refine .pure fun served => absurd ?_ denied
    exact ((granted_append _ _).1 served.granted).1

/-- The first record tells that the stream is a table dump. -/
theorem ensures_carry {α : Type} (settings : FeedSettings α) {supply : Framer}
    {dump : WrittenDump} (attempted : settings.tableDump.pollAttempts ≠ 0)
    (wellFormed : dump.WellFormed supply.limits) (stands : supply.source.Stands dump.octets) :
    Ensures (carry settings supply : StateM (Minutes ω) _) fun _ made => WellServed made →
      ∃ sessions, HandedOver settings.tableDump dump sessions made := by
  have opening := wellFormed.whole _ List.mem_cons_self
  have known : dump.index.record.header.knownType? = some .tableDumpV2 :=
    RecordType.ofCode?_code .tableDumpV2
  rw [WrittenDump.octets, WrittenDump.records, encodeAll, List.flatMap_cons] at stands
  obtain ⟨after, read, left, limits⟩ := Framer.next_stands opening stands
  rw [← limits] at wellFormed
  have read : RecordSupply.next supply = (.ok dump.index.record, after) := read
  unfold carry
  rw [read]
  refine .watchBind ?_
  dsimp only
  unfold converse
  rw [if_pos known]
  refine .bind (ensures_run_dump settings.tableDump settings.handling attempted wellFormed left) ?_
  rintro _ made handed
  refine .pure fun served => ?_
  have look : Quiet [.observe (RecordSupply.touched after)] :=
    List.forall_mem_singleton.2 ⟨rfl, rfl⟩
  obtain ⟨sessions, whole⟩ := handed (served.within look)
  exact ⟨sessions, whole.amid look quiet_nil⟩

/-- A connection that is sent a dump hands it over. -/
theorem ensures_run {α : Type} (number : Nat) (settings : FeedSettings α) {source : Source}
    {dump : WrittenDump} (attempted : settings.tableDump.pollAttempts ≠ 0)
    (wellFormed : dump.WellFormed settings.limits) (stands : source.Stands dump.octets) :
    Ensures (run number settings source : StateM (Minutes ω) _) fun _ made => WellServed made →
      ∃ sessions, HandedOver settings.tableDump dump sessions made := by
  unfold run
  refine .bind (ensures_carry settings attempted wellFormed stands) ?_
  rintro _ made handed
  refine .askBind fun cancelled => .pure fun served => ?_
  obtain ⟨sessions, whole⟩ := handed (WellServed.within served quiet_nil)
  exact ⟨sessions, whole.amid quiet_nil (List.forall_mem_singleton.2 ⟨rfl, rfl⟩)⟩

/-- Whatever the surroundings are, and whatever the sizes in which the octets of a dump come: if the
dump is well formed and served, the queue takes one message for each of its entries, for the session
of the entry's router, and whoever reads the message finds in it what the entry says. -/
theorem handedOver_run {α : Type} (number : Nat) (settings : FeedSettings α) (source : Source)
    (world : ω) (dump : WrittenDump) (attempted : 1 ≤ settings.tableDump.pollAttempts)
    (wellFormed : dump.WellFormed settings.limits) (stands : source.Stands dump.octets)
    (served : WellServed (exchangesOf (run number settings source) world)) :
    ∃ sessions, HandedOver settings.tableDump dump sessions
      (exchangesOf (run number settings source) world) :=
  (ensures_run number settings (Nat.one_le_iff_ne_zero.1 attempted) wellFormed stands).exchangesOf
    world served

/-- A dump of two routers: the first record has routes of both, in reverse, and the second one has a
route to an IPv6 network. -/
def sampleDump : WrittenDump where
  index :=
    { timestamp := 0
      collector := ⟨[10, 0, 0, 1], rfl⟩
      viewName := [0x76]
      peers :=
        [⟨2, ⟨[10, 0, 0, 2], rfl⟩, .v4 ⟨[192, 0, 2, 1], rfl⟩, 65001⟩,
          ⟨2, ⟨[10, 0, 0, 3], rfl⟩, .v4 ⟨[192, 0, 2, 2], rfl⟩, 65002⟩] }
  ribs :=
    [{ timestamp := 0, generic := false, sequence := 0, family := .ipv4, use := .unicast
       bits := 24, front := [203, 0, 113]
       entries :=
        [⟨1, 0, [⟨0x50, 1, [0]⟩, ⟨0x40, 3, [192, 0, 2, 2]⟩]⟩,
          ⟨0, 0, [⟨0x50, 1, [0]⟩, ⟨0x40, 3, [192, 0, 2, 1]⟩]⟩]
       bits_le := by decide
       length_front := rfl },
     { timestamp := 0, generic := true, sequence := 1, family := .ipv6, use := .unicast
       bits := 32, front := [0x20, 1, 0xD, 0xB8]
       entries := [⟨0, 0, [⟨0x40, 1, [0]⟩, ⟨0x80, 14, 16 :: List.replicate 16 1⟩]⟩]
       bits_le := by decide
       length_front := rfl }]

/-- The sessions of both routers, which are established. -/
def sampleBook : Logbook :=
  let keys := sampleDump.index.peers.map
    (DumpTransfer.keyOf .usual sampleDump.index.collector)
  let sessions := keys.foldl
    (fun sessions key => (sessions.create key .label (some .four)).2) (SessionTable.empty none)
  ⟨(sessions.setState ⟨1⟩ .established .none).setState ⟨2⟩ .established .none, []⟩

theorem handedOver_run_sampleDump :
    1 ≤ FeedSettings.usual.tableDump.pollAttempts ∧
      sampleDump.WellFormed FeedSettings.usual.limits ∧
      ∃ sessions, HandedOver FeedSettings.usual.tableDump sampleDump sessions
        (exchangesOf (run 1 FeedSettings.usual (.ofOctets sampleDump.octets)) sampleBook) := by
  have attempted : 1 ≤ FeedSettings.usual.tableDump.pollAttempts := by decide
  have wellFormed : sampleDump.WellFormed FeedSettings.usual.limits := by decide +kernel
  have served : WellServed
      (exchangesOf (run 1 FeedSettings.usual (.ofOctets sampleDump.octets)) sampleBook) :=
    ⟨⟨by decide +kernel, by decide +kernel, by decide +kernel, by decide +kernel⟩,
      by decide +kernel, by decide +kernel⟩
  exact ⟨attempted, wellFormed, handedOver_run 1 FeedSettings.usual _ sampleBook sampleDump
    attempted wellFormed (Source.stands_ofOctets _) served⟩

end Connection

end CollectorFeed
