import CollectorFeed.Proofs.Conversation.Logbook
import CollectorFeed.Proofs.TableDump.Intake

/-!
# Which routes of a table dump are committed

A table dump is given its records one after the other. `committedRibs` says, from the records alone,
which of them end in the tables: a good record is committed when the record behind it is good as
well and was found without a recovery scan, or when nothing comes behind it; and what comes behind a
malformed record does not count. `commitRule_feed` says that the tables hold exactly the routes of
those records.
-/

set_option autoImplicit false

namespace CollectorFeed

/-! ## The rule, told from the records -/

/-- Whether what comes behind a record lets it be committed. -/
def confirms (peers : Nat) : List FramedRecord → Bool
  | [] => true
  | next :: _ => (goodRib? peers next).isSome && next.recoveries == 0

/-- The good records in front of the first malformed one. -/
def goodRibs (peers : Nat) : List FramedRecord → List RibRecord
  | [] => []
  | record :: rest =>
    if isMalformed peers record then [] else (goodRib? peers record).toList ++ goodRibs peers rest

/-- The good records in front of the first malformed one that what comes behind them confirms. -/
def committedRibs (peers : Nat) : List FramedRecord → List RibRecord
  | [] => []
  | record :: rest =>
    if isMalformed peers record then []
    else if confirms peers rest then (goodRib? peers record).toList ++ committedRibs peers rest
    else committedRibs peers rest

/-- The routes of a record to the router at a place, in the order of the record. -/
def RibRecord.routesTo (place : Nat) (rib : RibRecord) : List DumpedRoute :=
  rib.entries.filterMap fun entry =>
    if entry.peerPlace.toNat = place then some ⟨rib.target, entry.attributes⟩ else none

theorem routesAt_batchOf (place : Nat) (rib : RibRecord) :
    routesAt place (DumpTransfer.batchOf rib) = rib.routesTo place := by
  simp [routesAt, DumpTransfer.batchOf, RibRecord.routesTo, List.filterMap_map]

theorem routesAt_flatMap_batchOf (place : Nat) (ribs : List RibRecord) :
    routesAt place (ribs.flatMap DumpTransfer.batchOf) = ribs.flatMap (RibRecord.routesTo place) := by
  induction ribs with
  | nil => rfl
  | cons rib ribs ih =>
    rw [List.flatMap_cons, List.flatMap_cons, routesAt_append, routesAt_batchOf, ih]

theorem goodRib?_of_mem_committedRibs {peers : Nat} {records : List FramedRecord} {rib : RibRecord}
    (mem : rib ∈ committedRibs peers records) :
    ∃ record ∈ records, goodRib? peers record = some rib := by
  induction records with
  | nil => cases mem
  | cons record rest ih =>
    have later : rib ∈ committedRibs peers rest →
        ∃ record' ∈ record :: rest, goodRib? peers record' = some rib := by
      intro inside
      obtain ⟨found, known, good⟩ := ih inside
      exact ⟨found, List.mem_cons_of_mem _ known, good⟩
    unfold committedRibs at mem
    split at mem
    · cases mem
    · split at mem
      · rcases List.mem_append.1 mem with now | inside
        · exact ⟨record, List.mem_cons_self, Option.mem_toList.1 now⟩
        · exact later inside
      · exact later mem

namespace DumpTransfer

/-! ## What is held, record by record -/

/-- What taking records, and then the end of the stream, makes of a table dump, told from the
records alone. -/
structure Outcome (peers : Nat) (records : List FramedRecord) (dump done : DumpTransfer) :
    Prop where
  index? : done.index? = dump.index?
  tables : done.tables = commitTables dump.tables
    ((if confirms peers records then dump.heldBatch else []) ++
      (committedRibs peers records).flatMap batchOf)
  counted : dump.Counted → done.Counted
  discarded : done.stats.discardedBatches + (committedRibs peers records).length +
      (if confirms peers records then dump.heldCount else 0) =
    dump.stats.discardedBatches + (goodRibs peers records).length + dump.heldCount

/-- At the end of the stream what is held is committed. -/
theorem outcome_closeIntake (dump : DumpTransfer) (peers : Nat) :
    Outcome peers [] dump dump.closeIntake := by
  have stop : ∀ after : DumpTransfer, after.stopIntake.index? = after.index? ∧
      after.stopIntake.tables = after.tables ∧ after.stopIntake.stats = after.stats := by
    intro after
    unfold stopIntake
    split <;> exact ⟨rfl, rfl, rfl⟩
  obtain ⟨index?, tables, stats⟩ := stop dump.releaseHeld
  -- releasing is committing what is held, even if nothing is
  have released : dump.releaseHeld =
      ({ dump with pending := .empty } : DumpTransfer).commit dump.heldBatch := by
    unfold releaseHeld Holdback.release heldBatch
    cases dump.pending.held? <;> rfl
  have same := commit_sameBut { dump with pending := .empty } dump.heldBatch
  rw [← released] at same
  have all : dump.releaseHeld.tables = commitTables dump.tables dump.heldBatch := by
    rw [released]
    exact tables_commit _ _
  constructor
  · exact index?.trans same.index?
  · rw [closeIntake, tables, all]
    simp [confirms, committedRibs]
  · intro counted
    have kept : Counted { dump with pending := .empty } := counted
    have counted' := kept.commit dump.heldBatch
    rw [← released] at counted'
    unfold Counted closeIntake
    rw [stats, tables]
    exact counted'
  · rw [closeIntake, stats, same.discarded]
    simp [confirms, committedRibs, goodRibs]

/-- A good record is held, and what was held before it is committed unless a scan was needed. -/
theorem Outcome.of_advances {peers : Nat} {dump next done : DumpTransfer} {record : FramedRecord}
    {rest : List FramedRecord} {rib : RibRecord} (outcome : Outcome peers rest next done)
    (sound : isMalformed peers record = false) (good : goodRib? peers record = some rib)
    (advances : Advances (dump.clearFor record) next (batchOf rib)) :
    Outcome peers (record :: rest) dump done := by
  have held : next.heldBatch = batchOf rib := by simp [heldBatch, advances.held?]
  have count : next.heldCount = 1 := by simp [heldCount, advances.held?]
  -- the record confirms what was held before it unless a scan was needed
  have confirmed : confirms peers (record :: rest) = (record.recoveries == 0) := by
    simp [confirms, good]
  constructor
  · rw [outcome.index?, advances.index?, index?_clearFor]
  · rw [outcome.tables, advances.tables, tables_clearFor, ← commitTables_append, heldBatch_clearFor,
      held, confirmed]
    congr 2
    cases last : confirms peers rest <;> simp [committedRibs, sound, good, last]
  · exact fun counted => outcome.counted (advances.counted (counted_clearFor counted record))
  · have balance := outcome.discarded
    have scanned := discarded_clearFor dump record
    have kept := advances.discarded
    rw [confirmed]
    rw [count] at balance
    -- the record counts as committed or stays held, depending on what comes behind it
    cases last : confirms peers rest with
    | true =>
      simp only [last, if_true] at balance
      simp only [committedRibs, goodRibs, sound, good, last, Bool.false_eq_true, if_false, if_true,
        Option.toList_some, List.length_append, List.length_singleton]
      omega
    | false =>
      simp only [last, Bool.false_eq_true, if_false] at balance
      simp only [committedRibs, goodRibs, sound, good, last, Bool.false_eq_true, if_false,
        Option.toList_some, List.length_append, List.length_singleton]
      omega

/-- Any other record that does not end the taking in drops what was held. -/
theorem Outcome.of_drops {peers : Nat} {dump next done : DumpTransfer} {record : FramedRecord}
    {rest : List FramedRecord} (outcome : Outcome peers rest next done)
    (sound : isMalformed peers record = false) (bad : goodRib? peers record = none)
    (drops : Drops dump next) : Outcome peers (record :: rest) dump done := by
  have confirmed : confirms peers (record :: rest) = false := by simp [confirms, bad]
  have committed : committedRibs peers (record :: rest) = committedRibs peers rest := by
    simp [committedRibs, sound, bad]
  have all : goodRibs peers (record :: rest) = goodRibs peers rest := by
    simp [goodRibs, sound, bad]
  have balance := outcome.discarded
  have counted := drops.discarded
  -- nothing is held behind the record, so what confirms it does not matter
  rw [heldCount_of_held? drops.held?] at balance
  constructor
  · rw [outcome.index?, drops.index?]
  · rw [outcome.tables, drops.tables, heldBatch_of_held? drops.held?, confirmed, committed]
    simp
  · exact fun counted => outcome.counted (drops.counted counted)
  · rw [confirmed, committed, all]
    simp only [Bool.false_eq_true, if_false, ite_self] at balance ⊢
    omega

/-- A malformed record drops what was held, and nothing comes of the records behind it. -/
theorem outcome_of_malformed {peers : Nat} {dump next : DumpTransfer} {record : FramedRecord}
    (malformed : isMalformed peers record = true) (bad : goodRib? peers record = none)
    (drops : Drops dump next) (rest : List FramedRecord) (count : Nat) :
    Outcome peers (record :: rest) dump (next.noteRecords count).closeIntake := by
  -- the records behind it are counted, and nothing of them is held
  have noted : Drops dump (next.noteRecords count) :=
    ⟨drops.tables, drops.index?, drops.held?, drops.committed, drops.discarded⟩
  have ended := outcome_closeIntake (next.noteRecords count) peers
  have balance := ended.discarded
  have counted := noted.discarded
  rw [heldCount_of_held? noted.held?] at balance
  constructor
  · rw [ended.index?, noted.index?]
  · rw [ended.tables, noted.tables, heldBatch_of_held? noted.held?]
    simp [confirms, committedRibs, bad, malformed]
  · exact fun counted => ended.counted (noted.counted counted)
  · simp only [confirms, bad, committedRibs, goodRibs, malformed, List.length_nil, Option.isSome_none,
      Bool.false_and, Bool.false_eq_true, if_false, if_true] at balance ⊢
    omega

variable {ω : Type} [Surroundings ω]

/-- Induction over the records. What is held when a record comes is committed if the record is good
and was found without a scan, and dropped otherwise. -/
theorem outcome_feed {dump after : DumpTransfer} {records : List FramedRecord} {world world' : ω}
    (taking : dump.phase = .intake)
    (fed : (dump.feed records).run world = ((.ok (), after), world')) :
    Outcome dump.tables.length records dump after.closeIntake := by
  induction records generalizing dump world with
  | nil =>
    cases fed
    exact outcome_closeIntake _ _
  | cons record rest ih =>
    obtain ⟨next, between, taken, later⟩ := run_feed_cons fed
    rw [run_accept_intake taking] at taken
    have accepted := (Prod.mk.inj taken).1
    rcases acceptRoutes_cases accepted with
      ⟨rib, good, sound, advances⟩ | ⟨malformed, bad, handing, drops⟩ | ⟨sound, bad, stays, drops⟩
    · have going : next.phase = .intake :=
        advances.phase.trans ((phase_clearFor _ record).trans taking)
      -- the tables stay as many, so the records behind it are judged in the same way
      have width : next.tables.length = dump.tables.length := by
        rw [advances.tables, length_commitTables, tables_clearFor]
        rfl
      have outcome := ih going later
      rw [width] at outcome
      have whole := outcome.of_advances sound good advances
      exact ⟨whole.index?, whole.tables, whole.counted, whole.discarded⟩
    · rw [run_feed_handover handing] at later
      cases later
      have whole := outcome_of_malformed malformed bad drops rest rest.length
      exact ⟨whole.index?, whole.tables, whole.counted, whole.discarded⟩
    · have outcome := ih (stays.trans taking) later
      rw [drops.tables] at outcome
      have whole := outcome.of_drops sound bad drops
      exact ⟨whole.index?, whole.tables, whole.counted, whole.discarded⟩

/-! ## The rule -/

/-- What a table dump with an index holds at the end of the stream, told from its records. -/
structure CommitRule (index : PeerIndex) (records : List FramedRecord) (done : DumpTransfer) :
    Prop where
  /-- The index is kept, and there is a table for each of its routers. -/
  index? : done.index? = some index
  peers : done.tables.map PeerTable.peer = index.peers
  /-- A table holds the routes of the committed records to its router, in the order of the records
  and, within each, of its entries. -/
  routes : ∀ place table, done.tables[place]? = some table →
    table.routes.toList =
      (committedRibs index.peers.length records).flatMap (RibRecord.routesTo place)
  /-- A table says that it has data when it has routes. -/
  hasData : ∀ table ∈ done.tables, table.hasData = true ↔ table.routes.toList ≠ []
  /-- The routes in the tables are counted. -/
  committed : done.stats.committedRoutes = (done.tables.map fun table => table.routes.size).sum
  /-- Every entry of a committed record has become a route. -/
  entries : done.stats.committedRoutes =
    ((committedRibs index.peers.length records).map fun rib => rib.entries.length).sum
  /-- Every good record in front of the first malformed one was committed or dropped. -/
  good : (goodRibs index.peers.length records).length =
    (committedRibs index.peers.length records).length + done.stats.discardedBatches

theorem routes_eq_nil_of_new {tables : List PeerTable}
    (new : ∀ table ∈ tables, ∃ peer session, table = .new peer session) :
    routeCount tables = 0 := by
  refine List.sum_eq_zero fun count mem => ?_
  obtain ⟨table, inside, rfl⟩ := List.mem_map.1 mem
  obtain ⟨peer, session, rfl⟩ := new table inside
  rfl

/-- Whatever the surroundings are, and whatever the records: if all of them are taken, the tables
hold the routes of `committedRibs`, and what comes behind a malformed record changes nothing. -/
theorem commitRule_feed (settings : DumpSettings) (handling : Handling) (opening : FramedRecord)
    (records : List FramedRecord) (world world' : ω) (dump : DumpTransfer)
    (fed : ((new settings handling).feed (opening :: records)).run world =
      ((.ok (), dump), world')) :
    ∃ index, TableDumpRecord.decode opening.header.subtype opening.body = .ok (.index index) ∧
      CommitRule index records dump.closeIntake ∧
      ∀ front bad back, records = front ++ bad :: back →
        isMalformed index.peers.length bad = true →
        ∃ halted, ((new settings handling).feed (opening :: (front ++ [bad]))).run world =
            ((.ok (), halted), world') ∧
          dump = halted.noteRecords back.length := by
  obtain ⟨next, between, taken, later⟩ := run_feed_cons fed
  obtain ⟨index, tables, decoded, peers, empty, rfl⟩ := accept_opening taken
  -- every router of the index has a table, so the places of both are the same
  have width : tables.length = index.peers.length := by rw [← peers, List.length_map]
  have outcome := outcome_feed rfl later
  dsimp only at outcome
  rw [width] at outcome
  have done : dump.closeIntake.tables =
      commitTables tables ((committedRibs index.peers.length records).flatMap batchOf) := by
    rw [outcome.tables]
    dsimp only [heldBatch, noteRecord, new, Holdback.empty]
    simp
  have counted : dump.closeIntake.Counted := by
    refine outcome.counted ?_
    exact (routes_eq_nil_of_new empty).symm
  refine ⟨index, decoded, ?_, ?_⟩
  · constructor
    · exact outcome.index?
    · rw [done, map_peer_commitTables, peers]
    · intro place table found
      rw [done, getElem?_commitTables] at found
      obtain ⟨before, old, rfl⟩ := Option.map_eq_some_iff.1 found
      obtain ⟨peer, session, rfl⟩ := empty before (List.mem_of_getElem? old)
      rw [PeerTable.routes_commitAll, routesAt_flatMap_batchOf]
      rfl
    · rw [done]
      refine honest_commitTables ?_ _
      intro table mem
      obtain ⟨peer, session, rfl⟩ := empty table mem
      exact PeerTable.honest_new peer session
    · exact counted
    · rw [show dump.closeIntake.stats.committedRoutes = routeCount dump.closeIntake.tables from
        counted, done, routeCount_commitTables, routes_eq_nil_of_new empty, List.length_flatMap]
      · simp [batchOf]
      -- a committed record is a good one, so all its routers are listed
      · intro entry mem
        obtain ⟨rib, inside, known⟩ := List.mem_flatMap.1 mem
        obtain ⟨record, -, good⟩ := goodRib?_of_mem_committedRibs inside
        rw [width]
        exact listed_of_goodRib? good entry known
    · have balance := outcome.discarded
      dsimp only [heldCount, noteRecord, new, Holdback.empty, DumpStats.zero] at balance
      simp only [Option.toList_none, List.length_nil, ite_self] at balance
      omega
  · intro front bad back split malformed
    rw [split] at later
    have behind : Behind index.peers.length { (new settings handling).noteRecord with
        phase := .intake, index? := some index, tables := tables } := .inr ⟨rfl, width⟩
    obtain ⟨halted, first, same⟩ := behind.feed_after_malformed malformed later
    exact ⟨halted, (run_feed_of_ok taken _).trans first, same⟩

/-- An index of one router. -/
def sampleOpening : FramedRecord where
  header := ⟨0, 13, 1, 19⟩
  body := [10, 0, 0, 1, 0, 0, 0, 1, 0, 10, 0, 0, 2, 192, 0, 2, 1, 0xFD, 0xE8]
  recoveries := 0

/-- A route of the router at a place to a network that ends in an octet. -/
def sampleRoute (place last : UInt8) (recoveries : Nat) : FramedRecord where
  header := ⟨0, 13, 2, 18⟩
  body := [0, 0, 0, 0, 24, 203, 0, last, 0, 1, 0, place, 0, 0, 0, 0, 0, 0]
  recoveries := recoveries

/-- The second of these records needed a scan, and the fourth one names no listed router. -/
def sampleRoutes : List FramedRecord :=
  [sampleRoute 0 1 0, sampleRoute 0 2 1, sampleRoute 0 3 0, sampleRoute 7 4 0, sampleRoute 0 5 0]

/-- Of the five records only the second one is committed: the first one is dropped for the scan, the
third one for the malformed record, and the last one comes too late. -/
theorem commitRule_feed_sampleRoutes :
    ∃ dump world', ((new .usual .label).feed (sampleOpening :: sampleRoutes)).run Logbook.blank =
        ((.ok (), dump), world') ∧
      (∃ index, CommitRule index sampleRoutes dump.closeIntake) ∧
      dump.closeIntake.stats.committedRoutes = 1 ∧
      dump.closeIntake.stats.discardedBatches = 2 := by
  refine ⟨_, _, rfl, ?_, rfl, rfl⟩
  obtain ⟨index, -, rule, -⟩ :=
    commitRule_feed .usual .label sampleOpening sampleRoutes Logbook.blank _ _ rfl
  exact ⟨index, rule⟩

end DumpTransfer

end CollectorFeed
