import CollectorFeed.Proofs.TableDump.Tables

/-!
# Taking in records

A good record gives routes to listed routers; a malformed one cannot be decoded or names a router
that is not listed. `acceptRoutes_cases` says what a record does behind the index, by these two
notions: a good record is held and confirms what was held before it, and any other record drops
that. Behind a malformed record nothing more happens (`Behind.feed_after_malformed`).
-/

set_option autoImplicit false

namespace CollectorFeed

/-! ## Good and malformed records -/

/-- The routes of a record, if it is a good one: it gives at least one route, and all routers that
it names are listed. -/
def goodRib? (peers : Nat) (record : FramedRecord) : Option RibRecord :=
  if record.header.knownType? = some .tableDumpV2 then
    match TableDumpRecord.decode record.header.subtype record.body with
    | .ok (.rib rib) =>
      if !rib.entries.isEmpty && rib.entries.all fun entry => entry.peerPlace.toNat < peers then
        some rib
      else none
    | _ => none
  else none

/-- Whether a record cannot be decoded, other than for a network that is too long, or names a router
that is not listed. -/
def isMalformed (peers : Nat) (record : FramedRecord) : Bool :=
  match TableDumpRecord.decode record.header.subtype record.body with
  | .ok (.rib rib) => rib.entries.any fun entry => peers ≤ entry.peerPlace.toNat
  | .ok _ => false
  | .error (.networkTooLong _ _) => false
  | .error _ => true

/-- A good record is decoded to its routes: it has some, and all of them are to listed routers. -/
theorem goodRib?_eq_some_iff {peers : Nat} {record : FramedRecord} {rib : RibRecord} :
    goodRib? peers record = some rib ↔
      record.header.knownType? = some .tableDumpV2 ∧
      TableDumpRecord.decode record.header.subtype record.body = .ok (.rib rib) ∧
      rib.entries.isEmpty = false ∧ ∀ entry ∈ rib.entries, entry.peerPlace.toNat < peers := by
  unfold goodRib?
  constructor
  · intro good
    split at good
    case isFalse => cases good
    case isTrue known =>
      split at good
      case h_2 => cases good
      case h_1 decoded =>
        split at good
        case isFalse => cases good
        case isTrue fits =>
          cases good
          obtain ⟨some_, listed⟩ := Bool.and_eq_true_iff.1 fits
          refine ⟨known, decoded, by simpa using some_, fun entry there => ?_⟩
          exact of_decide_eq_true (List.all_eq_true.1 listed entry there)
  · rintro ⟨known, decoded, some_, listed⟩
    rw [if_pos known, decoded]
    simpa [some_] using listed

/-- A good record names listed routers only. -/
theorem listed_of_goodRib? {peers : Nat} {record : FramedRecord} {rib : RibRecord}
    (good : goodRib? peers record = some rib) :
    ∀ entry ∈ DumpTransfer.batchOf rib, entry.1.toNat < peers := by
  obtain ⟨-, -, -, listed⟩ := goodRib?_eq_some_iff.1 good
  rw [DumpTransfer.batchOf, List.forall_mem_map]
  exact listed

/-! ## What one record does -/

namespace DumpTransfer

/-- The routes that are held, if any are. -/
def heldBatch (dump : DumpTransfer) : RouteBatch :=
  dump.pending.held?.getD []

/-- Number of records whose routes are held. -/
def heldCount (dump : DumpTransfer) : Nat :=
  dump.pending.held?.toList.length

/-- What is held is dropped, and counted as dropped. -/
structure Drops (dump after : DumpTransfer) : Prop where
  tables : after.tables = dump.tables
  index? : after.index? = dump.index?
  held? : after.pending.held? = none
  committed : after.stats.committedRoutes = dump.stats.committedRoutes
  discarded : after.stats.discardedBatches = dump.stats.discardedBatches + dump.heldCount

theorem drops_dropHeld (dump : DumpTransfer) : Drops dump dump.dropHeld := by
  unfold dropHeld Holdback.drop
  cases held : dump.pending.held? with
  | none => exact ⟨rfl, rfl, rfl, rfl, by simp [heldCount, held]⟩
  | some batch => exact ⟨rfl, rfl, rfl, rfl, by simp [heldCount, held]⟩

theorem phase_dropHeld (dump : DumpTransfer) : dump.dropHeld.phase = dump.phase := by
  unfold dropHeld
  split <;> rfl

theorem drops_skipRecord (dump : DumpTransfer) : Drops dump dump.skipRecord := by
  have drops := drops_dropHeld
    { dump with stats := { dump.stats with skippedRecords := dump.stats.skippedRecords + 1 } }
  exact ⟨drops.tables, drops.index?, drops.held?, drops.committed, drops.discarded⟩

theorem drops_breakOff (dump : DumpTransfer) : Drops dump dump.breakOff := by
  have drops := drops_dropHeld dump
  exact ⟨drops.tables, drops.index?, drops.held?, drops.committed, drops.discarded⟩

theorem heldCount_of_held? {dump : DumpTransfer} (nothing : dump.pending.held? = none) :
    dump.heldCount = 0 := by
  simp [heldCount, nothing]

theorem heldBatch_of_held? {dump : DumpTransfer} (nothing : dump.pending.held? = none) :
    dump.heldBatch = [] := by
  simp [heldBatch, nothing]

theorem Drops.trans {dump mid after : DumpTransfer} (first : Drops dump mid)
    (second : Drops mid after) : Drops dump after where
  tables := second.tables.trans first.tables
  index? := second.index?.trans first.index?
  held? := second.held?
  committed := second.committed.trans first.committed
  discarded := by
    rw [second.discarded, first.discarded, heldCount_of_held? first.held?]
    rfl

theorem Drops.counted {dump after : DumpTransfer} (drops : Drops dump after)
    (counted : dump.Counted) : after.Counted := by
  rw [Counted, drops.committed, drops.tables]
  exact counted

/-- What a recovery scan in front of a record does. -/
def clearFor (dump : DumpTransfer) (record : FramedRecord) : DumpTransfer :=
  if record.recoveries > 0 then dump.dropHeld else dump

theorem phase_clearFor (dump : DumpTransfer) (record : FramedRecord) :
    (dump.clearFor record).phase = dump.phase := by
  unfold clearFor
  split
  · exact phase_dropHeld dump
  · rfl

theorem tables_clearFor (dump : DumpTransfer) (record : FramedRecord) :
    (dump.clearFor record).tables = dump.tables := by
  unfold clearFor
  split
  · exact (drops_dropHeld dump).tables
  · rfl

theorem index?_clearFor (dump : DumpTransfer) (record : FramedRecord) :
    (dump.clearFor record).index? = dump.index? := by
  unfold clearFor
  split
  · exact (drops_dropHeld dump).index?
  · rfl

theorem counted_clearFor {dump : DumpTransfer} (counted : dump.Counted) (record : FramedRecord) :
    (dump.clearFor record).Counted := by
  unfold clearFor
  split
  · exact (drops_dropHeld dump).counted counted
  · exact counted

/-- Without a scan what is held stays held. -/
theorem heldBatch_clearFor (dump : DumpTransfer) (record : FramedRecord) :
    (dump.clearFor record).heldBatch = if record.recoveries == 0 then dump.heldBatch else [] := by
  unfold clearFor
  by_cases scanned : record.recoveries = 0
  · simp [scanned]
  · rw [if_pos (Nat.pos_of_ne_zero scanned), heldBatch_of_held? (drops_dropHeld dump).held?]
    simp [scanned]

theorem discarded_clearFor (dump : DumpTransfer) (record : FramedRecord) :
    (dump.clearFor record).stats.discardedBatches +
        (if record.recoveries == 0 then dump.heldCount else 0) =
      dump.stats.discardedBatches + dump.heldCount := by
  unfold clearFor
  by_cases scanned : record.recoveries = 0
  · simp [scanned]
  · rw [if_pos (Nat.pos_of_ne_zero scanned), (drops_dropHeld dump).discarded]
    simp [scanned]

/-- Whatever drops what is left after the scan drops what was there before it. -/
theorem Drops.of_clearFor {dump after : DumpTransfer} (record : FramedRecord)
    (drops : Drops (dump.clearFor record) after) : Drops dump after := by
  unfold clearFor at drops
  split at drops
  · exact (drops_dropHeld dump).trans drops
  · exact drops

/-- One more record held, and what was held before it committed. -/
structure Advances (dump after : DumpTransfer) (batch : RouteBatch) : Prop where
  tables : after.tables = commitTables dump.tables dump.heldBatch
  index? : after.index? = dump.index?
  phase : after.phase = dump.phase
  held? : after.pending.held? = some batch
  discarded : after.stats.discardedBatches = dump.stats.discardedBatches
  counted : dump.Counted → after.Counted

theorem advances_hold (dump : DumpTransfer) (batch : RouteBatch) :
    Advances dump (dump.hold batch) batch := by
  unfold hold Holdback.confirm
  cases held : dump.pending.held? with
  | none =>
    have nothing : dump.heldBatch = [] := heldBatch_of_held? held
    exact ⟨by rw [nothing]; rfl, rfl, rfl, rfl, rfl, fun counted => counted⟩
  | some confirmed =>
    have something : dump.heldBatch = confirmed := by simp [heldBatch, held]
    have same := commit_sameBut { dump with pending := ⟨some batch⟩ } confirmed
    refine ⟨?_, same.index?, same.phase, ?_, same.discarded, fun counted => ?_⟩
    · rw [something]
      exact tables_commit _ confirmed
    · exact congrArg Holdback.held? same.pending
    · have kept : Counted { dump with pending := ⟨some batch⟩ } := counted
      exact kept.commit confirmed

/-- What a record that is taken does: a good one is held and confirms what was held before it, and
any other one drops that. A malformed one ends the taking in. -/
theorem acceptRoutes_cases {dump after : DumpTransfer} {record : FramedRecord}
    (accepted : dump.acceptRoutes record = (.ok (), after)) :
    (∃ rib, goodRib? dump.tables.length record = some rib ∧
      isMalformed dump.tables.length record = false ∧
      Advances (dump.clearFor record) after (batchOf rib)) ∨
    (isMalformed dump.tables.length record = true ∧ goodRib? dump.tables.length record = none ∧
      after.phase = .handover ∧ Drops dump after) ∨
    (isMalformed dump.tables.length record = false ∧ goodRib? dump.tables.length record = none ∧
      after.phase = dump.phase ∧ Drops dump after) := by
  have phase := phase_clearFor dump record
  have tables := tables_clearFor dump record
  -- dropping for the scan comes first, and the rest depends on what the record decodes to
  change (if record.header.knownType? = some .tableDumpV2 then
    (dump.clearFor record).acceptDecoded record.header.type record.header.subtype
      (TableDumpRecord.decode record.header.subtype record.body)
    else _) = _ at accepted
  unfold goodRib? isMalformed
  split at accepted
  case isFalse => simp at accepted
  case isTrue known =>
    rw [if_pos known]
    cases decoded : TableDumpRecord.decode record.header.subtype record.body with
    | error e =>
      rw [decoded] at accepted
      cases e with
      -- a subtype that is not known is an error of the whole dump, so the record is not taken
      | unexpectedSubtype type subtype => simp [acceptDecoded] at accepted
      | networkTooLong bits most =>
        obtain rfl := (Prod.mk.inj accepted).2
        exact .inr (.inr ⟨rfl, rfl, (phase_dropHeld _).trans phase,
          (drops_skipRecord _).of_clearFor record⟩)
      | _ =>
        obtain rfl := (Prod.mk.inj accepted).2
        exact .inr (.inl ⟨rfl, rfl, rfl, (drops_breakOff _).of_clearFor record⟩)
    | ok content =>
      rw [decoded] at accepted
      cases content with
      -- a second index is an error as well
      | index index => simp [acceptDecoded] at accepted
      | skipped subtype =>
        obtain rfl := (Prod.mk.inj accepted).2
        exact .inr (.inr ⟨rfl, rfl, (phase_dropHeld _).trans phase,
          (drops_skipRecord _).of_clearFor record⟩)
      | rib rib =>
        obtain rfl := (Prod.mk.inj accepted).2
        dsimp only
        unfold acceptRib namesUnlisted
        rw [tables]
        cases empty : rib.entries.isEmpty with
        | true =>
          -- a record without routes is skipped, and not held
          have nothing : rib.entries = [] := List.isEmpty_iff.1 empty
          refine .inr (.inr ⟨by simp [nothing], rfl, ?_, ?_⟩)
          · exact (phase_dropHeld _).trans phase
          · exact (drops_dropHeld _).of_clearFor record
        | false =>
          cases unlisted : rib.entries.any fun entry => dump.tables.length ≤ entry.peerPlace.toNat with
          | true =>
            have apart : (rib.entries.all fun entry =>
                decide (entry.peerPlace.toNat < dump.tables.length)) = false := by
              simpa using unlisted
            refine .inr (.inl ⟨rfl, by simp [apart], rfl, ?_⟩)
            exact (drops_breakOff _).of_clearFor record
          | false =>
            have listed : (rib.entries.all fun entry =>
                decide (entry.peerPlace.toNat < dump.tables.length)) = true := by
              simpa using unlisted
            exact .inl ⟨rib, by simp [listed], rfl, advances_hold _ _⟩

/-! ## All records -/

variable {ω : Type} [Surroundings ω]

/-- Takes records one after the other, until one is refused. -/
def feed (dump : DumpTransfer) : List FramedRecord → StateM ω (Except FeedError Unit × DumpTransfer)
  | [] => return (.ok (), dump)
  | record :: rest => do
    match ← dump.accept record with
    | (.error e, dump) => return (.error e, dump)
    | (.ok (), dump) => feed dump rest

/-- Counts so many records. -/
def noteRecords (dump : DumpTransfer) (count : Nat) : DumpTransfer :=
  { dump with stats := { dump.stats with records := dump.stats.records + count } }

theorem run_feed_of_ok {dump next : DumpTransfer} {record : FramedRecord} {world between : ω}
    (taken : (dump.accept record).run world = ((.ok (), next), between))
    (rest : List FramedRecord) :
    (dump.feed (record :: rest)).run world = (next.feed rest).run between := by
  rw [feed, StateT.run_bind, taken]
  rfl

theorem run_feed_of_error {dump next : DumpTransfer} {record : FramedRecord} {world between : ω}
    {e : FeedError} (taken : (dump.accept record).run world = ((.error e, next), between))
    (rest : List FramedRecord) :
    (dump.feed (record :: rest)).run world = ((.error e, next), between) := by
  rw [feed, StateT.run_bind, taken]
  rfl

/-- Records that are all taken are taken one by one. -/
theorem run_feed_cons {dump after : DumpTransfer} {record : FramedRecord}
    {rest : List FramedRecord} {world world' : ω}
    (fed : (dump.feed (record :: rest)).run world = ((.ok (), after), world')) :
    ∃ next between, (dump.accept record).run world = ((.ok (), next), between) ∧
      (next.feed rest).run between = ((.ok (), after), world') := by
  rcases taken : (dump.accept record).run world with ⟨⟨_ | _, next⟩, between⟩
  · rw [run_feed_of_error taken] at fed
    cases fed
  · rw [run_feed_of_ok taken] at fed
    exact ⟨next, between, rfl, fed⟩

theorem run_accept_intake {dump : DumpTransfer} (taking : dump.phase = .intake)
    (record : FramedRecord) (world : ω) :
    (dump.accept record).run world = (dump.noteRecord.acceptRoutes record, world) := by
  unfold accept
  rw [taking]
  rfl

/-- After the taking in, records are counted and nothing else. -/
theorem run_feed_handover {dump : DumpTransfer} (handing : dump.phase = .handover)
    (records : List FramedRecord) (world : ω) :
    (dump.feed records).run world = ((.ok (), dump.noteRecords records.length), world) := by
  induction records generalizing dump with
  | nil => rfl
  | cons record rest ih =>
    have taken : (dump.accept record).run world = ((.ok (), dump.noteRecord), world) := by
      unfold accept
      rw [handing]
      rfl
    have kept : dump.noteRecord.phase = .handover := handing
    rw [run_feed_of_ok taken, ih kept, List.length_cons]
    simp only [noteRecord, noteRecords, Nat.add_assoc, Nat.add_comm 1]

/-! ## The index -/

theorem bindPeer_of_ok {settings : DumpSettings} {handling : Handling} {collector : Quad}
    {peer : Peer} {table : PeerTable} {world world' : ω}
    (bound : (bindPeer settings handling collector peer).run world = (.ok table, world')) :
    ∃ session, table = .new peer session := by
  unfold bindPeer at bound
  rw [StateT.run_bind] at bound
  rcases found : (Surroundings.findOrCreate (keyOf settings collector peer) handling none).run world
    with ⟨_ | ⟨session, isNew⟩, between⟩
  · rw [found] at bound
    cases bound
  · rw [found] at bound
    cases isNew <;> exact ⟨session, (Except.ok.inj (Prod.mk.inj bound).1).symm⟩

/-- Every router gets a table of its own, which has no routes. -/
theorem bindPeers_of_ok {settings : DumpSettings} {handling : Handling} {collector : Quad}
    {peers : List Peer} {tables : List PeerTable} {world world' : ω}
    (bound : (bindPeers settings handling collector peers).run world = (.ok tables, world')) :
    tables.map PeerTable.peer = peers ∧
      ∀ table ∈ tables, ∃ peer session, table = .new peer session := by
  induction peers generalizing tables world with
  | nil =>
    cases bound
    exact ⟨rfl, fun table mem => by cases mem⟩
  | cons peer peers ih =>
    rw [bindPeers, StateT.run_bind] at bound
    rcases first : (bindPeer settings handling collector peer).run world with
      ⟨_ | table, between⟩
    · rw [first] at bound
      cases bound
    · rw [first] at bound
      obtain ⟨session, rfl⟩ := bindPeer_of_ok first
      change (bindPeers settings handling collector peers >>= _).run between = _ at bound
      rw [StateT.run_bind] at bound
      rcases rest : (bindPeers settings handling collector peers).run between with
        ⟨_ | others, after⟩
      · rw [rest] at bound
        cases bound
      · rw [rest] at bound
        cases bound
        obtain ⟨same, new⟩ := ih rest
        refine ⟨congrArg (peer :: ·) same, ?_⟩
        intro table mem
        rcases List.mem_cons.1 mem with rfl | later
        · exact ⟨peer, session, rfl⟩
        · exact new table later

/-- The record that opens a table dump gives the index, and every router an empty table. -/
theorem accept_opening {settings : DumpSettings} {handling : Handling} {opening : FramedRecord}
    {next : DumpTransfer} {world world' : ω}
    (taken : ((new settings handling).accept opening).run world = ((.ok (), next), world')) :
    ∃ index tables, TableDumpRecord.decode opening.header.subtype opening.body = .ok (.index index) ∧
      tables.map PeerTable.peer = index.peers ∧
      (∀ table ∈ tables, ∃ peer session, table = .new peer session) ∧
      next = { (new settings handling).noteRecord with
        phase := .intake, index? := some index, tables := tables } := by
  change ((new settings handling).noteRecord.acceptIndex opening).run world = _ at taken
  unfold acceptIndex at taken
  dsimp only at taken
  split at taken
  · cases taken
  · split at taken
    · cases taken
    · next index decoded =>
      change (bindPeers settings handling index.collector index.peers >>= _).run world = _ at taken
      rw [StateT.run_bind] at taken
      -- the only way to be taken is an index all of whose routers are bound
      rcases bound : (bindPeers settings handling index.collector index.peers).run world with
        ⟨_ | tables, after⟩
      · rw [bound] at taken
        cases taken
      · rw [bound] at taken
        cases taken
        obtain ⟨same, new⟩ := bindPeers_of_ok bound
        exact ⟨index, tables, decoded, same, new, rfl⟩
    · cases taken

/-! ## Behind a malformed record -/

theorem run_feed_append {dump after : DumpTransfer} {front back : List FramedRecord}
    {world world' : ω} (fed : (dump.feed (front ++ back)).run world = ((.ok (), after), world')) :
    ∃ mid between, (dump.feed front).run world = ((.ok (), mid), between) ∧
      (mid.feed back).run between = ((.ok (), after), world') := by
  induction front generalizing dump world with
  | nil => exact ⟨dump, world, rfl, fed⟩
  | cons record rest ih =>
    obtain ⟨next, step, taken, later⟩ := run_feed_cons fed
    obtain ⟨mid, between, first, second⟩ := ih later
    exact ⟨mid, between, (run_feed_of_ok taken rest).trans first, second⟩

/-- Behind the index routes are taken in until a malformed record comes. -/
def Behind (peers : Nat) (dump : DumpTransfer) : Prop :=
  dump.phase = .handover ∨ dump.phase = .intake ∧ dump.tables.length = peers

theorem Behind.accept {peers : Nat} {dump next : DumpTransfer} {record : FramedRecord}
    {world between : ω} (behind : Behind peers dump)
    (taken : (dump.accept record).run world = ((.ok (), next), between)) :
    Behind peers next ∧ (isMalformed peers record = true → next.phase = .handover) := by
  rcases behind with handing | ⟨taking, width⟩
  · have fed := run_feed_of_ok taken []
    rw [run_feed_handover handing] at fed
    cases fed
    exact ⟨.inl handing, fun _ => handing⟩
  · rw [run_accept_intake taking] at taken
    have accepted := (Prod.mk.inj taken).1
    have peers_eq : dump.noteRecord.tables.length = peers := width
    rcases acceptRoutes_cases accepted with
      ⟨rib, good, sound, advances⟩ | ⟨malformed, bad, handing, drops⟩ | ⟨sound, bad, stays, drops⟩
    · rw [peers_eq] at sound
      refine ⟨.inr ⟨?_, ?_⟩, fun malformed => ?_⟩
      · exact advances.phase.trans ((phase_clearFor _ record).trans taking)
      · rw [advances.tables, length_commitTables, tables_clearFor]
        exact width
      · rw [sound] at malformed
        cases malformed
    · exact ⟨.inl handing, fun _ => handing⟩
    · rw [peers_eq] at sound
      refine ⟨.inr ⟨stays.trans taking, ?_⟩, fun malformed => ?_⟩
      · rw [drops.tables]
        exact width
      · rw [sound] at malformed
        cases malformed

theorem Behind.feed {peers : Nat} {dump after : DumpTransfer} {records : List FramedRecord}
    {world world' : ω} (behind : Behind peers dump)
    (fed : (dump.feed records).run world = ((.ok (), after), world')) : Behind peers after := by
  induction records generalizing dump world with
  | nil =>
    cases fed
    exact behind
  | cons record rest ih =>
    obtain ⟨next, between, taken, later⟩ := run_feed_cons fed
    exact ih (behind.accept taken).1 later

/-- What comes behind a malformed record is counted, and does nothing else. -/
theorem Behind.feed_after_malformed {peers : Nat} {dump after : DumpTransfer}
    {front back : List FramedRecord} {bad : FramedRecord} {world world' : ω}
    (behind : Behind peers dump) (malformed : isMalformed peers bad = true)
    (fed : (dump.feed (front ++ bad :: back)).run world = ((.ok (), after), world')) :
    ∃ halted, (dump.feed (front ++ [bad])).run world = ((.ok (), halted), world') ∧
      after = halted.noteRecords back.length := by
  rw [List.append_cons] at fed
  obtain ⟨halted, between, first, second⟩ := run_feed_append fed
  obtain ⟨mid, earlier, before, last⟩ := run_feed_append first
  obtain ⟨next, step, taken, rest⟩ := run_feed_cons last
  cases rest
  -- the malformed record ends the taking in, whatever came before it
  have handing := ((behind.feed before).accept taken).2 malformed
  rw [run_feed_handover handing] at second
  cases second
  exact ⟨halted, first, rfl⟩

end DumpTransfer

end CollectorFeed
