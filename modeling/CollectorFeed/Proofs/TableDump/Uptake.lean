import CollectorFeed.Proofs.Handover.FirstRound
import CollectorFeed.Proofs.LiveFeed.Course
import CollectorFeed.Proofs.Stream.Unfailing
import CollectorFeed.Proofs.TableDump.CommitRule
import CollectorFeed.Proofs.TableDump.Layout

/-!
# Taking in a well-formed table dump

The index of a dump binds every router to a session, if the sessions can be had
(`ensures_accept_index`). The records behind it are cut out one by one and taken, as long as all of
them are good and nobody asks to stop (`ensures_takeRecords_good`), and at the end of the stream
all of them are committed (`tables_closeIntake`). None of this passes a message on or ends a
session (`Quiet`).
-/

set_option autoImplicit false

namespace CollectorFeed

/-! ## Calls that bind sessions -/

namespace Exchange

/-- The session that is found or created for a key, if one is. -/
def binding? : Exchange → Option (SessionKey × SessionId)
  | find key (some id) => some (key, id)
  | create key _ _ (.ok id) => some (key, id)
  | _ => none

/-- Whether a session cannot be created. -/
def isDenial : Exchange → Bool
  | create _ _ _ (.error _) => true
  | _ => false

end Exchange

/-- The sessions that were found or created, each with its key. -/
def bindings (exchanges : List Exchange) : List (SessionKey × SessionId) :=
  exchanges.filterMap Exchange.binding?

@[simp] theorem bindings_append (front back : List Exchange) :
    bindings (front ++ back) = bindings front ++ bindings back :=
  List.filterMap_append

/-- Every session that is asked for can be had. -/
def Granted (exchanges : List Exchange) : Prop :=
  ∀ exchange ∈ exchanges, exchange.isDenial = false

instance (exchanges : List Exchange) : Decidable (Granted exchanges) :=
  inferInstanceAs (Decidable (∀ exchange ∈ exchanges, exchange.isDenial = false))

@[simp] theorem granted_append (front back : List Exchange) :
    Granted (front ++ back) ↔ Granted front ∧ Granted back :=
  List.forall_mem_append

/-- No message is passed on, and no session is ended. -/
def Quiet (exchanges : List Exchange) : Prop :=
  ∀ exchange ∈ exchanges, exchange.message? = none ∧ exchange.ended? = none

theorem quiet_nil : Quiet [] :=
  List.forall_mem_nil _

theorem quiet_append (front back : List Exchange) :
    Quiet (front ++ back) ↔ Quiet front ∧ Quiet back :=
  List.forall_mem_append

theorem Quiet.passedOn_eq_nil {exchanges : List Exchange} (quiet : Quiet exchanges) :
    passedOn exchanges = [] :=
  List.filterMap_eq_nil_iff.2 fun exchange there => (quiet exchange there).1

theorem Quiet.ended?_eq_none {exchanges : List Exchange} (quiet : Quiet exchanges) :
    ∀ exchange ∈ exchanges, exchange.ended? = none :=
  fun exchange there => (quiet exchange there).2

variable {ω : Type} [Surroundings ω]

/-- A session is found or created, or it cannot be had. -/
theorem Surroundings.ensures_bound (key : SessionKey) (handling : Handling)
    (width? : Option AsnWidth) :
    Ensures (findOrCreate key handling width? : StateM (Minutes ω) _) fun result made =>
      Quiet made ∧
      ((∃ id isNew, result = .ok (id, isNew) ∧ (key, id) ∈ bindings made) ∨
        (∃ refusal, result = .error refusal) ∧ ¬ Granted made) := by
  unfold findOrCreate
  refine .askBind fun found? => ?_
  cases found? with
  | some id =>
    have quiet : Quiet [.find key (some id)] := List.forall_mem_singleton.2 ⟨rfl, rfl⟩
    exact .pure ⟨quiet, .inl ⟨id, false, rfl, List.mem_cons_self⟩⟩
  | none =>
    refine .askBind fun created => ?_
    have quiet : Quiet [.find key none, .create key handling width? created] :=
      List.forall_mem_cons.2 ⟨⟨rfl, rfl⟩, List.forall_mem_singleton.2 ⟨rfl, rfl⟩⟩
    cases created with
    | ok id => exact .pure ⟨quiet, .inl ⟨id, true, rfl, List.mem_cons_self⟩⟩
    | error refusal =>
      refine .pure ⟨quiet, .inr ⟨⟨refusal, rfl⟩, ?_⟩⟩
      intro granted
      exact Bool.noConfusion (granted _ (List.mem_cons_of_mem _ List.mem_cons_self))

namespace DumpTransfer

/-! ## The index -/

theorem ensures_bindPeer (settings : DumpSettings) (handling : Handling) (collector : Quad)
    (peer : Peer) :
    Ensures (bindPeer settings handling collector peer : StateM (Minutes ω) _) fun result made =>
      Quiet made ∧
      ((∃ id, result = .ok (.new peer id) ∧ (keyOf settings collector peer, id) ∈ bindings made) ∨
        (∃ refusal, result = .error refusal) ∧ ¬ Granted made) := by
  unfold bindPeer
  refine .bind (Surroundings.ensures_bound _ handling none) ?_
  rintro result front ⟨quiet, ⟨id, isNew, rfl, bound⟩ | ⟨⟨refusal, rfl⟩, denied⟩⟩
  · cases isNew with
    | true =>
      refine .askBind fun _ => .pure ⟨?_, .inl ⟨id, rfl, ?_⟩⟩
      · exact (quiet_append _ _).2 ⟨quiet, List.forall_mem_singleton.2 ⟨rfl, rfl⟩⟩
      · rw [bindings_append]
        exact List.mem_append_left _ bound
    | false =>
      refine .pure ?_
      rw [List.append_nil]
      exact ⟨quiet, .inl ⟨id, rfl, bound⟩⟩
  · refine .pure ?_
    rw [List.append_nil]
    exact ⟨quiet, .inr ⟨⟨refusal, rfl⟩, denied⟩⟩

/-- Every router is bound to the session of its key, or a session cannot be had. -/
theorem ensures_bindPeers (settings : DumpSettings) (handling : Handling) (collector : Quad)
    (peers : List Peer) :
    Ensures (bindPeers settings handling collector peers : StateM (Minutes ω) _) fun result made =>
      Quiet made ∧
      ((∃ sessions, result = .ok (List.zipWith .new peers sessions) ∧
          List.Forall₂ (fun peer id => (keyOf settings collector peer, id) ∈ bindings made)
            peers sessions) ∨
        (∃ refusal, result = .error refusal) ∧ ¬ Granted made) := by
  induction peers with
  | nil => exact .pure ⟨quiet_nil, .inl ⟨[], rfl, .nil⟩⟩
  | cons peer rest ih =>
    unfold bindPeers
    refine .bind (ensures_bindPeer settings handling collector peer) ?_
    rintro result front ⟨quiet, ⟨id, rfl, bound⟩ | ⟨⟨refusal, rfl⟩, denied⟩⟩
    · refine .bind ih ?_
      rintro result back ⟨quiet', ⟨sessions, rfl, others⟩ | ⟨⟨refusal, rfl⟩, denied⟩⟩
      · refine .pure ⟨(quiet_append _ _).2 ⟨quiet, (quiet_append _ _).2 ⟨quiet', quiet_nil⟩⟩, ?_⟩
        -- each binding was noted by the calls for its router
        refine .inl ⟨id :: sessions, rfl, .cons ?_ (others.imp fun other session there => ?_)⟩
        · rw [bindings_append]
          exact List.mem_append_left _ bound
        · rw [List.append_nil, bindings_append]
          exact List.mem_append_right _ there
      · refine .pure ⟨(quiet_append _ _).2 ⟨quiet, (quiet_append _ _).2 ⟨quiet', quiet_nil⟩⟩, ?_⟩
        refine .inr ⟨⟨refusal, rfl⟩, fun granted => denied ?_⟩
        rw [List.append_nil, granted_append] at granted
        exact granted.2
    · refine .pure ?_
      rw [List.append_nil]
      exact ⟨quiet, .inr ⟨⟨refusal, rfl⟩, denied⟩⟩

/-- A table dump that has taken its index. -/
def opened (settings : DumpSettings) (handling : Handling) (index : DumpedIndex)
    (sessions : List SessionId) : DumpTransfer :=
  { (new settings handling).noteRecord with
    phase := .intake
    index? := some index.content
    tables := List.zipWith .new index.peers sessions }

/-- The record that opens a dump is taken, or a session cannot be had. -/
theorem ensures_accept_index (settings : DumpSettings) (handling : Handling) {index : DumpedIndex}
    (dumpable : index.Dumpable) :
    Ensures ((new settings handling).accept index.record : StateM (Minutes ω) _) fun result made =>
      Quiet made ∧
      ((∃ sessions, result = (.ok (), opened settings handling index sessions) ∧
          List.Forall₂ (fun peer id => (keyOf settings index.collector peer, id) ∈ bindings made)
            index.peers sessions) ∨
        (∃ e left, result = (.error e, left)) ∧ ¬ Granted made) := by
  change Ensures ((new settings handling).noteRecord.acceptIndex index.record) _
  unfold acceptIndex
  have opens : opensDump index.record.header = true := rfl
  rw [opens, DumpedIndex.decode_record dumpable]
  refine .bind (ensures_bindPeers settings handling index.collector index.peers) ?_
  rintro result front ⟨quiet, ⟨sessions, rfl, bound⟩ | ⟨⟨refusal, rfl⟩, denied⟩⟩
  · refine .pure ?_
    rw [List.append_nil]
    exact ⟨quiet, .inl ⟨sessions, rfl, bound⟩⟩
  · refine .pure ?_
    rw [List.append_nil]
    exact ⟨quiet, .inr ⟨⟨_, _, rfl⟩, denied⟩⟩

/-! ## Good records -/

/-- A record that gives routes, all of them to listed routers, is a good one. -/
theorem goodRib?_record {peers : Nat} {rib : DumpedRib} (dumpable : rib.Dumpable)
    (some_ : rib.entries ≠ []) (listed : ∀ entry ∈ rib.entries, entry.peerPlace.toNat < peers) :
    goodRib? peers rib.record = some rib.content := by
  rw [goodRib?_eq_some_iff]
  refine ⟨RecordType.ofCode?_code .tableDumpV2, DumpedRib.decode_record dumpable, ?_, ?_⟩
  · simpa [DumpedRib.content] using some_
  · rw [DumpedRib.content, List.forall_mem_map]
    exact listed

/-- What taking good records leaves as it is. -/
structure Continues (dump after : DumpTransfer) : Prop where
  phase : after.phase = dump.phase
  settings : after.settings = dump.settings
  width : after.tables.length = dump.tables.length

theorem settings_dropHeld (dump : DumpTransfer) : dump.dropHeld.settings = dump.settings := by
  unfold dropHeld
  split <;> rfl

theorem settings_commit (dump : DumpTransfer) (batch : RouteBatch) :
    (dump.commit batch).settings = dump.settings := by
  induction batch generalizing dump with
  | nil => rfl
  | cons entry batch ih =>
    refine (ih (dump.commitRoute entry.1 entry.2)).trans ?_
    unfold commitRoute
    split <;> rfl

theorem settings_hold (dump : DumpTransfer) (batch : RouteBatch) :
    (dump.hold batch).settings = dump.settings := by
  unfold hold
  rcases dump.pending.confirm batch with ⟨_ | confirmed, pending⟩
  · rfl
  · exact settings_commit _ confirmed

theorem settings_closeIntake (dump : DumpTransfer) :
    dump.closeIntake.settings = dump.settings := by
  have released : dump.releaseHeld.settings = dump.settings := by
    unfold releaseHeld
    rcases dump.pending.release with ⟨_ | batch, pending⟩
    · rfl
    · exact settings_commit _ batch
  unfold closeIntake stopIntake
  split
  · exact released
  · exact released

theorem settings_clearFor (dump : DumpTransfer) (record : FramedRecord) :
    (dump.clearFor record).settings = dump.settings := by
  unfold clearFor
  split
  · exact settings_dropHeld dump
  · rfl

/-- A good record is held. -/
theorem acceptRoutes_of_goodRib? {dump : DumpTransfer} {record : FramedRecord} {rib : RibRecord}
    (good : goodRib? dump.tables.length record = some rib) :
    ∃ after, dump.acceptRoutes record = (.ok (), after) ∧ Continues dump after := by
  obtain ⟨known, decoded, some_, listed⟩ := goodRib?_eq_some_iff.1 good
  refine ⟨(dump.clearFor record).hold (batchOf rib), ?_, ?_, ?_, ?_⟩
  -- dropping for the scan comes first, and the record is decoded behind it
  · change (if record.header.knownType? = some .tableDumpV2 then
      (dump.clearFor record).acceptDecoded record.header.type record.header.subtype
        (TableDumpRecord.decode record.header.subtype record.body)
      else _) = _
    have named : (dump.clearFor record).namesUnlisted rib = false := by
      unfold namesUnlisted
      rw [tables_clearFor]
      simpa using listed
    rw [if_pos known, decoded, acceptDecoded, acceptRib, named, some_]
    rfl
  · exact (advances_hold _ _).phase.trans (phase_clearFor dump record)
  · exact (settings_hold _ _).trans (settings_clearFor dump record)
  · rw [(advances_hold _ _).tables, length_commitTables, tables_clearFor]

/-- The taking in goes on until it is over, and takes all of the records unless somebody asks to
stop. Behind the index no call is needed to take a record, so any surroundings tell what becomes of
the dump. -/
def TakesAll (dump : DumpTransfer) (records : List FramedRecord)
    (result : Intake × Framer × DumpTransfer) (made : List Exchange) : Prop :=
  Quiet made ∧ ∃ behind after, result = (.over (.ok ()), behind, after) ∧
    (NeverStopped made → Continues dump after ∧
      (dump.feed records).run Logbook.blank = ((.ok (), after), Logbook.blank))

namespace TakesAll

variable {dump next : DumpTransfer} {record : FramedRecord} {records : List FramedRecord}
  {supply : Framer} {result : Intake × Framer × DumpTransfer} {made : List Exchange}

theorem stopped : TakesAll dump records (.over (.ok ()), supply, dump) [.isCancelled true] := by
  refine ⟨List.forall_mem_singleton.2 ⟨rfl, rfl⟩, supply, dump, rfl, ?_⟩
  intro unstopped
  exact Bool.noConfusion (unstopped _ List.mem_cons_self)

theorem ended (touched : Nat) :
    TakesAll dump [] (.over (.ok ()), supply, dump) [.isCancelled false, .observe touched] := by
  refine ⟨List.forall_mem_cons.2 ⟨⟨rfl, rfl⟩, List.forall_mem_singleton.2 ⟨rfl, rfl⟩⟩, ?_⟩
  exact ⟨supply, dump, rfl, fun _ => ⟨⟨rfl, rfl, rfl⟩, rfl⟩⟩

theorem goOn (touched : Nat) (taking : dump.phase = .intake)
    (taken : dump.noteRecord.acceptRoutes record = (.ok (), next)) (continues : Continues dump next)
    (later : TakesAll next records result made) :
    TakesAll dump (record :: records) result
      (.isCancelled false :: .observe touched :: made) := by
  obtain ⟨quiet, behind, after, rfl, unbroken⟩ := later
  refine ⟨List.forall_mem_cons.2 ⟨⟨rfl, rfl⟩, List.forall_mem_cons.2 ⟨⟨rfl, rfl⟩, quiet⟩⟩, ?_⟩
  refine ⟨behind, after, rfl, fun unstopped => ?_⟩
  rw [neverStopped_cons, neverStopped_cons] at unstopped
  obtain ⟨others, fed⟩ := unbroken unstopped.2.2
  refine ⟨⟨others.phase.trans continues.phase, others.settings.trans continues.settings,
    others.width.trans continues.width⟩, ?_⟩
  have first := run_accept_intake taking record Logbook.blank
  rw [taken] at first
  rw [run_feed_of_ok first]
  exact fed

end TakesAll

/-- Over a stream that holds good records and nothing else, all of them are taken. -/
theorem ensures_takeRecords_good {dump : DumpTransfer} {supply : Framer}
    {records : List FramedRecord} (taking : dump.phase = .intake)
    (good : ∀ record ∈ records, (goodRib? dump.tables.length record).isSome = true)
    (whole : ∀ record ∈ records, record.Whole supply.limits)
    (stands : supply.source.Stands (encodeAll records)) :
    Ensures (takeRecords supply dump : StateM (Minutes ω) _) (TakesAll dump records) := by
  induction records generalizing dump supply with
  | nil =>
    obtain ⟨behind, read⟩ := Framer.next_ended stands
    rw [takeRecords, if_neg (not_not_intro taking)]
    refine .askBind fun stopped => ?_
    cases stopped with
    | true => exact .pure .stopped
    | false =>
      rw [if_neg Bool.false_ne_true]
      split
      next reason after fetched =>
        cases read.symm.trans fetched
        exact .watchBind (.pure (.ended _))
      next record after fetched => cases read.symm.trans fetched
  | cons record rest ih =>
    rw [List.forall_mem_cons] at good whole
    rw [encodeAll, List.flatMap_cons] at stands
    obtain ⟨behind, read, left, limits⟩ := Framer.next_stands whole.1 stands
    obtain ⟨rib, first⟩ := Option.isSome_iff_exists.1 good.1
    have first : goodRib? dump.noteRecord.tables.length record = some rib := first
    obtain ⟨next, taken, continues⟩ := acceptRoutes_of_goodRib? first
    have continues : Continues dump next := ⟨continues.phase, continues.settings, continues.width⟩
    have accepted : dump.accept record =
        (pure (.ok (), next) : StateM (Minutes ω) (Except FeedError Unit × DumpTransfer)) := by
      unfold accept
      rw [taking]
      exact congrArg pure taken
    -- the tables stay as many, so the records behind it are good ones still
    rw [← continues.width] at good
    rw [← limits] at whole
    have others := ih (continues.phase.trans taking) good.2 whole.2 left
    rw [takeRecords, if_neg (not_not_intro taking)]
    refine .askBind fun stopped => ?_
    cases stopped with
    | true => exact .pure .stopped
    | false =>
      rw [if_neg Bool.false_ne_true]
      split
      next reason after fetched => cases read.symm.trans fetched
      next other after fetched =>
        cases read.symm.trans fetched
        rw [accepted]
        refine .watchBind (others.mono ?_)
        exact fun result made later => .goOn _ taking taken continues later

/-! ## At the end of the stream -/

theorem isMalformed_of_goodRib? {peers : Nat} {record : FramedRecord} {rib : RibRecord}
    (good : goodRib? peers record = some rib) : isMalformed peers record = false := by
  obtain ⟨-, decoded, -, listed⟩ := goodRib?_eq_some_iff.1 good
  rw [isMalformed, decoded]
  simpa using listed

/-- Good records without recovery scans are all committed. -/
theorem committedRibs_of_good {peers : Nat} {α : Type} {items : List α}
    {record : α → FramedRecord} {content : α → RibRecord}
    (good : ∀ item ∈ items, goodRib? peers (record item) = some (content item))
    (unscanned : ∀ item ∈ items, (record item).recoveries = 0) :
    committedRibs peers (items.map record) = items.map content := by
  induction items with
  | nil => rfl
  | cons item rest ih =>
    rw [List.forall_mem_cons] at good unscanned
    have confirmed : confirms peers (rest.map record) = true := by
      cases rest with
      | nil => rfl
      | cons next later =>
        have next_ := good.2 next List.mem_cons_self
        have calm := unscanned.2 next List.mem_cons_self
        simp [confirms, next_, calm]
    rw [List.map_cons, committedRibs, isMalformed_of_goodRib? good.1, confirmed, good.1,
      ih good.2 unscanned.2]
    rfl

/-- If nothing is held at first, the routes of all good records have been committed in the end. -/
theorem tables_closeIntake {dump after : DumpTransfer} {α : Type} {items : List α}
    {record : α → FramedRecord} {content : α → RibRecord} {world world' : ω}
    (taking : dump.phase = .intake) (nothing : dump.pending.held? = none)
    (good : ∀ item ∈ items, goodRib? dump.tables.length (record item) = some (content item))
    (unscanned : ∀ item ∈ items, (record item).recoveries = 0)
    (fed : (dump.feed (items.map record)).run world = ((.ok (), after), world')) :
    after.closeIntake.tables =
      commitTables dump.tables ((items.map content).flatMap batchOf) := by
  have outcome := outcome_feed taking fed
  rw [outcome.tables, committedRibs_of_good good unscanned, heldBatch_of_held? nothing, ite_self,
    List.nil_append]

end DumpTransfer

end CollectorFeed
