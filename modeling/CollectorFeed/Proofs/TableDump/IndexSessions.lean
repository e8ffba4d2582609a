import CollectorFeed.Proofs.Conversation.Logbook
import CollectorFeed.Proofs.LiveFeed.SubmissionEffects
import CollectorFeed.Proofs.TableDump.Intake

/-!
# The sessions of an index

The routers of an index are bound one behind the other, each to the session of its key, which is
created if there is none. On a table that nobody else uses this creates a session for every key that
is not known yet, once and in the order of the index, as long as there is room (`PeerBinding` for
one router, `PeersBound` for all).

Main statement: `DumpTransfer.indexSessions_accept`, of the record that opens a table dump. It holds
of every table dump that waits for its index, since nothing of one was taken in before
(`DumpTransfer.unopened_feed`).
-/

set_option autoImplicit false

namespace CollectorFeed

/-! ## Keys that are not known yet -/

/-- The keys that are not known yet, each where it first comes. -/
def newKeys (known : List SessionKey) : List SessionKey → List SessionKey
  | [] => []
  | key :: rest => if key ∈ known then newKeys known rest else key :: newKeys (known ++ [key]) rest

theorem mem_newKeys {known keys : List SessionKey} {key : SessionKey} :
    key ∈ newKeys known keys ↔ key ∈ keys ∧ key ∉ known := by
  induction keys generalizing known with
  | nil => simp [newKeys]
  | cons first rest ih =>
    unfold newKeys
    split
    case isTrue old =>
      rw [ih, List.mem_cons]
      constructor
      · rintro ⟨later, new⟩
        exact ⟨.inr later, new⟩
      · rintro ⟨rfl | later, new⟩
        · exact absurd old new
        · exact ⟨later, new⟩
    case isFalse new =>
      rw [List.mem_cons, ih, List.mem_cons, List.mem_append, List.mem_singleton]
      by_cases same : key = first
      · subst same
        simp [new]
      · simp [same]

theorem nodup_newKeys (known keys : List SessionKey) : (newKeys known keys).Nodup := by
  induction keys generalizing known with
  | nil => exact List.nodup_nil
  | cons first rest ih =>
    unfold newKeys
    split
    case isTrue => exact ih known
    case isFalse =>
      refine List.nodup_cons.2 ⟨fun again => ?_, ih _⟩
      exact (mem_newKeys.1 again).2 (List.mem_append_right _ List.mem_cons_self)

/-! ## Sessions of an index in a table -/

/-- A session as it is created for a router of an index. -/
def listedFacts (handling : Handling) (key : SessionKey) : SessionFacts where
  key := key
  label := handling
  width? := none
  state := .provisional
  lastCause := .manualStop
  messages := 0
  cleanings := 0

namespace SessionTable

variable {table : SessionTable}

/-- The table with sessions of further keys. -/
def withListed (table : SessionTable) (handling : Handling) (keys : List SessionKey) :
    SessionTable :=
  { table with known := table.known ++ keys.map (listedFacts handling) }

/-- Whether so many sessions can be created. -/
def HasRoomFor (table : SessionTable) (count : Nat) : Prop :=
  count = 0 ∨ ∀ limit, table.limit? = some limit → table.size + count ≤ limit

theorem withListed_nil (table : SessionTable) (handling : Handling) :
    table.withListed handling [] = table := by
  simp [withListed]

theorem withListed_cons (table : SessionTable) (handling : Handling) (key : SessionKey)
    (rest : List SessionKey) :
    table.withListed handling (key :: rest) =
      (table.withListed handling [key]).withListed handling rest := by
  simp [withListed]

theorem keys_withListed (table : SessionTable) (handling : Handling) (keys : List SessionKey) :
    (table.withListed handling keys).keys = table.keys ++ keys := by
  simp only [SessionTable.keys, withListed, List.map_append, List.map_map]
  exact congrArg (_ ++ ·) (List.map_id _)

theorem size_withListed (table : SessionTable) (handling : Handling) (keys : List SessionKey) :
    (table.withListed handling keys).size = table.size + keys.length := by
  simp [size, withListed]

/-- A session that was there stays as it was. -/
theorem get?_withListed {id : SessionId} {facts : SessionFacts} (there : table.get? id = some facts)
    (handling : Handling) (keys : List SessionKey) :
    (table.withListed handling keys).get? id = some facts := by
  obtain ⟨place, itsPlace, found⟩ := Option.bind_eq_some_iff.1 there
  unfold get?
  rw [itsPlace]
  exact (List.getElem?_append_left (List.getElem?_eq_some_iff.1 found).1).trans found

/-- A key that was found still leads to its session. -/
theorem find?_withListed {key : SessionKey} {id : SessionId} (found : table.find? key = some id)
    (handling : Handling) (keys : List SessionKey) :
    (table.withListed handling keys).find? key = some id := by
  obtain ⟨place, there, rfl⟩ := Option.map_eq_some_iff.1 found
  rw [find?, withListed, List.findIdx?_append, there]
  rfl

/-- A session that is created for a router is moved into its state at once. -/
theorem setState_add (table : SessionTable) (handling : Handling) (key : SessionKey) :
    (table.add (newFacts key handling none)).setState (idAt table.size) .provisional .manualStop =
      table.withListed handling [key] := by
  rw [setState, update, placeOf?_idAt]
  exact congrArg (fun known => { table with known := known })
    (List.modifyTailIdx_add _ 0 table.known [newFacts key handling none])

theorem isFull_eq_true_iff :
    table.isFull = true ↔ ∃ limit, table.limit? = some limit ∧ limit ≤ table.size := by
  unfold isFull
  cases table.limit? with
  | none => simp
  | some limit => simp

theorem hasRoomFor_succ (handling : Handling) (key : SessionKey) {count : Nat} :
    table.HasRoomFor (count + 1) ↔
      table.isFull = false ∧ (table.withListed handling [key]).HasRoomFor count := by
  have limited : (table.withListed handling [key]).limit? = table.limit? := rfl
  unfold HasRoomFor isFull
  rw [limited, size_withListed, List.length_singleton]
  cases table.limit? with
  | none => simp
  | some limit =>
    simp only [Option.some.injEq, forall_eq', decide_eq_false_iff_not, Nat.add_eq_zero_iff]
    omega

end SessionTable

/-- Whether a session is found, created or refused is up to the table alone. -/
theorem OwnTable.run_findOrCreate {ω : Type} [Surroundings ω] (key : SessionKey)
    (handling : Handling) (width? : Option AsnWidth) (own : OwnTable ω) :
    (Surroundings.findOrCreate key handling width? : StateM (OwnTable ω) _).run own =
      match own.sessions.find? key with
      | some id => (.ok (id, false), own)
      | none =>
        if own.sessions.isFull then (.error (.tableFull (own.sessions.limit?.getD 0)), own)
        else
          (.ok (SessionTable.idAt own.sessions.size, true),
            { own with
              sessions := own.sessions.add (SessionTable.newFacts key handling width?) }) := by
  have looked : (Surroundings.find key : StateM (OwnTable ω) _).run own =
      (own.sessions.find? key, own) := rfl
  unfold Surroundings.findOrCreate
  rw [StateT.run_bind, looked]
  cases found : own.sessions.find? key with
  | some id => rfl
  | none =>
    have asked : (Surroundings.create key handling width? : StateM (OwnTable ω) _).run own =
        ((own.sessions.create key handling width?).1,
          { own with sessions := (own.sessions.create key handling width?).2 }) := rfl
    rw [SessionTable.create_of_absent found] at asked
    change (Surroundings.create key handling width? >>= _ : StateM (OwnTable ω) _).run own = _
    rw [StateT.run_bind, asked]
    cases own.sessions.isFull with
    | true => rfl
    | false => rfl

/-! ## One router -/

open DumpTransfer (keyOf bindPeer bindPeers)

variable {ω : Type} [Surroundings ω] {settings : DumpSettings} {handling : Handling}
  {collector : Quad}

/-- What binding a router makes of a table that nobody else uses. -/
inductive PeerBinding (settings : DumpSettings) (handling : Handling) (collector : Quad)
    (table : SessionTable) (peer : Peer) :
    Except SessionRefusal PeerTable → SessionTable → Prop
  /-- There is a session of the key. -/
  | found {id : SessionId} (found : table.find? (keyOf settings collector peer) = some id) :
      PeerBinding settings handling collector table peer (.ok (.new peer id)) table
  /-- There is none, and one is created. -/
  | created (absent : table.find? (keyOf settings collector peer) = none)
      (room : table.isFull = false) :
      PeerBinding settings handling collector table peer
        (.ok (.new peer (SessionTable.idAt table.size)))
        (table.withListed handling [keyOf settings collector peer])
  /-- There is none, and no room for one. -/
  | refused {limit : Nat} (limited : table.limit? = some limit) (full : limit ≤ table.size)
      (absent : table.find? (keyOf settings collector peer) = none) :
      PeerBinding settings handling collector table peer (.error (.tableFull limit)) table

theorem peerBinding_bindPeer (settings : DumpSettings) (handling : Handling) (collector : Quad)
    (peer : Peer) (own : OwnTable ω) :
    ∃ result after,
      (bindPeer settings handling collector peer : StateM (OwnTable ω) _).run own =
        (result, { own with sessions := after }) ∧
      PeerBinding settings handling collector own.sessions peer result after := by
  unfold bindPeer
  rw [StateT.run_bind, OwnTable.run_findOrCreate]
  cases found : own.sessions.find? (keyOf settings collector peer) with
  | some id => exact ⟨_, _, rfl, .found found⟩
  | none =>
    cases full : own.sessions.isFull with
    | true =>
      obtain ⟨limit, limited, within⟩ := SessionTable.isFull_eq_true_iff.1 full
      refine ⟨.error (.tableFull limit), own.sessions, ?_, .refused limited within found⟩
      rw [limited]
      rfl
    | false =>
      refine ⟨_, _, ?_, .created found full⟩
      rw [← SessionTable.setState_add]
      rfl

/-! ## All routers -/

/-- The keys for which sessions are created: those of the routers that have none yet. -/
def freshKeys (settings : DumpSettings) (collector : Quad) (peers : List Peer)
    (table : SessionTable) : List SessionKey :=
  newKeys table.keys (peers.map (keyOf settings collector))

/-- A table without routes is bound to the session that the key of its router leads to. -/
def BoundIn (settings : DumpSettings) (collector : Quad) (sessions : SessionTable)
    (table : PeerTable) : Prop :=
  sessions.find? (keyOf settings collector table.peer) = some table.session ∧
    table = .new table.peer table.session

/-- What binding routers makes of a table that nobody else uses. -/
inductive PeersBound (settings : DumpSettings) (handling : Handling) (collector : Quad)
    (peers : List Peer) (table : SessionTable) :
    Except SessionRefusal (List PeerTable) → SessionTable → Prop
  /-- There is room for all, and each one is bound to the session that its key leads to in the
  end. -/
  | all {tables : List PeerTable}
      (room : table.HasRoomFor (freshKeys settings collector peers table).length)
      (routers : tables.map PeerTable.peer = peers)
      (bound : ∀ one ∈ tables, BoundIn settings collector
        (table.withListed handling (freshKeys settings collector peers table)) one) :
      PeersBound settings handling collector peers table (.ok tables)
        (table.withListed handling (freshKeys settings collector peers table))
  /-- There is no room for all, and the sessions for which there is room are left behind. -/
  | refused {limit : Nat} (limited : table.limit? = some limit)
      (full : ¬ table.HasRoomFor (freshKeys settings collector peers table).length) :
      PeersBound settings handling collector peers table (.error (.tableFull limit))
        (table.withListed handling
          ((freshKeys settings collector peers table).take (limit - table.size)))

theorem freshKeys_of_found {peer : Peer} {table : SessionTable} {id : SessionId}
    (found : table.find? (keyOf settings collector peer) = some id) (rest : List Peer) :
    freshKeys settings collector (peer :: rest) table =
      freshKeys settings collector rest table := by
  have known : keyOf settings collector peer ∈ table.keys := by
    refine Classical.byContradiction fun absent => ?_
    rw [SessionTable.find?_eq_none_iff.2 absent] at found
    cases found
  rw [freshKeys, List.map_cons, newKeys, if_pos known]
  rfl

theorem freshKeys_of_absent {peer : Peer} {table : SessionTable}
    (absent : table.find? (keyOf settings collector peer) = none) (handling : Handling)
    (rest : List Peer) :
    freshKeys settings collector (peer :: rest) table =
      keyOf settings collector peer :: freshKeys settings collector rest
        (table.withListed handling [keyOf settings collector peer]) := by
  have new := SessionTable.find?_eq_none_iff.1 absent
  rw [freshKeys, List.map_cons, newKeys, if_neg new, freshKeys, SessionTable.keys_withListed]

/-- A session that is created for a router is the one that its key leads to. -/
theorem SessionTable.find?_withListed_self {table : SessionTable} {key : SessionKey}
    (absent : table.find? key = none) (handling : Handling) :
    (table.withListed handling [key]).find? key = some (idAt table.size) := by
  change (table.add (listedFacts handling key)).find? (listedFacts handling key).key = _
  exact find?_add absent

namespace PeersBound

variable {peer : Peer} {rest : List Peer} {table after : SessionTable} {id : SessionId}
  {tables : List PeerTable} {refusal : SessionRefusal}

theorem cons_found (found : table.find? (keyOf settings collector peer) = some id)
    {result : Except SessionRefusal (List PeerTable)}
    (others : PeersBound settings handling collector rest table result after) :
    PeersBound settings handling collector (peer :: rest) table
      (result.map (.new peer id :: ·)) after := by
  have same := freshKeys_of_found found rest
  cases others with
  | all room routers bound =>
    rw [← same] at room bound ⊢
    refine .all room (congrArg (peer :: ·) routers) (List.forall_mem_cons.2 ⟨⟨?_, rfl⟩, bound⟩)
    exact SessionTable.find?_withListed found _ _
  | refused limited full =>
    rw [← same] at full ⊢
    exact .refused limited full

theorem cons_created (absent : table.find? (keyOf settings collector peer) = none)
    (free : table.isFull = false) {result : Except SessionRefusal (List PeerTable)}
    (others : PeersBound settings handling collector rest
      (table.withListed handling [keyOf settings collector peer]) result after) :
    PeersBound settings handling collector (peer :: rest) table
      (result.map (.new peer (SessionTable.idAt table.size) :: ·)) after := by
  have more := freshKeys_of_absent absent handling rest
  cases others with
  | all room routers bound =>
    -- the key of this router is the first fresh one, and its session stays where the others begin
    have found := SessionTable.find?_withListed_self absent handling
    rw [← SessionTable.withListed_cons, ← more] at bound ⊢
    refine .all ?_ (congrArg (peer :: ·) routers) (List.forall_mem_cons.2 ⟨⟨?_, rfl⟩, bound⟩)
    · rw [more]
      exact (SessionTable.hasRoomFor_succ _ _).2 ⟨free, room⟩
    · rw [more, SessionTable.withListed_cons]
      exact SessionTable.find?_withListed found _ _
  | @refused limit limited full =>
    have limited : table.limit? = some limit := limited
    -- there was room for this one, so one session less is left for the others
    have below : table.size < limit := by
      refine Nat.lt_of_not_le fun within => ?_
      rw [SessionTable.isFull_eq_true_iff.2 ⟨limit, limited, within⟩] at free
      cases free
    have left : limit - table.size =
        limit - (table.withListed handling [keyOf settings collector peer]).size + 1 := by
      rw [SessionTable.size_withListed, List.length_singleton]
      omega
    rw [← SessionTable.withListed_cons, ← List.take_succ_cons, ← left, ← more]
    refine .refused limited fun room => full ?_
    rw [more] at room
    exact ((SessionTable.hasRoomFor_succ _ _).1 room).2

theorem cons_refused {limit : Nat} (limited : table.limit? = some limit)
    (full : limit ≤ table.size) (absent : table.find? (keyOf settings collector peer) = none)
    (rest : List Peer) :
    PeersBound settings handling collector (peer :: rest) table (.error (.tableFull limit))
      table := by
  have crowded : ¬ table.HasRoomFor (freshKeys settings collector (peer :: rest) table).length := by
    rw [freshKeys_of_absent absent handling rest]
    intro room
    have free := ((SessionTable.hasRoomFor_succ handling (keyOf settings collector peer)).1 room).1
    rw [SessionTable.isFull_eq_true_iff.2 ⟨limit, limited, full⟩] at free
    cases free
  have refused : PeersBound settings handling collector (peer :: rest) table
      (.error (.tableFull limit)) (table.withListed handling
        ((freshKeys settings collector (peer :: rest) table).take (limit - table.size))) :=
    .refused limited crowded
  rwa [Nat.sub_eq_zero_of_le full, List.take_zero, SessionTable.withListed_nil] at refused

end PeersBound

theorem run_bindPeers_of_error {peer : Peer} {refusal : SessionRefusal} {world between : ω}
    (refused : (bindPeer settings handling collector peer).run world = (.error refusal, between))
    (rest : List Peer) :
    (bindPeers settings handling collector (peer :: rest)).run world =
      (.error refusal, between) := by
  rw [bindPeers, StateT.run_bind, refused]
  rfl

theorem run_bindPeers_of_ok {peer : Peer} {table : PeerTable} {rest : List Peer}
    {result : Except SessionRefusal (List PeerTable)} {world between after : ω}
    (bound : (bindPeer settings handling collector peer).run world = (.ok table, between))
    (others : (bindPeers settings handling collector rest).run between = (result, after)) :
    (bindPeers settings handling collector (peer :: rest)).run world =
      (result.map (table :: ·), after) := by
  rw [bindPeers, StateT.run_bind, bound]
  change (bindPeers settings handling collector rest >>= _ : StateM ω _).run between = _
  rw [StateT.run_bind, others]
  cases result with
  | error refusal => rfl
  | ok tables => rfl

/-- By induction on the routers, which are bound one behind the other. -/
theorem peersBound_bindPeers (settings : DumpSettings) (handling : Handling) (collector : Quad)
    (peers : List Peer) (own : OwnTable ω) :
    ∃ result after,
      (bindPeers settings handling collector peers : StateM (OwnTable ω) _).run own =
        (result, { own with sessions := after }) ∧
      PeersBound settings handling collector peers own.sessions result after := by
  induction peers generalizing own with
  | nil =>
    have bound : PeersBound settings handling collector [] own.sessions (.ok [])
        (own.sessions.withListed handling []) := .all (.inl rfl) rfl (List.forall_mem_nil _)
    rw [SessionTable.withListed_nil] at bound
    exact ⟨_, _, rfl, bound⟩
  | cons peer rest ih =>
    obtain ⟨first, between, run, binding⟩ :=
      peerBinding_bindPeer settings handling collector peer own
    obtain ⟨others, after, run', bound⟩ := ih { own with sessions := between }
    cases binding with
    | found found => exact ⟨_, _, run_bindPeers_of_ok run run', bound.cons_found found⟩
    | created absent free =>
      exact ⟨_, _, run_bindPeers_of_ok run run', bound.cons_created absent free⟩
    | refused limited full absent =>
      exact ⟨_, _, run_bindPeers_of_error run rest, .cons_refused limited full absent rest⟩

/-! ## Sessions that were there, and sessions that are new -/

namespace SessionTable

variable {table : SessionTable} {id : SessionId} {facts : SessionFacts} {handling : Handling}
  {keys : List SessionKey}

/-- Two keys never lead to one session. -/
theorem key_unique {key key' : SessionKey} (found : table.find? key = some id)
    (found' : table.find? key' = some id) : key = key' := by
  obtain ⟨facts, there, rfl⟩ := key_of_find? found
  obtain ⟨facts', there', rfl⟩ := key_of_find? found'
  obtain rfl := Option.some.inj (there.symm.trans there')
  rfl

/-- A session that was not there is as it was created. -/
theorem listed_of_get?_withListed (absent : table.get? id = none)
    (there : (table.withListed handling keys).get? id = some facts) :
    ∃ key ∈ keys, facts = listedFacts handling key := by
  obtain ⟨place, itsPlace, found⟩ := Option.bind_eq_some_iff.1 there
  rw [get?, itsPlace] at absent
  have beyond : table.known.length ≤ place := List.getElem?_eq_none_iff.1 absent
  have found : (table.known ++ keys.map (listedFacts handling))[place]? = some facts := found
  rw [List.getElem?_append_right beyond] at found
  obtain ⟨key, one, rfl⟩ := List.mem_map.1 (List.mem_of_getElem? found)
  exact ⟨key, one, rfl⟩

end SessionTable

/-! ## The record that opens a table dump -/

namespace DumpTransfer

/-- The sessions of two routers have the same key if AS number and address are the same. -/
theorem keyOf_eq_iff {settings : DumpSettings} {collector : Quad} {peer other : Peer} :
    keyOf settings collector peer = keyOf settings collector other ↔
      peer.asn = other.asn ∧ peer.address = other.address := by
  simp [keyOf, SessionKey.onBgpPort, SessionKey.onPorts]

/-- A table dump into which nothing has come of an index. -/
structure Unopened (dump : DumpTransfer) : Prop where
  phase : dump.phase = .opening
  index? : dump.index? = none
  tables : dump.tables = []

theorem unopened_new (settings : DumpSettings) (handling : Handling) :
    (new settings handling).Unopened :=
  ⟨rfl, rfl, rfl⟩

theorem Unopened.noteRecord {dump : DumpTransfer} (unopened : dump.Unopened) :
    dump.noteRecord.Unopened :=
  ⟨unopened.phase, unopened.index?, unopened.tables⟩

theorem phase_acceptRib (dump : DumpTransfer) (rib : RibRecord) :
    (dump.acceptRib rib).phase = dump.phase ∨ (dump.acceptRib rib).phase = .handover := by
  unfold acceptRib
  split
  · exact .inl (phase_dropHeld dump)
  · split
    · exact .inr rfl
    · exact .inl (advances_hold dump _).phase

/-- Behind the index a record leads on to the hand-over or nowhere. -/
theorem phase_acceptRoutes (dump : DumpTransfer) (record : FramedRecord) :
    (dump.acceptRoutes record).2.phase = dump.phase ∨
      (dump.acceptRoutes record).2.phase = .handover := by
  have routes : dump.acceptRoutes record = if record.header.knownType? = some .tableDumpV2 then
      (dump.clearFor record).acceptDecoded record.header.type record.header.subtype
        (TableDumpRecord.decode record.header.subtype record.body)
      else (.error (.unexpectedType record.header.type), dump.clearFor record) := rfl
  rw [routes, ← phase_clearFor dump record]
  split
  case isFalse => exact .inl rfl
  case isTrue =>
    cases TableDumpRecord.decode record.header.subtype record.body with
    | error reason =>
      cases reason with
      | unexpectedSubtype type subtype => exact .inl rfl
      | networkTooLong bits most => exact .inl (phase_dropHeld _)
      | _ => exact .inr rfl
    | ok content =>
      cases content with
      | index index => exact .inl rfl
      | skipped subtype => exact .inl (phase_dropHeld _)
      | rib rib => exact phase_acceptRib _ rib

/-- The record that opens a table dump is taken, or it changes nothing. -/
theorem left_acceptIndex (dump : DumpTransfer) (record : FramedRecord) (world : ω) :
    ∃ result left between, (dump.acceptIndex record).run world = ((result, left), between) ∧
      (left = dump ∨ left.phase = .intake) := by
  unfold acceptIndex
  dsimp only
  split
  case isTrue => exact ⟨_, _, _, rfl, .inl rfl⟩
  case isFalse =>
    split
    next reason decoded => exact ⟨_, _, _, rfl, .inl rfl⟩
    next index decoded =>
      rw [StateT.run_bind]
      rcases (bindPeers dump.settings dump.handling index.collector index.peers).run world with
        ⟨_ | tables, between⟩
      · exact ⟨_, _, _, rfl, .inl rfl⟩
      · exact ⟨_, _, _, rfl, .inr rfl⟩
    next content decoded => exact ⟨_, _, _, rfl, .inl rfl⟩

/-- A table dump that waits for its index has taken in nothing of one, whatever records it was
given. -/
theorem unopened_accept {dump after : DumpTransfer} {record : FramedRecord}
    {result : Except FeedError Unit} {world between : ω}
    (blank : dump.phase = .opening → dump.Unopened)
    (accepted : (dump.accept record).run world = ((result, after), between))
    (opening : after.phase = .opening) : after.Unopened := by
  unfold accept at accepted
  cases phase : dump.phase with
  | opening =>
    rw [phase] at accepted
    obtain ⟨result', left, between', run, same | intake⟩ :=
      dump.noteRecord.left_acceptIndex record world
    · obtain ⟨⟨rfl, rfl⟩, rfl⟩ := run.symm.trans accepted
      exact same ▸ (blank phase).noteRecord
    · obtain ⟨⟨rfl, rfl⟩, rfl⟩ := run.symm.trans accepted
      cases opening.symm.trans intake
  | intake =>
    rw [phase] at accepted
    -- behind the index no record leads back to the opening phase
    have left : (dump.noteRecord.acceptRoutes record).2 = after :=
      congrArg Prod.snd (congrArg Prod.fst accepted)
    have same : dump.noteRecord.phase = .intake := phase
    rw [← left] at opening
    rcases dump.noteRecord.phase_acceptRoutes record with still | handing
    · cases (opening.symm.trans still).trans same
    · cases opening.symm.trans handing
  | handover =>
    rw [phase] at accepted
    cases accepted
    cases opening.symm.trans phase
  | done =>
    rw [phase] at accepted
    cases accepted
    cases opening.symm.trans phase

/-- By induction on the records. -/
theorem unopened_feed {dump after : DumpTransfer} {records : List FramedRecord}
    {result : Except FeedError Unit} {world between : ω}
    (blank : dump.phase = .opening → dump.Unopened)
    (fed : (dump.feed records).run world = ((result, after), between))
    (opening : after.phase = .opening) : after.Unopened := by
  induction records generalizing dump world with
  | nil =>
    cases fed
    exact blank opening
  | cons record rest ih =>
    rcases accepted : (dump.accept record).run world with ⟨⟨_ | _, next⟩, mid⟩
    · rw [run_feed_of_error accepted] at fed
      cases fed
      exact unopened_accept blank accepted opening
    · rw [run_feed_of_ok accepted] at fed
      exact ih (unopened_accept blank accepted) fed

theorem run_accept_opening {dump : DumpTransfer} {record : FramedRecord} {index : PeerIndex}
    (opening : dump.phase = .opening) (opens : opensDump record.header = true)
    (decoded : TableDumpRecord.decode record.header.subtype record.body = .ok (.index index))
    (world : ω) :
    (dump.accept record).run world =
      match (bindPeers dump.settings dump.handling index.collector index.peers).run world with
      | (.error refusal, between) => ((.error (.session refusal), dump.noteRecord), between)
      | (.ok tables, between) =>
        ((.ok (), { dump.noteRecord with
          phase := .intake, index? := some index, tables := tables }), between) := by
  unfold accept
  rw [opening]
  change (dump.noteRecord.acceptIndex record).run world = _
  unfold acceptIndex
  rw [opens, decoded]
  change (bindPeers dump.settings dump.handling index.collector index.peers >>= _ :
    StateM ω _).run world = _
  rw [StateT.run_bind]
  cases (bindPeers dump.settings dump.handling index.collector index.peers).run world with
  | mk result between => cases result <;> rfl

end DumpTransfer

/-- What an index comes to that is taken. -/
structure IndexTaken (dump : DumpTransfer) (index : PeerIndex) (table : SessionTable)
    (taken : DumpTransfer) (after : SessionTable) : Prop where
  /-- Routes are taken in next. Apart from the index and the tables only the records that were
  counted change. -/
  taken_eq : taken = { dump.noteRecord with
    phase := .intake, index? := some index, tables := taken.tables }
  /-- Every router has a table, in the order of the index. -/
  routers : taken.tables.map PeerTable.peer = index.peers
  /-- It is bound to the session that the key of the router leads to. -/
  bound : ∀ one ∈ taken.tables, after.find? {
    peerAsn := one.peer.asn
    localAsn := dump.settings.localAsn
    peerPort := dump.settings.tcpPort
    localPort := dump.settings.tcpPort
    peerAddress := one.peer.address
    localAddress := .v4 index.collector } = some one.session
  /-- It has no routes, never had any, and something is left to do for it. -/
  blank : ∀ one ∈ taken.tables, one = .new one.peer one.session
  /-- Routers share a session exactly if they have the same AS number and address. -/
  shared : ∀ one ∈ taken.tables, ∀ other ∈ taken.tables,
    one.session = other.session ↔
      one.peer.asn = other.peer.asn ∧ one.peer.address = other.peer.address
  /-- The sessions that were there are as they were. -/
  kept : ∀ id facts, table.get? id = some facts → after.get? id = some facts
  /-- The others are those of routers. They are provisional, stopped by hand, and the width of their
  AS numbers is not known. -/
  created : ∀ id facts, table.get? id = none → after.get? id = some facts →
    facts = listedFacts dump.handling facts.key ∧
      ∃ peer ∈ index.peers, facts.key = keyOf dump.settings index.collector peer
  /-- One is created for each key that had none, in the order of the index. -/
  sessions : after = table.withListed dump.handling
    (freshKeys dump.settings index.collector index.peers table)
  /-- No key has two of them. -/
  once : (freshKeys dump.settings index.collector index.peers table).Nodup

/-- What an index comes to that is refused, since its sessions are too many for the limit. -/
structure IndexRefused (dump : DumpTransfer) (index : PeerIndex) (table : SessionTable)
    (limit : Nat) (left : DumpTransfer) (after : SessionTable) : Prop where
  /-- The record is counted. -/
  left_eq : left = dump.noteRecord
  /-- The table dump still waits for its index. -/
  unopened : left.Unopened
  /-- The sessions that were there are as they were. -/
  kept : ∀ id facts, table.get? id = some facts → after.get? id = some facts
  /-- Sessions are created in the order of the index as long as there is room. -/
  sessions : after = table.withListed dump.handling
    ((freshKeys dump.settings index.collector index.peers table).take (limit - table.size))

/-- What the record that opens a table dump comes to. -/
inductive IndexCourse (dump : DumpTransfer) (index : PeerIndex) (table : SessionTable) :
    Except FeedError Unit → DumpTransfer → SessionTable → Prop
  | taken {taken : DumpTransfer} {after : SessionTable}
      (room : table.HasRoomFor
        (freshKeys dump.settings index.collector index.peers table).length)
      (whole : IndexTaken dump index table taken after) :
      IndexCourse dump index table (.ok ()) taken after
  | refused {limit : Nat} {left : DumpTransfer} {after : SessionTable}
      (limited : table.limit? = some limit)
      (full : ¬ table.HasRoomFor
        (freshKeys dump.settings index.collector index.peers table).length)
      (none_ : IndexRefused dump index table limit left after) :
      IndexCourse dump index table (.error (.session (.tableFull limit))) left after

/-- An index is taken as a whole or not at all: on a table of sessions that nobody else uses, every
router is bound to the session of its key, or there is no room for all sessions and the table dump
still waits for its index. Either way the sessions that were there are left alone. -/
theorem DumpTransfer.indexSessions_accept {dump : DumpTransfer} {record : FramedRecord}
    {index : PeerIndex} (unopened : dump.Unopened) (opens : opensDump record.header = true)
    (decoded : TableDumpRecord.decode record.header.subtype record.body = .ok (.index index))
    (own : OwnTable ω) :
    ∃ result left after,
      (dump.accept record : StateM (OwnTable ω) _).run own =
        ((result, left), { own with sessions := after }) ∧
      IndexCourse dump index own.sessions result left after := by
  obtain ⟨result, after, run, bound⟩ :=
    peersBound_bindPeers dump.settings dump.handling index.collector index.peers own
  have course := run_accept_opening unopened.phase opens decoded own
  rw [run] at course
  cases bound with
  | refused limited full =>
    refine ⟨_, _, _, course, .refused limited full ⟨rfl, unopened.noteRecord, ?_, rfl⟩⟩
    intro id facts there
    exact SessionTable.get?_withListed there _ _
  | all room routers bound =>
    refine ⟨_, _, _, course, .taken room {
      taken_eq := rfl
      routers := routers
      bound := fun one there => (bound one there).1
      blank := fun one there => (bound one there).2
      shared := fun one there other there' => ?_
      kept := fun id facts there => SessionTable.get?_withListed there _ _
      created := fun id facts absent there => ?_
      sessions := rfl
      once := nodup_newKeys _ _ }⟩
    -- two keys never lead to one session, so those who share one have the same key
    · have found := (bound one there).1
      have found' := (bound other there').1
      constructor
      · intro same
        rw [same] at found
        exact keyOf_eq_iff.1 (SessionTable.key_unique found found')
      · intro same
        rw [keyOf_eq_iff.2 same] at found
        exact Option.some.inj (found.symm.trans found')
    · obtain ⟨key, new, rfl⟩ := SessionTable.listed_of_get?_withListed absent there
      obtain ⟨peer, listed, rfl⟩ := List.mem_map.1 (mem_newKeys.1 new).1
      exact ⟨rfl, peer, listed, rfl⟩

namespace DumpTransfer

/-- An index that lists one of two routers twice. -/
def repeatedIndex : PeerIndex :=
  let peer (id last : UInt8) : Peer :=
    ⟨0, .padded 4 [10, 0, 0, id], .v4 (.padded 4 [192, 0, 2, last]), 65000⟩
  ⟨.padded 4 [10, 0, 0, 1], "", [peer 2 1, peer 3 2, peer 4 1]⟩

/-- Its record. -/
def repeatedOpening : FramedRecord where
  header := ⟨0, 13, 1, 44⟩
  body := [10, 0, 0, 1, 0, 0, 0, 3, 0, 10, 0, 0, 2, 192, 0, 2, 1, 0xFD, 0xE8,
    0, 10, 0, 0, 3, 192, 0, 2, 2, 0xFD, 0xE8, 0, 10, 0, 0, 4, 192, 0, 2, 1, 0xFD, 0xE8]
  recoveries := 0

/-- Without sessions. -/
def ownTable (limit : Nat) : OwnTable Logbook :=
  ⟨.empty (some limit), .blank⟩

/-- The record on a table with room for so many sessions. -/
def repeatedRun (limit : Nat) : (Except FeedError Unit × DumpTransfer) × OwnTable Logbook :=
  ((new .usual .label).accept repeatedOpening).run (ownTable limit)

/-- Two sessions are enough for an index of three routers, and one is not. -/
theorem indexSessions_accept_repeatedOpening :
    (∃ result left after, repeatedRun 2 = ((result, left), { ownTable 2 with sessions := after }) ∧
      IndexCourse (new .usual .label) repeatedIndex (.empty (some 2)) result left after) ∧
    (∃ result left after, repeatedRun 1 = ((result, left), { ownTable 1 with sessions := after }) ∧
      IndexCourse (new .usual .label) repeatedIndex (.empty (some 1)) result left after) ∧
    (repeatedRun 2).1.2.tables.map PeerTable.session = [⟨1⟩, ⟨2⟩, ⟨1⟩] ∧
    (repeatedRun 1).1.2.tables = [] ∧ (repeatedRun 1).2.sessions.size = 1 :=
  ⟨indexSessions_accept (unopened_new _ _) (by decide +kernel) (by decide +kernel) (ownTable 2),
    indexSessions_accept (unopened_new _ _) (by decide +kernel) (by decide +kernel) (ownTable 1),
    by decide +kernel, by decide +kernel, by decide +kernel⟩

end DumpTransfer

end CollectorFeed
