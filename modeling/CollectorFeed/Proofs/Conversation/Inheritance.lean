import CollectorFeed.Conversation.Connection

/-!
# What goes through whole conversations

A conversation is made of calls on its surroundings, one after the other. So a relation between
programs that each call has to itself, in two surroundings, and that goes through sequences of
programs, is one that every conversation has to itself (`Inherited.connection_run`). A property of
programs is such a relation that does not look at one of the two.

Some properties are lost with a call that creates a session or passes on a message of a router. They
still go through every part of a conversation that makes no such call (`InheritedPlainly`), and a
whole hand-over is one (`InheritedPlainly.handOver`). Each function of a conversation is walked through
once, here; loops go by induction on what they are about to use up.
-/

set_option autoImplicit false

namespace CollectorFeed

/-- A relation between programs in two surroundings goes through sequences of programs, and calls have
it that neither create a session nor pass on a message of a router. -/
structure InheritedPlainly (ω ω' : Type) [Surroundings ω] [Surroundings ω']
    (related : ∀ α : Type, StateM ω α → StateM ω' α → Prop) : Prop where
  pure : ∀ {α : Type} (value : α), related α (pure value) (pure value)
  bind : ∀ {α β : Type} {program : StateM ω α} {program' : StateM ω' α}
    {next : α → StateM ω β} {next' : α → StateM ω' β}, related α program program' →
    (∀ value, related β (next value) (next' value)) →
      related β (program >>= next) (program' >>= next')
  find : ∀ key, related _ (Surroundings.find key) (Surroundings.find key)
  setState : ∀ id state cause,
    related _ (Surroundings.setState id state cause) (Surroundings.setState id state cause)
  state : ∀ id, related _ (Surroundings.state id) (Surroundings.state id)
  width : ∀ id, related _ (Surroundings.width id) (Surroundings.width id)
  setWidth : ∀ id width,
    related _ (Surroundings.setWidth id width) (Surroundings.setWidth id width)
  countMessage : ∀ id, related _ (Surroundings.countMessage id) (Surroundings.countMessage id)
  deleteRoutes : ∀ id, related _ (Surroundings.deleteRoutes id) (Surroundings.deleteRoutes id)
  transfer : ∀ id octets, related _ (Surroundings.passOn ⟨id, .tableTransfer, octets⟩)
    (Surroundings.passOn ⟨id, .tableTransfer, octets⟩)
  isCancelled : related _ Surroundings.isCancelled Surroundings.isCancelled
  sleep : ∀ milliseconds,
    related _ (Surroundings.sleep milliseconds) (Surroundings.sleep milliseconds)
  observe : ∀ touched, related _ (Surroundings.observe touched) (Surroundings.observe touched)

/-- Such a relation that the other calls have as well. -/
structure Inherited (ω ω' : Type) [Surroundings ω] [Surroundings ω']
    (related : ∀ α : Type, StateM ω α → StateM ω' α → Prop) : Prop
    extends InheritedPlainly ω ω' related where
  create : ∀ key handling width?, related _ (Surroundings.create key handling width?)
    (Surroundings.create key handling width?)
  relay : ∀ id octets, related _ (Surroundings.passOn ⟨id, .fromPeer, octets⟩)
    (Surroundings.passOn ⟨id, .fromPeer, octets⟩)

variable {ω ω' φ : Type} [Surroundings ω] [Surroundings ω'] [RecordSupply φ]
  {related : ∀ α : Type, StateM ω α → StateM ω' α → Prop}

omit [Surroundings ω] [Surroundings ω'] in
theorem related_ite {α : Type} {condition : Prop} [Decidable condition] {first second : StateM ω α}
    {first' second' : StateM ω' α} (then_ : related α first first')
    (else_ : related α second second') :
    related α (if condition then first else second) (if condition then first' else second') := by
  split
  · exact then_
  · exact else_

/-! ## Calls that bind no session -/

namespace InheritedPlainly

theorem watch (inherited : InheritedPlainly ω ω' related) (supply : φ) :
    related _ (Surroundings.watch supply) (Surroundings.watch supply) :=
  inherited.observe _

theorem establish (inherited : InheritedPlainly ω ω' related) (id : SessionId) :
    related _ (LiveFeed.establish id) (LiveFeed.establish id) :=
  inherited.bind (inherited.state id) fun _ =>
    related_ite (inherited.setState _ _ _) (inherited.pure _)

theorem learnWidth (inherited : InheritedPlainly ω ω' related) (id : SessionId) (width : AsnWidth) :
    related _ (LiveFeed.learnWidth id width) (LiveFeed.learnWidth id width) :=
  inherited.bind (inherited.width id) fun _ =>
    related_ite (inherited.setWidth _ _) (inherited.pure _)

theorem markStopped (inherited : InheritedPlainly ω ω' related) (ids : List SessionId) :
    related _ (LiveFeed.markStopped ids) (LiveFeed.markStopped ids) := by
  induction ids with
  | nil => exact inherited.pure _
  | cons id rest ih => exact inherited.bind (inherited.setState _ _ _) fun _ => ih

/-! ## Handing over -/

theorem sendRoutes (inherited : InheritedPlainly ω ω' related) (session : SessionId)
    (width : AsnWidth) (sent : Nat) (routes : List DumpedRoute) :
    related _ (PeerTable.sendRoutes session width sent routes)
      (PeerTable.sendRoutes session width sent routes) := by
  induction routes generalizing sent with
  | nil => exact inherited.pure _
  | cons route rest ih =>
    unfold PeerTable.sendRoutes
    cases route.updateMessage width with
    | error e => exact ih sent
    | ok octets =>
      refine inherited.bind (inherited.transfer session octets) fun answer => ?_
      cases answer with
      | error refusal => exact inherited.pure _
      | ok _ => exact inherited.bind (inherited.countMessage session) fun _ => ih (sent + 1)

theorem flush (inherited : InheritedPlainly ω ω' related) (table : PeerTable) :
    related _ table.flush table.flush :=
  inherited.bind (inherited.width _) fun _ =>
    inherited.bind (inherited.sendRoutes _ _ _ _) fun _ => inherited.pure _

theorem clean (inherited : InheritedPlainly ω ω' related) (table : PeerTable) :
    related _ table.clean table.clean :=
  inherited.bind (inherited.setState _ _ _) fun _ =>
    inherited.bind (inherited.deleteRoutes _) fun _ => inherited.pure _

theorem visit (inherited : InheritedPlainly ω ω' related) (table : PeerTable)
    (report : HandoverReport) :
    related _ (Handover.visit table report) (Handover.visit table report) := by
  unfold Handover.visit
  refine related_ite (inherited.pure _) (inherited.bind (inherited.state _) fun state? => ?_)
  refine related_ite (inherited.pure _) (related_ite (related_ite (inherited.pure _) ?_) ?_)
  -- the session is established: a router without routes is cleaned, any other one is handed over
  · exact inherited.bind (inherited.clean table) fun _ => inherited.pure _
  · refine inherited.bind (inherited.flush table) ?_
    rintro ⟨_ | sent, left⟩
    · exact inherited.pure _
    · exact inherited.pure _

theorem round (inherited : InheritedPlainly ω ω' related) (tables : List PeerTable)
    (report : HandoverReport) :
    related _ (Handover.round tables report) (Handover.round tables report) := by
  induction tables generalizing report with
  | nil => exact inherited.pure _
  | cons table rest ih =>
    refine inherited.bind (inherited.visit table report) fun visited => ?_
    refine related_ite ?_ (inherited.pure _)
    exact inherited.bind (ih _) fun _ => inherited.pure _

theorem rounds (inherited : InheritedPlainly ω ω' related) (interval attempts : Nat)
    (tables : List PeerTable) (report : HandoverReport) :
    related _ (Handover.rounds interval attempts tables report)
      (Handover.rounds interval attempts tables report) := by
  induction attempts generalizing tables report with
  | zero => exact inherited.pure _
  | succ attempts ih =>
    refine inherited.bind inherited.isCancelled fun _ => related_ite (inherited.pure _) ?_
    refine related_ite (inherited.pure _) ?_
    refine inherited.bind (inherited.round tables report) fun _ => ?_
    refine related_ite (inherited.pure _) ?_
    exact inherited.bind (inherited.sleep _) fun _ => ih _ _

theorem sweep (inherited : InheritedPlainly ω ω' related) (tables : List PeerTable)
    (report : HandoverReport) :
    related _ (Handover.sweep tables report) (Handover.sweep tables report) := by
  induction tables generalizing report with
  | nil => exact inherited.pure _
  | cons table rest ih =>
    refine related_ite (inherited.bind (ih _) fun _ => inherited.pure _) ?_
    refine inherited.bind (inherited.clean table) fun _ => ?_
    exact inherited.bind (ih _) fun _ => inherited.pure _

/-- A hand-over creates no session and passes on no message of a router. -/
theorem handOver (inherited : InheritedPlainly ω ω' related) (dump : DumpTransfer) :
    related _ dump.handOver dump.handOver := by
  refine inherited.bind (inherited.rounds _ _ _ _) fun _ => ?_
  refine inherited.bind (related_ite (inherited.pure _) ?_) fun _ => inherited.pure _
  -- behind the rounds there is one more look before the sweep
  refine inherited.bind inherited.isCancelled fun _ => related_ite (inherited.pure _) ?_
  exact inherited.sweep _ _

end InheritedPlainly

/-! ## Live feeds -/

namespace Inherited

theorem findOrCreate (inherited : Inherited ω ω' related) (key : SessionKey) (handling : Handling)
    (width? : Option AsnWidth) :
    related _ (Surroundings.findOrCreate key handling width?)
      (Surroundings.findOrCreate key handling width?) := by
  refine inherited.bind (inherited.find key) fun found? => ?_
  cases found? with
  | some id => exact inherited.pure _
  | none =>
    refine inherited.bind (inherited.create _ _ _) fun created => ?_
    cases created with
    | ok id => exact inherited.pure _
    | error refusal => exact inherited.pure _

theorem submit (inherited : Inherited ω ω' related) (feed : LiveFeed) (relayed : RelayedMessage) :
    related _ (feed.submit relayed) (feed.submit relayed) := by
  refine inherited.bind (inherited.findOrCreate _ _ _) ?_
  rintro (refusal | ⟨id, isNew⟩)
  · exact inherited.pure _
  · refine inherited.bind (inherited.establish id) fun _ => ?_
    refine inherited.bind (inherited.learnWidth id relayed.width) fun _ => ?_
    refine inherited.bind (inherited.relay id relayed.message) fun answer => ?_
    cases answer with
    | error refusal => exact inherited.pure _
    | ok _ => exact inherited.bind (inherited.countMessage id) fun _ => inherited.pure _

theorem liveFeed_accept (inherited : Inherited ω ω' related) (feed : LiveFeed)
    (record : FramedRecord) :
    related _ (feed.accept record) (feed.accept record) := by
  unfold LiveFeed.accept
  cases LiveRecord.ofRecord record with
  | ignored subtype => exact inherited.pure _
  | corrupt reason => exact inherited.pure _
  | foreign reason => exact inherited.pure _
  | message relayed =>
    dsimp only
    unfold LiveFeed.hold
    rcases (feed.noteRecord record).pending.confirm relayed with ⟨_ | confirmed, pending⟩
    · exact inherited.pure _
    · refine inherited.bind (inherited.submit _ _) ?_
      rintro ⟨_ | _, left⟩
      · exact inherited.pure _
      · exact inherited.pure _

/-- By induction on what is left of the supply, which every record uses up. -/
theorem liveFeed_takeRecords (inherited : Inherited ω ω' related) (first? : Option FramedRecord)
    (supply : φ) (feed : LiveFeed) :
    related _ (LiveFeed.takeRecords first? supply feed)
      (LiveFeed.takeRecords first? supply feed) := by
  induction size : RecordSupply.left supply + first?.toList.length using Nat.strongRecOn
    generalizing first? supply feed with
  | ind size ih =>
    rw [LiveFeed.takeRecords, LiveFeed.takeRecords]
    refine inherited.bind inherited.isCancelled fun stopped => related_ite (inherited.pure _) ?_
    split
    next reason after fetched =>
      refine inherited.bind (inherited.watch _) fun _ => ?_
      exact related_ite (inherited.pure _) (inherited.pure _)
    next record after fetched =>
      have smaller := LiveFeed.left_of_fetch fetched
      refine inherited.bind (inherited.watch _) fun _ => ?_
      refine inherited.bind (inherited.liveFeed_accept feed record) ?_
      -- the feed goes on, goes on behind a scan, or has ended
      rintro ⟨_ | _ | outcome, left⟩
      · exact ih _ (by simpa [size] using smaller) none after left rfl
      · dsimp only
        split
        next reason behind scanned =>
          exact inherited.bind (inherited.watch _) fun _ => inherited.pure _
        next length behind scanned =>
          have smaller' := RecordSupply.left_le_of_rescan scanned
          refine inherited.bind (inherited.watch _) fun _ => ih _ ?_ none behind left rfl
          rw [← size]
          exact Nat.lt_of_le_of_lt smaller' smaller
      · exact inherited.pure _

theorem liveFeed_run (inherited : Inherited ω ω' related) (feed : LiveFeed)
    (first? : Option FramedRecord) (supply : φ) :
    related _ (feed.run first? supply) (feed.run first? supply) := by
  refine inherited.bind (inherited.liveFeed_takeRecords first? supply feed) ?_
  rintro ⟨outcome, final, taken⟩
  refine inherited.bind ?_ fun left =>
    inherited.bind (inherited.markStopped left.fed) fun _ => inherited.pure _
  unfold LiveFeed.submitLast
  rcases taken.pending.release with ⟨_ | relayed, pending⟩
  · exact inherited.pure _
  · exact inherited.bind (inherited.submit _ _) fun _ => inherited.pure _

/-! ## Table dumps -/

theorem bindPeer (inherited : Inherited ω ω' related) (settings : DumpSettings)
    (handling : Handling) (collector : Quad) (peer : Peer) :
    related _ (DumpTransfer.bindPeer settings handling collector peer)
      (DumpTransfer.bindPeer settings handling collector peer) := by
  refine inherited.bind (inherited.findOrCreate _ _ _) ?_
  rintro (refusal | ⟨id, isNew⟩)
  · exact inherited.pure _
  · cases isNew with
    | true => exact inherited.bind (inherited.setState _ _ _) fun _ => inherited.pure _
    | false => exact inherited.pure _

theorem bindPeers (inherited : Inherited ω ω' related) (settings : DumpSettings)
    (handling : Handling) (collector : Quad) (peers : List Peer) :
    related _ (DumpTransfer.bindPeers settings handling collector peers)
      (DumpTransfer.bindPeers settings handling collector peers) := by
  induction peers with
  | nil => exact inherited.pure _
  | cons peer rest ih =>
    refine inherited.bind (inherited.bindPeer settings handling collector peer) ?_
    rintro (refusal | table)
    · exact inherited.pure _
    · refine inherited.bind ih ?_
      rintro (refusal | tables)
      · exact inherited.pure _
      · exact inherited.pure _

theorem dumpTransfer_accept (inherited : Inherited ω ω' related) (dump : DumpTransfer)
    (record : FramedRecord) :
    related _ (dump.accept record) (dump.accept record) := by
  unfold DumpTransfer.accept
  cases dump.phase with
  | opening =>
    dsimp only
    unfold DumpTransfer.acceptIndex
    refine related_ite (inherited.pure _) ?_
    split
    · exact inherited.pure _
    · refine inherited.bind (inherited.bindPeers _ _ _ _) ?_
      rintro (refusal | tables)
      · exact inherited.pure _
      · exact inherited.pure _
    · exact inherited.pure _
  | intake => exact inherited.pure _
  | handover => exact inherited.pure _
  | done => exact inherited.pure _

/-- By induction on what is left of the supply. -/
theorem dumpTransfer_takeRecords (inherited : Inherited ω ω' related) (supply : φ)
    (dump : DumpTransfer) :
    related _ (DumpTransfer.takeRecords supply dump) (DumpTransfer.takeRecords supply dump) := by
  induction size : RecordSupply.left supply using Nat.strongRecOn generalizing supply dump with
  | ind size ih =>
    rw [DumpTransfer.takeRecords, DumpTransfer.takeRecords]
    refine related_ite (inherited.pure _) ?_
    refine inherited.bind inherited.isCancelled fun stopped => related_ite (inherited.pure _) ?_
    split
    next e after failed =>
      refine inherited.bind (inherited.watch _) fun _ => ?_
      exact related_ite (inherited.pure _) (inherited.pure _)
    next record after read =>
      refine inherited.bind (inherited.watch _) fun _ => ?_
      refine inherited.bind (inherited.dumpTransfer_accept dump record) ?_
      rintro ⟨e | _, left⟩
      · exact inherited.pure _
      · exact ih _ (by rw [← size]; exact RecordSupply.left_lt_of_next read) after left rfl

theorem dumpTransfer_run (inherited : Inherited ω ω' related) (dump : DumpTransfer)
    (first : FramedRecord) (supply : φ) :
    related _ (dump.run first supply) (dump.run first supply) := by
  refine inherited.bind (inherited.dumpTransfer_accept dump first) ?_
  rintro ⟨e | _, taken⟩
  · exact inherited.pure _
  · refine inherited.bind (inherited.dumpTransfer_takeRecords supply taken) ?_
    rintro ⟨e | outcome, behind, left⟩
    · exact inherited.pure _
    · exact inherited.bind (inherited.handOver left.closeIntake) fun _ => inherited.pure _

/-! ## Connections -/

/-- What each call has and goes through sequences, a whole connection has. -/
theorem connection_run (inherited : Inherited ω ω' related) {α : Type} (number : Nat)
    (settings : FeedSettings α) (source : Source) :
    related _ (Connection.run number settings source) (Connection.run number settings source) := by
  refine inherited.bind ?_ fun result =>
    inherited.bind inherited.isCancelled fun stopped => inherited.pure _
  unfold Connection.carry
  rcases RecordSupply.next (Framer.ofSource source settings.limits) with ⟨e | first, supply⟩
  · exact inherited.bind (inherited.watch _) fun _ => inherited.pure _
  · refine inherited.bind (inherited.watch _) fun _ => related_ite ?_ ?_
    · exact inherited.bind (inherited.dumpTransfer_run _ first supply) fun _ => inherited.pure _
    · exact inherited.bind (inherited.liveFeed_run _ _ supply) fun _ => inherited.pure _

end Inherited

end CollectorFeed
