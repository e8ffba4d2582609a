import CollectorFeed.Conversation.Connection
import CollectorFeed.Proofs.Decoding.Errors
import CollectorFeed.Proofs.TableDump.Uptake

/-!
# How conversations bind sessions

A conversation creates a session only right behind a call that finds none of the key, and it passes
a message of a router on only for a session that it has found or created for the key of the message
(`Orderly`). A live feed counts as unbound the messages whose session it was denied, and a table
dump is broken off for the sake of a session if it was denied one. `Connection.ensures_run_bound`
says so of every conversation, whatever the surroundings answer.
-/

set_option autoImplicit false

namespace CollectorFeed

/-! ## Calls in order -/

namespace Exchange

/-- Whether it asks for a new session. -/
def isCreation : Exchange → Bool
  | create _ _ _ _ => true
  | _ => false

/-- Whether it passes on a message that came from a router. -/
def isRelay : Exchange → Bool
  | passOn message _ => message.origin = .fromPeer
  | _ => false

end Exchange

/-- No session is asked for, and no message of a router is passed on. -/
def Plain (made : List Exchange) : Prop :=
  ∀ exchange ∈ made, exchange.isCreation = false ∧ exchange.isRelay = false

theorem plain_nil : Plain [] :=
  List.forall_mem_nil _

theorem plain_append {front back : List Exchange} :
    Plain (front ++ back) ↔ Plain front ∧ Plain back :=
  List.forall_mem_append

/-- A session is asked for right behind a call that finds none of the key. -/
def InTurn (made : List Exchange) : Prop :=
  ∀ front key handling width? answer back,
    made = front ++ .create key handling width? answer :: back →
      ∃ earlier, front = earlier ++ [.find key none]

theorem InTurn.append {front back : List Exchange} (first : InTurn front) (second : InTurn back) :
    InTurn (front ++ back) := by
  intro before key handling width? answer after is
  rcases List.append_eq_append_iff.1 is with ⟨middle, rfl, inBack⟩ | ⟨middle, inFront, rest⟩
  · obtain ⟨earlier, rfl⟩ := second middle _ _ _ _ _ inBack
    exact ⟨front ++ earlier, (List.append_assoc _ _ _).symm⟩
  · cases middle with
    | nil =>
      -- what the second part asks for at its front has no call before it
      obtain ⟨earlier, none_⟩ := second [] _ _ _ _ _ rest.symm
      exact absurd none_ (by simp)
    | cons call middle =>
      obtain ⟨rfl, -⟩ := List.cons_eq_cons.1 rest
      exact first before _ _ _ _ middle inFront

theorem inTurn_of_forall {made : List Exchange}
    (nothing : ∀ exchange ∈ made, exchange.isCreation = false) : InTurn made := by
  intro front key handling width? answer back is
  have there : Exchange.create key handling width? answer ∈ made := by
    rw [is]
    exact List.mem_append_right _ List.mem_cons_self
  cases nothing _ there

/-- What a conversation observes in its calls. -/
structure Orderly (made : List Exchange) : Prop where
  /-- A session is asked for right behind a call that finds none of the key. -/
  inTurn : InTurn made
  /-- A message of a router is passed on for a session that its key was bound to. -/
  bound : ∀ message answer, .passOn message answer ∈ made → message.origin = .fromPeer →
    ∃ relayed, message = fromPeer message.session relayed ∧
      (LiveFeed.keyOf relayed, message.session) ∈ bindings made

namespace Orderly

theorem append {front back : List Exchange} (first : Orderly front) (second : Orderly back) :
    Orderly (front ++ back) where
  inTurn := first.inTurn.append second.inTurn
  bound message answer there relay := by
    rw [bindings_append]
    rcases List.mem_append.1 there with inFront | inBack
    · obtain ⟨relayed, is, bound⟩ := first.bound message answer inFront relay
      exact ⟨relayed, is, List.mem_append_left _ bound⟩
    · obtain ⟨relayed, is, bound⟩ := second.bound message answer inBack relay
      exact ⟨relayed, is, List.mem_append_right _ bound⟩

theorem of_plain {made : List Exchange} (plain : Plain made) : Orderly made where
  inTurn := inTurn_of_forall fun exchange there => (plain exchange there).1
  bound message answer there relay := by
    have other := (plain _ there).2
    rw [Exchange.isRelay, relay] at other
    cases other

/-- A message may be passed on once its key is bound. -/
theorem passOn {front : List Exchange} (orderly : Orderly front) {id : SessionId}
    {relayed : RelayedMessage} (bound : (LiveFeed.keyOf relayed, id) ∈ bindings front)
    (answer : Except QueueRefusal Unit) :
    Orderly (front ++ [.passOn (fromPeer id relayed) answer]) where
  inTurn := orderly.inTurn.append (inTurn_of_forall (List.forall_mem_singleton.2 rfl))
  bound message answer' there relay := by
    rw [bindings_append]
    rcases List.mem_append.1 there with inFront | last
    · obtain ⟨other, is, itsKey⟩ := orderly.bound message answer' inFront relay
      exact ⟨other, is, List.mem_append_left _ itsKey⟩
    · obtain ⟨rfl, -⟩ := Exchange.passOn.inj (List.mem_singleton.1 last)
      exact ⟨relayed, rfl, List.mem_append_left _ bound⟩

end Orderly

/-! ## Finding or creating a session -/

/-- The calls by which the session of a key is found or created. -/
inductive FoundOrCreated (key : SessionKey) :
    Except SessionRefusal (SessionId × Bool) → List Exchange → Prop
  | found (id : SessionId) : FoundOrCreated key (.ok (id, false)) [.find key (some id)]
  | created (handling : Handling) (width? : Option AsnWidth) (id : SessionId) :
      FoundOrCreated key (.ok (id, true))
        [.find key none, .create key handling width? (.ok id)]
  | denied (handling : Handling) (width? : Option AsnWidth) (refusal : SessionRefusal) :
      FoundOrCreated key (.error refusal)
        [.find key none, .create key handling width? (.error refusal)]

/-- The denials among calls, with their reasons. -/
def Exchange.denial? : Exchange → Option SessionRefusal
  | create _ _ _ (.error refusal) => some refusal
  | _ => none

/-- The reasons why sessions were denied. -/
def denials (made : List Exchange) : List SessionRefusal :=
  made.filterMap Exchange.denial?

theorem denials_append (front back : List Exchange) :
    denials (front ++ back) = denials front ++ denials back :=
  List.filterMap_append

theorem Plain.denials_eq_nil {made : List Exchange} (plain : Plain made) : denials made = [] := by
  apply List.filterMap_eq_nil_iff.2
  intro exchange there
  have other := (plain exchange there).1
  cases exchange with
  | create key handling width? answer => cases other
  | _ => rfl

namespace FoundOrCreated

variable {key : SessionKey} {result : Except SessionRefusal (SessionId × Bool)}
  {made : List Exchange}

theorem orderly (calls : FoundOrCreated key result made) : Orderly made := by
  have pair (handling : Handling) (width? : Option AsnWidth)
      (answer : Except SessionRefusal SessionId) :
      Orderly [.find key none, .create key handling width? answer] := by
    constructor
    · intro front key' handling' width?' answer' back is
      match front, is with
      | [], is => cases (List.cons_eq_cons.1 is).1
      | [.find _ none], is =>
        obtain ⟨⟨⟩, rest⟩ := List.cons_eq_cons.1 is
        obtain ⟨⟨⟩, -⟩ := List.cons_eq_cons.1 rest
        exact ⟨[], rfl⟩
      | _ :: _ :: _, is => simp at is
    · intro message answer' there
      simp at there
  cases calls with
  | found id => exact .of_plain (List.forall_mem_singleton.2 ⟨rfl, rfl⟩)
  | created handling width? id => exact pair handling width? (.ok id)
  | denied handling width? refusal => exact pair handling width? (.error refusal)

theorem mem_bindings {id : SessionId} {isNew : Bool}
    (calls : FoundOrCreated key (.ok (id, isNew)) made) : (key, id) ∈ bindings made := by
  cases calls with
  | found id => exact List.mem_cons_self
  | created handling width? id => exact List.mem_cons_self

theorem denials_eq (calls : FoundOrCreated key result made) :
    denials made = match result with
      | .ok _ => []
      | .error refusal => [refusal] := by
  cases calls <;> rfl

end FoundOrCreated

theorem Surroundings.ensures_foundOrCreated {ω : Type} [Surroundings ω] (key : SessionKey)
    (handling : Handling)
    (width? : Option AsnWidth) :
    Ensures (findOrCreate key handling width? : StateM (Minutes ω) _) (FoundOrCreated key) := by
  unfold findOrCreate
  refine .askBind fun found? => ?_
  cases found? with
  | some id => exact .pure (.found id)
  | none =>
    refine .askBind fun created => ?_
    cases created with
    | ok id => exact .pure (.created handling width? id)
    | error refusal => exact .pure (.denied handling width? refusal)

/-! ## Programs that bind nothing -/

/-- A program never asks for a session, and passes on no message of a router. -/
def StaysPlain {ω α : Type} (program : StateM (Minutes ω) α) : Prop :=
  Ensures program fun _ made => Plain made

namespace StaysPlain

variable {ω α β : Type}

theorem pure (value : α) : StaysPlain (pure value : StateM (Minutes ω) α) :=
  Ensures.pure plain_nil

theorem ask {call : StateM ω α} {line : α → Exchange}
    (plain : ∀ answer, (line answer).isCreation = false ∧ (line answer).isRelay = false) :
    StaysPlain (Minutes.ask call line) :=
  Ensures.ask fun answer => List.forall_mem_singleton.2 (plain answer)

theorem bind {program : StateM (Minutes ω) α} {next : α → StateM (Minutes ω) β}
    (first : StaysPlain program) (second : ∀ value, StaysPlain (next value)) :
    StaysPlain (program >>= next) := by
  refine Ensures.bind first fun value front plain => (second value).mono ?_
  intro result back plain'
  exact plain_append.2 ⟨plain, plain'⟩

/-- A part of a conversation is plain that creates no session and passes on no message of a router. -/
theorem inherited [Surroundings ω] :
    InheritedPlainly ω (Minutes ω) fun _ _ program => StaysPlain program where
  pure := pure
  bind := bind
  find _ := ask fun _ => ⟨rfl, rfl⟩
  setState _ _ _ := ask fun _ => ⟨rfl, rfl⟩
  state _ := ask fun _ => ⟨rfl, rfl⟩
  width _ := ask fun _ => ⟨rfl, rfl⟩
  setWidth _ _ := ask fun _ => ⟨rfl, rfl⟩
  countMessage _ := ask fun _ => ⟨rfl, rfl⟩
  deleteRoutes _ := ask fun _ => ⟨rfl, rfl⟩
  transfer _ _ := ask fun _ => ⟨rfl, rfl⟩
  isCancelled := ask fun _ => ⟨rfl, rfl⟩
  sleep _ := ask fun _ => ⟨rfl, rfl⟩
  observe _ := ask fun _ => ⟨rfl, rfl⟩

end StaysPlain

variable {ω : Type} [Surroundings ω]

/-! ## Live feeds -/

/-- The calls of a live feed are in order, and the messages that it counts as unbound go up by one
for each denial. -/
structure Counts (before after : Nat) (made : List Exchange) : Prop where
  counted : after = before + (denials made).length
  orderly : Orderly made

namespace Counts

variable {before between after : Nat} {front back made : List Exchange}

theorem trans (first : Counts before between front) (second : Counts between after back) :
    Counts before after (front ++ back) where
  counted := by
    rw [second.counted, first.counted, denials_append, List.length_append, Nat.add_assoc]
  orderly := first.orderly.append second.orderly

theorem of_plain (count : Nat) (plain : Plain made) : Counts count count made where
  counted := by rw [plain.denials_eq_nil]; rfl
  orderly := .of_plain plain

/-- More calls that bind nothing make no difference. -/
theorem plain (counts : Counts before after front) (plain : Plain back) :
    Counts before after (front ++ back) :=
  counts.trans (.of_plain after plain)

end Counts

namespace LiveFeed

theorem unbound_dropHeld (feed : LiveFeed) :
    feed.dropHeld.stats.unbound = feed.stats.unbound := by
  unfold dropHeld
  split <;> rfl

theorem unbound_noteRecord (feed : LiveFeed) (record : FramedRecord) :
    (feed.noteRecord record).stats.unbound = feed.stats.unbound := by
  unfold noteRecord
  split
  · exact unbound_dropHeld _
  · rfl

theorem ensures_submit_counts (feed : LiveFeed) (relayed : RelayedMessage) :
    Ensures (feed.submit relayed : StateM (Minutes ω) _) fun result made =>
      Counts feed.stats.unbound result.2.stats.unbound made := by
  refine .bind (Surroundings.ensures_foundOrCreated (keyOf relayed) feed.handling _) ?_
  rintro (refusal | ⟨id, isNew⟩) bound calls
  · refine .pure ?_
    rw [List.append_nil]
    exact ⟨by rw [calls.denials_eq]; rfl, calls.orderly⟩
  · refine .bind (StaysPlain.inherited.establish id) fun _ established plain => ?_
    refine .bind (StaysPlain.inherited.learnWidth id relayed.width) fun _ learnt plain' => ?_
    refine .askBind fun answer => ?_
    -- the message is passed on for the session that its key was bound to
    have front : Counts feed.stats.unbound feed.stats.unbound (bound ++ (established ++ learnt)) :=
      Counts.plain ⟨by rw [calls.denials_eq]; rfl, calls.orderly⟩ (plain_append.2 ⟨plain, plain'⟩)
    have key : (keyOf relayed, id) ∈ bindings (bound ++ (established ++ learnt)) := by
      rw [bindings_append]
      exact List.mem_append_left _ calls.mem_bindings
    have passed : Counts feed.stats.unbound feed.stats.unbound
        (bound ++ (established ++ learnt) ++ [.passOn (fromPeer id relayed) answer]) := by
      refine ⟨?_, front.orderly.passOn key answer⟩
      rw [denials_append, List.length_append]
      exact front.counted
    have counted : Plain [.countMessage id] := List.forall_mem_singleton.2 ⟨rfl, rfl⟩
    cases answer with
    | error refusal => exact .pure (by simpa [fromPeer] using passed)
    | ok _ => exact .askBind fun _ => .pure (by simpa [fromPeer] using passed.plain counted)

theorem ensures_accept_counts (feed : LiveFeed) (record : FramedRecord) :
    Ensures (feed.accept record : StateM (Minutes ω) _) fun result made =>
      Counts feed.stats.unbound result.2.stats.unbound made := by
  have noted := feed.unbound_noteRecord record
  have same (after : LiveFeed) (is : after.stats.unbound = (feed.noteRecord record).stats.unbound) :
      Counts feed.stats.unbound after.stats.unbound [] := by
    rw [is, noted]
    exact .of_plain _ plain_nil
  unfold accept
  cases LiveRecord.ofRecord record with
  | ignored subtype => exact .pure (same _ rfl)
  | corrupt reason => exact .pure (same _ (unbound_dropHeld _))
  | foreign reason => exact .pure (same _ rfl)
  | message relayed =>
    dsimp only
    unfold hold
    rcases (feed.noteRecord record).pending.confirm relayed with ⟨_ | confirmed, pending⟩
    · exact .pure (same _ rfl)
    · refine .bind (ensures_submit_counts _ confirmed) ?_
      intro result made counts
      have counts : Counts feed.stats.unbound result.2.stats.unbound made := by
        rw [← noted]
        exact counts
      rcases result with ⟨_ | _, left⟩
      · exact .pure (counts.plain plain_nil)
      · exact .pure (counts.plain plain_nil)

variable {φ : Type} [RecordSupply φ]

theorem ensures_takeRecords_counts (first? : Option FramedRecord) (supply : φ) (feed : LiveFeed) :
    Ensures (takeRecords first? supply feed : StateM (Minutes ω) _) fun result made =>
      Counts feed.stats.unbound result.2.2.stats.unbound made := by
  have look (stopped : Bool) : Plain [.isCancelled stopped] :=
    List.forall_mem_singleton.2 ⟨rfl, rfl⟩
  have watch (supply : φ) : Plain [.observe (RecordSupply.touched supply)] :=
    List.forall_mem_singleton.2 ⟨rfl, rfl⟩
  induction size : RecordSupply.left supply + first?.toList.length using Nat.strongRecOn
    generalizing first? supply feed with
  | ind size ih =>
    rw [takeRecords]
    refine .askBind fun stopped => ?_
    split
    · exact .pure (.of_plain _ (look stopped))
    · split
      next reason after fetched =>
        refine .watchBind ?_
        have ended : Plain [.isCancelled stopped, .observe (RecordSupply.touched after)] :=
          plain_append.2 ⟨look stopped, watch after⟩
        split
        · exact .pure (.of_plain _ ended)
        · refine .pure ?_
          rw [feed.unbound_dropHeld]
          exact .of_plain _ ended
      next record after fetched =>
        refine .watchBind (.bind (ensures_accept_counts feed record) ?_)
        have smaller := left_of_fetch fetched
        intro result front counts
        -- what was looked at in front of the record counts nothing
        have counts := (Counts.of_plain _
          (plain_append.2 ⟨look stopped, watch after⟩)).trans counts
        rcases result with ⟨_ | _ | outcome, left⟩
        · refine (ih _ (by simpa [size] using smaller) none after left rfl).mono ?_
          intro final back later
          exact counts.trans later
        · dsimp only
          split
          next reason behind scanned =>
            exact .watchBind (.pure (counts.plain (watch behind)))
          next length behind scanned =>
            have smaller' := RecordSupply.left_le_of_rescan scanned
            refine .watchBind ((ih _ ?_ none behind left rfl).mono ?_)
            · rw [← size]
              exact Nat.lt_of_le_of_lt smaller' smaller
            · intro final back later
              exact counts.trans ((Counts.of_plain _ (watch behind)).trans later)
        · exact .pure (counts.plain plain_nil)

theorem ensures_submitLast_counts (feed : LiveFeed) :
    Ensures (feed.submitLast : StateM (Minutes ω) _) fun after made =>
      Counts feed.stats.unbound after.stats.unbound made := by
  unfold submitLast
  rcases feed.pending.release with ⟨_ | relayed, pending⟩
  · exact .pure (.of_plain _ plain_nil)
  · refine .bind (ensures_submit_counts _ relayed) fun result made counts => ?_
    exact .pure (counts.plain plain_nil)

/-- A live feed counts as unbound the messages whose session it was denied. -/
theorem ensures_run_counts (feed : LiveFeed) (first? : Option FramedRecord) (supply : φ) :
    Ensures (feed.run first? supply : StateM (Minutes ω) _) fun result made =>
      Counts feed.stats.unbound result.1.unbound made := by
  refine .bind (ensures_takeRecords_counts first? supply feed) ?_
  rintro ⟨outcome, final, taken⟩ front counts
  refine .bind (ensures_submitLast_counts taken) fun left last counts' => ?_
  refine .bind (StaysPlain.inherited.markStopped left.fed) fun _ marked plain => .pure ?_
  exact counts.trans (counts'.trans (.of_plain _ (plain_append.2 ⟨plain, plain_nil⟩)))

end LiveFeed

/-! ## Table dumps -/

/-- A program that needs sessions keeps order in its calls, and fails with the reason for which it
was denied one. -/
structure Needs {α : Type} (result : Except SessionRefusal α) (made : List Exchange) : Prop where
  orderly : Orderly made
  denied : denials made = match result with
    | .ok _ => []
    | .error refusal => [refusal]

/-- A table dump keeps order in its calls, and it ends for the sake of a session if it was denied
one. -/
structure EndsIfDenied (outcome : Except FeedError Unit) (made : List Exchange) : Prop where
  orderly : Orderly made
  denied_iff : ∀ refusal, outcome = .error (.session refusal) ↔ refusal ∈ denials made

theorem EndsIfDenied.of_plain {outcome : Except FeedError Unit} {made : List Exchange}
    (other : ∀ refusal, outcome ≠ .error (.session refusal)) (plain : Plain made) :
    EndsIfDenied outcome made where
  orderly := .of_plain plain
  denied_iff refusal := by
    rw [plain.denials_eq_nil]
    exact ⟨fun is => absurd is (other refusal), fun there => absurd there List.not_mem_nil⟩

theorem EndsIfDenied.append {outcome : Except FeedError Unit} {front back : List Exchange}
    (orderly : Orderly front) (granted : denials front = []) (ends : EndsIfDenied outcome back) :
    EndsIfDenied outcome (front ++ back) where
  orderly := orderly.append ends.orderly
  denied_iff refusal := by
    rw [denials_append, granted, List.nil_append]
    exact ends.denied_iff refusal

theorem FeedError.ne_session_of_isOfDump {e : FeedError} (ofDump : e.isOfDump = true)
    (refusal : SessionRefusal) : e ≠ .session refusal := by
  rintro rfl
  cases ofDump

theorem FeedError.ne_session_of_isOfStream {e : FeedError} (ofStream : e.isOfStream = true)
    (refusal : SessionRefusal) : e ≠ .session refusal := by
  rintro rfl
  cases ofStream

namespace DumpTransfer

theorem ensures_bindPeer_needs (settings : DumpSettings) (handling : Handling) (collector : Quad)
    (peer : Peer) :
    Ensures (bindPeer settings handling collector peer : StateM (Minutes ω) _) Needs := by
  refine .bind (Surroundings.ensures_foundOrCreated _ handling none) ?_
  rintro (refusal | ⟨id, isNew⟩) front calls
  · refine .pure ?_
    rw [List.append_nil]
    exact ⟨calls.orderly, calls.denials_eq⟩
  · cases isNew with
    | true =>
      have plain : Plain [.setState id .provisional .manualStop] :=
        List.forall_mem_singleton.2 ⟨rfl, rfl⟩
      refine .askBind fun _ => .pure ⟨calls.orderly.append (.of_plain plain), ?_⟩
      rw [denials_append, calls.denials_eq, plain.denials_eq_nil]
      rfl
    | false =>
      refine .pure ?_
      rw [List.append_nil]
      exact ⟨calls.orderly, calls.denials_eq⟩

theorem ensures_bindPeers_needs (settings : DumpSettings) (handling : Handling) (collector : Quad)
    (peers : List Peer) :
    Ensures (bindPeers settings handling collector peers : StateM (Minutes ω) _) Needs := by
  induction peers with
  | nil => exact .pure ⟨.of_plain plain_nil, rfl⟩
  | cons peer rest ih =>
    unfold bindPeers
    refine .bind (ensures_bindPeer_needs settings handling collector peer) ?_
    rintro (refusal | table) front needs
    · refine .pure ?_
      rw [List.append_nil]
      exact ⟨needs.orderly, needs.denied⟩
    · refine .bind ih ?_
      have none_ : denials front = [] := needs.denied
      rintro (refusal | tables) back needs'
      all_goals
        refine .pure ?_
        rw [List.append_nil]
        refine ⟨needs.orderly.append needs'.orderly, ?_⟩
        rw [denials_append, none_, List.nil_append]
        exact needs'.denied

/-- The record that opens a dump breaks it off for the sake of a session if one is denied. -/
theorem ensures_acceptIndex_ends (dump : DumpTransfer) (record : FramedRecord) :
    Ensures (dump.acceptIndex record : StateM (Minutes ω) _) fun result made =>
      EndsIfDenied result.1 made := by
  unfold acceptIndex
  split
  · exact .pure (.of_plain (fun refusal => nofun) plain_nil)
  · split
    next e failed =>
      refine .pure (.of_plain ?_ plain_nil)
      intro refusal is
      exact FeedError.ne_session_of_isOfDump (TableDumpRecord.isOfDump_decode failed) refusal
        (Except.error.inj is)
    next index decoded =>
      refine .bind (ensures_bindPeers_needs _ _ _ _) ?_
      rintro (refusal | tables) made needs
      all_goals
        refine .pure ?_
        rw [List.append_nil]
        refine ⟨needs.orderly, fun other => ?_⟩
        rw [needs.denied]
        simp [eq_comm]
    next => exact .pure (.of_plain (fun refusal => nofun) plain_nil)

/-- Behind the index no record breaks a dump off for the sake of a session. -/
theorem ne_session_acceptRoutes (dump : DumpTransfer) (record : FramedRecord)
    (refusal : SessionRefusal) : (dump.acceptRoutes record).1 ≠ .error (.session refusal) := by
  change (if record.header.knownType? = some .tableDumpV2 then
    (dump.clearFor record).acceptDecoded record.header.type record.header.subtype
      (TableDumpRecord.decode record.header.subtype record.body)
    else _).1 ≠ _
  split
  · unfold acceptDecoded
    split <;> nofun
  · nofun

/-- The taking in did not end for the sake of a session. -/
def Spared : Intake → Prop
  | .brokenOff e => ∀ refusal, e ≠ .session refusal
  | .over outcome => ∀ refusal, outcome ≠ .error (.session refusal)

theorem spared_over_ok : Spared (.over (.ok ())) := by
  intro refusal is
  cases is

/-- Behind the index no session is asked for. -/
theorem ensures_takeRecords_plain (supply : Framer) (dump : DumpTransfer) :
    Ensures (takeRecords supply dump : StateM (Minutes ω) _) fun result made =>
      Plain made ∧ Spared result.1 := by
  induction size : RecordSupply.left supply using Nat.strongRecOn generalizing supply dump with
  | ind size ih =>
    rw [takeRecords]
    split
    · exact .pure ⟨plain_nil, spared_over_ok⟩
    next taking =>
      have looked (stopped : Bool) (touched : Nat) :
          Plain [.isCancelled stopped, .observe touched] :=
        List.forall_mem_cons.2 ⟨⟨rfl, rfl⟩, List.forall_mem_singleton.2 ⟨rfl, rfl⟩⟩
      refine .askBind fun stopped => ?_
      split
      · exact .pure ⟨List.forall_mem_singleton.2 ⟨rfl, rfl⟩, spared_over_ok⟩
      · split
        next e after failed =>
          refine .watchBind ?_
          have other := FeedError.ne_session_of_isOfStream (Framer.isOfStream_next failed)
          split
          · exact .pure ⟨looked stopped _, spared_over_ok⟩
          · refine .pure ⟨looked stopped _, fun refusal is => other refusal ?_⟩
            exact Except.error.inj is
        next record after read =>
          refine .watchBind ?_
          have pure_accept : (dump.accept record : StateM (Minutes ω) _) =
              pure (dump.noteRecord.acceptRoutes record) := by
            rw [accept, not_not.1 taking]
          rw [pure_accept, pure_bind]
          have smaller := RecordSupply.left_lt_of_next read
          have other := dump.noteRecord.ne_session_acceptRoutes record
          rcases accepted : dump.noteRecord.acceptRoutes record with ⟨e | _, left⟩
          · refine .pure ⟨looked stopped _, fun refusal is => other refusal ?_⟩
            rw [accepted, is]
          · refine (ih _ (by rw [← size]; exact smaller) after left rfl).mono ?_
            rintro result made ⟨plain, spared⟩
            exact ⟨plain_append.2 ⟨looked stopped _, plain⟩, spared⟩

theorem ensures_run_ends (settings : DumpSettings) (handling : Handling) (first : FramedRecord)
    (supply : Framer) :
    Ensures ((new settings handling).run first supply : StateM (Minutes ω) _) fun result made =>
      EndsIfDenied result.2.1 made := by
  refine .bind (ensures_acceptIndex_ends (new settings handling).noteRecord first) ?_
  rintro ⟨e | _, taken⟩ front ends
  · refine .pure ?_
    rw [List.append_nil]
    exact ends
  · have granted : denials front = [] := by
      apply List.eq_nil_iff_forall_not_mem.2
      intro refusal there
      cases (ends.denied_iff refusal).2 there
    unfold proceed
    refine .bind (ensures_takeRecords_plain supply taken) ?_
    rintro ⟨e | outcome, behind, left⟩ middle ⟨plain, spared⟩
    · refine .pure (.append ends.orderly granted ?_)
      rw [List.append_nil]
      exact .of_plain (fun refusal is => spared refusal (Except.error.inj is)) plain
    · refine .bind (StaysPlain.inherited.handOver left.closeIntake) fun _ last plain' => .pure ?_
      refine .append ends.orderly granted (.of_plain spared ?_)
      exact plain_append.2 ⟨plain, plain_append.2 ⟨plain', plain_nil⟩⟩

end DumpTransfer

/-! ## Connections -/

/-- What a conversation makes of the sessions that it is denied. -/
structure BoundInTurn (carried : Carried) (outcome : Except FeedError Unit)
    (made : List Exchange) : Prop where
  /-- Its calls are in order. -/
  orderly : Orderly made
  /-- A live feed counts the denials. -/
  unbound : ∀ stats, carried = .live stats → stats.unbound = (denials made).length
  /-- A table dump is broken off by one. -/
  brokenOff : ∀ stats, carried = .tableDump stats →
    ∀ refusal, outcome = .error (.session refusal) ↔ refusal ∈ denials made

namespace BoundInTurn

variable {carried : Carried} {outcome : Except FeedError Unit} {front made back : List Exchange}

/-- Calls that bind nothing may stand in front. -/
theorem behind (bound : BoundInTurn carried outcome made) (plain : Plain front) :
    BoundInTurn carried outcome (front ++ made) := by
  have same : denials (front ++ made) = denials made := by
    rw [denials_append, plain.denials_eq_nil, List.nil_append]
  refine ⟨(Orderly.of_plain plain).append bound.orderly, ?_, ?_⟩
  · rw [same]
    exact bound.unbound
  · rw [same]
    exact bound.brokenOff

/-- Calls that bind nothing may stand behind. -/
theorem before (bound : BoundInTurn carried outcome made) (plain : Plain back) :
    BoundInTurn carried outcome (made ++ back) := by
  have same : denials (made ++ back) = denials made := by
    rw [denials_append, plain.denials_eq_nil, List.append_nil]
  refine ⟨bound.orderly.append (.of_plain plain), ?_, ?_⟩
  · rw [same]
    exact bound.unbound
  · rw [same]
    exact bound.brokenOff

theorem empty (outcome : Except FeedError Unit) (plain : Plain made) :
    BoundInTurn .empty outcome made where
  orderly := .of_plain plain
  unbound := by
    intro stats other
    cases other
  brokenOff := by
    intro stats other
    cases other

end BoundInTurn

namespace Connection

variable {α : Type}

theorem ensures_converse_bound (settings : FeedSettings α) (first : FramedRecord)
    (supply : Framer) :
    Ensures (converse settings first supply : StateM (Minutes ω) _) fun result made =>
      BoundInTurn result.1 result.2.1 made := by
  unfold converse
  split
  · refine .bind (DumpTransfer.ensures_run_ends _ _ first supply) fun result made ends => .pure ?_
    rw [List.append_nil]
    refine ⟨ends.orderly, fun stats other => ?_, fun stats _ => ends.denied_iff⟩
    cases other
  · refine .bind (LiveFeed.ensures_run_counts _ _ _) fun result made counts => .pure ?_
    rw [List.append_nil]
    refine ⟨counts.orderly, fun stats is => ?_, fun stats other => ?_⟩
    · rw [← Carried.live.inj is]
      exact counts.counted.trans (Nat.zero_add _)
    · cases other

theorem ensures_carry_bound (settings : FeedSettings α) (supply : Framer) :
    Ensures (carry settings supply : StateM (Minutes ω) _) fun result made =>
      BoundInTurn result.1 result.2.1 made := by
  have watched (supply : Framer) : Plain [.observe (RecordSupply.touched supply)] :=
    List.forall_mem_singleton.2 ⟨rfl, rfl⟩
  unfold carry
  rcases RecordSupply.next supply with ⟨e | first, behind⟩
  · exact .watchBind (.pure (.empty _ (watched behind)))
  · refine .watchBind ((ensures_converse_bound settings first behind).mono ?_)
    intro result made bound
    exact bound.behind (watched behind)

/-- Whatever the surroundings answer: a conversation asks for sessions in order, a live feed counts
those that it is denied, and a table dump is broken off by one. -/
theorem ensures_run_bound (number : Nat) (settings : FeedSettings α) (source : Source) :
    Ensures (run number settings source : StateM (Minutes ω) _) fun report made =>
      BoundInTurn report.carried report.outcome made := by
  refine .bind (ensures_carry_bound settings _) fun result made bound => ?_
  refine .askBind fun stopped => .pure (bound.before ?_)
  exact List.forall_mem_singleton.2 ⟨rfl, rfl⟩

end Connection

end CollectorFeed
