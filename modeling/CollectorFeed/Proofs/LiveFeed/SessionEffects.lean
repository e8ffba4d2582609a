import CollectorFeed.Proofs.LiveFeed.SubmissionEffects
import Mathlib.Data.List.Dedup

/-!
# What a live feed makes of its sessions

The sessions through which the messages of a feed went are stopped when it has ended. Put behind the
submissions, this tells the table that a feed leaves: which sessions there are, what is known of each
of them, and how they agree with the counters of the feed. Main statement:
`LiveFeed.sessionEffects_run`.
-/

set_option autoImplicit false

namespace CollectorFeed

open LiveFeed (keyOf)

/-! ## The end of the feed -/

/-- The table when the feed of some sessions has ended. -/
def SessionTable.stopAll (table : SessionTable) (ids : List SessionId) : SessionTable :=
  ids.foldl (fun table id => table.update id SessionFacts.stopped) table

theorem Answers.stopAll {table after : SessionTable} {ids : List SessionId}
    (answers : Answers table (stopCalls ids) after) : after = table.stopAll ids := by
  induction ids generalizing table with
  | nil => exact nil_iff.1 answers
  | cons id rest ih =>
    obtain ⟨-, others⟩ := cons_iff.1 answers
    exact ih others

namespace SessionTable

variable (table : SessionTable) (ids : List SessionId)

theorem limit?_stopAll : (table.stopAll ids).limit? = table.limit? := by
  induction ids generalizing table with
  | nil => rfl
  | cons id rest ih => exact (ih _).trans (table.limit?_update id _)

/-- Nothing but state and cause of sessions changes. -/
theorem map_known_stopAll {β : Type} {read : SessionFacts → β}
    (keeps : ∀ facts, read (SessionFacts.stopped facts) = read facts) :
    (table.stopAll ids).known.map read = table.known.map read := by
  induction ids generalizing table with
  | nil => rfl
  | cons id rest ih => exact (ih _).trans (table.map_known_update id keeps)

theorem get?_stopAll (id : SessionId) :
    (table.stopAll ids).get? id =
      if id ∈ ids then (table.get? id).map SessionFacts.stopped else table.get? id := by
  induction ids generalizing table with
  | nil => rfl
  | cons first rest ih =>
    have now := ih (table.update first SessionFacts.stopped)
    change (stopAll _ rest).get? id = _
    rw [now]
    by_cases its : id = first
    · -- it is stopped at once, and whatever follows finds it stopped
      subst its
      rw [get?_update, if_pos List.mem_cons_self]
      cases table.get? id with
      | none => simp
      | some facts => simp [SessionFacts.stopped]
    · rw [table.get?_update_of_ne its]
      simp [its]

end SessionTable

/-- What is known of a session that messages go through, when its feed has ended: their number is
added, and their width is that of the first one unless another one was known. -/
def SessionFacts.fed (facts : SessionFacts) (width : AsnWidth) (count : Nat) : SessionFacts :=
  { facts with
    width? := some (facts.width?.getD width)
    state := .error
    lastCause := .manualStop
    messages := facts.messages + count }

/-- A session whose width is known does not learn it from messages. -/
theorem stopped_foldl_serve {handling : Handling} {relayed : List RelayedMessage}
    {facts : SessionFacts} {width : AsnWidth} (known : facts.width? = some width) :
    (relayed.foldl (serve handling) (some facts)).map SessionFacts.stopped =
      some (facts.fed width relayed.length) := by
  induction relayed generalizing facts with
  | nil => simp [SessionFacts.stopped, SessionFacts.fed, known]
  | cons first rest ih =>
    have learnt : (facts.served first.width).width? = some width := by
      simp [SessionFacts.served, SessionFacts.learnt, SessionFacts.established, known]
    rw [List.foldl_cons, serve, Option.getD_some, ih learnt, List.length_cons]
    simp [SessionFacts.fed, SessionFacts.served, SessionFacts.learnt, SessionFacts.established,
      known]
    omega

/-- The first message that goes through a session settles its width. -/
theorem stopped_foldl_serve_cons (handling : Handling) (first : RelayedMessage)
    (rest : List RelayedMessage) (facts? : Option SessionFacts) :
    ((first :: rest).foldl (serve handling) facts?).map SessionFacts.stopped =
      some ((facts?.getD (createdFor handling first)).fed first.width (first :: rest).length) := by
  generalize base : facts?.getD (createdFor handling first) = facts
  have learnt : (facts.served first.width).width? = some (facts.width?.getD first.width) := rfl
  rw [List.foldl_cons, serve, base, stopped_foldl_serve learnt, List.length_cons]
  simp [SessionFacts.fed, SessionFacts.served, SessionFacts.learnt, SessionFacts.established]
  omega

/-! ## Which sessions are stopped -/

theorem SessionId.eq_of_number_eq {id other : SessionId} (same : id.number = other.number) :
    id = other := by
  cases id
  cases other
  exact congrArg SessionId.mk same

theorem mem_insertSession {id other : SessionId} {fed : List SessionId} :
    other ∈ insertSession id fed ↔ other = id ∨ other ∈ fed := by
  induction fed with
  | nil => simp [insertSession]
  | cons first rest ih =>
    unfold insertSession
    split
    case isTrue before => exact List.mem_cons
    case isFalse =>
      split
      case isTrue same =>
        rw [SessionId.eq_of_number_eq same, List.mem_cons]
        tauto
      case isFalse => rw [List.mem_cons, List.mem_cons, ih, or_left_comm]

/-- Sessions stand by rising numbers. -/
def Rising (fed : List SessionId) : Prop :=
  fed.Pairwise fun id later => id.number < later.number

theorem rising_insertSession {fed : List SessionId} (rising : Rising fed) (id : SessionId) :
    Rising (insertSession id fed) := by
  induction fed with
  | nil => exact List.pairwise_singleton _ _
  | cons first rest ih =>
    obtain ⟨least, others⟩ := List.pairwise_cons.1 rising
    unfold insertSession
    split
    case isTrue before =>
      refine List.pairwise_cons.2 ⟨fun other there => ?_, rising⟩
      rcases List.mem_cons.1 there with rfl | later
      · exact before
      · exact before.trans (least other later)
    case isFalse notBefore =>
      split
      case isTrue => exact rising
      case isFalse different =>
        refine List.pairwise_cons.2 ⟨fun other there => ?_, ih others⟩
        rcases mem_insertSession.1 there with rfl | later
        · omega
        · exact least other later

theorem rising_fedBy {fed : List SessionId} (rising : Rising fed) (handed : List Handed) :
    Rising (fedBy fed handed) := by
  unfold fedBy
  generalize (handed.filterMap fun one => one.submission.session?) = ids
  induction ids generalizing fed with
  | nil => exact rising
  | cons id rest ih => exact ih (rising_insertSession rising id)

theorem mem_fedBy {fed : List SessionId} {handed : List Handed} {id : SessionId} :
    id ∈ fedBy fed handed ↔
      id ∈ fed ∨ id ∈ handed.filterMap fun one => one.submission.session? := by
  unfold fedBy
  generalize (handed.filterMap fun one => one.submission.session?) = ids
  induction ids generalizing fed with
  | nil => simp
  | cons first rest ih =>
    rw [List.foldl_cons, ih, mem_insertSession, List.mem_cons]
    tauto

/-- Every session through which a message went is counted once. -/
theorem length_fedBy (handed : List Handed) :
    (fedBy [] handed).length =
      (handed.filterMap fun one => one.submission.session?).dedup.length := by
  have rising : Rising (fedBy [] handed) := rising_fedBy .nil handed
  have once : (fedBy [] handed).Nodup := rising.imp fun less same => by
    rw [same] at less
    exact Nat.lt_irrefl _ less
  refine ((List.perm_ext_iff_of_nodup once (List.nodup_dedup _)).2 fun id => ?_).length_eq
  rw [mem_fedBy, List.mem_dedup]
  simp

/-! ## All a feed makes of its sessions -/

/-- The messages whose key leads to a session. -/
def boundTo (table : SessionTable) (id : SessionId) (submitted : List RelayedMessage) :
    List RelayedMessage :=
  submitted.filter fun relayed => table.find? (keyOf relayed) = some id

/-- What a feed that submits the given messages makes of a table that nobody else uses, if the queue
takes what it is handed. -/
structure SessionEffects (handling : Handling) (initial final : SessionTable) (stats : LiveStats)
    (passed : List Message) (submitted : List RelayedMessage) : Prop where
  limit?_eq : final.limit? = initial.limit?
  /-- A session is created for the key of a message if there is none and there is room. Nothing is
  created for a message that is refused. -/
  keys : final.keys = submitted.foldl (keysWith initial.limit?) initial.keys
  /-- A key leads on to the session to which it led before. -/
  keeps : ∀ key id, initial.find? key = some id → final.find? key = some id
  /-- Every message is passed on under the session of its key, unless there is none. -/
  messages : passed = submitted.filterMap fun relayed =>
    (final.find? (keyOf relayed)).map fun id => fromPeer id relayed
  /-- The ends of the session are those that the message names, on the usual port. -/
  ends : ∀ relayed ∈ submitted, ∀ id, final.find? (keyOf relayed) = some id →
    ∃ facts, final.get? id = some facts ∧
      facts.key = { peerAsn := relayed.peerAsn, localAsn := relayed.localAsn,
                    peerPort := 179, localPort := 179,
                    peerAddress := relayed.peerAddress, localAddress := relayed.localAddress }
  /-- A session through which messages went is stopped. It has counted what was passed on under it,
  and its width is the one that was known, or else that of the first message. If it is new, it was
  created for that message. -/
  bound : ∀ id first rest, boundTo final id submitted = first :: rest →
    final.get? id = some (((initial.get? id).getD (createdFor handling first)).fed first.width
      (passed.countP fun message => message.session = id))
  /-- Every other session is left as it was, and if there was none, there is none. -/
  others : ∀ id, boundTo final id submitted = [] → final.get? id = initial.get? id
  /-- Only a full table has no session for a message. -/
  refused : ∀ relayed ∈ submitted, final.find? (keyOf relayed) = none → final.isFull = true
  /-- The sessions through which messages went are counted once. -/
  sessions : stats.sessions = (passed.map Message.session).dedup.length
  submitted_eq : stats.submitted = passed.length
  /-- A message that is passed on is counted by one session. -/
  total : final.messageTotal = initial.messageTotal + stats.submitted
  /-- A message that is refused is counted as that. -/
  unbound : stats.unbound = submitted.countP fun relayed => final.find? (keyOf relayed) = none

namespace Handed

theorem message?_eq (handed : Handed) :
    handed.message? = handed.submission.session?.map fun id => fromPeer id handed.relayed := by
  obtain ⟨relayed, submission⟩ := handed
  cases submission with
  | unbound refusal => rfl
  | passed id isNew state? width? => rfl

theorem isPassed_eq (handed : Handed) : handed.submission.isPassed = handed.message?.isSome := by
  obtain ⟨relayed, submission⟩ := handed
  cases submission with
  | unbound refusal => rfl
  | passed id isNew state? width? => rfl

end Handed

/-- The messages through a session are those that are passed on under it. -/
theorem length_through (id : SessionId) (handed : List Handed) :
    (through id handed).length =
      (handed.filterMap Handed.message?).countP fun message => message.session = id := by
  rw [through, List.length_map, ← List.countP_eq_length_filter, List.countP_filterMap]
  refine List.countP_congr fun one _ => ?_
  rw [one.message?_eq]
  cases one.submission.session? with
  | none => simp
  | some other => simp [fromPeer]

theorem mem_fedBy_nil {id : SessionId} {handed : List Handed} :
    id ∈ fedBy [] handed ↔ through id handed ≠ [] := by
  simp [mem_fedBy, through]

namespace Effects

variable {handling : Handling} {initial between : SessionTable} {handed : List Handed}

/-- Sessions are stopped in the end, which changes neither who is found nor how many messages there
are. -/
theorem sessionEffects (effects : Effects handling initial handed between) {stats : LiveStats}
    (sessions : stats.sessions = (fedBy [] handed).length)
    (submitted : stats.submitted = handed.countP fun one => one.submission.isPassed)
    (unbound : stats.unbound = handed.countP fun one => !one.submission.isPassed) :
    SessionEffects handling initial (between.stopAll (fedBy [] handed)) stats
      (handed.filterMap Handed.message?) (handed.map Handed.relayed) := by
  generalize ended : between.stopAll (fedBy [] handed) = final
  have limits : final.limit? = between.limit? := by
    rw [← ended]
    exact between.limit?_stopAll _
  have keys : final.keys = between.keys := by
    rw [← ended]
    exact between.map_known_stopAll _ fun _ => rfl
  have total : final.messageTotal = between.messageTotal := by
    rw [← ended]
    exact congrArg List.sum (between.map_known_stopAll _ fun _ => rfl)
  have leads (one : Handed) (there : one ∈ handed) :
      final.find? (keyOf one.relayed) = one.submission.session? := by
    rw [SessionTable.find?_eq_of_keys keys]
    exact (effects.session?_eq there).symm
  have bound (id : SessionId) :
      boundTo final id (handed.map Handed.relayed) = through id handed := by
    rw [boundTo, through, List.filter_map]
    refine congrArg _ (List.filter_congr fun one there => ?_)
    rw [Function.comp_apply, leads one there]
  constructor
  case limit?_eq => exact limits.trans effects.limit?_eq
  case keys => exact keys.trans effects.keys_eq
  case keeps =>
    intro key id found
    rw [SessionTable.find?_eq_of_keys keys]
    exact effects.find?_of_some found
  case messages =>
    rw [List.filterMap_map]
    refine List.filterMap_congr fun one there => ?_
    rw [Function.comp_apply, leads one there]
    exact one.message?_eq
  case ends =>
    intro relayed there id found
    exact SessionTable.key_of_find? found
  case bound =>
    intro id first rest messages
    rw [bound] at messages
    have fed : id ∈ fedBy [] handed := mem_fedBy_nil.2 (by simp [messages])
    rw [← ended, SessionTable.get?_stopAll, if_pos fed, effects.get?_eq, ← length_through, messages]
    exact stopped_foldl_serve_cons handling first rest _
  case others =>
    intro id nothing
    rw [bound] at nothing
    have apart : id ∉ fedBy [] handed := fun fed => mem_fedBy_nil.1 fed nothing
    rw [← ended, SessionTable.get?_stopAll, if_neg apart, effects.get?_eq, nothing]
    rfl
  case refused =>
    intro relayed there absent
    obtain ⟨one, member, rfl⟩ := List.mem_map.1 there
    rw [leads one member] at absent
    rw [SessionTable.isFull_congr limits keys]
    exact effects.isFull_of_unbound member absent
  case sessions =>
    rw [sessions, length_fedBy, List.map_filterMap]
    refine congrArg (fun ids => (List.dedup ids).length) (List.filterMap_congr fun one _ => ?_)
    rw [one.message?_eq, Option.map_map]
    exact Option.map_id'.symm
  case submitted_eq =>
    rw [submitted, List.length_filterMap_eq_countP]
    exact List.countP_congr fun one _ => by rw [one.isPassed_eq]
  case total => rw [total, effects.messageTotal_eq, submitted]
  case unbound =>
    rw [unbound, List.countP_map]
    refine List.countP_congr fun one there => ?_
    rw [Function.comp_apply, leads one there, one.isPassed_eq, one.message?_eq]
    cases one.submission.session? with
    | none => simp
    | some id => simp

end Effects

namespace LiveFeed

variable {ω φ : Type} [Surroundings ω] [RecordSupply φ]

/-- The sessions of a live feed whose table nobody else uses, if the queue takes what it is handed:
those through which messages went are stopped, with their messages counted and a width known, and all
others are left alone. -/
theorem sessionEffects_run (handling : Handling) (first? : Option FramedRecord) (supply : φ)
    (own : OwnTable ω) (taken : QueueOpen (exchangesOf ((new handling).run first? supply) own)) :
    ∃ records ending,
      Reading first? supply records ending
        (((new handling).run first? supply : StateM (OwnTable ω) _).run own).1.2.2 ∧
      SessionEffects handling own.sessions
        (((new handling).run first? supply : StateM (OwnTable ω) _).run own).2.sessions
        (((new handling).run first? supply : StateM (OwnTable ω) _).run own).1.1
        (passedOn (exchangesOf ((new handling).run first? supply) own))
        (released records ending) := by
  have answers := answers_run (new handling) first? supply own
  rw [(SameRun.inherited.liveFeed_run (new handling) first? supply).run_eq own]
  obtain ⟨records, ending, handed, left, comes, stats_eq, -, calls, -⟩ :=
    (ensures_run (new handling) first? supply).exchangesOf own taken
  -- looks change no table, so the table is told by what the feed does
  rw [← Answers.deeds_iff, calls] at answers
  obtain ⟨between, submissions, stops⟩ := Answers.append_iff.1 answers
  have counted := comes.counted
  refine ⟨records, ending, comes.reading, ?_⟩
  rw [stops.stopAll, stats_eq, passedOn_eq_of_deeds_eq calls, ← comes.order, counted.fed]
  apply (Effects.of_answers submissions).sessionEffects
  · rfl
  · exact counted.submitted.trans (Nat.zero_add _)
  · exact counted.unbound.trans (Nat.zero_add _)

/-- What is known of the session of a router whose address ends in an octet. -/
def routerFacts (last : UInt8) (width? : Option AsnWidth) (state : SessionState)
    (lastCause : SessionCause) (messages : Nat) : SessionFacts where
  key := .onBgpPort 65001 6447 (.v4 (.padded 4 [192, 0, 2, last]))
    (.v4 (.padded 4 [198, 51, 100, 1]))
  label := .label
  width? := width?
  state := state
  lastCause := lastCause
  messages := messages
  cleanings := 0

/-- Room for two sessions. One is known, from a table dump. -/
def tightTable : OwnTable Logbook :=
  ⟨⟨[routerFacts 1 none .provisional .manualStop 7], some 2⟩, .blank⟩

/-- Messages of three routers. -/
def crowdedStream : Octets :=
  relayRecord 1 ++ relayRecord 2 ++ relayRecord 3 ++ relayRecord 1

/-- The first router has its session, the second one gets one, and the message of the third one is
refused. -/
theorem sessionEffects_run_crowdedStream :
    (∃ records ending,
      Reading none (framerOf crowdedStream) records ending
        (((new .label).run none (framerOf crowdedStream) : StateM (OwnTable Logbook) _).run
          tightTable).1.2.2 ∧
      SessionEffects .label tightTable.sessions
        (((new .label).run none (framerOf crowdedStream) : StateM (OwnTable Logbook) _).run
          tightTable).2.sessions
        (((new .label).run none (framerOf crowdedStream) : StateM (OwnTable Logbook) _).run
          tightTable).1.1
        (passedOn (exchangesOf ((new .label).run none (framerOf crowdedStream)) tightTable))
        (released records ending)) ∧
      (((new .label).run none (framerOf crowdedStream) : StateM (OwnTable Logbook) _).run
          tightTable).2.sessions.known =
        [routerFacts 1 (some .two) .error .manualStop 9,
          routerFacts 2 (some .two) .error .manualStop 1] ∧
      (((new .label).run none (framerOf crowdedStream) : StateM (OwnTable Logbook) _).run
          tightTable).1.1 =
        { records := 4, submitted := 3, discarded := 0, ignored := 0, corrupt := 0, unbound := 1,
          sessions := 2 } := by
  refine ⟨?_, by decide +kernel, by decide +kernel⟩
  exact sessionEffects_run .label none (framerOf crowdedStream) tightTable (by decide +kernel)

end LiveFeed

end CollectorFeed
