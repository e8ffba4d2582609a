import CollectorFeed.Proofs.Handover.Completeness

/-!
# Accounts of a hand-over

A message that the queue takes is counted for its session at once (`Tallied`), but in the report
only when the queue has taken all messages of its table. If the queue is closed in between, those of
this table are missing in the report, and no others (`Accounts`).

Main statement: `DumpTransfer.accounts_handOver`, whenever the queue is closed and whatever the
sessions do meanwhile.
-/

set_option autoImplicit false

namespace CollectorFeed

/-! ## What is counted for the sessions -/

/-- The session for which a message is counted, if one is. -/
def Exchange.counts? : Exchange → Option SessionId
  | .countMessage id => some id
  | _ => none

/-- The sessions for which messages are counted, in order. -/
def countedSessions (exchanges : List Exchange) : List SessionId :=
  exchanges.filterMap Exchange.counts?

@[simp] theorem countedSessions_append (front back : List Exchange) :
    countedSessions (front ++ back) = countedSessions front ++ countedSessions back :=
  List.filterMap_append

/-- Every message that the queue takes is one of a table, and is counted for its session. -/
structure Tallied (exchanges : List Exchange) : Prop where
  counted : countedSessions exchanges = (passedOn exchanges).map Message.session
  origin : ∀ message ∈ passedOn exchanges, message.origin = .tableTransfer

namespace Tallied

variable {front back : List Exchange}

theorem nil : Tallied [] :=
  ⟨rfl, List.forall_mem_nil _⟩

theorem append (first : Tallied front) (second : Tallied back) : Tallied (front ++ back) where
  counted := by
    rw [countedSessions_append, passedOn_append, List.map_append, first.counted, second.counted]
  origin := by
    rw [passedOn_append, List.forall_mem_append]
    exact ⟨first.origin, second.origin⟩

/-- A call that passes nothing on and counts nothing. -/
theorem cons {exchange : Exchange} (nothing : exchange.message? = none ∧ exchange.counts? = none)
    (others : Tallied back) : Tallied (exchange :: back) := by
  have first : Tallied [exchange] := by
    constructor
    · simp [countedSessions, passedOn, nothing.1, nothing.2]
    · simp [passedOn, nothing.1]
  exact first.append others

theorem deliver {messages : List Message}
    (origin : ∀ message ∈ messages, message.origin = .tableTransfer) :
    Tallied (deliver messages) where
  counted := by
    rw [passedOn_deliver]
    induction messages with
    | nil => rfl
    | cons message rest ih =>
      rw [List.forall_mem_cons] at origin
      exact congrArg (message.session :: ·) (ih origin.2)
  origin := by rwa [passedOn_deliver]

end Tallied

/-- The messages of a table are marked as such. -/
theorem PeerTable.origin_of_mem_messages {table : PeerTable} {width? : Option AsnWidth}
    {message : Message} (there : message ∈ table.messages width?) :
    message.origin = .tableTransfer := by
  obtain ⟨route, -, encoded⟩ := List.mem_filterMap.1 there
  obtain ⟨octets, -, rfl⟩ := Option.map_eq_some_iff.1 encoded
  rfl

theorem PeerTurn.tallied_calls {table : PeerTable} {turn : PeerTurn} (fits : turn.Fits table) :
    Tallied (turn.calls table) := by
  cases turn with
  | passed => exact .nil
  | waiting state? => exact .cons ⟨rfl, rfl⟩ .nil
  | idle => exact .cons ⟨rfl, rfl⟩ .nil
  | cleaned answer => exact .cons ⟨rfl, rfl⟩ (.cons ⟨rfl, rfl⟩ (.cons ⟨rfl, rfl⟩ .nil))
  | flushed width? =>
    refine .cons ⟨rfl, rfl⟩ (.cons ⟨rfl, rfl⟩ (.deliver fun message there => ?_))
    exact PeerTable.origin_of_mem_messages there
  | refused width? taken message refusal =>
    obtain ⟨-, -, rest, split⟩ := fits
    refine .cons ⟨rfl, rfl⟩ (.cons ⟨rfl, rfl⟩ (.append (.deliver fun message there => ?_) ?_))
    · apply PeerTable.origin_of_mem_messages
      rw [split]
      exact List.mem_append_left _ there
    · exact .cons ⟨rfl, rfl⟩ .nil

namespace Handover

variable {interval attempts : Nat} {tables last : List PeerTable} {turns : List PeerTurn}
  {rounds : List (List PeerTurn)} {report whole : HandoverReport} {made : List Exchange}
  {isOpen : Bool} {answers? : Option (List (Option (Except SessionRefusal Unit)))}

theorem Fit.tallied (fit : Fit tables turns isOpen) : Tallied (roundCalls tables turns) := by
  induction fit with
  | ended => exact .nil
  | goOn fits takes others ih => exact (PeerTurn.tallied_calls fits).append ih
  | brokenOff fits refuses =>
    rename_i table tables turn
    have none_ : roundCalls tables [] = [] := by cases tables <;> rfl
    rw [roundCalls, none_]
    exact (PeerTurn.tallied_calls fits).append .nil

theorem Rounds.tallied (course : Rounds interval attempts tables report rounds last whole made) :
    Tallied made := by
  induction course with
  | usedUp => exact .nil
  | stopped => exact .cons ⟨rfl, rfl⟩ .nil
  | nothingLeft nothing => exact .cons ⟨rfl, rfl⟩ .nil
  | brokenOff something fit => exact .cons ⟨rfl, rfl⟩ fit.tallied
  | goOn something fit others ih =>
    exact .cons ⟨rfl, rfl⟩ (fit.tallied.append (.cons ⟨rfl, rfl⟩ ih))

theorem tallied_sweepCalls (tables : List PeerTable)
    (answers : List (Option (Except SessionRefusal Unit))) :
    Tallied (sweepCalls tables answers) := by
  induction tables generalizing answers with
  | nil => exact .nil
  | cons table rest ih =>
    cases answers with
    | nil => exact .nil
    | cons answer? answers =>
      refine .append ?_ (ih answers)
      cases answer? with
      | none => exact .nil
      | some answer => exact .cons ⟨rfl, rfl⟩ (.cons ⟨rfl, rfl⟩ .nil)

theorem Sweep.tallied (course : Sweep tables report answers? last whole made) : Tallied made := by
  cases course with
  | brokenOff cancelled => exact .nil
  | stopped going => exact .cons ⟨rfl, rfl⟩ .nil
  | swept going fit => exact .cons ⟨rfl, rfl⟩ (tallied_sweepCalls _ _)

end Handover

/-! ## What is counted in the report -/

/-- The calls by which a table is handed over, as far as the message that the queue refuses. -/
def cutOffCalls (session : SessionId) (width? : Option AsnWidth) (taken : List Message)
    (message : Message) (refusal : QueueRefusal) : List Exchange :=
  .width session width? :: (deliver taken ++ [.passOn message (.error refusal)])

/-- How a report that counts one number of messages comes to count another one. -/
inductive Accounts (tables : List PeerTable) (before after : Nat) (made : List Exchange) : Prop
  /-- The queue takes every message, and all are counted. -/
  | exact (taken : QueueOpen made) (counted : after = before + (passedOn made).length)
  /-- The queue refuses a message of a table, and those of this table that it has taken are missing.
  Nothing is done behind the refusal. -/
  | short {table : PeerTable} {width? : Option AsnWidth} {front : List Exchange}
      {taken rest : List Message} {message : Message} {refusal : QueueRefusal}
      (there : table ∈ tables) (messages : table.messages width? = taken ++ message :: rest)
      (split : made = front ++ cutOffCalls table.session width? taken message refusal)
      (open_ : QueueOpen front) (counted : after = before + (passedOn front).length)
      (missing : after + taken.length = before + (passedOn made).length) :
      Accounts tables before after made

namespace Accounts

variable {tables : List PeerTable} {before between after : Nat} {made first : List Exchange}

theorem nil (tables : List PeerTable) (before : Nat) : Accounts tables before before [] :=
  .exact queueOpen_nil rfl

theorem not_queueOpen_cutOffCalls {session : SessionId} {width? : Option AsnWidth}
    {taken : List Message} {message : Message} {refusal : QueueRefusal} :
    ¬ QueueOpen (cutOffCalls session width? taken message refusal) := by
  simp [cutOffCalls, Exchange.isRefusal]

theorem passedOn_cutOffCalls (session : SessionId) (width? : Option AsnWidth) (taken : List Message)
    (message : Message) (refusal : QueueRefusal) :
    passedOn (cutOffCalls session width? taken message refusal) = taken := by
  change passedOn (deliver taken ++ [.passOn message (.error refusal)]) = taken
  rw [passedOn_append, passedOn_deliver]
  exact List.append_nil taken

theorem of_split {table : PeerTable} {width? : Option AsnWidth} {front : List Exchange}
    {taken rest : List Message} {message : Message} {refusal : QueueRefusal}
    (there : table ∈ tables) (messages : table.messages width? = taken ++ message :: rest)
    (split : made = front ++ cutOffCalls table.session width? taken message refusal)
    (open_ : QueueOpen front) (counted : after = before + (passedOn front).length) :
    Accounts tables before after made := by
  refine .short there messages split open_ counted ?_
  rw [split, passedOn_append, passedOn_cutOffCalls, List.length_append, counted, Nat.add_assoc]

/-- If the queue takes every message, all are counted. -/
theorem counted_of_queueOpen (accounts : Accounts tables before after made)
    (taken : QueueOpen made) : after = before + (passedOn made).length := by
  cases accounts with
  | exact _ counted => exact counted
  | short there messages split open_ counted missing =>
    rw [split, queueOpen_append] at taken
    exact absurd taken.2 not_queueOpen_cutOffCalls

/-- Calls in front in which all messages are counted. -/
theorem prepend (taken : QueueOpen first) (counted : between = before + (passedOn first).length)
    (later : Accounts tables between after made) :
    Accounts tables before after (first ++ made) := by
  cases later with
  | exact taken' counted' =>
    refine .exact ((queueOpen_append _ _).2 ⟨taken, taken'⟩) ?_
    rw [passedOn_append, List.length_append, counted', counted, Nat.add_assoc]
  | @short table width? front taken' rest message refusal there messages split open_ counted'
      missing =>
    have split' : first ++ made =
        (first ++ front) ++ cutOffCalls table.session width? taken' message refusal := by
      rw [split, List.append_assoc]
    refine of_split there messages split' ((queueOpen_append _ _).2 ⟨taken, open_⟩) ?_
    rw [passedOn_append, List.length_append, counted', counted, Nat.add_assoc]

/-- A call in front that passes nothing on. -/
theorem cons {exchange : Exchange} (nothing : exchange.message? = none ∧ exchange.isRefusal = false)
    (later : Accounts tables before after made) :
    Accounts tables before after (exchange :: made) := by
  refine prepend (List.forall_mem_singleton.2 nothing.2) ?_ later
  simp [passedOn, nothing.1]

end Accounts

/-- A turn in which the queue takes everything counts all messages. -/
theorem PeerTurn.tally_flushedRoutes {turn : PeerTurn} (takes : turn.isOpen = true)
    (table : PeerTable) (report : HandoverReport) :
    (turn.tally table report).flushedRoutes =
      report.flushedRoutes + (passedOn (turn.calls table)).length := by
  rw [turn.passedOn_calls table]
  cases turn with
  | refused width? taken message refusal => cases takes
  | _ => rfl

/-- A turn that is broken off counts nothing. -/
theorem PeerTurn.accounts_refused {table : PeerTable} {turn : PeerTurn} (fits : turn.Fits table)
    (refuses : turn.isOpen = false) {tables : List PeerTable}
    (there : table.resolved = false → table ∈ tables) (report : HandoverReport) :
    Accounts tables report.flushedRoutes (turn.tally table report).flushedRoutes
      (turn.calls table) := by
  cases turn with
  | refused width? taken message refusal =>
    obtain ⟨unresolved, -, rest, messages⟩ := fits
    have split : (PeerTurn.refused width? taken message refusal).calls table =
      [.state table.session (some .established)] ++
        cutOffCalls table.session width? taken message refusal := rfl
    exact .of_split (there unresolved) messages split (List.forall_mem_singleton.2 rfl) rfl
  | _ => cases refuses

/-- A turn settles a table or leaves it as it is. -/
theorem PeerTurn.after_eq_of_unresolved {table : PeerTable} {turn : PeerTurn}
    (unresolved : (turn.after table).resolved = false) : turn.after table = table := by
  cases turn with
  | passed => rfl
  | waiting state? => rfl
  | idle => rfl
  | cleaned answer => cases unresolved
  | flushed width? => cases unresolved
  | refused width? taken message refusal => cases unresolved

namespace Handover

variable {interval attempts : Nat} {tables origins last : List PeerTable} {turns : List PeerTurn}
  {rounds : List (List PeerTurn)} {report whole : HandoverReport} {made : List Exchange}
  {isOpen : Bool} {answers? : Option (List (Option (Except SessionRefusal Unit)))}

theorem mem_of_mem_afterRound {table : PeerTable} (there : table ∈ afterRound tables turns)
    (unresolved : table.resolved = false) : table ∈ tables := by
  induction tables generalizing turns with
  | nil => exact there
  | cons first rest ih =>
    cases turns with
    | nil => exact there
    | cons turn turns =>
      rcases List.mem_cons.1 there with rfl | later
      · rw [PeerTurn.after_eq_of_unresolved unresolved]
        exact List.mem_cons_self
      · exact List.mem_cons_of_mem _ (ih later)

theorem Fit.accounts (fit : Fit tables turns isOpen)
    (origin : ∀ table ∈ tables, table.resolved = false → table ∈ origins)
    (report : HandoverReport) :
    Accounts origins report.flushedRoutes (tallyRound tables turns report).flushedRoutes
      (roundCalls tables turns) := by
  induction fit generalizing report with
  | ended => exact .nil origins _
  | @goOn table tables turn turns isOpen fits takes others ih =>
    rw [List.forall_mem_cons] at origin
    exact .prepend (PeerTurn.queueOpen_calls takes table)
      (PeerTurn.tally_flushedRoutes takes table report) (ih origin.2 _)
  | @brokenOff table tables turn fits refuses =>
    have accounts := PeerTurn.accounts_refused fits refuses (origin table List.mem_cons_self) report
    have none_ : roundCalls tables [] = [] := by cases tables <;> rfl
    have same (report : HandoverReport) : tallyRound tables [] report = report := by
      cases tables <;> rfl
    rw [roundCalls, none_, List.append_nil, tallyRound, same]
    exact accounts

/-- By induction on the rounds. A table with something left to do is as it was in the beginning. -/
theorem Rounds.accounts (course : Rounds interval attempts tables report rounds last whole made)
    (origin : ∀ table ∈ tables, table.resolved = false → table ∈ origins) :
    Accounts origins report.flushedRoutes whole.flushedRoutes made := by
  induction course with
  | usedUp => exact .nil origins _
  | stopped => exact .cons ⟨rfl, rfl⟩ (.nil origins _)
  | nothingLeft nothing => exact .cons ⟨rfl, rfl⟩ (.nil origins _)
  | brokenOff something fit => exact .cons ⟨rfl, rfl⟩ (fit.accounts origin _)
  | @goOn attempts tables last report whole turns later made something fit others ih =>
    -- a round that is not broken off counts all messages that it passes on
    obtain ⟨-, taken⟩ := fit.of_open rfl
    have round := (fit.accounts origin report).counted_of_queueOpen taken
    refine .cons ⟨rfl, rfl⟩ (.prepend taken round (.cons ⟨rfl, rfl⟩ (ih ?_)))
    intro table there unresolved
    exact origin table (mem_of_mem_afterRound there unresolved) unresolved

/-- Behind the rounds nothing is passed on, and nothing is done at all if they were broken off. -/
theorem Sweep.silent (course : Sweep tables report answers? last whole made) :
    whole.flushedRoutes = report.flushedRoutes ∧ passedOn made = [] ∧ QueueOpen made ∧
      (report.cancelled = true → made = []) := by
  cases course with
  | brokenOff cancelled => exact ⟨rfl, rfl, queueOpen_nil, fun _ => rfl⟩
  | stopped going =>
    refine ⟨rfl, rfl, List.forall_mem_singleton.2 rfl, fun cancelled => ?_⟩
    cases going.symm.trans cancelled
  | @swept answers going fit =>
    refine ⟨rfl, passedOn_sweepCalls tables answers, ?_, fun cancelled => ?_⟩
    · exact (queueOpen_cons _ _).2 ⟨rfl, (sweepCalls_open tables answers).1⟩
    · cases going.symm.trans cancelled

end Handover

/-! ## The whole hand-over -/

namespace DumpTransfer

variable {ω : Type} [Surroundings ω]

/-- Every message that a hand-over passes on is one of a table and is counted for its session. The
report counts it as well, unless the queue refuses another one of the same table. -/
theorem accounts_handOver (dump : DumpTransfer) (world : ω) :
    Tallied (exchangesOf dump.handOver world) ∧
      Accounts dump.tables 0 ((dump.handOver : StateM ω _).run world).1.1.flushedRoutes
        (exchangesOf dump.handOver world) := by
  rw [(SameRun.inherited.handOver dump).run_eq world]
  obtain ⟨rounds, left, counted, answers?, front, back, course, sweep, noted, -⟩ :=
    dump.ensures_handOver.exchangesOf world
  rw [noted]
  refine ⟨course.tallied.append sweep.tallied, ?_⟩
  have accounts : Accounts dump.tables 0 counted.flushedRoutes front :=
    course.accounts fun table there _ => there
  obtain ⟨same, none_, taken, nothing⟩ := sweep.silent
  rw [same]
  -- a refusal ends the rounds, and behind rounds that were broken off nothing is done
  cases cancelled : counted.cancelled with
  | true => rwa [nothing cancelled, List.append_nil]
  | false =>
    obtain ⟨-, taken', -⟩ := course.unbroken_of_going cancelled
    refine .exact ((queueOpen_append _ _).2 ⟨taken', taken⟩) ?_
    rw [passedOn_append, none_, List.append_nil]
    exact accounts.counted_of_queueOpen taken'

/-- A router with two routes and an established session. The queue takes so many messages. -/
def closingTransfer (room : Nat) : DumpTransfer × Interrupted :=
  let (dump, book) := takenIn [pairOpening, sampleRoute 0 1 0, sampleRoute 0 2 0]
  (dump, ⟨{ book with sessions := book.sessions.setState ⟨1⟩ .established .none }, some room, none⟩)

/-- The queue takes one message of a table and refuses the other one. The first message is counted
for the session and not in the report. -/
theorem not_counted_closingTransfer :
    let (dump, world) := closingTransfer 1
    (passedOn (exchangesOf dump.handOver world)).length = 1 ∧
    countedSessions (exchangesOf dump.handOver world) = [⟨1⟩] ∧
    ((dump.handOver : StateM Interrupted _).run world).1.1.flushedRoutes = 0 :=
  ⟨by decide +kernel, by decide +kernel, by decide +kernel⟩

end DumpTransfer

end CollectorFeed
