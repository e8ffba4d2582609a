import CollectorFeed.Conversation.Handover
import CollectorFeed.Proofs.Conversation.Minutes
import Mathlib.Data.List.Forall2

/-!
# The course of a hand-over

A `PeerTurn` is what becomes of one table when a round comes to it. What the hand-over does is told
by the turns alone: which calls it makes, what it leaves of the tables, and what it reports. The
lemmas from `ensures_visit` to `ensures_handOver` open the functions of the hand-over in these
terms, whatever the surroundings answer.
-/

set_option autoImplicit false

namespace CollectorFeed

/-! ## Messages of a table -/

namespace PeerTable

/-- The messages of routes for a session; a route that fits no message has none. -/
def transfer (session : SessionId) (width : AsnWidth) (routes : List DumpedRoute) : List Message :=
  routes.filterMap fun route =>
    (route.updateMessage width).toOption.map fun octets => ⟨session, .tableTransfer, octets⟩

/-- The messages of a table, given what is known of the width of its session's AS numbers. -/
def messages (table : PeerTable) (width? : Option AsnWidth) : List Message :=
  transfer table.session (width?.getD .four) table.routes.toList

end PeerTable

/-- The calls by which messages are passed on. -/
def deliver (messages : List Message) : List Exchange :=
  messages.flatMap fun message => [.passOn message (.ok ()), .countMessage message.session]

/-- The calls by which the routes of a session are deleted. -/
def cleanCalls (session : SessionId) (answer : Except SessionRefusal Unit) : List Exchange :=
  [.setState session .error .manualStop, .deleteRoutes session answer]

/-! ## Turns -/

/-- What becomes of a table when a round comes to it. -/
inductive PeerTurn
  /-- Nothing is left to do for it. -/
  | passed
  /-- Its session is not established. -/
  | waiting (state? : Option SessionState)
  /-- It has had routes and has none now. -/
  | idle
  /-- It never had routes, and those that its session had before are deleted. -/
  | cleaned (answer : Except SessionRefusal Unit)
  /-- Its routes are handed over. -/
  | flushed (width? : Option AsnWidth)
  /-- The queue takes some of its messages and refuses the next one. -/
  | refused (width? : Option AsnWidth) (taken : List Message) (message : Message)
      (refusal : QueueRefusal)

namespace PeerTurn

/-- Whether a table can have a turn. -/
def Fits (table : PeerTable) : PeerTurn → Prop
  | passed => table.resolved = true
  | waiting state? => table.resolved = false ∧ state? ≠ some .established
  | idle => table.resolved = false ∧ table.isEmpty = true ∧ table.hasData = true
  | cleaned _ => table.resolved = false ∧ table.isEmpty = true ∧ table.hasData = false
  | flushed _ => table.resolved = false ∧ table.isEmpty = false
  | refused width? taken message _ => table.resolved = false ∧ table.isEmpty = false ∧
      ∃ rest, table.messages width? = taken ++ message :: rest

/-- Whether the queue takes messages. -/
def isOpen : PeerTurn → Bool
  | refused _ _ _ _ => false
  | _ => true

/-- What is left of the table. -/
def after (table : PeerTable) : PeerTurn → PeerTable
  | cleaned _ | flushed _ | refused _ _ _ _ => table.resolve
  | _ => table

/-- What is added to the report. -/
def tally (table : PeerTable) (report : HandoverReport) : PeerTurn → HandoverReport
  | cleaned _ => report.addCleaned
  | flushed width? => report.addFlushed (table.messages width?).length
  | _ => report

/-- The calls that are made. -/
def calls (table : PeerTable) : PeerTurn → List Exchange
  | passed => []
  | waiting state? => [.state table.session state?]
  | idle => [.state table.session (some .established)]
  | cleaned answer =>
    .state table.session (some .established) :: cleanCalls table.session answer
  | flushed width? =>
    .state table.session (some .established) :: .width table.session width? ::
      deliver (table.messages width?)
  | refused width? taken message refusal =>
    .state table.session (some .established) :: .width table.session width? ::
      (deliver taken ++ [.passOn message (.error refusal)])

end PeerTurn

/-! ## One table -/

variable {ω : Type} [Surroundings ω]

namespace PeerTable

theorem ensures_sendRoutes (session : SessionId) (width : AsnWidth) (sent : Nat)
    (routes : List DumpedRoute) :
    Ensures (sendRoutes session width sent routes : StateM (Minutes ω) _) fun sent? made =>
      (sent? = some (sent + (transfer session width routes).length) ∧
        made = deliver (transfer session width routes)) ∨
      (sent? = none ∧ ∃ taken message rest refusal,
        transfer session width routes = taken ++ message :: rest ∧
        made = deliver taken ++ [.passOn message (.error refusal)]) := by
  induction routes generalizing sent with
  | nil => exact .pure (.inl ⟨rfl, rfl⟩)
  | cons route rest ih =>
    unfold sendRoutes
    cases encoded : route.updateMessage width with
    | error e =>
      have without : transfer session width (route :: rest) = transfer session width rest := by
        simp [transfer, encoded, Except.toOption]
      rw [without]
      exact ih sent
    | ok octets =>
      have with_ : transfer session width (route :: rest) =
          ⟨session, .tableTransfer, octets⟩ :: transfer session width rest := by
        simp [transfer, encoded, Except.toOption]
      rw [with_]
      refine .askBind fun answer => ?_
      cases answer with
      | error refusal =>
        exact .pure (.inr ⟨rfl, [], _, _, refusal, rfl, rfl⟩)
      | ok _ =>
        refine .askBind fun _ => (ih (sent + 1)).mono ?_
        rintro sent? made (⟨rfl, rfl⟩ | ⟨rfl, taken, message, left, refusal, split, rfl⟩)
        · refine .inl ⟨?_, rfl⟩
          rw [List.length_cons, Nat.add_assoc, Nat.add_comm 1]
        · refine .inr ⟨rfl, _ :: taken, message, left, refusal, ?_, rfl⟩
          rw [split]
          rfl

theorem ensures_flush (table : PeerTable) :
    Ensures (table.flush : StateM (Minutes ω) _) fun result made =>
      result.2 = table.resolve ∧ ∃ width?,
        (result.1 = some (table.messages width?).length ∧
          made = .width table.session width? :: deliver (table.messages width?)) ∨
        (result.1 = none ∧ ∃ taken message rest refusal,
          table.messages width? = taken ++ message :: rest ∧
          made = .width table.session width? ::
            (deliver taken ++ [.passOn message (.error refusal)])) := by
  unfold flush
  refine .askBind fun width? => ?_
  refine .bind (ensures_sendRoutes table.session (width?.getD .four) 0 table.routes.toList) ?_
  rintro sent? front (⟨rfl, rfl⟩ | ⟨rfl, taken, message, left, refusal, split, rfl⟩)
  · refine .pure ⟨rfl, width?, .inl ⟨?_, ?_⟩⟩
    · rw [Nat.zero_add]
      rfl
    · rw [List.append_nil]
      rfl
  · refine .pure ⟨rfl, width?, .inr ⟨rfl, taken, message, left, refusal, split, ?_⟩⟩
    rw [List.append_nil]

theorem ensures_clean (table : PeerTable) :
    Ensures (table.clean : StateM (Minutes ω) _) fun result made =>
      result = table.resolve ∧ ∃ answer, made = cleanCalls table.session answer := by
  unfold clean
  refine .askBind fun _ => .askBind fun answer => .pure ⟨rfl, answer, rfl⟩

end PeerTable

namespace Handover

/-- A round that comes to a table gives it a turn. -/
theorem ensures_visit (table : PeerTable) (report : HandoverReport) :
    Ensures (visit table report : StateM (Minutes ω) _) fun visited made =>
      ∃ turn : PeerTurn, turn.Fits table ∧ made = turn.calls table ∧
        visited = ⟨turn.isOpen, turn.after table, turn.tally table report⟩ := by
  unfold visit
  split
  case isTrue resolved => exact .pure ⟨.passed, resolved, rfl, rfl⟩
  case isFalse unresolved =>
    have unresolved : table.resolved = false := eq_false_of_ne_true unresolved
    refine .askBind fun state? => ?_
    split
    case isTrue other => exact .pure ⟨.waiting state?, ⟨unresolved, other⟩, rfl, rfl⟩
    case isFalse same =>
      obtain rfl := not_not.1 same
      split
      case isTrue empty =>
        split
        case isTrue had => exact .pure ⟨.idle, ⟨unresolved, empty, had⟩, rfl, rfl⟩
        case isFalse never =>
          refine .bind table.ensures_clean ?_
          rintro result front ⟨rfl, answer, rfl⟩
          refine .pure ⟨.cleaned answer, ⟨unresolved, empty, eq_false_of_ne_true never⟩, ?_, rfl⟩
          rw [List.append_nil]
          rfl
      case isFalse routes =>
        have routes : table.isEmpty = false := eq_false_of_ne_true routes
        refine .bind table.ensures_flush ?_
        rintro ⟨sent?, left⟩ front
          ⟨rfl, width?, ⟨rfl, rfl⟩ | ⟨rfl, taken, message, rest, refusal, split, rfl⟩⟩
        · refine .pure ⟨.flushed width?, ⟨unresolved, routes⟩, ?_, rfl⟩
          rw [List.append_nil]
          rfl
        · refine .pure ⟨.refused width? taken message refusal,
            ⟨unresolved, routes, rest, split⟩, ?_, rfl⟩
          rw [List.append_nil]
          rfl

/-! ## One round -/

/-- Whether tables can have turns in one round. A round is broken off behind a refused turn. -/
inductive Fit : List PeerTable → List PeerTurn → Bool → Prop
  | ended : Fit [] [] true
  | goOn {table : PeerTable} {tables : List PeerTable} {turn : PeerTurn} {turns : List PeerTurn}
      {isOpen : Bool} (fits : turn.Fits table) (takes : turn.isOpen = true)
      (others : Fit tables turns isOpen) : Fit (table :: tables) (turn :: turns) isOpen
  | brokenOff {table : PeerTable} {tables : List PeerTable} {turn : PeerTurn}
      (fits : turn.Fits table) (refuses : turn.isOpen = false) : Fit (table :: tables) [turn] false

/-- What turns leave of tables. -/
def afterRound : List PeerTable → List PeerTurn → List PeerTable
  | table :: tables, turn :: turns => turn.after table :: afterRound tables turns
  | tables, _ => tables

/-- What the turns of tables add to the report. -/
def tallyRound : List PeerTable → List PeerTurn → HandoverReport → HandoverReport
  | table :: tables, turn :: turns, report => tallyRound tables turns (turn.tally table report)
  | _, _, report => report

/-- The calls of the turns of tables. -/
def roundCalls : List PeerTable → List PeerTurn → List Exchange
  | table :: tables, turn :: turns => turn.calls table ++ roundCalls tables turns
  | _, _ => []

theorem ensures_round (tables : List PeerTable) (report : HandoverReport) :
    Ensures (round tables report : StateM (Minutes ω) _) fun result made =>
      ∃ turns, Fit tables turns result.1 ∧ made = roundCalls tables turns ∧
        result.2 = (afterRound tables turns, tallyRound tables turns report) := by
  induction tables generalizing report with
  | nil => exact .pure ⟨[], .ended, rfl, rfl⟩
  | cons table rest ih =>
    unfold round
    refine .bind (ensures_visit table report) ?_
    rintro visited front ⟨turn, fits, rfl, rfl⟩
    cases takes : turn.isOpen with
    | true =>
      refine .bind (ih _) ?_
      rintro ⟨isOpen, tables, later⟩ back ⟨turns, fit, rfl, left⟩
      obtain ⟨rfl, rfl⟩ := Prod.mk.inj left
      refine .pure ⟨turn :: turns, .goOn fits takes fit, ?_, rfl⟩
      rw [List.append_nil]
      rfl
    | false =>
      refine .pure ⟨[turn], .brokenOff fits takes, ?_, ?_⟩
      · cases rest <;> rfl
      · cases rest <;> rfl

/-! ## All rounds -/

/-- What the rounds come to: the turns of each one, what is left of the tables, the report, and the
calls. -/
inductive Rounds (interval : Nat) : Nat → List PeerTable → HandoverReport →
    List (List PeerTurn) → List PeerTable → HandoverReport → List Exchange → Prop
  | usedUp {tables : List PeerTable} {report : HandoverReport} :
      Rounds interval 0 tables report [] tables report []
  | stopped {attempts : Nat} {tables : List PeerTable} {report : HandoverReport} :
      Rounds interval (attempts + 1) tables report [] tables { report with cancelled := true }
        [.isCancelled true]
  | nothingLeft {attempts : Nat} {tables : List PeerTable} {report : HandoverReport}
      (nothing : tables.all PeerTable.isEmpty = true) :
      Rounds interval (attempts + 1) tables report [] tables report [.isCancelled false]
  | brokenOff {attempts : Nat} {tables : List PeerTable} {report : HandoverReport}
      {turns : List PeerTurn} (something : tables.all PeerTable.isEmpty = false)
      (fit : Fit tables turns false) :
      Rounds interval (attempts + 1) tables report [turns] (afterRound tables turns)
        { tallyRound tables turns report with cancelled := true }
        (.isCancelled false :: roundCalls tables turns)
  | goOn {attempts : Nat} {tables last : List PeerTable} {report whole : HandoverReport}
      {turns : List PeerTurn} {later : List (List PeerTurn)} {made : List Exchange}
      (something : tables.all PeerTable.isEmpty = false) (fit : Fit tables turns true)
      (others : Rounds interval attempts (afterRound tables turns)
        (tallyRound tables turns report).addRound later last whole made) :
      Rounds interval (attempts + 1) tables report (turns :: later) last whole
        (.isCancelled false :: (roundCalls tables turns ++ .sleep interval :: made))

theorem ensures_rounds (interval attempts : Nat) (tables : List PeerTable)
    (report : HandoverReport) :
    Ensures (rounds interval attempts tables report : StateM (Minutes ω) _) fun result made =>
      ∃ turns, Rounds interval attempts tables report turns result.1 result.2 made := by
  induction attempts generalizing tables report with
  | zero => exact .pure ⟨[], .usedUp⟩
  | succ attempts ih =>
    unfold rounds
    refine .askBind fun stopped => ?_
    cases stopped with
    | true => exact .pure ⟨[], .stopped⟩
    | false =>
      rw [if_neg Bool.false_ne_true]
      split
      case isTrue nothing => exact .pure ⟨[], .nothingLeft nothing⟩
      case isFalse something =>
        have something := eq_false_of_ne_true something
        refine .bind (ensures_round tables report) ?_
        rintro ⟨isOpen, left⟩ front ⟨turns, fit, rfl, rfl⟩
        cases isOpen with
        | false =>
          refine .pure ⟨[turns], ?_⟩
          rw [List.append_nil]
          exact .brokenOff something fit
        | true =>
          refine .askBind fun _ => (ih _ _).mono ?_
          rintro result back ⟨later, others⟩
          exact ⟨turns :: later, .goOn something fit others⟩

/-! ## The sweep -/

/-- What a sweep leaves of a table. -/
def sweepOne (table : PeerTable) : PeerTable :=
  if table.resolved then table else table.resolve

/-- The calls of a sweep, which tells for each table the answer that deleting its routes had. -/
def sweepCalls (tables : List PeerTable) (answers : List (Option (Except SessionRefusal Unit))) :
    List Exchange :=
  (List.zipWith (fun table answer? => (answer?.map (cleanCalls table.session)).getD [])
    tables answers).flatten

/-- A sweep asks to delete the routes of the tables with something left to do. -/
def SweepFits (table : PeerTable) (answer? : Option (Except SessionRefusal Unit)) : Prop :=
  answer?.isSome = !table.resolved

theorem ensures_sweep (tables : List PeerTable) (report : HandoverReport) :
    Ensures (sweep tables report : StateM (Minutes ω) _) fun result made =>
      ∃ answers, List.Forall₂ SweepFits tables answers ∧ made = sweepCalls tables answers ∧
        result = (tables.map sweepOne,
          { report with
            cleanedPeers := report.cleanedPeers + tables.countP fun table => !table.resolved }) := by
  induction tables generalizing report with
  | nil => exact .pure ⟨[], .nil, rfl, rfl⟩
  | cons table rest ih =>
    unfold sweep
    cases resolved : table.resolved with
    | true =>
      refine .bind (ih report) ?_
      rintro result front ⟨answers, fit, rfl, rfl⟩
      refine .pure ⟨none :: answers, .cons ?_ fit, ?_, ?_⟩
      · simp [SweepFits, resolved]
      · rw [List.append_nil]
        rfl
      · simp [sweepOne, resolved]
    | false =>
      refine .bind table.ensures_clean ?_
      rintro result front ⟨rfl, answer, rfl⟩
      refine .bind (ih _) ?_
      rintro result back ⟨answers, fit, rfl, rfl⟩
      refine .pure ⟨some answer :: answers, .cons ?_ fit, ?_, ?_⟩
      · simp [SweepFits, resolved]
      · rw [List.append_nil]
        rfl
      · simp [sweepOne, resolved, HandoverReport.addCleaned, Nat.add_assoc, Nat.add_comm 1]

/-- What comes behind the rounds: the answers of a sweep if there is one, what is left of the
tables, the report, and the calls. -/
inductive Sweep : List PeerTable → HandoverReport →
    Option (List (Option (Except SessionRefusal Unit))) → List PeerTable → HandoverReport →
    List Exchange → Prop
  | brokenOff {tables : List PeerTable} {report : HandoverReport}
      (cancelled : report.cancelled = true) : Sweep tables report none tables report []
  | stopped {tables : List PeerTable} {report : HandoverReport}
      (going : report.cancelled = false) :
      Sweep tables report none tables report [.isCancelled true]
  | swept {tables : List PeerTable} {report : HandoverReport}
      {answers : List (Option (Except SessionRefusal Unit))} (going : report.cancelled = false)
      (fit : List.Forall₂ SweepFits tables answers) :
      Sweep tables report (some answers) (tables.map sweepOne)
        { report with
          cleanedPeers := report.cleanedPeers + tables.countP fun table => !table.resolved }
        (.isCancelled false :: sweepCalls tables answers)

theorem ensures_sweepUnlessCancelled (tables : List PeerTable) (report : HandoverReport) :
    Ensures (sweepUnlessCancelled tables report : StateM (Minutes ω) _) fun result made =>
      ∃ answers?, Sweep tables report answers? result.1 result.2 made := by
  unfold sweepUnlessCancelled
  split
  case isTrue cancelled => exact .pure ⟨none, .brokenOff cancelled⟩
  case isFalse going =>
    have going := eq_false_of_ne_true going
    refine .askBind fun stopped => ?_
    cases stopped with
    | true => exact .pure ⟨none, .stopped going⟩
    | false =>
      refine (ensures_sweep tables report).mono ?_
      rintro result made ⟨answers, fit, rfl, rfl⟩
      exact ⟨some answers, .swept going fit⟩

end Handover

/-- A hand-over is its rounds and what comes behind them. -/
theorem DumpTransfer.ensures_handOver (dump : DumpTransfer) :
    Ensures (dump.handOver : StateM (Minutes ω) _) fun result made =>
      ∃ turns left counted answers? front back,
        Handover.Rounds dump.settings.pollInterval dump.settings.pollAttempts dump.tables .zero
          turns left counted front ∧
        Handover.Sweep left counted answers? result.2.tables result.1 back ∧
        made = front ++ back ∧
        result.2 = { dump with
          phase := .done
          tables := result.2.tables
          stats := { dump.stats with handover := result.1 } } := by
  unfold handOver
  refine .bind (Handover.ensures_rounds _ _ _ _) ?_
  rintro ⟨left, counted⟩ front ⟨turns, rounds⟩
  refine .bind (Handover.ensures_sweepUnlessCancelled left counted) ?_
  rintro ⟨tables, report⟩ back ⟨answers?, sweep⟩
  refine .pure ⟨turns, left, counted, answers?, front, back, rounds, sweep, ?_, rfl⟩
  rw [List.append_nil]

end CollectorFeed
