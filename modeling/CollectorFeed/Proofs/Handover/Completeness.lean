import CollectorFeed.Proofs.Conversation.Interruptions
import CollectorFeed.Proofs.Handover.Settlement

/-!
# What a hand-over leaves behind

A hand-over that does not report that it was broken off has met no closed queue, and no request to
stop before a round. It settles a table or leaves it as it was (`LeftOf`), and counts those that it
settles. The sweep behind the rounds settles all that are left over. It is only left out if the look
behind all rounds sees a request to stop, which the report does not tell.

Main statement: `DumpTransfer.completeness_handOver`, whatever the sessions do meanwhile.
-/

set_option autoImplicit false

namespace CollectorFeed

/-! ## Calls in which nothing is refused and nobody asks to stop -/

@[simp] theorem neverStopped_deliver (messages : List Message) :
    NeverStopped (deliver messages) := by
  induction messages with
  | nil => exact neverStopped_nil
  | cons message rest ih =>
    exact (neverStopped_append _ _).2 ⟨by simp [Exchange.isStop], ih⟩

@[simp] theorem queueOpen_deliver (messages : List Message) : QueueOpen (deliver messages) := by
  induction messages with
  | nil => exact queueOpen_nil
  | cons message rest ih => exact (queueOpen_append _ _).2 ⟨by simp [Exchange.isRefusal], ih⟩

/-- A turn does not look for a request to stop. -/
theorem PeerTurn.neverStopped_calls (table : PeerTable) (turn : PeerTurn) :
    NeverStopped (turn.calls table) := by
  cases turn <;> simp [calls, cleanCalls, Exchange.isStop]

theorem PeerTurn.queueOpen_calls {turn : PeerTurn} (takes : turn.isOpen = true)
    (table : PeerTable) : QueueOpen (turn.calls table) := by
  cases turn with
  | refused width? taken message refusal => cases takes
  | _ => simp [calls, cleanCalls, Exchange.isRefusal]

namespace Handover

variable {interval attempts : Nat} {tables origins last : List PeerTable}
  {turns : List PeerTurn} {rounds : List (List PeerTurn)} {report whole : HandoverReport}
  {made : List Exchange} {answers : List (Option (Except SessionRefusal Unit))}

theorem neverStopped_roundCalls (tables : List PeerTable) (turns : List PeerTurn) :
    NeverStopped (roundCalls tables turns) := by
  induction tables generalizing turns with
  | nil => exact neverStopped_nil
  | cons table rest ih =>
    cases turns with
    | nil => exact neverStopped_nil
    | cons turn turns =>
      exact (neverStopped_append _ _).2 ⟨turn.neverStopped_calls table, ih turns⟩

/-- A round that is not broken off gives every table a turn in which the queue takes everything. -/
theorem Fit.of_open {isOpen : Bool} (fit : Fit tables turns isOpen) (whole : isOpen = true) :
    List.Forall₂ Turned tables turns ∧ QueueOpen (roundCalls tables turns) := by
  induction fit with
  | ended => exact ⟨.nil, queueOpen_nil⟩
  | goOn fits takes others ih =>
    obtain ⟨turned, taken⟩ := ih whole
    refine ⟨.cons ⟨fits, takes⟩ turned, (queueOpen_append _ _).2 ⟨?_, taken⟩⟩
    exact PeerTurn.queueOpen_calls takes _
  | brokenOff fits refuses => cases whole

/-- Rounds that do not report that they were broken off were not. -/
theorem Rounds.unbroken_of_going
    (course : Rounds interval attempts tables report rounds last whole made)
    (going : whole.cancelled = false) :
    Unbroken interval attempts tables report rounds last whole made ∧ QueueOpen made ∧
      NeverStopped made := by
  induction course with
  | usedUp => exact ⟨.ended (.inl rfl) (List.forall_mem_nil _), queueOpen_nil, neverStopped_nil⟩
  | stopped => cases going
  | nothingLeft nothing =>
    exact ⟨.ended (.inr nothing) (List.forall_mem_singleton.2 rfl), List.forall_mem_singleton.2 rfl,
      List.forall_mem_singleton.2 rfl⟩
  | brokenOff something fit => cases going
  | goOn something fit others ih =>
    obtain ⟨turned, taken⟩ := fit.of_open rfl
    obtain ⟨course, taken', unstopped⟩ := ih going
    refine ⟨.goOn something turned course, ?_, ?_⟩
    · simp [taken, taken', Exchange.isRefusal]
    · simp [neverStopped_roundCalls, unstopped, Exchange.isStop]

theorem sweepCalls_open (tables : List PeerTable)
    (answers : List (Option (Except SessionRefusal Unit))) :
    QueueOpen (sweepCalls tables answers) ∧ NeverStopped (sweepCalls tables answers) := by
  induction tables generalizing answers with
  | nil => exact ⟨queueOpen_nil, neverStopped_nil⟩
  | cons table rest ih =>
    cases answers with
    | nil => exact ⟨queueOpen_nil, neverStopped_nil⟩
    | cons answer? answers =>
      obtain ⟨taken, unstopped⟩ := ih answers
      have first : QueueOpen ((answer?.map (cleanCalls table.session)).getD []) ∧
          NeverStopped ((answer?.map (cleanCalls table.session)).getD []) := by
        cases answer? <;> simp [cleanCalls, Exchange.isRefusal, Exchange.isStop]
      exact ⟨(queueOpen_append _ _).2 ⟨first.1, taken⟩,
        (neverStopped_append _ _).2 ⟨first.2, unstopped⟩⟩

end Handover

/-! ## What is left of a table -/

/-- A table is left as it was, or it is settled. -/
def LeftOf (origin table : PeerTable) : Prop :=
  table = origin ∨ Settles origin table

namespace LeftOf

variable {origin table : PeerTable}

theorem eq_of_resolved (left : LeftOf origin table) (resolved : origin.resolved = true) :
    table = origin := by
  rcases left with same | ⟨unresolved, -⟩
  · exact same
  · cases resolved.symm.trans unresolved

theorem settles (left : LeftOf origin table) (unresolved : origin.resolved = false) :
    Settles origin table := by
  rcases left with rfl | settles
  · exact ⟨unresolved, .inl rfl⟩
  · exact settles

theorem after (left : LeftOf origin table) {turn : PeerTurn} (fits : turn.Fits table) :
    LeftOf origin (turn.after table) := by
  cases resolved : origin.resolved with
  | true =>
    obtain rfl := left.eq_of_resolved resolved
    obtain rfl := PeerTurn.eq_passed fits resolved
    exact .inl rfl
  | false => exact .inr ((left.settles resolved).after fits)

theorem sweepOne (left : LeftOf origin table) : LeftOf origin (Handover.sweepOne table) := by
  cases resolved : origin.resolved with
  | true =>
    obtain rfl := left.eq_of_resolved resolved
    rw [Handover.sweepOne, resolved]
    exact .inl rfl
  | false =>
    rw [(left.settles resolved).sweepOne_eq]
    exact .inr ⟨resolved, .inr rfl⟩

/-- A table that is done with is empty, unless it was done with before and had routes. -/
theorem isEmpty_iff (left : LeftOf origin table) (done : table.resolved = true) :
    table.isEmpty = true ↔ (origin.resolved = true → origin.isEmpty = true) := by
  cases resolved : origin.resolved with
  | true =>
    obtain rfl := left.eq_of_resolved resolved
    simp
  | false =>
    obtain ⟨-, rfl | rfl⟩ := left.settles resolved
    · cases done.symm.trans resolved
    · exact iff_of_true rfl Bool.noConfusion

end LeftOf

/-- Nothing is left to do for any table, and none has routes. -/
def Complete (tables : List PeerTable) : Prop :=
  ∀ table ∈ tables, table.resolved = true ∧ table.isEmpty = true

instance (tables : List PeerTable) : Decidable (Complete tables) :=
  inferInstanceAs (Decidable (∀ table ∈ tables, table.resolved = true ∧ table.isEmpty = true))

/-- Number of tables for which something is left to do. -/
def openCount (tables : List PeerTable) : Nat :=
  tables.countP fun table => !table.resolved

theorem openCount_eq_zero_iff {tables : List PeerTable} :
    openCount tables = 0 ↔ ∀ table ∈ tables, table.resolved = true := by
  simp [openCount, List.countP_eq_zero]

/-- Tables that are done with have no routes. -/
def Emptied (tables : List PeerTable) : Prop :=
  ∀ table ∈ tables, table.resolved = true → table.isEmpty = true

instance (tables : List PeerTable) : Decidable (Emptied tables) :=
  inferInstanceAs (Decidable (∀ table ∈ tables, table.resolved = true → table.isEmpty = true))

theorem complete_iff {origins tables : List PeerTable} (left : List.Forall₂ LeftOf origins tables) :
    Complete tables ↔ openCount tables = 0 ∧ Emptied origins := by
  rw [openCount_eq_zero_iff]
  induction left with
  | nil => simp [Complete, Emptied]
  | @cons origin table origins tables one others ih =>
    simp only [Complete, Emptied, List.forall_mem_cons] at ih ⊢
    rw [ih]
    cases done : table.resolved with
    | true =>
      rw [one.isEmpty_iff done]
      tauto
    | false => simp

namespace Handover

variable {interval attempts : Nat} {tables origins last : List PeerTable}
  {turns : List PeerTurn} {rounds : List (List PeerTurn)} {report whole : HandoverReport}
  {made : List Exchange} {answers? : Option (List (Option (Except SessionRefusal Unit)))}

theorem leftOf_afterRound (left : List.Forall₂ LeftOf origins tables)
    (turned : List.Forall₂ Turned tables turns) :
    List.Forall₂ LeftOf origins (afterRound tables turns) := by
  induction left generalizing turns with
  | nil => exact .nil
  | cons one others ih =>
    cases turned with
    | cons fits rest => exact .cons (one.after fits.1) (ih rest)

theorem Unbroken.leftOf (course : Unbroken interval attempts tables report rounds last whole made)
    (left : List.Forall₂ LeftOf origins tables) : List.Forall₂ LeftOf origins last := by
  induction course with
  | ended needless looked => exact left
  | goOn something turned others ih => exact ih (leftOf_afterRound left turned)

theorem leftOf_sweepOne (left : List.Forall₂ LeftOf origins tables) :
    List.Forall₂ LeftOf origins (tables.map sweepOne) :=
  List.forall₂_map_right_iff.2 (left.imp fun _ _ => LeftOf.sweepOne)

theorem openCount_map_sweepOne (tables : List PeerTable) :
    openCount (tables.map sweepOne) = 0 := by
  rw [openCount_eq_zero_iff, List.forall_mem_map]
  intro table _
  unfold sweepOne
  split
  case isTrue resolved => exact resolved
  case isFalse => rfl

/-- Behind rounds that were not broken off every table is swept, unless the last look sees a request
to stop. -/
theorem Sweep.cases_of_going (course : Sweep tables report answers? last whole made)
    (going : whole.cancelled = false) :
    report.cancelled = false ∧
      ((made = [.isCancelled true] ∧ last = tables ∧ whole = report) ∨
        (QueueOpen made ∧ NeverStopped made ∧ last = tables.map sweepOne ∧
          whole = { report with cleanedPeers := report.cleanedPeers + openCount tables })) := by
  cases course with
  | brokenOff cancelled => cases going.symm.trans cancelled
  | stopped going => exact ⟨going, .inl ⟨rfl, rfl, rfl⟩⟩
  | @swept answers going fit =>
    obtain ⟨taken, unstopped⟩ := sweepCalls_open tables answers
    exact ⟨going, .inr ⟨(queueOpen_cons _ _).2 ⟨rfl, taken⟩,
      (neverStopped_cons _ _).2 ⟨rfl, unstopped⟩, rfl, rfl⟩⟩

end Handover

/-! ## The whole hand-over -/

/-- What a hand-over comes to that does not report that it was broken off. -/
structure Completeness (dump : DumpTransfer) (report : HandoverReport) (done : DumpTransfer)
    (exchanges : List Exchange) : Prop where
  /-- The queue took every message. -/
  taken : QueueOpen exchanges
  /-- Nothing is left to do and no table has routes, exactly if every router for which something was
  left to do is counted, and tables that were done with before had no routes. -/
  complete_iff : Complete done.tables ↔
    report.flushedPeers + report.cleanedPeers = openCount dump.tables ∧ Emptied dump.tables
  /-- All of them are counted if nobody asks to stop. -/
  counted : NeverStopped exchanges →
    report.flushedPeers + report.cleanedPeers = openCount dump.tables
  /-- If somebody asks to stop, only the last look sees it, behind which nothing is done. -/
  stopped : ¬ NeverStopped exchanges →
    ∃ front, NeverStopped front ∧ exchanges = front ++ [.isCancelled true]

namespace DumpTransfer

variable {ω : Type} [Surroundings ω]

/-- A hand-over that does not report that it was broken off is complete, unless the last look, with
which it begins to sweep, sees a request to stop. -/
theorem completeness_handOver (dump : DumpTransfer) (world : ω)
    (going : ((dump.handOver : StateM ω _).run world).1.1.cancelled = false) :
    Completeness dump ((dump.handOver : StateM ω _).run world).1.1
      ((dump.handOver : StateM ω _).run world).1.2 (exchangesOf dump.handOver world) := by
  rw [(SameRun.inherited.handOver dump).run_eq world] at going ⊢
  obtain ⟨rounds, left, counted, answers?, front, back, course, sweep, noted, -⟩ :=
    dump.ensures_handOver.exchangesOf world
  rw [noted]
  generalize (dump.handOver.run (⟨world, []⟩ : Minutes ω)).1 = result at going sweep ⊢
  obtain ⟨report, done⟩ := result
  obtain ⟨goingOn, ending⟩ := sweep.cases_of_going going
  obtain ⟨unbroken, taken, unstopped⟩ := course.unbroken_of_going goingOn
  -- the rounds settle some tables and count them; the others are still as they were
  have settled : counted.flushedPeers + counted.cleanedPeers + openCount left =
      0 + openCount dump.tables := unbroken.unsettled
  have leftOf : List.Forall₂ LeftOf dump.tables left :=
    unbroken.leftOf (List.forall₂_same.2 fun table _ => .inl rfl)
  rcases ending with ⟨rfl, left_eq, rfl⟩ | ⟨taken', unstopped', left_eq, rfl⟩
  -- the last look sees a request to stop
  · refine ⟨?_, ?_, fun unasked => ?_, fun _ => ⟨front, unstopped, rfl⟩⟩
    · exact (queueOpen_append _ _).2 ⟨taken, List.forall_mem_singleton.2 rfl⟩
    · rw [left_eq, complete_iff leftOf]
      refine and_congr_left fun _ => ?_
      dsimp only at settled ⊢
      omega
    · cases ((neverStopped_append _ _).1 unasked).2 _ List.mem_cons_self
  -- nobody asks to stop
  · have counts : counted.flushedPeers + (counted.cleanedPeers + openCount left) =
        openCount dump.tables := by omega
    refine ⟨(queueOpen_append _ _).2 ⟨taken, taken'⟩, ?_, fun _ => counts, fun asked => ?_⟩
    · rw [left_eq, complete_iff (Handover.leftOf_sweepOne leftOf)]
      refine and_congr_left fun _ => ?_
      exact iff_of_true (Handover.openCount_map_sweepOne left) counts
    · exact absurd ((neverStopped_append _ _).2 ⟨unstopped, unstopped'⟩) asked

/-- Two routers, of which only the first one has routes, and neither an established session. There
is one round; a stop may be asked for during the wait behind it. -/
def hurriedTransfer (patience? : Option Nat) : DumpTransfer × Interrupted :=
  let (dump, book) := takenIn [pairOpening, sampleRoute 0 1 0]
  ({ dump with settings := { dump.settings with pollAttempts := 1 } }, ⟨book, none, patience?⟩)

/-- How it is handed over. -/
def hurriedRun (patience? : Option Nat) : (HandoverReport × DumpTransfer) × Interrupted :=
  ((hurriedTransfer patience?).1.handOver).run (hurriedTransfer patience?).2

/-- If nobody asks to stop, the sweep settles both tables. -/
theorem completeness_handOver_hurriedTransfer :
    Completeness (hurriedTransfer none).1 (hurriedRun none).1.1 (hurriedRun none).1.2
      (exchangesOf (hurriedTransfer none).1.handOver (hurriedTransfer none).2) ∧
    (hurriedRun none).1.1.cleanedPeers = 2 :=
  ⟨completeness_handOver (hurriedTransfer none).1 (hurriedTransfer none).2 (by decide +kernel),
    by decide +kernel⟩

/-- If a stop is asked for during the only wait, the report does not tell that the hand-over was
broken off, but neither table is settled. -/
theorem not_complete_hurriedTransfer :
    Emptied (hurriedTransfer (some 1)).1.tables ∧
    (hurriedRun (some 1)).1.1.cancelled = false ∧
    ¬ Complete (hurriedRun (some 1)).1.2.tables ∧
    openCount (hurriedRun (some 1)).1.2.tables = 2 ∧
    ∃ table ∈ (hurriedRun (some 1)).1.2.tables, table.isEmpty = false :=
  ⟨by decide +kernel, by decide +kernel, by decide +kernel, by decide +kernel, by decide +kernel⟩

end DumpTransfer

end CollectorFeed
