import CollectorFeed.Proofs.Handover.SharedSessions

/-!
# Hand-overs to established sessions

If every session is established when it is looked at, unless the hand-over has ended it itself
(`FoundEstablished`), and no two tables are bound to one session, the first round settles all
tables: those with routes are handed over, and the sessions of the others are ended. The queue then
takes the messages of all tables, in the order of the index (`ensures_handOver_unhindered`).
-/

set_option autoImplicit false

namespace CollectorFeed

/-! ## Sessions that are found established -/

namespace Exchange

/-- The session that a call ends, if it ends one. -/
def ended? : Exchange → Option SessionId
  | setState id .error _ => some id
  | _ => none

/-- Whether a session that was asked for its state is established, or is one of those given. -/
def findsEstablished (ended : List SessionId) : Exchange → Bool
  | state id answer => id ∈ ended || answer = some .established
  | _ => true

/-- Whether a session is said to have narrow AS numbers. -/
def isNarrow : Exchange → Bool
  | width _ (some .two) => true
  | _ => false

theorem session?_of_ended? {id : SessionId} {exchange : Exchange}
    (ends : exchange.ended? = some id) : exchange.session? = some id := by
  cases exchange with
  | setState other state cause =>
    cases state with
    | error => exact ends
    | _ => cases ends
  | _ => cases ends

end Exchange

/-- The sessions that were ended before or by one of the calls. -/
def endedBy (ended : List SessionId) (exchanges : List Exchange) : List SessionId :=
  exchanges.foldl (fun ended exchange => exchange.ended?.toList ++ ended) ended

/-- Every session that is asked for its state is established, unless it was ended before. -/
def FoundEstablished : List SessionId → List Exchange → Prop
  | _, [] => True
  | ended, exchange :: rest => exchange.findsEstablished ended = true ∧
    FoundEstablished (exchange.ended?.toList ++ ended) rest

instance : (ended : List SessionId) → (exchanges : List Exchange) →
    Decidable (FoundEstablished ended exchanges)
  | _, [] => .isTrue trivial
  | ended, exchange :: rest =>
    have := instDecidableFoundEstablished (exchange.ended?.toList ++ ended) rest
    inferInstanceAs (Decidable (_ ∧ _))

theorem foundEstablished_append {ended : List SessionId} {front back : List Exchange} :
    FoundEstablished ended (front ++ back) ↔
      FoundEstablished ended front ∧ FoundEstablished (endedBy ended front) back := by
  induction front generalizing ended with
  | nil => exact (and_iff_right trivial).symm
  | cons exchange rest ih =>
    rw [List.cons_append, FoundEstablished, FoundEstablished, ih, and_assoc]
    rfl

theorem mem_endedBy {id : SessionId} {ended : List SessionId} {exchanges : List Exchange} :
    id ∈ endedBy ended exchanges ↔
      id ∈ ended ∨ ∃ exchange ∈ exchanges, exchange.ended? = some id := by
  induction exchanges generalizing ended with
  | nil => simp [endedBy]
  | cons exchange rest ih =>
    have step : endedBy ended (exchange :: rest) =
        endedBy (exchange.ended?.toList ++ ended) rest := rfl
    rw [step, ih]
    simp only [List.mem_append, Option.mem_toList, List.exists_mem_cons_iff]
    grind

/-- Nothing gets in the way of a hand-over: the queue takes every message, nobody asks to stop, all
sessions are found established but those that were ended, and none has narrow AS numbers. -/
structure Unhindered (ended : List SessionId) (exchanges : List Exchange) : Prop where
  taken : QueueOpen exchanges
  unstopped : NeverStopped exchanges
  established : FoundEstablished ended exchanges
  wide : ∀ exchange ∈ exchanges, exchange.isNarrow = false

theorem unhindered_append {ended : List SessionId} {front back : List Exchange} :
    Unhindered ended (front ++ back) ↔
      Unhindered ended front ∧ Unhindered (endedBy ended front) back := by
  constructor
  · rintro ⟨taken, unstopped, established, wide⟩
    rw [queueOpen_append] at taken
    rw [neverStopped_append] at unstopped
    rw [foundEstablished_append] at established
    rw [List.forall_mem_append] at wide
    exact ⟨⟨taken.1, unstopped.1, established.1, wide.1⟩,
      ⟨taken.2, unstopped.2, established.2, wide.2⟩⟩
  · rintro ⟨first, second⟩
    exact ⟨(queueOpen_append _ _).2 ⟨first.taken, second.taken⟩,
      (neverStopped_append _ _).2 ⟨first.unstopped, second.unstopped⟩,
      foundEstablished_append.2 ⟨first.established, second.established⟩,
      List.forall_mem_append.2 ⟨first.wide, second.wide⟩⟩

/-- Calls that end no session leave it at the sessions that were ended before. -/
theorem endedBy_of_quiet {ended : List SessionId} {exchanges : List Exchange}
    (quiet : ∀ exchange ∈ exchanges, exchange.ended? = none) : endedBy ended exchanges = ended := by
  induction exchanges generalizing ended with
  | nil => rfl
  | cons exchange rest ih =>
    rw [List.forall_mem_cons] at quiet
    rw [endedBy, List.foldl_cons, quiet.1]
    exact ih quiet.2

theorem Unhindered.behind {ended : List SessionId} {front back : List Exchange}
    (unhindered : Unhindered ended (front ++ back))
    (quiet : ∀ exchange ∈ front, exchange.ended? = none) : Unhindered ended back := by
  have second := (unhindered_append.1 unhindered).2
  rw [endedBy_of_quiet quiet] at second
  exact second

namespace Handover

/-! ## The first round -/

/-- What becomes of a table in a round that finds its session established. -/
inductive Served (table : PeerTable) : PeerTurn → Prop
  | flushed (width? : Option AsnWidth) (routes : table.isEmpty = false) :
      Served table (.flushed width?)
  | cleaned (answer : Except SessionRefusal Unit) (empty : table.isEmpty = true) :
      Served table (.cleaned answer)

variable {table : PeerTable} {turn : PeerTurn} {tables : List PeerTable} {turns : List PeerTurn}
  {ended : List SessionId}

theorem Turned.served (turned : Turned table turn) (unresolved : table.resolved = false)
    (honest : table.Honest) (alive : table.session ∉ ended)
    (found : FoundEstablished ended (turn.calls table)) : Served table turn := by
  obtain ⟨fits, takes⟩ := turned
  cases turn with
  | passed => exact absurd (fits.symm.trans unresolved) Bool.noConfusion
  | waiting state? =>
    have established : state? = some .established := by
      simpa [PeerTurn.calls, FoundEstablished, Exchange.findsEstablished, alive] using found
    -- such a table does not wait
    exact absurd established fits.2
  | idle =>
    -- a table that says it has data has routes
    have some_ := honest.1 fits.2.2
    have none_ : table.routes.toList = [] := by
      simpa [PeerTable.isEmpty, Array.isEmpty_iff] using fits.2.1
    exact absurd none_ some_
  | cleaned answer => exact .cleaned answer fits.2.1
  | flushed width? => exact .flushed width? fits.2
  | refused width? taken message refusal => cases takes

/-- A turn ends no session but that of its table. -/
theorem Turned.mem_endedBy (turned : Turned table turn) {id : SessionId}
    (ends : id ∈ endedBy ended (turn.calls table)) : id ∈ ended ∨ id = table.session := by
  rcases CollectorFeed.mem_endedBy.1 ends with before | ⟨exchange, there, ends⟩
  · exact .inl before
  · have about := turned.session?_calls exchange there
    rw [Exchange.session?_of_ended? ends] at about
    exact .inr (Option.some.inj about)

/-- Every table is served in the first round, if all sessions are found established. A table whose
session is ended does not touch the sessions of the others. -/
theorem forall_served (turned : List.Forall₂ Turned tables turns)
    (unresolved : ∀ table ∈ tables, table.resolved = false)
    (honest : ∀ table ∈ tables, table.Honest)
    (apart : tables.Pairwise fun table other => table.session ≠ other.session)
    (alive : ∀ table ∈ tables, table.session ∉ ended)
    (found : FoundEstablished ended (roundCalls tables turns)) :
    List.Forall₂ Served tables turns := by
  induction turned generalizing ended with
  | nil => exact .nil
  | @cons table turn tables turns one others ih =>
    rw [List.forall_mem_cons] at unresolved honest alive
    rw [List.pairwise_cons] at apart
    rw [roundCalls, foundEstablished_append] at found
    refine .cons (one.served unresolved.1 honest.1 alive.1 found.1) ?_
    refine ih unresolved.2 honest.2 apart.2 ?_ found.2
    intro other there ends
    rcases one.mem_endedBy ends with before | same
    · exact alive.2 other there before
    · exact apart.1 other there same.symm

/-- Nothing is left to hand over behind a round that has served every table. -/
theorem all_isEmpty_afterRound (served : List.Forall₂ Served tables turns) :
    (afterRound tables turns).all PeerTable.isEmpty = true := by
  induction served with
  | nil => rfl
  | cons one others ih =>
    rw [afterRound, List.all_cons, ih]
    cases one with
    | flushed width? routes => rfl
    | cleaned answer empty => rfl

end Handover

namespace PeerTable

theorem messages_of_isEmpty {table : PeerTable} (empty : table.isEmpty = true)
    (width? : Option AsnWidth) : table.messages width? = [] := by
  have none_ : table.routes.toList = [] := by
    simpa [isEmpty, Array.isEmpty_iff] using empty
  rw [messages, none_]
  rfl

/-- A width that is not known counts as the wide one. -/
theorem messages_of_wide (table : PeerTable) {width? : Option AsnWidth}
    (wide : (Exchange.width table.session width?).isNarrow = false) :
    table.messages width? = table.messages none := by
  rcases width? with _ | _ | _
  · rfl
  · cases wide
  · rfl

end PeerTable

namespace Handover

variable {tables last : List PeerTable} {turns : List PeerTurn} {ended : List SessionId}
  {interval attempts : Nat} {rounds : List (List PeerTurn)} {report whole : HandoverReport}
  {made : List Exchange}

/-- The messages of a round that has served every table are those of all tables. -/
theorem roundMessages_served (served : List.Forall₂ Served tables turns)
    (wide : ∀ exchange ∈ roundCalls tables turns, exchange.isNarrow = false) :
    roundMessages tables turns = tables.flatMap (·.messages none) := by
  induction served with
  | nil => rfl
  | @cons table turn tables turns one others ih =>
    rw [roundCalls, List.forall_mem_append] at wide
    have rest := ih wide.2
    rw [List.flatMap_cons, ← rest, roundMessages, List.zipWith_cons_cons, List.flatten_cons,
      ← roundMessages, List.append_cancel_right_eq]
    cases one with
    | flushed width? routes =>
      apply table.messages_of_wide
      exact wide.1 _ (List.mem_cons_of_mem _ List.mem_cons_self)
    | cleaned answer empty => exact (PeerTable.messages_of_isEmpty empty none).symm

/-- With nothing to hand over there is no round. -/
theorem Unbroken.passedOn_nothing
    (course : Unbroken interval attempts tables report rounds last whole made)
    (nothing : tables.all PeerTable.isEmpty = true) : passedOn made = [] := by
  cases course with
  | ended needless looked => exact passedOn_looks looked
  | goOn something turned others => exact absurd (nothing.symm.trans something) Bool.noConfusion

/-- If nothing gets in the way, the queue takes the messages of all tables, one table behind the
other. -/
theorem Unbroken.passedOn_unhindered
    (course : Unbroken interval attempts tables report rounds last whole made)
    (attempted : attempts ≠ 0) (unresolved : ∀ table ∈ tables, table.resolved = false)
    (honest : ∀ table ∈ tables, table.Honest)
    (apart : tables.Pairwise fun table other => table.session ≠ other.session)
    (alive : ∀ table ∈ tables, table.session ∉ ended) (unhindered : Unhindered ended made) :
    passedOn made = tables.flatMap (·.messages none) := by
  cases course with
  | ended needless looked =>
    have nothing : tables.all PeerTable.isEmpty = true := needless.resolve_left attempted
    rw [passedOn_looks looked, eq_comm, List.flatMap_eq_nil_iff]
    intro table there
    exact PeerTable.messages_of_isEmpty (List.all_eq_true.1 nothing table there) none
  | goOn something turned others =>
    change Unhindered ended ([.isCancelled false] ++ (roundCalls tables _ ++ _)) at unhindered
    obtain ⟨round, -⟩ := unhindered_append.1 (unhindered.behind (List.forall_mem_singleton.2 rfl))
    have served := forall_served turned unresolved honest apart alive round.established
    have first := roundMessages_served served round.wide
    -- behind this round all tables are empty, so there is no other one
    have silent := others.passedOn_nothing (all_isEmpty_afterRound served)
    rw [← first, ← passedOn_roundCalls]
    change passedOn (roundCalls tables _ ++ .sleep interval :: _) = _
    rw [passedOn_append]
    exact List.append_right_eq_self.2 silent

end Handover

/-- If nothing gets in its way, a hand-over passes on the messages of all tables, one table behind
the other. -/
theorem DumpTransfer.ensures_handOver_unhindered {ω : Type} [Surroundings ω] (dump : DumpTransfer)
    (attempted : dump.settings.pollAttempts ≠ 0)
    (unresolved : ∀ table ∈ dump.tables, table.resolved = false)
    (honest : ∀ table ∈ dump.tables, table.Honest)
    (apart : dump.tables.Pairwise fun table other => table.session ≠ other.session) :
    Ensures (dump.handOver : StateM (Minutes ω) _) fun _ made =>
      Unhindered [] made → passedOn made = dump.tables.flatMap (·.messages none) := by
  refine dump.ensures_handOver.mono ?_
  rintro result made ⟨turns, left, counted, answers?, front, back, rounds, sweep, rfl, -⟩ unhindered
  obtain ⟨first, second⟩ := unhindered_append.1 unhindered
  have course := rounds.unbroken first.taken first.unstopped
  obtain ⟨-, -, going⟩ := course.whole_fixed
  obtain ⟨answers, -, -, -, rfl⟩ := sweep.swept_of_neverStopped second.unstopped going
  have handed := course.passedOn_unhindered attempted unresolved honest apart
    (fun table _ => List.not_mem_nil) first
  -- the sweep passes nothing on
  rw [passedOn_append, handed]
  exact List.append_right_eq_self.2 (Handover.passedOn_sweepCalls left answers)

end CollectorFeed
