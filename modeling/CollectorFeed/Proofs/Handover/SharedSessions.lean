import CollectorFeed.Proofs.Handover.Settlement

/-!
# Routers that share a session

A session is known by the AS number and the address of its router. An index that lists a router
twice binds two tables to one session, and the tables are settled one by one although what is done
for one of them is done to the session of both.

If every table that is bound to an established session has routes, all of them are handed over in
the first round, and nothing else is done to the session. A bound table without routes, however, has
the session ended and its routes deleted, no matter what the other tables have
(`sharedSession_handOver`). If that table comes first, the routes of the others are lost
(`not_delivered_listedTwice`).
-/

set_option autoImplicit false

namespace CollectorFeed

/-! ## The calls about one session -/

namespace Exchange

/-- The session that a call is about, if it is about one. -/
def session? : Exchange → Option SessionId
  | setState id _ _ | state id _ | width id _ | setWidth id _ | countMessage id
  | deleteRoutes id _ => some id
  | passOn message _ => some message.session
  | _ => none

/-- Whether a call changes the state of a session or deletes its routes. -/
def touches (id : SessionId) : Exchange → Bool
  | setState other _ _ | deleteRoutes other _ => other = id
  | _ => false

/-- Whether the answer of a call fits the state that a session is in. -/
def agrees (id : SessionId) (state? : Option SessionState) : Exchange → Bool
  | state other answer => other ≠ id || answer = state?
  | _ => true

/-- The state of a session behind a call that it was in a state before. -/
def stateAfter (id : SessionId) (state? : Option SessionState) : Exchange → Option SessionState
  | setState other reached _ => if other = id then state?.map fun _ => reached else state?
  | _ => state?

theorem session?_of_touches {id : SessionId} {exchange : Exchange}
    (touched : exchange.touches id = true) : exchange.session? = some id := by
  cases exchange with
  | setState other reached cause => exact congrArg some (of_decide_eq_true touched)
  | deleteRoutes other answer => exact congrArg some (of_decide_eq_true touched)
  | _ => cases touched

theorem stateAfter_of_not_touches {id : SessionId} {exchange : Exchange}
    (calm : exchange.touches id = false) (state? : Option SessionState) :
    exchange.stateAfter id state? = state? := by
  cases exchange with
  | setState other reached cause => exact if_neg (of_decide_eq_false calm)
  | _ => rfl

end Exchange

/-- Nobody but the calls themselves changes the state of a session: it is in a given state at first,
and later in the one that the calls have brought it into. -/
def Steady (id : SessionId) : Option SessionState → List Exchange → Prop
  | _, [] => True
  | state?, exchange :: rest =>
    exchange.agrees id state? = true ∧ Steady id (exchange.stateAfter id state?) rest

instance (id : SessionId) : (state? : Option SessionState) → (exchanges : List Exchange) →
    Decidable (Steady id state? exchanges)
  | _, [] => .isTrue trivial
  | state?, exchange :: rest =>
    have := instDecidableSteady id (exchange.stateAfter id state?) rest
    inferInstanceAs (Decidable (_ ∧ _))

/-- The calls neither change the state of a session nor delete its routes. -/
def Untouched (id : SessionId) (exchanges : List Exchange) : Prop :=
  ∀ exchange ∈ exchanges, exchange.touches id = false

instance (id : SessionId) (exchanges : List Exchange) : Decidable (Untouched id exchanges) :=
  inferInstanceAs (Decidable (∀ exchange ∈ exchanges, exchange.touches id = false))

/-- The calls about a session. -/
def callsAbout (id : SessionId) (exchanges : List Exchange) : List Exchange :=
  exchanges.filter fun exchange => exchange.session? = some id

@[simp] theorem callsAbout_append (id : SessionId) (front back : List Exchange) :
    callsAbout id (front ++ back) = callsAbout id front ++ callsAbout id back :=
  List.filter_append _ _

/-- The looks for a request to stop and the waits are about no session. -/
theorem callsAbout_round (id : SessionId) (interval : Nat) (front back : List Exchange) :
    callsAbout id (.isCancelled false :: (front ++ .sleep interval :: back)) =
      callsAbout id front ++ callsAbout id back := by
  rw [← callsAbout_append]
  simp [callsAbout, Exchange.session?]

/-- Whether a session is touched is told by the calls about it. -/
theorem Untouched.of_callsAbout {id : SessionId} {exchanges : List Exchange}
    (calm : Untouched id (callsAbout id exchanges)) : Untouched id exchanges := by
  intro exchange there
  by_contra touched
  have touched := eq_true_of_ne_false touched
  have about := decide_eq_true (Exchange.session?_of_touches touched)
  exact Bool.noConfusion (touched.symm.trans (calm exchange (List.mem_filter.2 ⟨there, about⟩)))

/-- The messages for a session are passed on by calls about it. -/
theorem passedOn_callsAbout (id : SessionId) (exchanges : List Exchange) :
    passedOn (callsAbout id exchanges) =
      (passedOn exchanges).filter fun message => message.session = id := by
  rw [passedOn, callsAbout, List.filterMap_filter, passedOn, List.filter_filterMap]
  refine List.filterMap_congr fun exchange _ => ?_
  cases exchange with
  | passOn message answer =>
    cases answer with
    | error refusal => simp [Exchange.message?]
    | ok _ => simp [Exchange.message?, Exchange.session?, Option.filter_some]
  | _ => simp [Exchange.message?]

theorem Steady.front {id : SessionId} {state? : Option SessionState} {front back : List Exchange}
    (steady : Steady id state? (front ++ back)) : Steady id state? front := by
  induction front generalizing state? with
  | nil => trivial
  | cons exchange rest ih => exact ⟨steady.1, ih steady.2⟩

/-- Calls that leave a session alone find the state that it was in. -/
theorem steady_append {id : SessionId} {state? : Option SessionState}
    {front back : List Exchange} (calm : Untouched id front) :
    Steady id state? (front ++ back) ↔ Steady id state? front ∧ Steady id state? back := by
  induction front with
  | nil => exact (and_iff_right trivial).symm
  | cons exchange rest ih =>
    obtain ⟨first, others⟩ := List.forall_mem_cons.1 calm
    rw [List.cons_append, Steady, Steady, Exchange.stateAfter_of_not_touches first, ih others,
      and_assoc]

/-! ## Turns of bound tables -/

namespace PeerTable

theorem session_of_mem_messages {table : PeerTable} {width? : Option AsnWidth} {message : Message}
    (there : message ∈ table.messages width?) : message.session = table.session := by
  obtain ⟨route, -, made⟩ := List.mem_filterMap.1 there
  obtain ⟨octets, -, rfl⟩ := Option.map_eq_some_iff.1 made
  rfl

end PeerTable

theorem PeerTurn.session_after (table : PeerTable) (turn : PeerTurn) :
    (turn.after table).session = table.session := by
  cases turn <;> rfl

theorem session?_deliver {session : SessionId} {messages : List Message}
    (bound : ∀ message ∈ messages, message.session = session) :
    ∀ exchange ∈ deliver messages, exchange.session? = some session := by
  intro exchange there
  obtain ⟨message, inside, made⟩ := List.mem_flatMap.1 there
  rw [← bound message inside]
  rcases List.mem_pair.1 made with rfl | rfl <;> rfl

theorem touches_deliver (id : SessionId) (messages : List Message) :
    Untouched id (deliver messages) := by
  intro exchange there
  obtain ⟨message, -, made⟩ := List.mem_flatMap.1 there
  rcases List.mem_pair.1 made with rfl | rfl <;> rfl

namespace Handover

variable {id : SessionId} {table : PeerTable} {turn : PeerTurn} {tables : List PeerTable}
  {turns : List PeerTurn}

/-- The calls of a turn are about the session of its table. -/
theorem Turned.session?_calls (turned : Turned table turn) :
    ∀ exchange ∈ turn.calls table, exchange.session? = some table.session := by
  obtain ⟨-, takes⟩ := turned
  cases turn with
  | passed => exact List.forall_mem_nil _
  | waiting state? => exact List.forall_mem_singleton.2 rfl
  | idle => exact List.forall_mem_singleton.2 rfl
  | cleaned answer => simp [PeerTurn.calls, cleanCalls, Exchange.session?]
  | flushed width? =>
    refine List.forall_mem_cons.2 ⟨rfl, List.forall_mem_cons.2 ⟨rfl, ?_⟩⟩
    exact session?_deliver fun message => PeerTable.session_of_mem_messages
  | refused width? taken message refusal => cases takes

/-- No call is about a session that the table is not bound to. -/
theorem Turned.callsAbout_of_ne (turned : Turned table turn) (apart : table.session ≠ id) :
    callsAbout id (turn.calls table) = [] := by
  refine List.filter_eq_nil_iff.2 fun exchange there => ?_
  rw [turned.session?_calls exchange there]
  simpa using apart

theorem Turned.callsAbout_of_eq (turned : Turned table turn) (bound : table.session = id) :
    callsAbout id (turn.calls table) = turn.calls table := by
  refine List.filter_eq_self.2 fun exchange there => ?_
  rw [turned.session?_calls exchange there]
  simpa using bound

/-- A turn leaves a session alone that its table is not bound to, and the one that it is bound to if
the table has routes. -/
theorem Turned.untouched_calls (turned : Turned table turn)
    (routes : table.session = id → table.isEmpty = false) :
    Untouched id (turn.calls table) := by
  by_cases bound : table.session = id
  · obtain ⟨fits, takes⟩ := turned
    cases turn with
    | passed => exact List.forall_mem_nil _
    | waiting state? => exact List.forall_mem_singleton.2 rfl
    | idle => exact List.forall_mem_singleton.2 rfl
    | cleaned answer => exact absurd (fits.2.1.symm.trans (routes bound)) Bool.noConfusion
    | flushed width? =>
      exact List.forall_mem_cons.2 ⟨rfl, List.forall_mem_cons.2 ⟨rfl, touches_deliver id _⟩⟩
    | refused width? taken message refusal => cases takes
  · apply Untouched.of_callsAbout
    rw [turned.callsAbout_of_ne bound]
    exact List.forall_mem_nil _

/-! ## The first round -/

/-- The tables that are bound to a session. -/
def boundTo (id : SessionId) (tables : List PeerTable) : List PeerTable :=
  tables.filter fun table => table.session = id

/-- The calls by which tables are handed over, given the widths that their sessions have then. -/
def flushCalls (tables : List PeerTable) (widths : List (Option AsnWidth)) : List Exchange :=
  (List.zipWith (fun table width? => (PeerTurn.flushed width?).calls table) tables widths).flatten

/-- A table with routes is handed over if its session is established all the time. -/
theorem Turned.flushed_of_steady (turned : Turned table turn) (unresolved : table.resolved = false)
    (routes : table.isEmpty = false)
    (steady : Steady table.session (some .established) (turn.calls table)) :
    ∃ width?, turn = .flushed width? := by
  obtain ⟨fits, takes⟩ := turned
  cases turn with
  | passed => exact absurd (fits.symm.trans unresolved) Bool.noConfusion
  | waiting state? => simp [PeerTurn.calls, Steady, Exchange.agrees, fits.2] at steady
  | idle => exact absurd (fits.2.1.symm.trans routes) Bool.noConfusion
  | cleaned answer => exact absurd (fits.2.1.symm.trans routes) Bool.noConfusion
  | flushed width? => exact ⟨width?, rfl⟩
  | refused width? taken message refusal => cases takes

/-- If all tables that are bound to an established session have routes, the first round hands them
over one behind the other and does nothing else to the session. -/
theorem callsAbout_firstRound (turned : List.Forall₂ Turned tables turns)
    (unresolved : ∀ table ∈ tables, table.resolved = false)
    (routes : ∀ table ∈ tables, table.session = id → table.isEmpty = false)
    (steady : Steady id (some .established) (roundCalls tables turns)) :
    (∃ widths, widths.length = (boundTo id tables).length ∧
      callsAbout id (roundCalls tables turns) = flushCalls (boundTo id tables) widths) ∧
    ∀ table ∈ afterRound tables turns, table.session = id → table.resolved = true := by
  induction turned with
  | nil => exact ⟨⟨[], rfl, rfl⟩, List.forall_mem_nil _⟩
  | @cons table turn tables turns one others ih =>
    rw [List.forall_mem_cons] at unresolved routes
    rw [roundCalls, steady_append (one.untouched_calls routes.1)] at steady
    obtain ⟨⟨widths, count, told⟩, done⟩ := ih unresolved.2 routes.2 steady.2
    rw [roundCalls, callsAbout_append, told]
    by_cases bound : table.session = id
    · have isBound : boundTo id (table :: tables) = table :: boundTo id tables :=
        List.filter_cons_of_pos (decide_eq_true bound)
      obtain ⟨width?, rfl⟩ :=
        one.flushed_of_steady unresolved.1 (routes.1 bound) (bound ▸ steady.1)
      rw [isBound, one.callsAbout_of_eq bound]
      exact ⟨⟨width? :: widths, congrArg Nat.succ count, rfl⟩,
        List.forall_mem_cons.2 ⟨fun _ => rfl, done⟩⟩
    · have notBound : boundTo id (table :: tables) = boundTo id tables :=
        List.filter_cons_of_neg (by simpa using bound)
      rw [notBound, one.callsAbout_of_ne bound]
      refine ⟨⟨widths, count, rfl⟩, List.forall_mem_cons.2 ⟨fun same => ?_, done⟩⟩
      exact absurd ((PeerTurn.session_after table turn).symm.trans same) bound

/-! ## Behind the first round -/

/-- Once all tables that are bound to a session are settled, a round does nothing about it. -/
theorem callsAbout_roundCalls (turned : List.Forall₂ Turned tables turns)
    (done : ∀ table ∈ tables, table.session = id → table.resolved = true) :
    callsAbout id (roundCalls tables turns) = [] ∧
      ∀ table ∈ afterRound tables turns, table.session = id → table.resolved = true := by
  induction turned with
  | nil => exact ⟨rfl, List.forall_mem_nil _⟩
  | @cons table turn tables turns one others ih =>
    obtain ⟨first, rest⟩ := List.forall_mem_cons.1 done
    obtain ⟨silent, done⟩ := ih rest
    rw [roundCalls, callsAbout_append, silent, List.append_nil]
    by_cases bound : table.session = id
    · obtain rfl := PeerTurn.eq_passed one.1 (first bound)
      exact ⟨rfl, List.forall_mem_cons.2 ⟨first, done⟩⟩
    · refine ⟨one.callsAbout_of_ne bound, List.forall_mem_cons.2 ⟨fun same => ?_, done⟩⟩
      exact absurd ((PeerTurn.session_after table turn).symm.trans same) bound

theorem Unbroken.callsAbout_eq_nil {interval attempts : Nat} {last : List PeerTable}
    {rounds : List (List PeerTurn)} {report whole : HandoverReport} {made : List Exchange}
    (course : Unbroken interval attempts tables report rounds last whole made)
    (done : ∀ table ∈ tables, table.session = id → table.resolved = true) :
    callsAbout id made = [] ∧ ∀ table ∈ last, table.session = id → table.resolved = true := by
  induction course with
  | ended needless looked =>
    refine ⟨List.filter_eq_nil_iff.2 fun look there => ?_, done⟩
    rw [looked look there]
    exact Bool.false_ne_true
  | goOn something turned others ih =>
    obtain ⟨silent, done⟩ := callsAbout_roundCalls turned done
    obtain ⟨silent', done⟩ := ih done
    rw [callsAbout_round, silent, silent']
    exact ⟨rfl, done⟩

/-- If all tables that are bound to an established session have routes, the rounds hand them over
one behind the other and do nothing else about the session. -/
theorem Unbroken.callsAbout_eq_flushCalls {interval attempts : Nat} {last : List PeerTable}
    {rounds : List (List PeerTurn)} {report whole : HandoverReport} {made : List Exchange}
    (course : Unbroken interval attempts tables report rounds last whole made)
    (needed : attempts ≠ 0 ∧ tables.all PeerTable.isEmpty = false)
    (unresolved : ∀ table ∈ tables, table.resolved = false)
    (routes : ∀ table ∈ tables, table.session = id → table.isEmpty = false)
    (steady : Steady id (some .established) made) :
    (∃ widths, widths.length = (boundTo id tables).length ∧
      callsAbout id made = flushCalls (boundTo id tables) widths) ∧
    ∀ table ∈ last, table.session = id → table.resolved = true := by
  cases course with
  | ended needless looked =>
    rcases needless with none_ | nothing
    · exact absurd none_ needed.1
    · exact absurd (nothing.symm.trans needed.2) Bool.noConfusion
  | goOn something turned others =>
    obtain ⟨⟨widths, count, told⟩, done⟩ :=
      callsAbout_firstRound turned unresolved routes steady.2.front
    obtain ⟨silent, done⟩ := others.callsAbout_eq_nil done
    refine ⟨⟨widths, count, ?_⟩, done⟩
    rw [callsAbout_round, told, silent, List.append_nil]

theorem passedOn_flushCalls (tables : List PeerTable) (widths : List (Option AsnWidth)) :
    passedOn (flushCalls tables widths) =
      (List.zipWith PeerTable.messages tables widths).flatten := by
  induction tables generalizing widths with
  | nil => rfl
  | cons table rest ih =>
    cases widths with
    | nil => rfl
    | cons width? widths =>
      refine (passedOn_append _ _).trans (congrArg₂ _ ?_ (ih widths))
      exact PeerTurn.passedOn_calls table (.flushed width?)

theorem untouched_flushCalls (tables : List PeerTable) (widths : List (Option AsnWidth)) :
    Untouched id (flushCalls tables widths) := by
  intro exchange there
  obtain ⟨calls, inside, made⟩ := List.mem_flatten.1 there
  obtain ⟨place, bound, rfl⟩ := List.mem_iff_getElem.1 inside
  rw [List.getElem_zipWith] at made
  rcases made with _ | ⟨_, _ | ⟨_, made⟩⟩
  · rfl
  · rfl
  · exact touches_deliver id _ exchange made

theorem callsAbout_sweepCalls {answers : List (Option (Except SessionRefusal Unit))}
    (fit : List.Forall₂ SweepFits tables answers)
    (done : ∀ table ∈ tables, table.session = id → table.resolved = true) :
    callsAbout id (sweepCalls tables answers) = [] := by
  induction fit with
  | nil => rfl
  | @cons table answer? tables answers one others ih =>
    obtain ⟨first, rest⟩ := List.forall_mem_cons.1 done
    have silent : callsAbout id ((answer?.map (cleanCalls table.session)).getD []) = [] := by
      by_cases bound : table.session = id
      · rw [SweepFits, first bound] at one
        obtain rfl := Option.not_isSome_iff_eq_none.1 (ne_true_of_eq_false one)
        rfl
      · cases answer? with
        | none => rfl
        | some answer => simp [callsAbout, cleanCalls, Exchange.session?, bound]
    exact (callsAbout_append id _ _).trans (by rw [silent]; exact ih rest)

/-! ## A bound table without routes -/

theorem mem_roundCalls {place : Nat} (there : tables[place]? = some table)
    (there' : turns[place]? = some turn) :
    ∀ exchange ∈ turn.calls table, exchange ∈ roundCalls tables turns := by
  induction tables generalizing turns place with
  | nil => cases there
  | cons first rest ih =>
    cases turns with
    | nil => cases there'
    | cons turn turns =>
      intro exchange made
      cases place with
      | zero =>
        cases there
        cases there'
        exact List.mem_append_left _ made
      | succ place => exact List.mem_append_right _ (ih there there' exchange made)

theorem mem_sweepCalls {answers : List (Option (Except SessionRefusal Unit))} {place : Nat}
    {answer : Except SessionRefusal Unit} (there : tables[place]? = some table)
    (there' : answers[place]? = some (some answer)) :
    ∀ exchange ∈ cleanCalls table.session answer, exchange ∈ sweepCalls tables answers := by
  intro exchange made
  refine List.mem_flatten.2 ⟨_, List.mem_of_getElem? (i := place) ?_, made⟩
  rw [List.getElem?_zipWith, there, there']
  rfl

end Handover

/-- A table without routes has the routes of its session deleted, by a turn or by the sweep. -/
theorem Settlement.cleaned_of_isEmpty {dump done : DumpTransfer} {report : HandoverReport}
    {exchanges : List Exchange} {rounds : List (List PeerTurn)}
    {answers : List (Option (Except SessionRefusal Unit))}
    (settlement : Settlement dump report done exchanges rounds answers) {table : PeerTable}
    (there : table ∈ dump.tables) (empty : table.isEmpty = true) :
    ∃ answer, ∀ exchange ∈ cleanCalls table.session answer, exchange ∈ exchanges := by
  obtain ⟨place, at_⟩ := List.getElem?_of_mem there
  obtain ⟨column, answer?, columns, answered, story⟩ := settlement.stories place table at_
  obtain ⟨looks, -, rfl⟩ := settlement.calls
  cases story with
  | handedOver states width? later routes early =>
    exact absurd (empty.symm.trans routes) Bool.noConfusion
  | leftOver turns answer unready =>
    refine ⟨answer, fun exchange made => List.mem_append_right _ ?_⟩
    exact Handover.mem_sweepCalls at_ answered exchange made
  | foundEmpty states answer later none_ never early =>
    refine ⟨answer, fun exchange made => List.mem_append_left _ (List.mem_append_left _ ?_)⟩
    -- the round in which the table has this turn
    have inside : some (PeerTurn.cleaned answer) ∈ rounds.map (·[place]?) := by
      rw [columns]
      simp
    obtain ⟨turns, round, turn⟩ := List.mem_map.1 inside
    refine List.mem_flatMap.2 ⟨turns, round, List.mem_cons_of_mem _ (List.mem_append_left _ ?_)⟩
    exact Handover.mem_roundCalls at_ turn exchange (List.mem_cons_of_mem _ made)

/-! ## Sessions with several tables -/

/-- All tables that are bound to a session are handed over, one behind the other. -/
structure Delivered (id : SessionId) (tables : List PeerTable) (exchanges : List Exchange) :
    Prop where
  /-- The session is found established, its width is asked for, and the messages are passed on, for
  one table after the other; nothing else is done about the session. -/
  calls : ∃ widths, widths.length = (Handover.boundTo id tables).length ∧
    callsAbout id exchanges = Handover.flushCalls (Handover.boundTo id tables) widths ∧
    (passedOn exchanges).filter (fun message => message.session = id) =
      (List.zipWith PeerTable.messages (Handover.boundTo id tables) widths).flatten
  /-- In particular its state stays and no routes of it are deleted. -/
  untouched : Untouched id exchanges

namespace DumpTransfer

variable {ω : Type} [Surroundings ω]

theorem delivered_handOver (dump : DumpTransfer) (world : ω) (id : SessionId)
    (attempted : 0 < dump.settings.pollAttempts)
    (unresolved : ∀ table ∈ dump.tables, table.resolved = false)
    (something : ∃ table ∈ dump.tables, table.session = id ∧ table.isEmpty = false)
    (routes : ∀ table ∈ dump.tables, table.session = id → table.isEmpty = false)
    (taken : QueueOpen (exchangesOf dump.handOver world))
    (unstopped : NeverStopped (exchangesOf dump.handOver world))
    (steady : Steady id (some .established) (exchangesOf dump.handOver world)) :
    Delivered id dump.tables (exchangesOf dump.handOver world) := by
  obtain ⟨rounds, last, whole, answers, front, course, fit, noted, -, -⟩ :=
    dump.exists_course world taken unstopped
  rw [noted] at steady ⊢
  obtain ⟨table, there, -, full⟩ := something
  have needed : dump.tables.all PeerTable.isEmpty = false :=
    List.all_eq_false.2 ⟨table, there, ne_true_of_eq_false full⟩
  obtain ⟨⟨widths, count, told⟩, done⟩ := course.callsAbout_eq_flushCalls
    ⟨Nat.ne_of_gt attempted, needed⟩ unresolved routes steady.front
  have calls : callsAbout id (front ++ .isCancelled false :: Handover.sweepCalls last answers) =
      Handover.flushCalls (Handover.boundTo id dump.tables) widths := by
    have silent := Handover.callsAbout_sweepCalls fit done
    rw [callsAbout_append, told]
    exact (congrArg _ silent).trans (List.append_nil _)
  refine ⟨⟨widths, count, calls, ?_⟩, Untouched.of_callsAbout ?_⟩
  · rw [← passedOn_callsAbout, calls, Handover.passedOn_flushCalls]
  · rw [calls]
    exact Handover.untouched_flushCalls _ _

/-- Let the queue take every message, let nobody ask to stop, and let a session be established that
nobody else moves into another state and that a table with routes is bound to. If all tables that
are bound to it have routes, they are handed over and the session is left alone. If one of them has
none, the session is ended and its routes are deleted. -/
theorem sharedSession_handOver (dump : DumpTransfer) (world : ω) (id : SessionId)
    (attempted : 0 < dump.settings.pollAttempts)
    (unresolved : ∀ table ∈ dump.tables, table.resolved = false)
    (something : ∃ table ∈ dump.tables, table.session = id ∧ table.isEmpty = false)
    (taken : QueueOpen (exchangesOf dump.handOver world))
    (unstopped : NeverStopped (exchangesOf dump.handOver world))
    (steady : Steady id (some .established) (exchangesOf dump.handOver world)) :
    ((∀ table ∈ dump.tables, table.session = id → table.isEmpty = false) →
      Delivered id dump.tables (exchangesOf dump.handOver world)) ∧
    ∀ table ∈ dump.tables, table.session = id → table.isEmpty = true →
      ∃ answer, ∀ exchange ∈ cleanCalls id answer, exchange ∈ exchangesOf dump.handOver world := by
  refine ⟨fun routes => ?_, fun table there bound empty => ?_⟩
  · exact dump.delivered_handOver world id attempted unresolved something routes taken unstopped
      steady
  · obtain ⟨rounds, answers, settlement⟩ :=
      dump.exists_settlement world unresolved taken unstopped
    rw [← bound]
    exact settlement.cleaned_of_isEmpty there empty

/-- An index that lists a router twice. -/
def doubleOpening : FramedRecord where
  header := ⟨0, 13, 1, 31⟩
  body := [10, 0, 0, 1, 0, 0, 0, 2, 0, 10, 0, 0, 2, 192, 0, 2, 1, 0xFD, 0xE8,
    0, 10, 0, 0, 2, 192, 0, 2, 1, 0xFD, 0xE8]
  recoveries := 0

/-- A router that is listed twice, with its session established and routes at some of its places. -/
def listedTwice (routes : List FramedRecord) : DumpTransfer × Logbook :=
  let (dump, book) := takenIn (doubleOpening :: routes)
  (dump, { book with sessions := book.sessions.setState ⟨1⟩ .established .none })

/-- With routes at both places both tables are handed over. -/
theorem sharedSession_handOver_listedTwice :
    let (dump, book) := listedTwice [sampleRoute 0 1 0, sampleRoute 1 2 0, sampleRoute 1 3 0]
    Delivered ⟨1⟩ dump.tables (exchangesOf dump.handOver book) ∧
      (passedOn (exchangesOf dump.handOver book)).length = 3 :=
  ⟨(sharedSession_handOver (listedTwice [sampleRoute 0 1 0, sampleRoute 1 2 0, sampleRoute 1 3 0]).1
    (listedTwice [sampleRoute 0 1 0, sampleRoute 1 2 0, sampleRoute 1 3 0]).2 ⟨1⟩
    (by decide +kernel) (by decide +kernel) (by decide +kernel) (by decide +kernel)
    (by decide +kernel) (by decide +kernel)).1 (by decide +kernel), by decide +kernel⟩

/-- With a route at the second place only, it is not passed on although the session is established:
the session is ended for the table of the first place. -/
theorem not_delivered_listedTwice :
    let (dump, book) := listedTwice [sampleRoute 1 1 0]
    0 < dump.settings.pollAttempts ∧
    (∀ table ∈ dump.tables, table.resolved = false) ∧
    (∃ table ∈ dump.tables, table.session = ⟨1⟩ ∧ table.isEmpty = false ∧
      table.messages none ≠ []) ∧
    QueueOpen (exchangesOf dump.handOver book) ∧
    NeverStopped (exchangesOf dump.handOver book) ∧
    Steady ⟨1⟩ (some .established) (exchangesOf dump.handOver book) ∧
    passedOn (exchangesOf dump.handOver book) = [] ∧
    ¬ Untouched ⟨1⟩ (exchangesOf dump.handOver book) :=
  ⟨by decide +kernel, by decide +kernel, by decide +kernel, by decide +kernel,
    by decide +kernel, by decide +kernel, by decide +kernel, by decide +kernel⟩

end DumpTransfer

end CollectorFeed
