import CollectorFeed.Proofs.Conversation.Binding
import CollectorFeed.Proofs.LiveFeed.Containment
import CollectorFeed.Proofs.Session.Registry
import Mathlib.Data.List.Induction

/-!
# Conversations that share a session table

Conversations use one table of sessions at the same time, so that between two calls of one of them
the others may make any calls. What all of them do is told by one list of exchanges in the order in
which the table was asked, each with the number of the conversation that made it; the part of one
conversation are the exchanges with its number. `shares` says that one table gave all the answers.

Finding a session and creating one are two calls. If another conversation creates the session of a
key between the two, the creation is denied although the session exists, and that is the only reason
for which a table without a limit denies one (`LostRace`). `Connection.sharing_run` says what
becomes of a conversation in such company: everybody who is bound to a key is bound to one session,
and a message is unbound, or a table dump is broken off, for each race that is lost and for nothing
else. Races can be lost: `Connection.not_bound_meeting`.
-/

set_option autoImplicit false

namespace CollectorFeed

deriving instance DecidableEq for Exchange

/-! ## One call on the table -/

namespace SessionTable

variable {table : SessionTable}

/-- What a call makes of a table: it changes nothing, or what is known of one session, or it adds a
session. -/
inductive Course (table : SessionTable) : SessionCall → SessionTable → Prop
  | same {call : SessionCall} : Course table call table
  | changed {call : SessionCall} {id : SessionId} (alter : SessionFacts → SessionFacts)
      (keepsKey : ∀ facts, (alter facts).key = facts.key) :
      Course table call (table.update id alter)
  | created {key : SessionKey} {handling : Handling} {width? : Option AsnWidth}
      (absent : table.find? key = none) :
      Course table (.create key handling width?) (table.add (newFacts key handling width?))

theorem course (table : SessionTable) (call : SessionCall) :
    table.Course call (table.call call).2 := by
  cases call with
  | find key => exact .same
  | create key handling width? =>
    rw [SessionTable.call, create]
    cases absent : table.find? key with
    | some id => exact .same
    | none =>
      cases table.isFull with
      | true => exact .same
      | false => exact .created absent
  | setState id state cause => exact .changed _ fun _ => rfl
  | state id => exact .same
  | width id => exact .same
  | setWidth id width => exact .changed _ fun _ => rfl
  | countMessage id => exact .changed _ fun _ => rfl
  | deleteRoutes id =>
    rw [SessionTable.call, deleteRoutes]
    cases table.get? id with
    | none => exact .same
    | some facts => exact .changed _ fun _ => rfl
  | get id => exact .same

theorem limit?_call (table : SessionTable) (call : SessionCall) :
    (table.call call).2.limit? = table.limit? := by
  have course := table.course call
  generalize (table.call call).2 = after at course
  cases course with
  | same => rfl
  | changed alter keepsKey => exact limit?_update _ _ _
  | created absent => rfl

/-- A call keeps what a key leads to, unless it creates the session of the key. -/
theorem find?_call (table : SessionTable) (call : SessionCall) (key : SessionKey) :
    (table.call call).2.find? key = table.find? key ∨
      ∃ handling width?, call = .create key handling width? ∧ table.find? key = none := by
  have course := table.course call
  generalize (table.call call).2 = after at course
  cases course with
  | same => exact .inl rfl
  | changed alter keepsKey => exact .inl (find?_update _ _ keepsKey key)
  | @created key' handling width? absent =>
    by_cases same : key = key'
    · subst same
      exact .inr ⟨handling, width?, rfl, absent⟩
    · exact .inl (find?_add_of_ne same)

theorem find?_call_of_some {key : SessionKey} {id : SessionId} (found : table.find? key = some id)
    (call : SessionCall) : (table.call call).2.find? key = some id := by
  rcases table.find?_call call key with same | ⟨handling, width?, -, absent⟩
  · exact same.trans found
  · rw [found] at absent
    cases absent

/-- A creation in a table without a limit is refused only for a session of the key. -/
theorem call_create (unlimited : table.limit? = none) (key : SessionKey) (handling : Handling)
    (width? : Option AsnWidth) :
    (table.call (.create key handling width?)).1 =
      match table.find? key with
      | some id => .refused (.alreadyExists id key)
      | none => .id (some (idAt table.size)) := by
  have free : table.isFull = false := by rw [isFull, unlimited]
  rw [call, create]
  cases table.find? key with
  | some id => rfl
  | none => rw [free]; rfl

/-- A session that a call adds for a key is the answer to the call. -/
theorem answer_of_new {call : SessionCall} {key : SessionKey} {id : SessionId}
    (absent : table.find? key = none) (found : (table.call call).2.find? key = some id) :
    ∃ handling width?, call = .create key handling width? ∧
      (table.call call).1 = .id (some id) := by
  rcases table.find?_call call key with same | ⟨handling, width?, rfl, -⟩
  · rw [same, absent] at found
    cases found
  · refine ⟨handling, width?, rfl, ?_⟩
    rw [SessionTable.call] at found ⊢
    rcases made : table.create key handling width? with ⟨e | id', after⟩
    · rw [made, create_of_error made, absent] at found
      cases found
    · rw [made] at found
      rw [find?_create made] at found
      rw [Option.some.inj found]

/-- The session that a call creates is found by its key. -/
theorem find?_of_created {key : SessionKey} {handling : Handling} {width? : Option AsnWidth}
    {id : SessionId} (created : (table.call (.create key handling width?)).1 = .id (some id)) :
    (table.call (.create key handling width?)).2.find? key = some id := by
  rw [call] at created ⊢
  rcases made : table.create key handling width? with ⟨e | id', after⟩
  · rw [made] at created
    cases created
  · rw [made] at created
    cases created
    exact find?_create made

end SessionTable

/-! ## Exchanges with one table -/

namespace Exchange

/-- The call on the table, with its answer, if the exchange is one with the table. -/
def call? : Exchange → Option (SessionCall × SessionAnswer)
  | find key answer => some (.find key, .id answer)
  | create key handling width? (.ok id) => some (.create key handling width?, .id (some id))
  | create key handling width? (.error e) => some (.create key handling width?, .refused e)
  | setState id reached cause => some (.setState id reached cause, .done)
  | state id answer => some (.state id, .state answer)
  | width id answer => some (.width id, .width answer)
  | setWidth id learnt => some (.setWidth id learnt, .done)
  | countMessage id => some (.countMessage id, .done)
  | deleteRoutes id (.ok ()) => some (.deleteRoutes id, .done)
  | deleteRoutes id (.error e) => some (.deleteRoutes id, .refused e)
  | passOn _ _ | isCancelled _ | sleep _ | observe _ => none

/-- The table as an exchange leaves it. -/
def leaves (table : SessionTable) (exchange : Exchange) : SessionTable :=
  match exchange.call? with
  | some (call, _) => (table.call call).2
  | none => table

/-- Whether an exchange is one in which the table gave the answer. -/
def fits (table : SessionTable) (exchange : Exchange) : Bool :=
  match exchange.call? with
  | some (call, answer) => (table.call call).1 = answer
  | none => true

end Exchange

/-- What conversations did, in order, each exchange with the number of its conversation. -/
abbrev Company := List (Nat × Exchange)

/-- What one conversation did. -/
def partOf (who : Nat) (company : Company) : List Exchange :=
  company.filterMap fun entry => if entry.1 = who then some entry.2 else none

/-- The table as all of them leave it. -/
def tableBehind (table : SessionTable) (company : Company) : SessionTable :=
  company.foldl (fun table entry => entry.2.leaves table) table

/-- Whether one table gave all the answers. -/
def shares (table : SessionTable) : Company → Bool
  | [] => true
  | entry :: later => entry.2.fits table && shares (entry.2.leaves table) later

theorem partOf_append (who : Nat) (front back : Company) :
    partOf who (front ++ back) = partOf who front ++ partOf who back :=
  List.filterMap_append

theorem partOf_cons_self (who : Nat) (exchange : Exchange) (later : Company) :
    partOf who ((who, exchange) :: later) = exchange :: partOf who later := by
  simp [partOf]

theorem partOf_cons_of_ne {who : Nat} {entry : Nat × Exchange} (other : entry.1 ≠ who)
    (later : Company) : partOf who (entry :: later) = partOf who later := by
  simp [partOf, other]

theorem mem_partOf {who : Nat} {exchange : Exchange} {company : Company} :
    exchange ∈ partOf who company ↔ (who, exchange) ∈ company := by
  simp [partOf]

theorem tableBehind_append (table : SessionTable) (front back : Company) :
    tableBehind table (front ++ back) = tableBehind (tableBehind table front) back :=
  List.foldl_append

theorem shares_append {table : SessionTable} {front back : Company} :
    shares table (front ++ back) = true ↔
      shares table front = true ∧ shares (tableBehind table front) back = true := by
  induction front generalizing table with
  | nil => simp [shares, tableBehind]
  | cons entry front ih =>
    rw [List.cons_append, shares, shares, Bool.and_eq_true, Bool.and_eq_true, ih, and_assoc]
    rfl

/-- The last exchange of a conversation has only exchanges of others behind it. -/
theorem exists_last_of_partOf {who : Nat} {company : Company} {earlier : List Exchange}
    {last : Exchange} (part : partOf who company = earlier ++ [last]) :
    ∃ before between, company = before ++ (who, last) :: between ∧
      ∀ entry ∈ between, entry.1 ≠ who := by
  induction company using List.reverseRecOn generalizing earlier with
  | nil => simp [partOf] at part
  | append_singleton front entry ih =>
    rw [partOf_append] at part
    by_cases own : entry.1 = who
    · obtain ⟨who', exchange⟩ := entry
      obtain rfl : who' = who := own
      rw [partOf_cons_self] at part
      obtain ⟨-, same⟩ := List.append_inj' part rfl
      obtain ⟨rfl, -⟩ := List.cons_eq_cons.1 same
      exact ⟨front, [], rfl, List.forall_mem_nil _⟩
    · rw [partOf_cons_of_ne own] at part
      obtain ⟨before, between, rfl, others⟩ := ih (by simpa [partOf] using part)
      refine ⟨before, between ++ [entry], by simp, ?_⟩
      exact List.forall_mem_append.2 ⟨others, List.forall_mem_singleton.2 own⟩

/-! ## Sessions in company -/

section Company

variable {table : SessionTable} {company : Company} {key : SessionKey} {id : SessionId}

theorem Exchange.find?_leaves_of_some (found : table.find? key = some id) (exchange : Exchange) :
    (exchange.leaves table).find? key = some id := by
  unfold leaves
  split
  · exact table.find?_call_of_some found _
  · exact found

theorem Exchange.limit?_leaves (table : SessionTable) (exchange : Exchange) :
    (exchange.leaves table).limit? = table.limit? := by
  unfold leaves
  split
  · exact table.limit?_call _
  · rfl

/-- A session that is found or created for a key is the one that the key leads to. -/
theorem Exchange.find?_of_binding {exchange : Exchange} (fits : exchange.fits table = true)
    (bound : exchange.binding? = some (key, id)) :
    (exchange.leaves table).find? key = some id := by
  cases exchange with
  | find key' answer =>
    cases answer with
    | none => cases bound
    | some id' =>
      cases bound
      exact SessionAnswer.id.inj (of_decide_eq_true fits)
  | create key' handling width? answer =>
    cases answer with
    | error e => cases bound
    | ok id' =>
      cases bound
      exact SessionTable.find?_of_created (of_decide_eq_true fits)
  | _ => cases bound

/-- A key gets its session by an exchange that creates it. -/
theorem Exchange.eq_create_of_new {exchange : Exchange} (fits : exchange.fits table = true)
    (absent : table.find? key = none) (found : (exchange.leaves table).find? key = some id) :
    ∃ handling width?, exchange = .create key handling width? (.ok id) := by
  unfold leaves at found
  unfold Exchange.fits at fits
  split at found
  next call answer is =>
    rw [is] at fits
    obtain ⟨handling, width?, rfl, answered⟩ := SessionTable.answer_of_new absent found
    obtain rfl : .id (some id) = answer := answered.symm.trans (of_decide_eq_true fits)
    refine ⟨handling, width?, ?_⟩
    cases exchange with
    | create key' handling' width?' answer =>
      cases answer with
      | error e => cases is
      | ok id' => cases is; rfl
    | deleteRoutes id' answer => rcases answer with e | ⟨⟩ <;> cases is
    | _ => cases is
  next =>
    rw [absent] at found
    cases found

theorem find?_tableBehind_of_some (found : table.find? key = some id) (company : Company) :
    (tableBehind table company).find? key = some id := by
  induction company generalizing table with
  | nil => exact found
  | cons entry later ih => exact ih (entry.2.find?_leaves_of_some found)

theorem limit?_tableBehind (table : SessionTable) (company : Company) :
    (tableBehind table company).limit? = table.limit? := by
  induction company generalizing table with
  | nil => rfl
  | cons entry later ih => exact (ih _).trans (entry.2.limit?_leaves table)

/-- Whoever is bound to a key is bound to the one session that the key leads to in the end. -/
theorem find?_of_binding_mem (shared : shares table company = true) {entry : Nat × Exchange}
    (there : entry ∈ company) (bound : entry.2.binding? = some (key, id)) :
    (tableBehind table company).find? key = some id := by
  induction company generalizing table with
  | nil => cases there
  | cons first later ih =>
    obtain ⟨fits, others⟩ := Bool.and_eq_true_iff.1 shared
    rcases List.mem_cons.1 there with rfl | behind
    · exact find?_tableBehind_of_some (Exchange.find?_of_binding fits bound) later
    · exact ih others behind

/-- A key that has got a session has got it by an exchange that created it. -/
theorem exists_create_of_new (shared : shares table company = true)
    (absent : table.find? key = none) (found : (tableBehind table company).find? key = some id) :
    ∃ who handling width?, (who, .create key handling width? (.ok id)) ∈ company := by
  induction company generalizing table with
  | nil =>
    rw [tableBehind, List.foldl_nil, absent] at found
    cases found
  | cons first later ih =>
    obtain ⟨fits, others⟩ := Bool.and_eq_true_iff.1 shared
    cases next : (first.2.leaves table).find? key with
    | none =>
      obtain ⟨who, handling, width?, there⟩ := ih others next found
      exact ⟨who, handling, width?, List.mem_cons_of_mem _ there⟩
    | some id' =>
      -- the session is not replaced by another one later
      have kept := find?_tableBehind_of_some next later
      obtain rfl : id' = id := Option.some.inj (kept.symm.trans found)
      obtain ⟨handling, width?, is⟩ := Exchange.eq_create_of_new fits absent next
      exact ⟨first.1, handling, width?, by rw [← is]; exact List.mem_cons_self⟩

end Company

/-! ## Finding and creating in company -/

/-- A conversation finds no session of a key, then another one creates the session, and then the
first one is denied it. -/
def LostRace (company : Company) (who : Nat) (key : SessionKey) (id : SessionId) : Prop :=
  ∃ before between behind handling width?,
    company = before ++ (who, .find key none) ::
      (between ++ (who, .create key handling width? (.error (.alreadyExists id key))) :: behind) ∧
    (∀ entry ∈ between, entry.1 ≠ who) ∧
    ∃ other handling' width?', (other, .create key handling' width?' (.ok id)) ∈ between

/-- What becomes of a conversation that shares a table of sessions with others. -/
structure Sharing (company : Company) (who : Nat) (report : ConnectionReport) : Prop where
  /-- All who find or create a session of a key are given the same one. -/
  one : ∀ entry ∈ company, ∀ key id, entry.2.binding? = some (key, id) →
    (tableBehind (.empty none) company).find? key = some id
  /-- A message of a router is passed on for the session of its key. -/
  relayed : ∀ message answer, (who, .passOn message answer) ∈ company →
    message.origin = .fromPeer → ∃ relayed, message = fromPeer message.session relayed ∧
      (tableBehind (.empty none) company).find? (LiveFeed.keyOf relayed) = some message.session
  /-- A session is denied only in a race that is lost; it is there all the same. -/
  denied : ∀ key handling width? refusal,
    (who, .create key handling width? (.error refusal)) ∈ company →
    ∃ id, refusal = .alreadyExists id key ∧ LostRace company who key id ∧
      (tableBehind (.empty none) company).find? key = some id
  /-- A session that another one creates in between is denied. -/
  lost : ∀ before key between handling width? answer behind,
    company = before ++ (who, .find key none) ::
      (between ++ (who, .create key handling width? answer) :: behind) →
    (∃ other handling' width?' id, (other, .create key handling' width?' (.ok id)) ∈ between) →
    ∃ id, answer = .error (.alreadyExists id key)
  /-- A live feed counts a message as unbound for each denial. -/
  unbound : ∀ stats, report.carried = .live stats →
    stats.unbound = (denials (partOf who company)).length
  /-- A table dump is broken off for the sake of a session if it is denied one. -/
  brokenOff : ∀ stats, report.carried = .tableDump stats → ∀ refusal,
    report.outcome = .error (.session refusal) ↔ refusal ∈ denials (partOf who company)

/-- In a table without a limit the answer to a creation tells whether the key had a session. -/
theorem answer_of_create {company before behind : Company} {who : Nat} {key : SessionKey}
    {handling : Handling} {width? : Option AsnWidth} {answer : Except SessionRefusal SessionId}
    (shared : shares (.empty none) company = true)
    (is : company = before ++ (who, .create key handling width? answer) :: behind) :
    match (tableBehind (.empty none) before).find? key with
    | some id => answer = .error (.alreadyExists id key)
    | none => ∃ id, answer = .ok id := by
  rw [is] at shared
  obtain ⟨-, here⟩ := shares_append.1 shared
  obtain ⟨fits, -⟩ := Bool.and_eq_true_iff.1 here
  have unlimited := limit?_tableBehind (.empty none) before
  have answered := SessionTable.call_create unlimited key handling width?
  cases found : (tableBehind (.empty none) before).find? key with
  | some id =>
    rw [found] at answered
    cases answer with
    | ok id' =>
      have said := of_decide_eq_true fits
      rw [answered] at said
      cases said
    | error e =>
      have said := of_decide_eq_true fits
      rw [answered] at said
      cases said
      rfl
  | none =>
    rw [found] at answered
    cases answer with
    | ok id' => exact ⟨id', rfl⟩
    | error e =>
      have said := of_decide_eq_true fits
      rw [answered] at said
      cases said

/-- What a find-or-create finds nothing of is not there yet. -/
theorem find?_of_found_none {company before behind : Company} {who : Nat} {key : SessionKey}
    (shared : shares (.empty none) company = true)
    (is : company = before ++ (who, .find key none) :: behind) :
    (tableBehind (.empty none) before).find? key = none := by
  rw [is] at shared
  obtain ⟨-, here⟩ := shares_append.1 shared
  obtain ⟨fits, -⟩ := Bool.and_eq_true_iff.1 here
  exact SessionAnswer.id.inj (of_decide_eq_true fits)

/-- A denial tells of a race that was lost. -/
theorem lostRace_of_denied {company before behind : Company} {who : Nat} {key : SessionKey}
    {handling : Handling} {width? : Option AsnWidth} {refusal : SessionRefusal}
    (shared : shares (.empty none) company = true) (inTurn : InTurn (partOf who company))
    (is : company = before ++ (who, .create key handling width? (.error refusal)) :: behind) :
    ∃ id, refusal = .alreadyExists id key ∧ LostRace company who key id ∧
      (tableBehind (.empty none) company).find? key = some id := by
  have part : partOf who company =
      partOf who before ++ .create key handling width? (.error refusal) :: partOf who behind := by
    rw [is, partOf_append, partOf_cons_self]
  obtain ⟨earlier, found⟩ := inTurn _ _ _ _ _ _ part
  obtain ⟨front, between, rfl, others⟩ := exists_last_of_partOf found
  have answered := answer_of_create shared is
  cases there : (tableBehind (.empty none) (front ++ (who, .find key none) :: between)).find? key with
  | none =>
    rw [there] at answered
    obtain ⟨id, granted⟩ := answered
    cases granted
  | some id =>
    rw [there] at answered
    obtain rfl : refusal = .alreadyExists id key := Except.error.inj answered
    have whole : company = front ++ (who, .find key none) ::
        (between ++ (who, .create key handling width? (.error (.alreadyExists id key))) ::
          behind) := by
      rw [is, List.append_assoc, List.cons_append]
    have absent := find?_of_found_none shared whole
    -- the key has got its session behind the call that found none
    have sharedBetween : shares (tableBehind (.empty none) front) between = true := by
      rw [whole] at shared
      obtain ⟨-, fromHere⟩ := shares_append.1 shared
      obtain ⟨-, later⟩ := Bool.and_eq_true_iff.1 fromHere
      exact (shares_append.1 later).1
    have new : (tableBehind (tableBehind (.empty none) front) between).find? key = some id := by
      rw [tableBehind_append] at there
      exact there
    obtain ⟨other, handling', width?', created⟩ := exists_create_of_new sharedBetween absent new
    refine ⟨id, rfl, ⟨front, between, behind, handling, width?, whole, others,
      other, handling', width?', created⟩, ?_⟩
    rw [is, tableBehind_append]
    exact find?_tableBehind_of_some there _

namespace Connection

variable {ω α : Type} [Surroundings ω]

/-- Whatever others do on the table in the meantime: everybody who is bound to a key is bound to one
session, and a conversation is denied a session for each race that it loses, and for nothing
else. -/
theorem sharing_run (number : Nat) (settings : FeedSettings α) (source : Source) (world : ω)
    (company : Company) (who : Nat) (shared : shares (.empty none) company = true)
    (part : partOf who company = exchangesOf (run number settings source) world) :
    Sharing company who ((run number settings source : StateM ω _).run world).1 := by
  have bound := (ensures_run_bound number settings source).exchangesOf world
  have same : ((run number settings source : StateM ω _).run world).1 =
      ((run number settings source : StateM (Minutes ω) _).run ⟨world, []⟩).1 :=
    (SameRun.inherited.connection_run number settings source).run_eq world
  rw [← same, ← part] at bound
  constructor
  · intro entry there key id
    exact find?_of_binding_mem shared there
  · intro message answer there relay
    obtain ⟨relayed, is, key⟩ := bound.orderly.bound message answer (mem_partOf.2 there) relay
    obtain ⟨exchange, inPart, binds⟩ := List.mem_filterMap.1 key
    exact ⟨relayed, is, find?_of_binding_mem shared (mem_partOf.1 inPart) binds⟩
  · intro key handling width? refusal there
    obtain ⟨before, behind, is⟩ := List.append_of_mem there
    exact lostRace_of_denied shared bound.orderly.inTurn is
  · rintro before key between handling width? answer behind is ⟨other, handling', width?', id, there⟩
    have split : company = (before ++ (who, .find key none) :: between) ++
        (who, .create key handling width? answer) :: behind := by
      rw [is, List.append_assoc, List.cons_append]
    have answered := answer_of_create shared split
    have front : shares (.empty none) (before ++ (who, .find key none) :: between) = true := by
      rw [split] at shared
      exact (shares_append.1 shared).1
    have found := find?_of_binding_mem front
      (List.mem_append_right _ (List.mem_cons_of_mem _ there)) rfl
    rw [found] at answered
    exact ⟨id, answered⟩
  · exact bound.unbound
  · exact bound.brokenOff

/-- Surroundings that answer what was written down, line by line. -/
structure Prompter where
  lines : List Exchange

namespace Prompter

/-- Passes over a line that needs no answer. -/
def pass (prompter : Prompter) : Unit × Prompter :=
  ((), ⟨prompter.lines.tail⟩)

instance : Surroundings Prompter where
  find _ := fun prompter =>
    match prompter.lines with
    | .find _ answer :: rest => (answer, ⟨rest⟩)
    | _ => (none, prompter)
  create _ _ _ := fun prompter =>
    match prompter.lines with
    | .create _ _ _ answer :: rest => (answer, ⟨rest⟩)
    | _ => (.error (.tableFull 0), prompter)
  setState _ _ _ := pass
  state _ := fun prompter =>
    match prompter.lines with
    | .state _ answer :: rest => (answer, ⟨rest⟩)
    | _ => (none, prompter)
  width _ := fun prompter =>
    match prompter.lines with
    | .width _ answer :: rest => (answer, ⟨rest⟩)
    | _ => (none, prompter)
  setWidth _ _ := pass
  countMessage _ := pass
  deleteRoutes _ := fun prompter =>
    match prompter.lines with
    | .deleteRoutes _ answer :: rest => (answer, ⟨rest⟩)
    | _ => (.ok (), prompter)
  passOn _ := fun prompter =>
    match prompter.lines with
    | .passOn _ answer :: rest => (answer, ⟨rest⟩)
    | _ => (.error .closed, prompter)
  isCancelled := fun prompter =>
    match prompter.lines with
    | .isCancelled answer :: rest => (answer, ⟨rest⟩)
    | _ => (true, prompter)
  sleep _ := pass
  observe _ := pass

end Prompter

/-- A stream of one message of a router. -/
def oneMessage : Source :=
  .ofOctets (LiveFeed.numbered 1 1).record.encode

/-- A table dump that lists the same router and another one. -/
def twoRouters : Source :=
  .ofOctets
    { timestamp := 0
      collector := ⟨[198, 51, 100, 1], rfl⟩
      viewName := [0x76]
      peers :=
        [⟨2, ⟨[10, 0, 0, 21], rfl⟩, (LiveFeed.numbered 1 1).relayed.peerAddress, 65001⟩,
          ⟨2, ⟨[10, 0, 0, 22], rfl⟩, .v4 ⟨[192, 0, 2, 22], rfl⟩, 65002⟩]
      : DumpedIndex }.record.encode

/-- Two live feeds and a table dump meet on the session of a router. All of them find none before
one of the feeds creates it. -/
def meeting : Company :=
  let relayed := (LiveFeed.numbered 1 1).relayed
  let key := LiveFeed.keyOf relayed
  let opening (touched : Nat) : List Exchange :=
    [.observe 13, .isCancelled false, .observe 13, .isCancelled false, .observe touched,
      .find key none]
  (opening 54).map (0, ·) ++ (opening 54).map (1, ·) ++
    [(2, .observe 13), (2, .find key none),
      (0, .create key .label (some .two) (.ok ⟨1⟩)),
      (1, .create key .label (some .two) (.error (.alreadyExists ⟨1⟩ key))),
      (2, .create key .label none (.error (.alreadyExists ⟨1⟩ key))),
      (0, .state ⟨1⟩ (some .provisional)), (0, .setState ⟨1⟩ .established .none),
      (0, .width ⟨1⟩ (some .two)), (0, .passOn (fromPeer ⟨1⟩ relayed) (.ok ())),
      (0, .countMessage ⟨1⟩), (0, .setState ⟨1⟩ .error .manualStop), (0, .isCancelled false),
      (1, .isCancelled false), (2, .isCancelled false)]

/-- What becomes of a conversation that is prompted with its part of the meeting. -/
def reportOf (who : Nat) (source : Source) : ConnectionReport :=
  ((run who FeedSettings.usual source : StateM Prompter _).run ⟨partOf who meeting⟩).1

/-- A conversation that is prompted with its part of the meeting plays that part. -/
def PlaysIn (who : Nat) (source : Source) : Prop :=
  partOf who meeting =
    exchangesOf (run who FeedSettings.usual source) (Prompter.mk (partOf who meeting))

instance (who : Nat) (source : Source) : Decidable (PlaysIn who source) :=
  inferInstanceAs (Decidable (partOf who meeting = _))

theorem sharing_run_meeting :
    shares (.empty none) meeting = true ∧ PlaysIn 1 oneMessage ∧
      Sharing meeting 1 (reportOf 1 oneMessage) := by
  have shared : shares (.empty none) meeting = true := by decide +kernel
  have plays : PlaysIn 1 oneMessage := by decide +kernel
  exact ⟨shared, plays, sharing_run 1 FeedSettings.usual oneMessage _ meeting 1 shared plays⟩

/-- Of three conversations that meet on a session that is not there yet, one creates it. Another
live feed counts its message as unbound and passes nothing on, and the table dump is broken off. -/
theorem not_bound_meeting :
    shares (.empty none) meeting = true ∧
      PlaysIn 0 oneMessage ∧ PlaysIn 1 oneMessage ∧ PlaysIn 2 twoRouters ∧
      (tableBehind (.empty none) meeting).find? (LiveFeed.keyOf (LiveFeed.numbered 1 1).relayed) =
        some ⟨1⟩ ∧
      (reportOf 0 oneMessage).carried =
        .live { LiveStats.zero with records := 1, submitted := 1, sessions := 1 } ∧
      (reportOf 1 oneMessage).carried = .live { LiveStats.zero with records := 1, unbound := 1 } ∧
      (reportOf 2 twoRouters).carried = .tableDump { DumpStats.zero with records := 1 } ∧
      (reportOf 2 twoRouters).outcome = .error (.session
        (.alreadyExists ⟨1⟩ (LiveFeed.keyOf (LiveFeed.numbered 1 1).relayed))) := by
  refine ⟨by decide +kernel, by decide +kernel, by decide +kernel, by decide +kernel, ?_⟩
  exact ⟨by decide +kernel, by decide +kernel, by decide +kernel, by decide +kernel,
    by decide +kernel⟩

end Connection

end CollectorFeed
