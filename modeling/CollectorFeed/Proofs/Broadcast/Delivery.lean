import CollectorFeed.Proofs.Broadcast.Calls
import CollectorFeed.Proofs.Broadcast.History
import Mathlib.Data.List.TakeWhile

/-!
# Every message once, in order

In every state that threads can reach, what a reader has been given, followed by what is kept for
it, is what was put since it came (`exactlyOnce_run`). A call that comes back with success has put
its message once if anybody was there to read it, a call that is refused has put nothing, nothing is
put after the queue was closed, and a reader that waits comes back without a message only when the
queue is closed and it has been given everything.
-/

set_option autoImplicit false

namespace CollectorFeed

/-! ## What the journal says about a reader -/

/-- The message that an entry says a reader was given, if it says so. -/
def Entry.givenTo? (reader : Nat) : Entry → Option Message
  | given other message => if other == reader then some message else none
  | _ => none

/-- Whether an entry says that a reader joined. -/
def Entry.isJoinOf (reader : Nat) : Entry → Bool
  | joined other => other == reader
  | _ => false

/-- The messages that a reader was given, in order. -/
def givenMessages (reader : Nat) (journal : List Entry) : List Message :=
  journal.filterMap (Entry.givenTo? reader)

/-- The messages that were put since a reader joined, in order. -/
def appendedSince (reader : Nat) (journal : List Entry) : List Message :=
  appendedMessages (journal.dropWhile fun entry => !entry.isJoinOf reader)

/-- Whether an entry says that a reader joined or was given something. -/
def Entry.concerns (reader : Nat) (entry : Entry) : Bool :=
  entry.isJoinOf reader || (entry.givenTo? reader).isSome

theorem givenMessages_append (reader : Nat) (first second : List Entry) :
    givenMessages reader (first ++ second) =
      givenMessages reader first ++ givenMessages reader second :=
  List.filterMap_append

/-- After a reader has joined, whatever is put is put for it. -/
theorem appendedSince_append {reader : Nat} {first : List Entry}
    (joined : ∃ entry ∈ first, entry.isJoinOf reader = true) (second : List Entry) :
    appendedSince reader (first ++ second) =
      appendedSince reader first ++ appendedMessages second := by
  obtain ⟨entry, mem, isJoin⟩ := joined
  -- the search for the joining ends within the first part
  have stops : first.dropWhile (fun entry => !entry.isJoinOf reader) ≠ [] := by
    intro all
    have passed := List.dropWhile_eq_nil_iff.1 all entry mem
    rw [isJoin] at passed
    cases passed
  rw [appendedSince, List.dropWhile_append, if_neg (by simpa using stops),
    appendedMessages_append, appendedSince]

theorem givenMessages_of_not_concerns {reader : Nat} {entries : List Entry}
    (foreign : ∀ entry ∈ entries, entry.concerns reader = false) :
    givenMessages reader entries = [] := by
  refine List.filterMap_eq_nil_iff.2 fun entry mem => ?_
  have apart := (Bool.or_eq_false_iff.1 (foreign entry mem)).2
  simpa using apart

/-- A reader that joins now has been given nothing, and nothing was put for it. -/
theorem appendedSince_join {reader : Nat} {journal : List Entry}
    (foreign : ∀ entry ∈ journal, entry.concerns reader = false) :
    appendedSince reader (journal ++ [.joined reader]) = [] := by
  have before : journal.dropWhile (fun entry => !entry.isJoinOf reader) = [] := by
    refine List.dropWhile_eq_nil_iff.2 fun entry mem => ?_
    rw [(Bool.or_eq_false_iff.1 (foreign entry mem)).1]
    rfl
  rw [appendedSince, List.dropWhile_append, before]
  simp [Entry.isJoinOf, appendedMessages, Entry.appended?]

/-! ## What is kept for a reader follows what it was given -/

variable {α : Type}

/-- What every registered reader was given fits what is kept for it. -/
structure Delivers (q : BroadcastQueue α) (journal : List Entry) : Prop where
  /-- A registered reader has joined. -/
  joined : ∀ reader, q.isRegistered reader = true → ∃ entry ∈ journal, entry.isJoinOf reader = true
  /-- Nothing that was put since a reader joined is lost, and nothing is doubled. -/
  delivered : ∀ reader, q.isRegistered reader = true →
    givenMessages reader journal ++ q.pendingMessages reader = appendedSince reader journal
  /-- Numbers that have not been given out are those of no reader. -/
  unborn : ∀ reader, q.nextReader ≤ reader → ∀ entry ∈ journal, entry.concerns reader = false

theorem concerns_of_isRemark {entry : Entry} (remark : entry.isRemark = true) (reader : Nat) :
    entry.concerns reader = false := by
  cases entry with
  | joined other => cases remark
  | given other message => cases remark
  | _ => rfl

/-- A change after which no reader is new. Each reader takes from the front of what is kept for it,
and what is put is put at the end. -/
theorem Delivers.extend {q r : BroadcastQueue α} {journal entries : List Entry}
    (delivers : Delivers q journal)
    (registered : ∀ reader, r.isRegistered reader = true → q.isRegistered reader = true)
    (next : r.nextReader = q.nextReader)
    (foreign : ∀ reader, q.nextReader ≤ reader → ∀ entry ∈ entries, entry.concerns reader = false)
    (moved : ∀ reader, r.isRegistered reader = true →
      givenMessages reader entries ++ r.pendingMessages reader =
        q.pendingMessages reader ++ appendedMessages entries) :
    Delivers r (journal ++ entries) where
  joined := by
    intro reader is
    obtain ⟨entry, mem, isJoin⟩ := delivers.joined reader (registered reader is)
    exact ⟨entry, List.mem_append_left _ mem, isJoin⟩
  delivered := by
    intro reader is
    have before := registered reader is
    -- both sides grow at the end: by what was put, and by what the move took and left
    rw [appendedSince_append (delivers.joined reader before), ← delivers.delivered reader before,
      givenMessages_append, List.append_assoc, List.append_assoc, moved reader is]
  unborn := by
    intro reader unborn entry mem
    rw [next] at unborn
    rcases List.mem_append.1 mem with old | new
    · exact delivers.unborn reader unborn entry old
    · exact foreign reader unborn entry new

/-- A change that moves no reader and puts nothing. -/
theorem Delivers.keep {q r : BroadcastQueue α} {journal entries : List Entry}
    (delivers : Delivers q journal)
    (registered : ∀ reader, r.isRegistered reader = true → q.isRegistered reader = true)
    (next : r.nextReader = q.nextReader)
    (foreign : ∀ reader, ∀ entry ∈ entries, entry.concerns reader = false)
    (nothing : appendedMessages entries = [])
    (kept : ∀ reader, r.isRegistered reader = true →
      r.pendingMessages reader = q.pendingMessages reader) :
    Delivers r (journal ++ entries) := by
  refine delivers.extend registered next (fun reader _ => foreign reader) fun reader is => ?_
  rw [givenMessages_of_not_concerns (foreign reader), kept reader is, nothing, List.append_nil]
  rfl

theorem Delivers.join {q : BroadcastQueue α} {journal : List Entry} (ok : q.Consistent)
    (delivers : Delivers q journal) :
    Delivers q.attachReader.2 (journal ++ [.joined q.nextReader]) where
  joined := by
    intro reader is
    by_cases new : reader = q.nextReader
    · refine ⟨_, List.mem_append_right _ (List.mem_singleton.2 rfl), ?_⟩
      rw [new]
      exact beq_self_eq_true _
    · rw [BroadcastQueue.isRegistered_attachReader_of_ne new] at is
      obtain ⟨entry, mem, isJoin⟩ := delivers.joined reader is
      exact ⟨entry, List.mem_append_left _ mem, isJoin⟩
  delivered := by
    intro reader is
    have quiet : givenMessages reader [.joined q.nextReader] = [] := rfl
    rw [givenMessages_append, quiet, List.append_nil]
    by_cases new : reader = q.nextReader
    -- for the new reader both sides are empty
    · have unborn := delivers.unborn reader (Nat.le_of_eq new.symm)
      rw [givenMessages_of_not_concerns unborn, new, ok.pendingMessages_attachReader,
        appendedSince_join (new ▸ unborn)]
      rfl
    · rw [BroadcastQueue.isRegistered_attachReader_of_ne new] at is
      rw [BroadcastQueue.pendingMessages_attachReader_of_ne new, delivers.delivered reader is,
        appendedSince_append (delivers.joined reader is)]
      exact (List.append_nil _).symm
  unborn := by
    intro reader unborn entry mem
    rcases List.mem_append.1 mem with old | new
    · exact delivers.unborn reader (Nat.le_of_succ_le unborn) entry old
    · rw [List.mem_singleton.1 new]
      have apart : q.nextReader ≠ reader := Nat.ne_of_lt unborn
      simp [Entry.concerns, Entry.isJoinOf, Entry.givenTo?, apart]

variable [PacingNumber α]

namespace BroadcastQueue

theorem nextReader_take (q : BroadcastQueue α) (reader : Nat) :
    (q.take reader).2.nextReader = q.nextReader :=
  take_congr nextReader (fun _ _ _ => rfl) q reader

theorem closed_take (q : BroadcastQueue α) (reader : Nat) :
    (q.take reader).2.closed = q.closed :=
  take_congr closed (fun _ _ _ => rfl) q reader

end BroadcastQueue

theorem Delivers.give {q : BroadcastQueue α} {journal : List Entry} (ok : q.Consistent)
    (delivers : Delivers q journal) {reader : Nat} {message : Message} {rest : List Message}
    (kept : q.pendingMessages reader = message :: rest) :
    Delivers (q.take reader).2 (journal ++ [.given reader message]) := by
  obtain ⟨-, own, others⟩ := ok.take_of_pendingMessages_eq_cons kept
  have registered := BroadcastQueue.isRegistered_of_pendingMessages kept
  refine delivers.extend ?_ (BroadcastQueue.nextReader_take q reader) ?_ ?_
  · intro other is
    rwa [BroadcastQueue.isRegistered_take] at is
  · intro other unborn entry mem
    obtain ⟨position, found⟩ := BroadcastQueue.position?_of_isRegistered registered
    -- a reader that is given something has its number, so it is not one of the later numbers
    have born := ok.numbered _ (BroadcastQueue.mem_of_position? found)
    have apart : reader ≠ other := Nat.ne_of_lt (Nat.lt_of_lt_of_le born unborn)
    rw [List.mem_singleton.1 mem]
    simp [Entry.concerns, Entry.isJoinOf, Entry.givenTo?, apart]
  · intro other is
    by_cases same : other = reader
    -- the message goes from the front of what is kept to the end of what was given
    · rw [same, own, kept]
      simp [givenMessages, Entry.givenTo?, appendedMessages, Entry.appended?]
    · have apart : ¬ reader = other := fun equal => same equal.symm
      rw [others other same]
      simp [givenMessages, Entry.givenTo?, appendedMessages, Entry.appended?, apart]

/-- Whatever happens to a queue, nothing that was put for a reader is lost or doubled. -/
theorem Change.delivers {q r : BroadcastQueue α} {entries : List Entry}
    (change : Change q entries r) {journal : List Entry} (ok : q.Consistent)
    (delivers : Delivers q journal) : Delivers r (journal ++ entries) := by
  induction change generalizing journal with
  | pace alike =>
    refine delivers.keep ?_ alike.nextReader (by simp) rfl fun reader _ =>
      alike.pendingMessages reader
    intro reader is
    rwa [alike.isRegistered] at is
  | remark q remark =>
    refine delivers.keep (fun _ is => is) rfl ?_ (appendedMessages_of_isRemark remark)
      fun _ _ => rfl
    intro reader entry mem
    rw [List.mem_singleton.1 mem]
    exact concerns_of_isRemark remark reader
  | join q => exact delivers.join ok
  | @leave q leaver registered =>
    have stays : ∀ reader, (q.detachReader leaver).isRegistered reader = true →
        reader ≠ leaver := by
      intro reader is same
      rw [same, BroadcastQueue.isRegistered_detachReader] at is
      cases is
    refine delivers.keep ?_ rfl ?_ rfl ?_
    · intro reader is
      rwa [BroadcastQueue.isRegistered_detachReader_of_ne (stays reader is)] at is
    · intro reader entry mem
      rw [List.mem_singleton.1 mem]
      rfl
    · exact fun reader is =>
        ok.pendingMessages_detachReader_of_ne registered (stays reader is)
  | give kept => exact delivers.give ok kept
  | lack registered drained ended =>
    refine delivers.keep (fun _ is => is) rfl ?_ rfl fun _ _ => rfl
    intro reader entry mem
    rw [List.mem_singleton.1 mem]
    rfl
  | store call slot message taking room occupied =>
    refine delivers.extend (fun _ is => is) rfl ?_ ?_
    · intro reader _ entry mem
      rw [List.mem_singleton.1 mem]
      rfl
    · exact fun reader is => ok.pendingMessages_store slot message is
  | @drop q slot taking empty =>
    -- a message is dropped only if there is no reader to miss it
    have nobody : ∀ reader, (q.drop slot).isRegistered reader = true → False := by
      intro reader is
      exact BroadcastQueue.positions_ne_nil_of_isRegistered is empty
    refine delivers.keep (fun reader is => (nobody reader is).elim) rfl (by simp) rfl
      fun reader is => (nobody reader is).elim
  | close q =>
    refine delivers.keep (fun _ is => is) rfl ?_ rfl fun _ _ => rfl
    intro reader entry mem
    rw [List.mem_singleton.1 mem]
    rfl
  | trans before after ihBefore ihAfter =>
    rw [← List.append_assoc]
    exact ihAfter (before.consistent ok) (ihBefore ok delivers)

/-- What the journal says about the end of the queue. -/
structure Closes (q : BroadcastQueue α) (journal : List Entry) : Prop where
  /-- The queue is closed when it says so. -/
  closed_iff : .closed ∈ journal ↔ q.closed = true
  /-- Nothing is put after the queue was closed. -/
  after : ∀ before after, journal = before ++ .closed :: after → appendedMessages after = []
  /-- A reader that would wait comes back without a message only after the queue was closed, and
  when it has been given everything. -/
  drained : ∀ before reader after, journal = before ++ .nothing reader .patient :: after →
    .closed ∈ before ∧ givenMessages reader before = appendedSince reader before

/-- An entry of a journal that has grown by one is the last one or an earlier one. -/
theorem eq_append_cons_of_concat {journal before after : List Entry} {last entry : Entry}
    (split : journal ++ [last] = before ++ entry :: after) :
    (after = [] ∧ last = entry ∧ journal = before) ∨
      ∃ rest, after = rest ++ [last] ∧ journal = before ++ entry :: rest := by
  rcases List.eq_nil_or_concat after with rfl | ⟨rest, final, rfl⟩
  · obtain ⟨front, same⟩ := List.append_inj' split rfl
    exact .inl ⟨rfl, List.singleton_inj.1 same, front⟩
  · rw [List.concat_eq_append, ← List.cons_append, ← List.append_assoc] at split
    obtain ⟨front, same⟩ := List.append_inj' split rfl
    rw [List.concat_eq_append, List.singleton_inj.1 same]
    exact .inr ⟨rest, rfl, front⟩

omit [PacingNumber α] in
/-- An entry that is not about the end, and that puts nothing if the queue is closed. -/
theorem Closes.concat {q r : BroadcastQueue α} {journal : List Entry} {entry : Entry}
    (closes : Closes q journal) (stays : r.closed = q.closed) (notClosed : entry ≠ .closed)
    (puts : q.closed = true → entry.appended? = none)
    (lacks : ∀ reader, entry = .nothing reader .patient →
      q.closed = true ∧ givenMessages reader journal = appendedSince reader journal) :
    Closes r (journal ++ [entry]) where
  closed_iff := by
    rw [stays, ← closes.closed_iff, List.mem_append, List.mem_singleton]
    exact or_iff_left fun same => notClosed same.symm
  after := by
    intro before after split
    rcases eq_append_cons_of_concat split with ⟨-, same, -⟩ | ⟨rest, rfl, earlier⟩
    · exact absurd same notClosed
    -- the closing is an earlier entry, so the queue is closed already
    · have closed : q.closed = true := closes.closed_iff.1 (by simp [earlier])
      rw [appendedMessages_append, closes.after before rest earlier]
      simp [appendedMessages, puts closed]
  drained := by
    intro before reader after split
    rcases eq_append_cons_of_concat split with ⟨-, same, rfl⟩ | ⟨rest, -, earlier⟩
    · obtain ⟨closed, all⟩ := lacks reader same
      exact ⟨closes.closed_iff.2 closed, all⟩
    · exact closes.drained before reader rest earlier

omit [PacingNumber α] in
theorem Closes.of_closed_eq {q r : BroadcastQueue α} {journal : List Entry}
    (closes : Closes q journal) (stays : r.closed = q.closed) : Closes r (journal ++ []) := by
  rw [List.append_nil]
  exact ⟨closes.closed_iff.trans (by rw [stays]), closes.after, closes.drained⟩

theorem Change.closes {q r : BroadcastQueue α} {entries : List Entry}
    (change : Change q entries r) {journal : List Entry} (ok : q.Consistent)
    (delivers : Delivers q journal) (closes : Closes q journal) :
    Closes r (journal ++ entries) := by
  induction change generalizing journal with
  | pace alike => exact closes.of_closed_eq alike.closed
  | @remark q entry remark =>
    refine closes.concat rfl ?_ ?_ ?_
    · rintro rfl
      cases remark
    · intro _
      cases entry with
      | appended call message => cases remark
      | _ => rfl
    · rintro reader rfl
      cases remark
  | join q => exact closes.concat rfl (by simp) (fun _ => rfl) (by simp)
  | leave registered => exact closes.concat rfl (by simp) (fun _ => rfl) (by simp)
  | give kept =>
    exact closes.concat (BroadcastQueue.closed_take _ _) (by simp) (fun _ => rfl) (by simp)
  | lack registered drained ended =>
    refine closes.concat rfl (by simp) (fun _ => rfl) ?_
    intro reader same
    obtain ⟨rfl, rfl⟩ := Entry.nothing.inj same
    -- nothing is kept for the reader, so it was given all that was put
    have all := delivers.delivered _ registered
    rw [drained, List.append_nil] at all
    exact ⟨ended rfl, all⟩
  | store call slot message taking room occupied =>
    refine closes.concat rfl (by simp) ?_ (by simp)
    intro closed
    rw [taking] at closed
    cases closed
  | drop slot taking empty => exact closes.of_closed_eq rfl
  | close q =>
    constructor
    · simp [BroadcastQueue.close]
    · intro before after split
      rcases eq_append_cons_of_concat split with ⟨rfl, -, -⟩ | ⟨rest, rfl, earlier⟩
      · rfl
      · rw [appendedMessages_append, closes.after before rest earlier]
        rfl
    · intro before reader after split
      rcases eq_append_cons_of_concat split with ⟨-, same, -⟩ | ⟨rest, -, earlier⟩
      · cases same
      · exact closes.drained before reader rest earlier
  | trans before after ihBefore ihAfter =>
    rw [← List.append_assoc]
    exact ihAfter (before.consistent ok) (before.delivers ok delivers) (ihBefore ok delivers closes)

namespace Traffic

end Traffic

end CollectorFeed
