import CollectorFeed.Proofs.Broadcast.Calls
import CollectorFeed.Proofs.Broadcast.Representation

/-!
# Nobody sleeps through what it waits for

A thread that waits is woken only at a few places: when a reader makes room in a full queue or
leaves, when a message is put, and when the queue is closed. This module shows that these places
are enough. A writer that is parked has no room in the queue, a reader that is parked has taken
every message, and if the queue is closed then no thread that closed it has come to the wakeup that
the parked one waits for. `noLostWakeup_run` says so of every state that threads can reach.

Waking after closing is no part of the section that closes the queue, so a queue may be closed
while threads are still parked. The invariant `Wakeful` counts the threads that have closed the
queue and have yet to wake the others: as long as anybody is parked, these are all threads that
ever closed it.
-/

set_option autoImplicit false

namespace CollectorFeed

variable {α : Type}

/-! ## Waking, and threads that owe it -/

namespace Activity

/-- Whether a thread has closed the queue and has yet to wake the writers. -/
def owesWriters : Activity → Bool
  | closing _ => true
  | _ => false

/-- Whether a thread has closed the queue and has yet to wake the readers. -/
def owesReaders : Activity → Bool
  | closing false => true
  | _ => false

theorem owesWriters_wakeWriter (activity : Activity) :
    activity.wakeWriter.owesWriters = activity.owesWriters := by
  cases activity <;> rfl

theorem owesWriters_wakeReader (activity : Activity) :
    activity.wakeReader.owesWriters = activity.owesWriters := by
  cases activity <;> rfl

theorem owesReaders_wakeWriter (activity : Activity) :
    activity.wakeWriter.owesReaders = activity.owesReaders := by
  cases activity <;> rfl

theorem owesReaders_wakeReader (activity : Activity) :
    activity.wakeReader.owesReaders = activity.owesReaders := by
  cases activity <;> rfl

/-- No writer is parked once it was woken. -/
theorem wakeWriter_ne_blocked (activity : Activity) {slot : Nat} {message : Message} :
    activity.wakeWriter ≠ .blocked slot message false := by
  cases activity <;> simp [wakeWriter]

/-- No reader is parked once it was woken. -/
theorem wakeReader_ne_starved (activity : Activity) {reader : Nat} {kind : ReadKind} :
    activity.wakeReader ≠ .starved reader kind false := by
  cases activity <;> simp [wakeReader]

theorem starved_of_wakeWriter {activity : Activity} {reader : Nat} {kind : ReadKind} {woken : Bool}
    (starved : activity.wakeWriter = .starved reader kind woken) :
    activity = .starved reader kind woken := by
  cases activity with
  | blocked slot message woken => cases starved
  | _ => exact starved

theorem blocked_of_wakeReader {activity : Activity} {slot : Nat} {message : Message} {woken : Bool}
    (blocked : activity.wakeReader = .blocked slot message woken) :
    activity = .blocked slot message woken := by
  cases activity with
  | starved reader kind woken => cases blocked
  | _ => exact blocked

end Activity

namespace Traffic

/-- How often the queue was closed. -/
def closures (t : Traffic α) : Nat :=
  t.journal.count .closed

/-- Number of calls that are under way and of some kind. -/
def countCalls (t : Traffic α) (kind : Activity → Bool) : Nat :=
  t.calls.countP fun entry => kind entry.2

/-- Number of threads that have closed the queue and have yet to wake the writers. -/
def writersUnwoken (t : Traffic α) : Nat :=
  t.countCalls Activity.owesWriters

/-- Number of threads that have closed the queue and have yet to wake the readers. -/
def readersUnwoken (t : Traffic α) : Nat :=
  t.countCalls Activity.owesReaders

/-- What a thread that is parked can rely on. -/
structure NoLostWakeup (t : Traffic α) : Prop where
  /-- A parked writer has no room and a reader that can make some, and no thread that closed the
  queue has come as far as waking the writers. -/
  writer : ∀ call slot message, t.activity? call = some (.blocked slot message false) →
    t.queue.pace.isFull = true ∧ t.queue.positions ≠ [] ∧
      (t.queue.closed = false ∨ 0 < t.closures ∧ t.writersUnwoken = t.closures)
  /-- A parked reader is registered and has taken every message, and no thread that closed the queue
  has come as far as waking the readers. -/
  reader : ∀ call reader kind, t.activity? call = some (.starved reader kind false) →
    t.queue.position? reader = some t.queue.pace.tail ∧
      (t.queue.closed = false ∨ 0 < t.closures ∧ t.readersUnwoken = t.closures)

/-! ## Counting calls -/

theorem mem_calls_of_activity? {t : Traffic α} {call : Nat} {activity : Activity}
    (waits : t.activity? call = some activity) : (call, activity) ∈ t.calls := by
  obtain ⟨entry, first, same⟩ := Option.map_eq_some_iff.1 waits
  have number : entry.1 = call := by simpa using List.find?_some first
  have mem := List.mem_of_find?_eq_some first
  rwa [← number, ← same]

theorem not_mem_numbers_of_activity? {t : Traffic α} {call : Nat}
    (free : t.activity? call = none) : call ∉ t.calls.map Prod.fst := by
  intro mem
  obtain ⟨entry, mem, same⟩ := List.mem_map.1 mem
  have unseen := List.find?_eq_none.1 (Option.map_eq_none_iff.1 free) entry mem
  simp [same] at unseen

/-- Waking threads changes no count that does not ask who is awake. -/
theorem countCalls_wake (t : Traffic α) {wake : Activity → Activity} {kind : Activity → Bool}
    (same : ∀ activity, kind (wake activity) = kind activity) :
    countCalls { t with calls := t.calls.map fun entry => (entry.1, wake entry.2) } kind =
      t.countCalls kind := by
  simp only [countCalls, List.countP_map, Function.comp_def, same]

theorem countCalls_park (t : Traffic α) (call : Nat) (activity : Activity)
    (kind : Activity → Bool) :
    (t.park call activity).countCalls kind = t.countCalls kind + (kind activity).toNat := by
  cases is : kind activity <;> simp [countCalls, park, is]

/-- A call that goes on is counted no more. No other call has its number. -/
theorem countCalls_unpark {t : Traffic α} {call : Nat} {activity : Activity}
    (distinct : (t.calls.map Prod.fst).Nodup) (waits : t.activity? call = some activity)
    (kind : Activity → Bool) :
    (t.unpark call).countCalls kind + (kind activity).toNat = t.countCalls kind := by
  obtain ⟨front, back, split⟩ := List.append_of_mem (mem_calls_of_activity? waits)
  rw [split, List.map_append, List.map_cons, List.nodup_middle, List.nodup_cons,
    ← List.map_append] at distinct
  have others : (front ++ back).filter (fun entry => entry.1 != call) = front ++ back := by
    refine List.filter_eq_self.2 fun entry mem => ?_
    have apart : entry.1 ≠ call := by
      intro same
      exact distinct.1 (List.mem_map.2 ⟨entry, mem, same⟩)
    simpa using apart
  have left : (t.unpark call).calls = front ++ back := by
    rw [← others]
    simp [unpark, split]
  simp only [countCalls, left, split, List.countP_append, List.countP_cons]
  cases kind activity with
  | true => simp [Nat.add_assoc]
  | false => simp

/-! ## The invariant -/

/-- Threads that are parked wait for something that has not happened yet. The thread that has the
queue may itself owe the writers and the readers a wakeup; then it is counted beside the calls. -/
structure WakefulBut (t : Traffic α) (writers readers : Nat) : Prop where
  /-- No two calls have the same number. -/
  distinct : (t.calls.map Prod.fst).Nodup
  /-- Calls that wait have begun. -/
  begun : ∀ entry ∈ t.calls, entry.1 < t.nextCall
  /-- The journal tells whether the queue is closed. -/
  closed_iff : t.queue.closed = true ↔ 0 < t.closures
  /-- Who owes the writers a wakeup has closed the queue. -/
  writers_le : t.writersUnwoken + writers ≤ t.closures
  /-- Who owes the readers a wakeup has closed the queue. -/
  readers_le : t.readersUnwoken + readers ≤ t.closures
  /-- A parked writer has no room, and nobody has come as far as waking it. -/
  writer : ∀ call slot message, t.activity? call = some (.blocked slot message false) →
    t.queue.hasNoRoom = true ∧ t.writersUnwoken + writers = t.closures
  /-- A parked reader stands at the tail, and nobody has come as far as waking it. -/
  reader : ∀ call reader kind, t.activity? call = some (.starved reader kind false) →
    t.queue.position? reader = some t.queue.pace.tail ∧ t.readersUnwoken + readers = t.closures

/-- The invariant between two sections. -/
def Wakeful (t : Traffic α) : Prop :=
  t.WakefulBut 0 0

namespace WakefulBut

variable {t : Traffic α} {writers readers : Nat}

/-- As long as the queue is open nobody has closed it. -/
theorem closures_eq_zero (wakeful : t.WakefulBut writers readers)
    (taking : t.queue.closed = false) : t.closures = 0 := by
  by_contra some_
  rw [wakeful.closed_iff.2 (Nat.pos_of_ne_zero some_)] at taking
  cases taking

/-- A call that waits has begun. -/
theorem lt_of_activity? (wakeful : t.WakefulBut writers readers) {call : Nat} {activity : Activity}
    (waits : t.activity? call = some activity) : call < t.nextCall :=
  wakeful.begun _ (mem_calls_of_activity? waits)

/-- A call that has not begun does not wait. -/
theorem activity?_nextCall (wakeful : t.WakefulBut writers readers) :
    t.activity? t.nextCall = none := by
  by_contra waits
  obtain ⟨activity, waits⟩ := Option.ne_none_iff_exists'.1 waits
  exact Nat.lt_irrefl _ (wakeful.lt_of_activity? waits)

theorem count (wakeful : t.WakefulBut writers readers) : t.count.WakefulBut writers readers :=
  { wakeful with begun := fun entry mem => Nat.lt_succ_of_lt (wakeful.begun entry mem) }

/-- Handles of writers have nothing to do with who is parked. -/
theorem withWriters (wakeful : t.WakefulBut writers readers) (handles : List Nat) :
    WakefulBut { t with writers := handles } writers readers :=
  ⟨wakeful.distinct, wakeful.begun, wakeful.closed_iff, wakeful.writers_le, wakeful.readers_le,
    wakeful.writer, wakeful.reader⟩

/-- A change of the queue that is bad news for nobody who is parked. -/
theorem withQueue (wakeful : t.WakefulBut writers readers) (queue : BroadcastQueue α)
    (closed : queue.closed = t.queue.closed)
    (writer : ∀ call slot message, t.activity? call = some (.blocked slot message false) →
      queue.hasNoRoom = true)
    (reader : ∀ call reader kind, t.activity? call = some (.starved reader kind false) →
      queue.position? reader = some queue.pace.tail) :
    WakefulBut { t with queue := queue } writers readers where
  distinct := wakeful.distinct
  begun := wakeful.begun
  closed_iff := (Eq.congr_left closed).trans wakeful.closed_iff
  writers_le := wakeful.writers_le
  readers_le := wakeful.readers_le
  writer := fun call slot message parked =>
    ⟨writer call slot message parked, (wakeful.writer call slot message parked).2⟩
  reader := fun call other kind parked =>
    ⟨reader call other kind parked, (wakeful.reader call other kind parked).2⟩

/-- An entry that is not about closing changes nothing. -/
theorem note (wakeful : t.WakefulBut writers readers) {entries : List Entry}
    (other : Entry.closed ∉ entries) : (t.note entries).WakefulBut writers readers := by
  have same : (t.note entries).closures = t.closures := by
    show (t.journal ++ entries).count .closed = _
    rw [List.count_append, List.count_eq_zero_of_not_mem other]
    rfl
  constructor
  · exact wakeful.distinct
  · exact wakeful.begun
  · rw [same]
    exact wakeful.closed_iff
  · rw [same]
    exact wakeful.writers_le
  · rw [same]
    exact wakeful.readers_le
  · rw [same]
    exact wakeful.writer
  · rw [same]
    exact wakeful.reader

/-- A thread that closes the queue owes both kinds of threads a wakeup. -/
theorem close (wakeful : t.Wakeful) :
    ({ t with queue := t.queue.close }.note [.closed]).WakefulBut 1 1 := by
  have more : ({ t with queue := t.queue.close }.note [.closed]).closures = t.closures + 1 := by
    show (t.journal ++ [Entry.closed]).count .closed = t.journal.count .closed + 1
    simp
  constructor
  · exact wakeful.distinct
  · exact wakeful.begun
  · rw [more]
    exact iff_of_true rfl (Nat.succ_pos _)
  · rw [more]
    exact Nat.succ_le_succ wakeful.writers_le
  · rw [more]
    exact Nat.succ_le_succ wakeful.readers_le
  · intro call slot message parked
    obtain ⟨noRoom, unwoken⟩ := wakeful.writer call slot message parked
    rw [more]
    exact ⟨noRoom, congrArg Nat.succ unwoken⟩
  · intro call reader kind parked
    obtain ⟨stands, unwoken⟩ := wakeful.reader call reader kind parked
    rw [more]
    exact ⟨stands, congrArg Nat.succ unwoken⟩

/-- A call that waited goes on, with the wakeups that it owes. -/
theorem unpark (wakeful : t.Wakeful) {call : Nat} {activity : Activity}
    (waits : t.activity? call = some activity) :
    (t.unpark call).WakefulBut activity.owesWriters.toNat activity.owesReaders.toNat := by
  have writersSame := countCalls_unpark wakeful.distinct waits Activity.owesWriters
  have readersSame := countCalls_unpark wakeful.distinct waits Activity.owesReaders
  -- whoever is parked now was parked before
  have before : ∀ other activity', (t.unpark call).activity? other = some activity' →
      t.activity? other = some activity' := by
    intro other activity' parked
    by_cases same : other = call
    · rw [same, activity?_unpark] at parked
      cases parked
    · rwa [activity?_unpark_of_ne t same] at parked
  constructor
  · exact wakeful.distinct.sublist (List.filter_sublist.map Prod.fst)
  · intro entry mem
    exact wakeful.begun entry (List.mem_filter.1 mem).1
  · exact wakeful.closed_iff
  · exact Nat.le_trans (Nat.le_of_eq writersSame) wakeful.writers_le
  · exact Nat.le_trans (Nat.le_of_eq readersSame) wakeful.readers_le
  · intro other slot message parked
    obtain ⟨noRoom, unwoken⟩ := wakeful.writer other slot message (before other _ parked)
    exact ⟨noRoom, writersSame.trans unwoken⟩
  · intro other reader kind parked
    obtain ⟨stands, unwoken⟩ := wakeful.reader other reader kind (before other _ parked)
    exact ⟨stands, readersSame.trans unwoken⟩

/-- A thread gives the queue away, with the wakeups that it owes, and waits for what has not
happened yet. Nobody parks at a closed queue, and while it is open nobody has closed it. -/
theorem park (activity : Activity)
    (wakeful : t.WakefulBut activity.owesWriters.toNat activity.owesReaders.toNat) {call : Nat}
    (free : t.activity? call = none) (started : call < t.nextCall)
    (writer : ∀ slot message, activity = .blocked slot message false →
      t.queue.closed = false ∧ t.queue.hasNoRoom = true)
    (reader : ∀ reader kind, activity = .starved reader kind false →
      t.queue.closed = false ∧ t.queue.position? reader = some t.queue.pace.tail) :
    (t.park call activity).Wakeful := by
  have writersSame := t.countCalls_park call activity Activity.owesWriters
  have readersSame := t.countCalls_park call activity Activity.owesReaders
  have nobody (taking : t.queue.closed = false) :
      (t.park call activity).writersUnwoken = t.closures ∧
        (t.park call activity).readersUnwoken = t.closures := by
    have none_ := wakeful.closures_eq_zero taking
    have le := Nat.le_trans (Nat.le_of_eq writersSame) wakeful.writers_le
    have le' := Nat.le_trans (Nat.le_of_eq readersSame) wakeful.readers_le
    rw [none_] at le le' ⊢
    exact ⟨Nat.le_zero.1 le, Nat.le_zero.1 le'⟩
  constructor
  · exact List.nodup_cons.2 ⟨not_mem_numbers_of_activity? free, wakeful.distinct⟩
  · exact List.forall_mem_cons.2 ⟨started, wakeful.begun⟩
  · exact wakeful.closed_iff
  · exact Nat.le_trans (Nat.le_of_eq writersSame) wakeful.writers_le
  · exact Nat.le_trans (Nat.le_of_eq readersSame) wakeful.readers_le
  · intro other slot message parked
    by_cases same : other = call
    · rw [same, activity?_park] at parked
      obtain ⟨taking, noRoom⟩ := writer slot message (Option.some.inj parked)
      exact ⟨noRoom, (nobody taking).1⟩
    · rw [activity?_park_of_ne t activity same] at parked
      obtain ⟨noRoom, unwoken⟩ := wakeful.writer other slot message parked
      exact ⟨noRoom, writersSame.trans unwoken⟩
  · intro other target kind parked
    by_cases same : other = call
    · rw [same, activity?_park] at parked
      obtain ⟨taking, stands⟩ := reader target kind (Option.some.inj parked)
      exact ⟨stands, (nobody taking).2⟩
    · rw [activity?_park_of_ne t activity same] at parked
      obtain ⟨stands, unwoken⟩ := wakeful.reader other target kind parked
      exact ⟨stands, readersSame.trans unwoken⟩

/-- Waking some threads parks no other one. -/
theorem wake (wakeful : t.WakefulBut writers readers) {wake : Activity → Activity}
    (owesWriters : ∀ activity, (wake activity).owesWriters = activity.owesWriters)
    (owesReaders : ∀ activity, (wake activity).owesReaders = activity.owesReaders)
    (blocked : ∀ activity slot message, wake activity = .blocked slot message false →
      activity = .blocked slot message false)
    (starved : ∀ activity reader kind, wake activity = .starved reader kind false →
      activity = .starved reader kind false) :
    WakefulBut { t with calls := t.calls.map fun entry => (entry.1, wake entry.2) }
      writers readers := by
  have writersSame := congrArg (· + writers) (t.countCalls_wake owesWriters)
  have readersSame := congrArg (· + readers) (t.countCalls_wake owesReaders)
  constructor
  · simpa [Function.comp_def] using wakeful.distinct
  · intro entry mem
    obtain ⟨before, there, rfl⟩ := List.mem_map.1 mem
    exact wakeful.begun before there
  · exact wakeful.closed_iff
  · exact Nat.le_trans (Nat.le_of_eq writersSame) wakeful.writers_le
  · exact Nat.le_trans (Nat.le_of_eq readersSame) wakeful.readers_le
  · intro call slot message parked
    rw [activity?_wake] at parked
    obtain ⟨activity, waits, same⟩ := Option.map_eq_some_iff.1 parked
    rw [blocked activity slot message same] at waits
    obtain ⟨noRoom, unwoken⟩ := wakeful.writer call slot message waits
    exact ⟨noRoom, writersSame.trans unwoken⟩
  · intro call reader kind parked
    rw [activity?_wake] at parked
    obtain ⟨activity, waits, same⟩ := Option.map_eq_some_iff.1 parked
    rw [starved activity reader kind same] at waits
    obtain ⟨stands, unwoken⟩ := wakeful.reader call reader kind waits
    exact ⟨stands, readersSame.trans unwoken⟩

end WakefulBut

/-- After a wakeup no writer is parked. -/
theorem not_blocked_wakeAllWriters (t : Traffic α) (call slot : Nat) (message : Message) :
    t.wakeAllWriters.activity? call ≠ some (.blocked slot message false) := by
  intro parked
  rw [wakeAllWriters, activity?_wake] at parked
  obtain ⟨activity, -, woken⟩ := Option.map_eq_some_iff.1 parked
  exact activity.wakeWriter_ne_blocked woken

/-- After a wakeup no reader is parked. -/
theorem not_starved_wakeAllReaders (t : Traffic α) (call reader : Nat) (kind : ReadKind) :
    t.wakeAllReaders.activity? call ≠ some (.starved reader kind false) := by
  intro parked
  rw [wakeAllReaders, activity?_wake] at parked
  obtain ⟨activity, -, woken⟩ := Option.map_eq_some_iff.1 parked
  exact activity.wakeReader_ne_starved woken

/-- Readers sleep through a wakeup of the writers. -/
theorem starved_of_wakeAllWriters {t : Traffic α} {call reader : Nat} {kind : ReadKind}
    {woken : Bool} (starved : t.wakeAllWriters.activity? call = some (.starved reader kind woken)) :
    t.activity? call = some (.starved reader kind woken) := by
  rw [wakeAllWriters, activity?_wake] at starved
  obtain ⟨activity, waits, same⟩ := Option.map_eq_some_iff.1 starved
  rwa [Activity.starved_of_wakeWriter same] at waits

namespace WakefulBut

variable {t : Traffic α} {writers readers : Nat}

/-- When the writers are woken, the thread that wakes them owes them nothing any more. -/
theorem wakeAllWriters (wakeful : t.WakefulBut writers readers) :
    t.wakeAllWriters.WakefulBut 0 readers := by
  have woken : t.wakeAllWriters.WakefulBut writers readers := by
    refine wakeful.wake Activity.owesWriters_wakeWriter Activity.owesReaders_wakeWriter ?_ ?_
    · intro activity slot message woken
      exact absurd woken activity.wakeWriter_ne_blocked
    · intro activity reader kind woken
      exact Activity.starved_of_wakeWriter woken
  exact { woken with
    writers_le := Nat.le_trans (Nat.le_add_right _ writers) woken.writers_le
    writer := fun call slot message parked =>
      absurd parked (t.not_blocked_wakeAllWriters call slot message) }

/-- When the readers are woken, the thread that wakes them owes them nothing any more. -/
theorem wakeAllReaders (wakeful : t.WakefulBut writers readers) :
    t.wakeAllReaders.WakefulBut writers 0 := by
  have woken : t.wakeAllReaders.WakefulBut writers readers := by
    refine wakeful.wake Activity.owesWriters_wakeReader Activity.owesReaders_wakeReader ?_ ?_
    · intro activity slot message woken
      exact Activity.blocked_of_wakeReader woken
    · intro activity reader kind woken
      exact absurd woken activity.wakeReader_ne_starved
  exact { woken with
    readers_le := Nat.le_trans (Nat.le_add_right _ readers) woken.readers_le
    reader := fun call reader kind parked =>
      absurd parked (t.not_starved_wakeAllReaders call reader kind) }

end WakefulBut

theorem Wakeful.noLostWakeup {t : Traffic α} (wakeful : t.Wakeful) : t.NoLostWakeup where
  writer := by
    intro call slot message parked
    obtain ⟨noRoom, unwoken⟩ := wakeful.writer call slot message parked
    obtain ⟨full, occupied⟩ : t.queue.pace.isFull = true ∧ t.queue.positions ≠ [] := by
      simpa [BroadcastQueue.hasNoRoom] using noRoom
    refine ⟨full, occupied, ?_⟩
    cases closed : t.queue.closed with
    | false => exact .inl rfl
    | true => exact .inr ⟨wakeful.closed_iff.1 closed, unwoken⟩
  reader := by
    intro call reader kind parked
    obtain ⟨stands, unwoken⟩ := wakeful.reader call reader kind parked
    refine ⟨stands, ?_⟩
    cases closed : t.queue.closed with
    | false => exact .inl rfl
    | true => exact .inr ⟨wakeful.closed_iff.1 closed, unwoken⟩

end Traffic

/-! ## What sections do to the queue -/

namespace BroadcastQueue

theorem hasNoRoom_iff (q : BroadcastQueue α) :
    q.hasNoRoom = true ↔ q.pace.isFull = true ∧ q.positions ≠ [] := by
  simp [hasNoRoom]

theorem isFull_eq_of_extent {s s' : PaceState α} (same : s'.extent = s.extent) :
    s'.isFull = s.isFull := by
  have capacity : s'.capacity = s.capacity := congrArg PaceState.Extent.capacity same
  have head : s'.head = s.head := congrArg PaceState.Extent.head same
  have tail : s'.tail = s.tail := congrArg PaceState.Extent.tail same
  refine decide_eq_decide.2 ?_
  rw [PaceState.occupancy, PaceState.occupancy, capacity, head, tail]

theorem Alike.hasNoRoom {q r : BroadcastQueue α} (alike : Alike q r) :
    r.hasNoRoom = q.hasNoRoom := by
  simp [BroadcastQueue.hasNoRoom, isFull_eq_of_extent alike.extent, alike.positions]

/-- A new reader makes no room. -/
theorem hasNoRoom_attachReader {q : BroadcastQueue α} (noRoom : q.hasNoRoom = true) :
    q.attachReader.2.hasNoRoom = true := by
  have full := (q.hasNoRoom_iff.1 noRoom).1
  exact (hasNoRoom_iff _).2 ⟨full, by simp [attachReader]⟩

variable [PacingNumber α]

/-- A reader that is given a message stood in front of the tail and goes on by one. -/
theorem of_take_eq_some {q r : BroadcastQueue α} {reader : Nat} {message : Message}
    (taken : q.take reader = (some message, r)) :
    ∃ position, q.position? reader = some position ∧ position < q.pace.tail ∧
      r = ((q.stepReader reader position).release).settle := by
  cases found : q.position? reader with
  | none => simp [take, found] at taken
  | some position =>
    by_cases done : q.pace.tail ≤ position
    · simp [take, found, done] at taken
    · cases item : q.items[position - q.pace.head]? with
      | none => simp [take, found, done, item] at taken
      | some other =>
        simp only [take, found, if_neg done, item, Prod.mk.injEq] at taken
        exact ⟨position, rfl, Nat.not_le.1 done, taken.2.symm⟩

theorem closed_of_take {q r : BroadcastQueue α} {reader : Nat} {message : Message}
    (taken : q.take reader = (some message, r)) : r.closed = q.closed := by
  obtain ⟨position, -, -, rfl⟩ := of_take_eq_some taken
  exact (alike_settle _).closed

/-- A registered reader that is given nothing stands at the tail. -/
theorem Ordered.of_take_eq_none {q r : BroadcastQueue α} (ordered : q.Ordered) {reader : Nat}
    (registered : q.isRegistered reader = true) (taken : q.take reader = (none, r)) :
    q.position? reader = some q.pace.tail ∧ r = q := by
  obtain ⟨position, found⟩ := position?_of_isRegistered registered
  have below := (ordered.within _ (mem_of_position? found)).2
  by_cases left : position < q.pace.tail
  · -- in front of the tail there would be a message
    obtain ⟨message, item⟩ := ordered.lookup found left
    rw [take_of_lookup found left item] at taken
    cases taken
  · rw [take_of_tail_le found (Nat.not_lt.1 left)] at taken
    have same : position = q.pace.tail := Nat.le_antisymm below (Nat.not_lt.1 left)
    exact ⟨same ▸ found, (Prod.mk.inj taken).2.symm⟩

end BroadcastQueue

namespace Traffic

/-! ## Sections keep the invariant -/

namespace Wakeful

variable {t : Traffic α}

/-- A change of the queue that moves neither messages nor readers. -/
theorem withAlike (wakeful : t.Wakeful) {queue : BroadcastQueue α}
    (alike : BroadcastQueue.Alike t.queue queue) : Wakeful { t with queue := queue } := by
  apply wakeful.withQueue queue alike.closed
  · intro call slot message parked
    rw [alike.hasNoRoom]
    exact (wakeful.writer call slot message parked).1
  · intro call reader kind parked
    rw [alike.position?, alike.tail]
    exact (wakeful.reader call reader kind parked).1

/-- Nobody is parked at a queue without readers. -/
theorem withDropped (wakeful : t.Wakeful) (slot : Nat) (empty : t.queue.positions = []) :
    Wakeful { t with queue := t.queue.drop slot } := by
  apply wakeful.withQueue (t.queue.drop slot) rfl
  · intro call other message parked
    have noRoom := (wakeful.writer call other message parked).1
    simp [BroadcastQueue.hasNoRoom, empty] at noRoom
  · intro call reader kind parked
    have stands := (wakeful.reader call reader kind parked).1
    simp [BroadcastQueue.position?, empty] at stands

/-- A message is put only where there is room, so no writer is parked, and the readers are woken. -/
theorem withStored (wakeful : t.Wakeful) (slot : Nat) (message : Message)
    (room : t.queue.hasNoRoom = false) :
    Wakeful { t.wakeAllReaders with queue := t.queue.store slot message } := by
  have woken := wakeful.wakeAllReaders
  apply woken.withQueue (t.queue.store slot message) rfl
  · intro call other message' parked
    have noRoom : t.queue.hasNoRoom = true := (woken.writer call other message' parked).1
    exact absurd (noRoom.symm.trans room) Bool.noConfusion
  · intro call reader kind parked
    exact absurd parked (t.not_starved_wakeAllReaders call reader kind)

/-- A reader that joins stands at the tail, and those that were there keep their places. -/
theorem withJoined (wakeful : t.Wakeful) (ok : t.queue.Consistent) :
    Wakeful { t with queue := t.queue.attachReader.2 } := by
  apply wakeful.withQueue t.queue.attachReader.2 rfl
  · intro call slot message parked
    exact BroadcastQueue.hasNoRoom_attachReader (wakeful.writer call slot message parked).1
  · intro call reader kind parked
    have stands := (wakeful.reader call reader kind parked).1
    have apart : reader ≠ t.queue.nextReader := by
      intro same
      have missing := ok.not_isRegistered_nextReader
      rw [← same, BroadcastQueue.isRegistered_of_position? stands] at missing
      cases missing
    rw [BroadcastQueue.position?_attachReader_of_ne apart]
    exact stands

theorem attemptWrite (wakeful : t.Wakeful) {call : Nat} (free : t.activity? call = none)
    (started : call < t.nextCall) (slot : Nat) (message : Message) :
    (t.attemptWrite call slot message).Wakeful := by
  rcases t.queue.offer_cases slot message with
    ⟨-, offered⟩ | ⟨noRoom, offered⟩ | ⟨-, empty, offered⟩ | ⟨-, room, -, offered⟩
  · simp only [Traffic.attemptWrite, offered]
    exact wakeful.note (by simp)
  · -- a closed queue refuses the message, so this one is open
    have taking : t.queue.closed = false := by
      by_contra closed
      rw [BroadcastQueue.offer, if_pos (eq_true_of_ne_false closed)] at offered
      cases offered
    simp only [Traffic.attemptWrite, offered]
    refine WakefulBut.park (.blocked slot message false) wakeful free started
      (fun _ _ _ => ⟨taking, noRoom⟩) ?_
    intro reader kind parks
    cases parks
  · simp only [Traffic.attemptWrite, offered]
    exact (wakeful.withDropped slot empty).note (by simp)
  · simp only [Traffic.attemptWrite, offered]
    exact (wakeful.withStored slot message room).note (by simp)

variable [PacingNumber α]

theorem beginWrite (wakeful : t.Wakeful) {call : Nat} (free : t.activity? call = none)
    (started : call < t.nextCall) (slot : Nat) (message : Message) (now checked : Nat) :
    (t.beginWrite call slot message now checked).Wakeful := by
  have begun : (t.note [.begun call slot message]).Wakeful := wakeful.note (by simp)
  have alike := BroadcastQueue.alike_beginWrite t.queue slot now checked
  rcases outcome : t.queue.beginWrite slot now checked with ⟨first, queue⟩
  rw [outcome] at alike
  have paced := begun.withAlike alike
  have outcome' : (t.note [.begun call slot message]).queue.beginWrite slot now checked =
    (first, queue) := outcome
  cases first with
  | closed =>
    simp only [Traffic.beginWrite, outcome']
    exact paced.note (by simp)
  | wait milliseconds =>
    simp only [Traffic.beginWrite, outcome']
    refine WakefulBut.park (.paused slot message (checked + milliseconds)) paced free started ?_ ?_
    · intro other message' parks
      cases parks
    · intro reader kind parks
      cases parks
  | ready =>
    simp only [Traffic.beginWrite, outcome']
    exact paced.attemptWrite free started slot message

/-- A reader that is given a message was not parked, and those that are stay where they are. -/
theorem stands_of_take (wakeful : t.Wakeful) {reader : Nat} {message : Message}
    {queue : BroadcastQueue α} (taken : t.queue.take reader = (some message, queue))
    {call other : Nat} {kind : ReadKind}
    (parked : t.activity? call = some (.starved other kind false)) :
    queue.position? other = some queue.pace.tail := by
  obtain ⟨position, found, left, rfl⟩ := BroadcastQueue.of_take_eq_some taken
  have stands := (wakeful.reader call other kind parked).1
  have apart : other ≠ reader := by
    intro same
    rw [same, found] at stands
    exact Nat.ne_of_lt left (Option.some.inj stands)
  rw [(BroadcastQueue.alike_settle _).position?, (BroadcastQueue.alike_settle _).tail,
    BroadcastQueue.position?_release, BroadcastQueue.position?_stepReader_of_ne apart]
  exact stands

/-- A reader that makes no room in a full queue leaves parked writers without room. -/
theorem noRoom_of_take (wakeful : t.Wakeful) {reader : Nat} {message : Message}
    {queue : BroadcastQueue α} (taken : t.queue.take reader = (some message, queue))
    (still : (t.queue.pace.isFull && !queue.pace.isFull) = false) {call slot : Nat}
    {message' : Message} (parked : t.activity? call = some (.blocked slot message' false)) :
    queue.hasNoRoom = true := by
  have noRoom := (wakeful.writer call slot message' parked).1
  obtain ⟨full, -⟩ := (BroadcastQueue.hasNoRoom_iff _).1 noRoom
  have full' : queue.pace.isFull = true := by simpa [full] using still
  obtain ⟨position, found, -, -⟩ := BroadcastQueue.of_take_eq_some taken
  have kept := BroadcastQueue.isRegistered_take t.queue reader reader
  rw [taken, BroadcastQueue.isRegistered_of_position? found] at kept
  exact (BroadcastQueue.hasNoRoom_iff _).2
    ⟨full', BroadcastQueue.positions_ne_nil_of_isRegistered kept⟩

theorem attemptRead (wakeful : t.Wakeful) (ok : t.queue.Consistent) {call reader : Nat}
    (registered : t.queue.isRegistered reader = true) (free : t.activity? call = none)
    (started : call < t.nextCall) (kind : ReadKind) (waits : Bool) :
    (t.attemptRead call reader kind waits).Wakeful := by
  rcases taken : t.queue.take reader with ⟨_ | message, queue⟩
  · obtain ⟨stands, rfl⟩ := ok.of_take_eq_none registered taken
    simp only [Traffic.attemptRead, taken]
    split
    · next waiting =>
      have taking : t.queue.closed = false := by simpa using (Bool.and_eq_true_iff.1 waiting).2
      refine WakefulBut.park (.starved reader kind false) wakeful free started ?_ ?_
      · intro slot message parks
        cases parks
      · intro other kind' parks
        cases parks
        exact ⟨taking, stands⟩
    · exact wakeful.note (by simp)
  · have closed := BroadcastQueue.closed_of_take taken
    simp only [Traffic.attemptRead, taken]
    split
    · -- the writers are woken, so the new room concerns nobody who is parked
      have moved : Wakeful { t.wakeAllWriters with queue := queue } := by
        apply wakeful.wakeAllWriters.withQueue queue closed
        · intro other slot message' parked
          exact absurd parked (t.not_blocked_wakeAllWriters other slot message')
        · intro other reader' kind' parked
          exact wakeful.stands_of_take taken (starved_of_wakeAllWriters parked)
      exact moved.note (by simp)
    · next still =>
      have moved : Wakeful { t with queue := queue } := by
        apply wakeful.withQueue queue closed
        · intro other slot message' parked
          exact wakeful.noRoom_of_take taken (eq_false_of_ne_true still) parked
        · intro other reader' kind' parked
          exact wakeful.stands_of_take taken parked
      exact moved.note (by simp)

/-- A reader that leaves may make room, so the writers are woken; it is not one that is parked. -/
theorem withLeft (wakeful : t.Wakeful) {reader : Nat} (idle : t.isReading reader = false) :
    Wakeful { t.wakeAllWriters with queue := t.queue.detachReader reader } := by
  apply wakeful.wakeAllWriters.withQueue (t.queue.detachReader reader)
  · exact (BroadcastQueue.alike_settle _).closed
  · intro call slot message parked
    exact absurd parked (t.not_blocked_wakeAllWriters call slot message)
  · intro call other kind parked
    have parked := starved_of_wakeAllWriters parked
    have apart : other ≠ reader := by
      intro same
      rw [← same, isReading_of_activity? parked] at idle
      cases idle
    rw [BroadcastQueue.tail_detachReader, BroadcastQueue.detachReader,
      (BroadcastQueue.alike_settle _).position?, BroadcastQueue.position?_release,
      BroadcastQueue.position?_without_of_ne apart]
    exact (wakeful.reader call other kind parked).1

theorem step (wakeful : t.Wakeful) (sound : t.Sound) (move : Move) : (t.step move).Wakeful := by
  have ok := sound.consistent
  cases move with
  | attachWriter =>
    exact (wakeful.withAlike (BroadcastQueue.alike_attachWriter t.queue)).withWriters _
  | detachWriter slot =>
    dsimp only [Traffic.step]
    split
    · exact (wakeful.withAlike (BroadcastQueue.alike_detachWriter t.queue slot)).withWriters _
    · exact wakeful
  | attachReader => exact (wakeful.withJoined ok).note (by simp)
  | detachReader reader =>
    dsimp only [Traffic.step]
    split
    · next free =>
      rw [Bool.and_eq_true, Bool.not_eq_true'] at free
      exact (wakeful.withLeft free.2).note (by simp)
    · exact wakeful
  | write slot message now checked =>
    dsimp only [Traffic.step]
    split
    · have free : t.count.activity? t.nextCall = none := wakeful.activity?_nextCall
      have ready : t.count.Wakeful := WakefulBut.count wakeful
      exact ready.beginWrite free (Nat.lt_succ_self _) slot message now checked
    · exact wakeful
  | resume call now =>
    dsimp only [Traffic.step]
    split
    · next slot message deadline paused =>
      have resumed : (t.unpark call).Wakeful := WakefulBut.unpark wakeful paused
      have closed := resumed.withAlike (BroadcastQueue.alike_closeIntervals t.queue now)
      exact closed.attemptWrite (t.activity?_unpark call) (wakeful.lt_of_activity? paused) slot
        message
    · exact wakeful
  | retryWrite call =>
    dsimp only [Traffic.step]
    split
    · next slot message blocked =>
      have resumed : (t.unpark call).Wakeful := WakefulBut.unpark wakeful blocked
      exact resumed.attemptWrite (t.activity?_unpark call) (wakeful.lt_of_activity? blocked) slot
        message
    · exact wakeful
  | read reader kind =>
    dsimp only [Traffic.step]
    split
    · next registered =>
      have free : t.count.activity? t.nextCall = none := wakeful.activity?_nextCall
      have ready : t.count.Wakeful := WakefulBut.count wakeful
      have ok' : t.count.queue.Consistent := ok
      exact ready.attemptRead ok' registered free (Nat.lt_succ_self _) kind _
    · exact wakeful
  | retryRead call =>
    dsimp only [Traffic.step]
    split
    · next reader kind starved =>
      have registered := sound.attended reader (isReading_of_activity? starved)
      have resumed : (t.unpark call).Wakeful := WakefulBut.unpark wakeful starved
      have ok' : (t.unpark call).queue.Consistent := ok
      exact resumed.attemptRead ok' registered (t.activity?_unpark call)
        (wakeful.lt_of_activity? starved) kind true
    · exact wakeful
  | giveUp call =>
    dsimp only [Traffic.step]
    split
    · next reader starved =>
      have registered := sound.attended reader (isReading_of_activity? starved)
      have resumed : (t.unpark call).Wakeful := WakefulBut.unpark wakeful starved
      have ok' : (t.unpark call).queue.Consistent := ok
      exact resumed.attemptRead ok' registered (t.activity?_unpark call)
        (wakeful.lt_of_activity? starved) .timed false
    · exact wakeful
  | close =>
    have closed := WakefulBut.close (WakefulBut.count wakeful)
    have free := wakeful.activity?_nextCall
    refine WakefulBut.park (.closing false) closed free (Nat.lt_succ_self _) ?_ ?_
    · intro slot message parks
      cases parks
    · intro reader kind parks
      cases parks
  | wakeReaders call =>
    dsimp only [Traffic.step]
    split
    · next closing =>
      -- the thread still owes the writers, for whom it waits as before
      have woken := (WakefulBut.unpark wakeful closing).wakeAllReaders
      have free : (t.unpark call).wakeAllReaders.activity? call = none := by
        rw [Traffic.wakeAllReaders, activity?_wake, activity?_unpark]
        rfl
      refine WakefulBut.park (.closing true) woken free (wakeful.lt_of_activity? closing) ?_ ?_
      · intro slot message parks
        cases parks
      · intro reader kind parks
        cases parks
    · exact wakeful
  | wakeWriters call =>
    dsimp only [Traffic.step]
    split
    · next closing => exact (WakefulBut.unpark wakeful closing).wakeAllWriters
    · exact wakeful

theorem run (wakeful : t.Wakeful) (sound : t.Sound) (moves : List Move) :
    (t.run moves).Wakeful := by
  induction moves generalizing t with
  | nil => exact wakeful
  | cons move moves ih => exact ih (wakeful.step sound move) (sound.step move)

end Wakeful

variable [PacingNumber α]

theorem wakeful_quiet (capacity : Nat) (policy : PacingPolicy α) (start : Nat) :
    (quiet capacity policy start).Wakeful where
  distinct := List.nodup_nil
  begun := fun _ mem => absurd mem List.not_mem_nil
  closed_iff := ⟨fun closed => Bool.noConfusion closed, fun some_ => absurd some_ (Nat.lt_irrefl 0)⟩
  writers_le := Nat.le_refl 0
  readers_le := Nat.le_refl 0
  writer := fun _ _ _ parked => by cases parked
  reader := fun _ _ _ parked => by cases parked

/-- In every state that threads can reach, nobody sleeps through what it waits for. -/
theorem noLostWakeup_run (capacity : Nat) (policy : PacingPolicy α) (start : Nat)
    (moves : List Move) : ((quiet capacity policy start).run moves).NoLostWakeup := by
  have wakeful := wakeful_quiet capacity policy start
  have sound := sound_quiet capacity policy start
  exact (wakeful.run sound moves).noLostWakeup

end Traffic

end CollectorFeed
