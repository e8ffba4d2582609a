import CollectorFeed.Proofs.Broadcast.Interleaving

/-!
# The history of a queue

Every section changes the queue in one of a few ways, and adds to the journal what it did. `Change`
lists these ways together with their journal. `run_change` says that everything that threads ever
do to a new queue is a chain of such changes, with the whole journal; what is true of all changes
then holds in every state that threads can reach.
-/

set_option autoImplicit false

namespace CollectorFeed

open BroadcastQueue (Alike)

variable {α : Type}

/-- Whether an entry tells about a call, and not about the queue. -/
def Entry.isRemark : Entry → Bool
  | begun _ _ _ => true
  | returned _ _ _ => true
  | _ => false

theorem appendedMessages_of_isRemark {entry : Entry} (remark : entry.isRemark = true) :
    appendedMessages [entry] = [] := by
  cases entry with
  | appended call message => cases remark
  | _ => rfl

namespace Traffic

/-! ## Readers that are waited for -/

/-- Every reader whose handle is in use is registered. -/
def Attended (t : Traffic α) : Prop :=
  ∀ reader, t.isReading reader = true → t.queue.isRegistered reader = true

theorem isReading_of_unpark {t : Traffic α} {call reader : Nat}
    (reading : (t.unpark call).isReading reader = true) : t.isReading reader = true := by
  obtain ⟨entry, mem, reads⟩ := List.any_eq_true.1 reading
  exact List.any_eq_true.2 ⟨entry, (List.mem_filter.1 mem).1, reads⟩

theorem isReading_of_activity? {t : Traffic α} {call reader : Nat} {kind : ReadKind} {woken : Bool}
    (starved : t.activity? call = some (.starved reader kind woken)) :
    t.isReading reader = true := by
  obtain ⟨entry, first, same⟩ := Option.map_eq_some_iff.1 starved
  refine List.any_eq_true.2 ⟨entry, List.mem_of_find?_eq_some first, ?_⟩
  simp [same, Activity.reads]

/-- Waking threads gives no handle away, and takes none. -/
theorem isReading_wake (t : Traffic α) {wake : Activity → Activity} {reader : Nat}
    (reads : ∀ activity, (wake activity).reads reader = activity.reads reader) :
    isReading { t with calls := t.calls.map fun entry => (entry.1, wake entry.2) } reader =
      t.isReading reader := by
  simp only [isReading, List.any_map, Function.comp_def, reads]

theorem isReading_wakeAllWriters (t : Traffic α) (reader : Nat) :
    t.wakeAllWriters.isReading reader = t.isReading reader := by
  apply isReading_wake
  intro activity
  cases activity <;> rfl

theorem isReading_wakeAllReaders (t : Traffic α) (reader : Nat) :
    t.wakeAllReaders.isReading reader = t.isReading reader := by
  apply isReading_wake
  intro activity
  cases activity <;> rfl

theorem isReading_park (t : Traffic α) (call : Nat) (activity : Activity) (reader : Nat) :
    (t.park call activity).isReading reader = (activity.reads reader || t.isReading reader) := rfl

/-- No reader left, and no call to read was added. -/
theorem Attended.of_le {t u : Traffic α} (attended : t.Attended)
    (registered : ∀ reader, t.queue.isRegistered reader = true → u.queue.isRegistered reader = true)
    (reading : ∀ reader, u.isReading reader = true → t.isReading reader = true) : u.Attended :=
  fun reader reads => registered reader (attended reader (reading reader reads))

theorem Attended.unpark {t : Traffic α} (attended : t.Attended) (call : Nat) :
    (t.unpark call).Attended :=
  attended.of_le (fun _ registered => registered) fun _ => isReading_of_unpark

theorem Attended.attemptWrite {t : Traffic α} (attended : t.Attended) (call slot : Nat)
    (message : Message) : (t.attemptWrite call slot message).Attended := by
  have positions := BroadcastQueue.positions_offer t.queue slot message
  unfold Traffic.attemptWrite
  rcases offered : t.queue.offer slot message with ⟨outcome, queue⟩
  rw [offered] at positions
  have registered : ∀ reader, t.queue.isRegistered reader = true →
      queue.isRegistered reader = true :=
    fun reader is => (BroadcastQueue.isRegistered_of_positions positions reader).trans is
  cases outcome with
  | closed => exact attended.of_le registered fun _ reads => reads
  | full => exact attended.of_le registered fun _ reads => reads
  | dropped => exact attended.of_le registered fun _ reads => reads
  | stored =>
    refine attended.of_le registered fun reader reads => ?_
    rwa [isReading_wakeAllReaders] at reads

end Traffic

variable [PacingNumber α]

/-! ## What happens to a queue -/

/-- What happens to a queue, with the entries of the journal that tell about it. -/
inductive Change : BroadcastQueue α → List Entry → BroadcastQueue α → Prop
  /-- Writers are paced, or come and go. -/
  | pace {q r : BroadcastQueue α} (alike : Alike q r) : Change q [] r
  /-- Something is told about a call. -/
  | remark (q : BroadcastQueue α) {entry : Entry} (remark : entry.isRemark = true) :
      Change q [entry] q
  /-- A reader joins. -/
  | join (q : BroadcastQueue α) : Change q [.joined q.nextReader] q.attachReader.2
  /-- A reader leaves. -/
  | leave {q : BroadcastQueue α} {reader : Nat} (registered : q.isRegistered reader = true) :
      Change q [.left reader] (q.detachReader reader)
  /-- A reader takes its next message. -/
  | give {q : BroadcastQueue α} {reader : Nat} {message : Message} {rest : List Message}
      (kept : q.pendingMessages reader = message :: rest) :
      Change q [.given reader message] (q.take reader).2
  /-- A reader without a message comes back. One that would wait does so only at the end. -/
  | lack {q : BroadcastQueue α} {reader : Nat} {kind : ReadKind}
      (registered : q.isRegistered reader = true) (drained : q.pendingMessages reader = [])
      (ended : kind = .patient → q.closed = true) : Change q [.nothing reader kind] q
  /-- A message is put. -/
  | store {q : BroadcastQueue α} (call slot : Nat) (message : Message) (taking : q.closed = false)
      (room : q.hasNoRoom = false) (occupied : q.positions ≠ []) :
      Change q [.appended call message] (q.store slot message)
  /-- A message is dropped. -/
  | drop {q : BroadcastQueue α} (slot : Nat) (taking : q.closed = false)
      (empty : q.positions = []) : Change q [] (q.drop slot)
  /-- The queue is closed. -/
  | close (q : BroadcastQueue α) : Change q [.closed] q.close
  /-- One thing happens after another. -/
  | trans {p q r : BroadcastQueue α} {first second : List Entry} (before : Change p first q)
      (after : Change q second r) : Change p (first ++ second) r

/-- Consistency is kept by whatever happens to a queue. -/
theorem Change.consistent {q r : BroadcastQueue α} {entries : List Entry}
    (change : Change q entries r) (ok : q.Consistent) : r.Consistent := by
  induction change with
  | pace alike => exact ok.of_alike alike
  | remark q remark => exact ok
  | join q => exact ok.attachReader
  | leave registered => exact ok.detachReader registered
  | give kept => exact ok.take _
  | lack registered drained ended => exact ok
  | store call slot message taking room occupied => exact ok.store slot message room occupied
  | drop slot taking empty => exact ok.drop slot empty
  | close q => exact ok.close
  | trans before after ihBefore ihAfter => exact ihAfter (ihBefore ok)

namespace Traffic

/-! ## Changes of traffic -/

/-- The journal went on, and the queue changed as it says. -/
def Extends (t u : Traffic α) : Prop :=
  ∃ entries, u.journal = t.journal ++ entries ∧ Change t.queue entries u.queue

theorem Extends.of_alike {t u : Traffic α} (journal : u.journal = t.journal)
    (alike : Alike t.queue u.queue) : Extends t u :=
  ⟨[], journal.trans (List.append_nil _).symm, .pace alike⟩

theorem Extends.refl (t : Traffic α) : Extends t t :=
  Extends.of_alike rfl (Alike.refl _)

theorem Extends.trans {t u v : Traffic α} (first : Extends t u) (second : Extends u v) :
    Extends t v := by
  obtain ⟨entries, journal, change⟩ := first
  obtain ⟨more, journal', change'⟩ := second
  refine ⟨entries ++ more, ?_, change.trans change'⟩
  rw [journal', journal, List.append_assoc]

theorem Extends.consistent {t u : Traffic α} (further : Extends t u)
    (ok : t.queue.Consistent) : u.queue.Consistent := by
  obtain ⟨entries, -, change⟩ := further
  exact change.consistent ok

theorem extends_attemptWrite (t : Traffic α) (call slot : Nat) (message : Message) :
    Extends t (t.attemptWrite call slot message) := by
  unfold attemptWrite
  rcases t.queue.offer_cases slot message with
    ⟨-, offered⟩ | ⟨-, offered⟩ | ⟨taking, empty, offered⟩ | ⟨taking, room, occupied, offered⟩
  · rw [offered]
    exact ⟨_, rfl, .remark _ rfl⟩
  · rw [offered]
    exact Extends.of_alike rfl (Alike.refl _)
  · rw [offered]
    exact ⟨_, rfl, .trans (.drop slot taking empty) (.remark _ rfl)⟩
  · rw [offered]
    exact ⟨_, rfl, .trans (.store call slot message taking room occupied) (.remark _ rfl)⟩

theorem extends_beginWrite (t : Traffic α) (call slot : Nat) (message : Message)
    (now checked : Nat) : Extends t (t.beginWrite call slot message now checked) := by
  have begun : Extends t (t.note [.begun call slot message]) := ⟨_, rfl, .remark _ rfl⟩
  have alike := BroadcastQueue.alike_beginWrite t.queue slot now checked
  -- the call is written down first, whatever becomes of it
  refine begun.trans ?_
  unfold beginWrite
  dsimp only [note]
  rcases outcome : t.queue.beginWrite slot now checked with ⟨first, queue⟩
  rw [outcome] at alike
  cases first with
  | closed => exact ⟨_, rfl, .trans (.pace alike) (.remark _ rfl)⟩
  | wait milliseconds => exact Extends.of_alike rfl alike
  | ready =>
    refine Extends.trans ?_ (extends_attemptWrite _ call slot message)
    exact Extends.of_alike rfl alike

theorem extends_attemptRead {t : Traffic α} (ok : t.queue.Consistent) (call : Nat) {reader : Nat}
    (kind : ReadKind) (waits : Bool) (registered : t.queue.isRegistered reader = true)
    (patient : kind = .patient → waits = true) :
    Extends t (t.attemptRead call reader kind waits) := by
  unfold attemptRead
  cases kept : t.queue.pendingMessages reader with
  | nil =>
    rw [ok.take_of_pendingMessages_eq_nil kept]
    dsimp only
    split
    · exact Extends.of_alike rfl (Alike.refl _)
    · next stays =>
      -- a patient reader waits unless the queue is closed
      refine ⟨_, rfl, .lack registered kept ?_⟩
      intro isPatient
      simpa [patient isPatient] using stays
  | cons message rest =>
    -- the queue is consistent, so the lookup finds the message that is kept
    have given := (ok.take_of_pendingMessages_eq_cons kept).1
    generalize taken : t.queue.take reader = outcome at given
    obtain ⟨result, queue⟩ := outcome
    have change : Change t.queue [.given reader message] queue := by
      have give := Change.give kept
      rwa [taken] at give
    cases given
    dsimp only
    split
    · exact ⟨_, rfl, change⟩
    · exact ⟨_, rfl, change⟩

/-! ## Readers of one section -/

theorem Attended.beginWrite {t : Traffic α} (attended : t.Attended) (call slot : Nat)
    (message : Message) (now checked : Nat) :
    (t.beginWrite call slot message now checked).Attended := by
  have alike := BroadcastQueue.alike_beginWrite t.queue slot now checked
  unfold Traffic.beginWrite
  dsimp only [note]
  rcases started : t.queue.beginWrite slot now checked with ⟨first, queue⟩
  rw [started] at alike
  have registered : ∀ reader, t.queue.isRegistered reader = true →
      queue.isRegistered reader = true :=
    fun reader is => (alike.isRegistered reader).trans is
  cases first with
  | closed => exact attended.of_le registered fun _ reads => reads
  | wait milliseconds => exact attended.of_le registered fun _ reads => reads
  | ready =>
    apply Attended.attemptWrite
    exact attended.of_le registered fun _ reads => reads

theorem Attended.attemptRead {t : Traffic α} (attended : t.Attended) (call : Nat) {reader : Nat}
    (kind : ReadKind) (waits : Bool) (registered : t.queue.isRegistered reader = true) :
    (t.attemptRead call reader kind waits).Attended := by
  have kept := BroadcastQueue.isRegistered_take t.queue reader
  unfold Traffic.attemptRead
  rcases taken : t.queue.take reader with ⟨result, queue⟩
  rw [taken] at kept
  have stays : ∀ other, t.queue.isRegistered other = true → queue.isRegistered other = true :=
    fun other registered => (kept other).trans registered
  cases result with
  | none =>
    dsimp only
    split
    · intro other reads
      rw [isReading_park, Bool.or_eq_true] at reads
      rcases reads with own | others
      · have same : reader = other := by simpa [Activity.reads] using own
        exact same ▸ stays reader registered
      · exact stays other (attended other others)
    · exact attended.of_le stays fun _ reads => reads
  | some message =>
    dsimp only
    split
    · refine attended.of_le stays fun other reads => ?_
      rwa [isReading_wakeAllWriters] at reads
    · exact attended.of_le stays fun _ reads => reads

/-! ## One section, and any number of them -/

/-- The state is one that threads can reach, as far as it has to be for the next section. -/
structure Sound (t : Traffic α) : Prop where
  consistent : t.queue.Consistent
  attended : t.Attended

/-- A section, taken apart: what the journal says about it happened to the queue, and the handles
that are in use stay registered. -/
theorem Sound.step_spec {t : Traffic α} (sound : t.Sound) (move : Move) :
    Extends t (t.step move) ∧ (t.step move).Attended := by
  have ok := sound.consistent
  have attended := sound.attended
  cases move with
  | attachWriter =>
    have alike := BroadcastQueue.alike_attachWriter t.queue
    exact ⟨Extends.of_alike rfl alike,
      attended.of_le (fun reader is => (alike.isRegistered reader).trans is) fun _ reads => reads⟩
  | detachWriter slot =>
    dsimp only [Traffic.step]
    split
    · have alike := BroadcastQueue.alike_detachWriter t.queue slot
      exact ⟨Extends.of_alike rfl alike,
        attended.of_le (fun reader is => (alike.isRegistered reader).trans is) fun _ reads => reads⟩
    · exact ⟨Extends.refl t, attended⟩
  | attachReader =>
    refine ⟨⟨_, rfl, .join t.queue⟩, attended.of_le ?_ fun _ reads => reads⟩
    intro reader registered
    by_cases new : reader = t.queue.nextReader
    · rw [new, ok.not_isRegistered_nextReader] at registered
      cases registered
    · exact (BroadcastQueue.isRegistered_attachReader_of_ne new).trans registered
  | detachReader reader =>
    dsimp only [Traffic.step]
    split
    · next free =>
      rw [Bool.and_eq_true, Bool.not_eq_true'] at free
      refine ⟨⟨_, rfl, .leave free.1⟩, ?_⟩
      intro other reads
      rw [isReading_wakeAllWriters] at reads
      by_cases same : other = reader
      · rw [same] at reads
        exact absurd (free.2.symm.trans reads) Bool.false_ne_true
      · exact (BroadcastQueue.isRegistered_detachReader_of_ne same).trans (attended other reads)
    · exact ⟨Extends.refl t, attended⟩
  | write slot message now checked =>
    dsimp only [Traffic.step]
    split
    · have started : t.count.Attended := attended
      exact ⟨extends_beginWrite t.count t.nextCall slot message now checked,
        started.beginWrite t.nextCall slot message now checked⟩
    · exact ⟨Extends.refl t, attended⟩
  | resume call now =>
    dsimp only [Traffic.step]
    split
    · next slot message deadline paused =>
      have alike := BroadcastQueue.alike_closeIntervals t.queue now
      constructor
      · refine Extends.trans ?_ (extends_attemptWrite _ call slot message)
        exact Extends.of_alike rfl alike
      · apply Attended.attemptWrite
        exact (attended.unpark call).of_le
          (fun reader is => (alike.isRegistered reader).trans is) fun _ reads => reads
    · exact ⟨Extends.refl t, attended⟩
  | retryWrite call =>
    dsimp only [Traffic.step]
    split
    · next slot message blocked =>
      exact ⟨extends_attemptWrite (t.unpark call) call slot message,
        (attended.unpark call).attemptWrite call slot message⟩
    · exact ⟨Extends.refl t, attended⟩
  | read reader kind =>
    dsimp only [Traffic.step]
    split
    · next registered =>
      have started : t.count.Attended := attended
      have waits : kind = .patient → (kind != .atOnce) = true := by
        intro patient
        rw [patient]
        rfl
      have ready : t.count.queue.Consistent := ok
      exact ⟨extends_attemptRead ready t.nextCall kind _ registered waits,
        started.attemptRead t.nextCall kind _ registered⟩
    · exact ⟨Extends.refl t, attended⟩
  | retryRead call =>
    dsimp only [Traffic.step]
    split
    · next reader kind starved =>
      -- the handle was in use while the reader waited, so it was not let go
      have registered := attended reader (isReading_of_activity? starved)
      have ready : (t.unpark call).queue.Consistent := ok
      exact ⟨extends_attemptRead ready call kind true registered fun _ => rfl,
        (attended.unpark call).attemptRead call kind true registered⟩
    · exact ⟨Extends.refl t, attended⟩
  | giveUp call =>
    dsimp only [Traffic.step]
    split
    · next reader starved =>
      have registered := attended reader (isReading_of_activity? starved)
      have ready : (t.unpark call).queue.Consistent := ok
      exact ⟨extends_attemptRead ready call .timed false registered (by simp),
        (attended.unpark call).attemptRead call .timed false registered⟩
    · exact ⟨Extends.refl t, attended⟩
  | close => exact ⟨⟨_, rfl, .close t.queue⟩, attended⟩
  | wakeReaders call =>
    dsimp only [Traffic.step]
    split
    · next closing =>
      refine ⟨Extends.of_alike rfl (Alike.refl _), ?_⟩
      refine (attended.unpark call).of_le (fun _ registered => registered) fun reader reads => ?_
      rwa [isReading_park, isReading_wakeAllReaders] at reads
    · exact ⟨Extends.refl t, attended⟩
  | wakeWriters call =>
    dsimp only [Traffic.step]
    split
    · next closing =>
      refine ⟨Extends.of_alike rfl (Alike.refl _), ?_⟩
      refine (attended.unpark call).of_le (fun _ registered => registered) fun reader reads => ?_
      rwa [isReading_wakeAllWriters] at reads
    · exact ⟨Extends.refl t, attended⟩

theorem Sound.step {t : Traffic α} (sound : t.Sound) (move : Move) : (t.step move).Sound :=
  ⟨(sound.step_spec move).1.consistent sound.consistent, (sound.step_spec move).2⟩

theorem sound_quiet (capacity : Nat) (policy : PacingPolicy α) (start : Nat) :
    (quiet capacity policy start).Sound :=
  ⟨BroadcastQueue.consistent_new capacity policy start, fun _ reads => by cases reads⟩

theorem Sound.run {t : Traffic α} (sound : t.Sound) (moves : List Move) :
    (t.run moves).Sound ∧ Extends t (t.run moves) := by
  induction moves generalizing t with
  | nil => exact ⟨sound, Extends.refl t⟩
  | cons move moves ih =>
    obtain ⟨sound', further⟩ := ih (sound.step move)
    -- the journal of the first section, and then that of the others
    exact ⟨sound', (sound.step_spec move).1.trans further⟩

/-- Whatever threads do to a new queue, its journal tells how it came to be as it is. -/
theorem run_change (capacity : Nat) (policy : PacingPolicy α) (start : Nat) (moves : List Move) :
    Change (.new capacity policy start) ((quiet capacity policy start).run moves).journal
      ((quiet capacity policy start).run moves).queue := by
  obtain ⟨entries, journal, change⟩ := ((sound_quiet capacity policy start).run moves).2
  rw [journal]
  exact change

theorem run_consistent (capacity : Nat) (policy : PacingPolicy α) (start : Nat)
    (moves : List Move) : ((quiet capacity policy start).run moves).queue.Consistent :=
  ((sound_quiet capacity policy start).run moves).1.consistent

end Traffic

end CollectorFeed
