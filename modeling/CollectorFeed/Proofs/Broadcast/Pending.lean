import CollectorFeed.Proofs.Broadcast.Consistency

/-!
# What is kept for a reader

The messages that a reader has not taken yet are those from its position to the tail. Here is what
each section does to them: putting a message appends it for every reader, taking one removes the
first, and everything else leaves them as they are, for all other readers.
-/

set_option autoImplicit false

namespace CollectorFeed

variable {α : Type}

namespace BroadcastQueue

/-- The messages that a reader has not taken yet, oldest first. -/
def pendingMessages (q : BroadcastQueue α) (reader : Nat) : List Message :=
  match q.position? reader with
  | none => []
  | some position => q.items.drop (position - q.pace.head)

/-- Whether a reader is registered. -/
def isRegistered (q : BroadcastQueue α) (reader : Nat) : Bool :=
  (q.position? reader).isSome

theorem position?_of_isRegistered {q : BroadcastQueue α} {reader : Nat}
    (registered : q.isRegistered reader = true) :
    ∃ position, q.position? reader = some position :=
  Option.isSome_iff_exists.1 registered

theorem isRegistered_of_position? {q : BroadcastQueue α} {reader position : Nat}
    (found : q.position? reader = some position) : q.isRegistered reader = true := by
  simp [isRegistered, found]

theorem position?_eq_none_of_not_isRegistered {q : BroadcastQueue α} {reader : Nat}
    (gone : q.isRegistered reader = false) : q.position? reader = none := by
  simpa [isRegistered] using gone

theorem isRegistered_congr {q r : BroadcastQueue α} {reader : Nat}
    (same : r.position? reader = q.position? reader) :
    r.isRegistered reader = q.isRegistered reader := by
  simp only [isRegistered, same]

theorem isRegistered_of_positions {q r : BroadcastQueue α} (same : r.positions = q.positions)
    (reader : Nat) : r.isRegistered reader = q.isRegistered reader := by
  simp only [isRegistered, position?, same]

theorem positions_ne_nil_of_isRegistered {q : BroadcastQueue α} {reader : Nat}
    (registered : q.isRegistered reader = true) : q.positions ≠ [] := by
  obtain ⟨position, found⟩ := position?_of_isRegistered registered
  exact List.ne_nil_of_mem (mem_of_position? found)

theorem pendingMessages_of_position? {q : BroadcastQueue α} {reader position : Nat}
    (found : q.position? reader = some position) :
    q.pendingMessages reader = q.items.drop (position - q.pace.head) := by
  simp only [pendingMessages, found]

/-- Messages are kept for registered readers only. -/
theorem isRegistered_of_pendingMessages {q : BroadcastQueue α} {reader : Nat} {message : Message}
    {rest : List Message} (kept : q.pendingMessages reader = message :: rest) :
    q.isRegistered reader = true := by
  cases found : q.position? reader with
  | none => simp [pendingMessages, found] at kept
  | some position => exact isRegistered_of_position? found

/-- The count that a reader can ask for is the number of the messages. -/
theorem Ordered.length_pendingMessages {q : BroadcastQueue α} (ordered : q.Ordered)
    (reader : Nat) : (q.pendingMessages reader).length = q.pending reader := by
  cases found : q.position? reader with
  | none => simp only [pendingMessages, pending, found, List.length_nil]
  | some position =>
    have stands := ordered.within _ (mem_of_position? found)
    have length := ordered.length_items
    simp only [pendingMessages, pending, found, List.length_drop]
    omega

/-- The messages kept for a reader depend on where it stands, on the head and on what is kept. -/
theorem pendingMessages_congr {q r : BroadcastQueue α} {reader : Nat}
    (position : r.position? reader = q.position? reader) (head : r.pace.head = q.pace.head)
    (items : r.items = q.items) : r.pendingMessages reader = q.pendingMessages reader := by
  simp only [pendingMessages, position, head, items]

theorem Alike.position? {q r : BroadcastQueue α} (alike : Alike q r) (reader : Nat) :
    r.position? reader = q.position? reader := by
  simp only [BroadcastQueue.position?, alike.positions]

theorem Alike.isRegistered {q r : BroadcastQueue α} (alike : Alike q r) (reader : Nat) :
    r.isRegistered reader = q.isRegistered reader :=
  isRegistered_of_positions alike.positions reader

theorem Alike.pendingMessages {q r : BroadcastQueue α} (alike : Alike q r) (reader : Nat) :
    r.pendingMessages reader = q.pendingMessages reader :=
  pendingMessages_congr (alike.position? reader) alike.head alike.items

/-! ## Readers that come and go -/

theorem Ordered.not_isRegistered_nextReader {q : BroadcastQueue α} (ordered : q.Ordered) :
    q.isRegistered q.nextReader = false := by
  cases registered : q.isRegistered q.nextReader with
  | false => rfl
  | true =>
    obtain ⟨position, found⟩ := position?_of_isRegistered registered
    exact absurd (ordered.numbered _ (mem_of_position? found)) (Nat.lt_irrefl _)

theorem position?_attachReader_of_ne {q : BroadcastQueue α} {reader : Nat}
    (other : reader ≠ q.nextReader) :
    q.attachReader.2.position? reader = q.position? reader := by
  have apart : ¬ q.nextReader = reader := fun same => other same.symm
  simp [position?, attachReader, apart]

theorem Ordered.position?_attachReader {q : BroadcastQueue α} (ordered : q.Ordered) :
    q.attachReader.2.position? q.nextReader = some q.pace.tail := by
  have missing := position?_eq_none_of_not_isRegistered ordered.not_isRegistered_nextReader
  -- the lookup runs through the old readers first, and none of them has the new number
  have unseen := Option.map_eq_none_iff.1 missing
  simp [position?, attachReader, List.find?_append, unseen]

theorem isRegistered_attachReader_of_ne {q : BroadcastQueue α} {reader : Nat}
    (other : reader ≠ q.nextReader) :
    q.attachReader.2.isRegistered reader = q.isRegistered reader :=
  isRegistered_congr (position?_attachReader_of_ne other)

theorem pendingMessages_attachReader_of_ne {q : BroadcastQueue α} {reader : Nat}
    (other : reader ≠ q.nextReader) :
    q.attachReader.2.pendingMessages reader = q.pendingMessages reader :=
  pendingMessages_congr (position?_attachReader_of_ne other) rfl rfl

/-- Nothing is kept for a reader that has just come. -/
theorem Ordered.pendingMessages_attachReader {q : BroadcastQueue α} (ordered : q.Ordered) :
    q.attachReader.2.pendingMessages q.nextReader = [] := by
  rw [pendingMessages_of_position? ordered.position?_attachReader]
  exact List.drop_eq_nil_of_le (Nat.le_of_eq ordered.length_items)

theorem position?_without (q : BroadcastQueue α) (reader : Nat) :
    (q.without reader).position? reader = none := by
  simp [position?, without, List.find?_filter]

theorem position?_without_of_ne {q : BroadcastQueue α} {reader other : Nat}
    (apart : other ≠ reader) : (q.without reader).position? other = q.position? other := by
  simp only [position?, without, List.find?_filter]
  congr 2
  funext entry
  by_cases same : entry.1 = other
  · simp [same, apart]
  · simp [same]

theorem position?_stepReader {q : BroadcastQueue α} {reader position : Nat}
    (found : q.position? reader = some position) :
    (q.stepReader reader position).position? reader = some (position + 1) := by
  obtain ⟨entry, first, -⟩ := Option.map_eq_some_iff.1 found
  have number : entry.1 = reader := by simpa using List.find?_some first
  -- looking for a number does not ask where its reader stands
  have moved : ((fun entry : Nat × Nat => entry.1 == reader) ∘ fun entry =>
      if entry.1 == reader then (reader, position + 1) else entry) =
      fun entry => entry.1 == reader := by
    funext entry
    by_cases same : entry.1 = reader <;> simp [same]
  simp only [position?, stepReader, List.find?_map, moved, first, Option.map_some, number,
    beq_self_eq_true, if_true]

theorem position?_stepReader_of_ne {q : BroadcastQueue α} {reader position other : Nat}
    (apart : other ≠ reader) :
    (q.stepReader reader position).position? other = q.position? other := by
  have moved : ((fun entry : Nat × Nat => entry.1 == other) ∘ fun entry =>
      if entry.1 == reader then (reader, position + 1) else entry) =
      fun entry => entry.1 == other := by
    funext entry
    by_cases same : entry.1 = reader <;> simp [same]
  simp only [position?, stepReader, List.find?_map, moved, Option.map_map]
  cases first : q.positions.find? fun entry => entry.1 == other with
  | none => rfl
  | some entry =>
    have number : entry.1 = other := by simpa using List.find?_some first
    -- the reader that is found is another one, so it was not moved
    have unmoved : ¬ entry.1 = reader := fun same => apart (number.symm.trans same)
    simp [unmoved]

/-! ## Releasing -/

theorem position?_release (q : BroadcastQueue α) (reader : Nat) :
    q.release.position? reader = q.position? reader := rfl

/-- What is released lies in front of every reader. -/
theorem Ordered.pendingMessages_release {q : BroadcastQueue α} (ordered : q.Ordered)
    (reader : Nat) : q.release.pendingMessages reader = q.pendingMessages reader := by
  have above : q.pace.head ≤ q.slowest :=
    le_slowest ordered.head_le_tail fun entry mem => (ordered.within entry mem).1
  cases found : q.position? reader with
  | none => simp only [pendingMessages, position?_release, found]
  | some position =>
    -- what is dropped from the front is made up for by the head
    have least : q.slowest ≤ position := slowest_le (mem_of_position? found)
    rw [pendingMessages_of_position? found,
      pendingMessages_of_position? (q := q.release) (found : q.release.position? reader = _)]
    simp only [BroadcastQueue.release, Nat.max_eq_right above, List.drop_drop]
    congr 1
    omega

/-! ## Putting a message -/

theorem position?_store (q : BroadcastQueue α) (slot : Nat) (message : Message) (reader : Nat) :
    (q.store slot message).position? reader = q.position? reader := rfl

theorem Ordered.pendingMessages_store {q : BroadcastQueue α} (ordered : q.Ordered) (slot : Nat)
    (message : Message) {reader : Nat} (registered : q.isRegistered reader = true) :
    (q.store slot message).pendingMessages reader = q.pendingMessages reader ++ [message] := by
  obtain ⟨position, found⟩ := position?_of_isRegistered registered
  have stands := ordered.within _ (mem_of_position? found)
  have length := ordered.length_items
  rw [pendingMessages_of_position? found,
    pendingMessages_of_position? ((position?_store q slot message reader).trans found)]
  show (q.items ++ [message]).drop (position - q.pace.head) = _
  rw [List.drop_append_of_le_length]
  omega

/-! ## Letting a reader go, and taking a message -/

variable [PacingNumber α]

theorem isRegistered_detachReader (q : BroadcastQueue α) (reader : Nat) :
    (q.detachReader reader).isRegistered reader = false := by
  rw [detachReader, (alike_settle _).isRegistered, isRegistered, position?_release,
    position?_without]
  rfl

theorem isRegistered_detachReader_of_ne {q : BroadcastQueue α} {reader other : Nat}
    (apart : other ≠ reader) :
    (q.detachReader reader).isRegistered other = q.isRegistered other := by
  rw [detachReader, (alike_settle _).isRegistered]
  exact isRegistered_congr ((position?_release _ _).trans (position?_without_of_ne apart))

theorem Ordered.pendingMessages_detachReader_of_ne {q : BroadcastQueue α} (ordered : q.Ordered)
    {reader other : Nat} (registered : q.isRegistered reader = true) (apart : other ≠ reader) :
    (q.detachReader reader).pendingMessages other = q.pendingMessages other := by
  rw [detachReader, (alike_settle _).pendingMessages,
    (ordered.without registered).pendingMessages_release]
  exact pendingMessages_congr (position?_without_of_ne apart) rfl rfl

theorem isRegistered_take (q : BroadcastQueue α) (reader other : Nat) :
    (q.take reader).2.isRegistered other = q.isRegistered other := by
  rcases take_queue q reader with same | ⟨position, found, moved⟩
  · rw [same]
  · rw [moved, (alike_settle _).isRegistered]
    by_cases same : other = reader
    · rw [same, isRegistered_of_position? found]
      exact isRegistered_of_position?
        ((position?_release _ _).trans (position?_stepReader found))
    · exact isRegistered_congr ((position?_release _ _).trans (position?_stepReader_of_ne same))

/-- A reader for which nothing is kept is given nothing. -/
theorem Ordered.take_of_pendingMessages_eq_nil {q : BroadcastQueue α} (ordered : q.Ordered)
    {reader : Nat} (nothing : q.pendingMessages reader = []) : q.take reader = (none, q) := by
  cases found : q.position? reader with
  | none => exact take_of_position?_eq_none found
  | some position =>
    have count := ordered.length_pendingMessages reader
    rw [nothing, List.length_nil] at count
    simp only [pending, found] at count
    exact take_of_tail_le found (Nat.le_of_sub_eq_zero count.symm)

/-- A reader is given the first of the messages that are kept for it, and the others stay. -/
theorem Ordered.take_of_pendingMessages_eq_cons {q : BroadcastQueue α} (ordered : q.Ordered)
    {reader : Nat} {message : Message} {rest : List Message}
    (kept : q.pendingMessages reader = message :: rest) :
    (q.take reader).1 = some message ∧ (q.take reader).2.pendingMessages reader = rest ∧
      ∀ other, other ≠ reader →
        (q.take reader).2.pendingMessages other = q.pendingMessages other := by
  cases found : q.position? reader with
  | none => simp [pendingMessages, found] at kept
  | some position =>
    have stands := ordered.within _ (mem_of_position? found)
    have count := ordered.length_pendingMessages reader
    rw [kept, List.length_cons] at count
    simp only [pending, found] at count
    -- something is kept for the reader, so it has not come to the tail
    have left : position < q.pace.tail := by omega
    rw [pendingMessages_of_position? found] at kept
    have item : q.items[position - q.pace.head]? = some message := by
      rw [← List.head?_drop, kept]
      rfl
    have stepped := ordered.stepReader found left
    rw [take_of_lookup found left item]
    refine ⟨rfl, ?_, ?_⟩
    · rw [(alike_settle _).pendingMessages, stepped.pendingMessages_release,
        pendingMessages_of_position? (position?_stepReader found)]
      show q.items.drop (position + 1 - q.pace.head) = rest
      rw [Nat.succ_sub stands.1, ← List.tail_drop, kept]
      rfl
    · intro other apart
      rw [(alike_settle _).pendingMessages, stepped.pendingMessages_release]
      exact pendingMessages_congr (position?_stepReader_of_ne apart) rfl rfl

end BroadcastQueue

end CollectorFeed
