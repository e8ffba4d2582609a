import CollectorFeed.Proofs.Broadcast.History

/-!
# The representation of a queue

In every state that threads can reach, the positions, the counters and the kept messages of a queue
fit together: `represents_run`. So no difference of two positions is negative, and a reader that is
behind the tail finds its message.
-/

set_option autoImplicit false

namespace CollectorFeed

open BroadcastQueue (alike_settle)

variable {α : Type}

/-- What positions, counters and messages of a queue have to do with each other, given the size it
was made with and what has happened. -/
structure BroadcastQueue.Represents (q : BroadcastQueue α) (capacity : Nat)
    (journal : List Entry) : Prop where
  /-- A queue made for no message has room for one. -/
  capacity_eq : q.pace.capacity = max capacity 1
  /-- The occupancy is not negative. -/
  head_le_tail : q.pace.head ≤ q.pace.tail
  /-- Exactly the messages from the head to the tail are kept. -/
  length_items : q.items.length = q.pace.tail - q.pace.head
  /-- There are never more of them than there is room for. -/
  fits : q.pace.tail - q.pace.head ≤ max capacity 1
  /-- The head is the least position of a reader. -/
  head_eq_min : q.positions ≠ [] → (q.positions.map Prod.snd).min? = some q.pace.head
  /-- Without readers nothing is kept. -/
  head_eq_tail : q.positions = [] → q.pace.head = q.pace.tail
  /-- Every reader stands between the head and the tail. -/
  within : ∀ entry ∈ q.positions, q.pace.head ≤ entry.2 ∧ entry.2 ≤ q.pace.tail
  /-- Readers are counted, and each of them has one position. -/
  readers : q.pace.readers = q.positions.length ∧ (q.positions.map Prod.fst).Nodup
  /-- Every message that was taken from a writer was either put or dropped. -/
  tail_eq : q.pace.tail = (appendedMessages journal).length + q.dropped
  /-- The number of messages that wait for a reader is not negative. -/
  position_le : ∀ reader position, q.position? reader = some position →
    q.pace.head ≤ position ∧ position ≤ q.pace.tail
  /-- A reader behind the tail finds its next message. -/
  lookup : ∀ reader position, q.position? reader = some position → position < q.pace.tail →
    ∃ message, q.items[position - q.pace.head]? = some message

namespace BroadcastQueue

/-- A least position of a consistent queue with readers is the head. -/
theorem Consistent.head_eq_min {q : BroadcastQueue α} (ok : q.Consistent)
    (occupied : q.positions ≠ []) : (q.positions.map Prod.snd).min? = some q.pace.head := by
  rw [ok.head_eq]
  exact List.min?_eq_some_iff.2 (slowest_spec occupied)

variable [PacingNumber α]

theorem capacity_take (q : BroadcastQueue α) (reader : Nat) :
    (q.take reader).2.pace.capacity = q.pace.capacity :=
  take_congr (fun q => q.pace.capacity) (fun _ _ _ => (alike_settle _).capacity) q reader

theorem tail_take (q : BroadcastQueue α) (reader : Nat) :
    (q.take reader).2.pace.tail = q.pace.tail :=
  take_congr (fun q => q.pace.tail) (fun _ _ _ => (alike_settle _).tail) q reader

theorem dropped_take (q : BroadcastQueue α) (reader : Nat) :
    (q.take reader).2.dropped = q.dropped :=
  take_congr dropped (fun _ _ _ => rfl) q reader

theorem capacity_detachReader (q : BroadcastQueue α) (reader : Nat) :
    (q.detachReader reader).pace.capacity = q.pace.capacity :=
  (alike_settle _).capacity

theorem tail_detachReader (q : BroadcastQueue α) (reader : Nat) :
    (q.detachReader reader).pace.tail = q.pace.tail :=
  (alike_settle _).tail

end BroadcastQueue

variable [PacingNumber α]

namespace Change

theorem capacity {q r : BroadcastQueue α} {entries : List Entry} (change : Change q entries r) :
    r.pace.capacity = q.pace.capacity := by
  induction change with
  | pace alike => exact alike.capacity
  | remark q remark => rfl
  | join q => rfl
  | leave registered => exact BroadcastQueue.capacity_detachReader _ _
  | give kept => exact BroadcastQueue.capacity_take _ _
  | lack registered drained ended => rfl
  | store call slot message taking room occupied => rfl
  | drop slot taking empty => rfl
  | close q => rfl
  | trans before after ihBefore ihAfter => exact ihAfter.trans ihBefore

/-- The tail moves by one for every message that is put or dropped. -/
theorem balance {q r : BroadcastQueue α} {entries : List Entry} (change : Change q entries r) :
    r.pace.tail + q.dropped = q.pace.tail + (appendedMessages entries).length + r.dropped := by
  induction change with
  | pace alike =>
    rw [alike.tail, alike.dropped]
    rfl
  | remark q remark =>
    rw [appendedMessages_of_isRemark remark]
    rfl
  | join q => rfl
  | leave registered =>
    rw [BroadcastQueue.tail_detachReader]
    rfl
  | give kept =>
    rw [BroadcastQueue.tail_take, BroadcastQueue.dropped_take]
    rfl
  | lack registered drained ended => rfl
  | @store q call slot message taking room occupied =>
    show q.pace.tail + 1 + q.dropped = q.pace.tail + 1 + q.dropped
    rfl
  | @drop q slot taking empty =>
    show q.pace.tail + 1 + q.dropped = q.pace.tail + 0 + (q.dropped + 1)
    omega
  | close q => rfl
  | trans before after ihBefore ihAfter =>
    rw [appendedMessages_append, List.length_append]
    omega

end Change

namespace Traffic

/-- In every state that threads can reach, the queue is represented as it should be. -/
theorem represents_run (capacity : Nat) (policy : PacingPolicy α) (start : Nat)
    (moves : List Move) :
    ((quiet capacity policy start).run moves).queue.Represents capacity
      ((quiet capacity policy start).run moves).journal := by
  have ok := run_consistent capacity policy start moves
  have change := run_change capacity policy start moves
  -- nothing that happens to a queue changes how much it is meant to keep
  have room : ((quiet capacity policy start).run moves).queue.pace.capacity = max capacity 1 :=
    change.capacity
  exact {
    capacity_eq := room
    head_le_tail := ok.head_le_tail
    length_items := ok.length_items
    fits := room ▸ ok.fits
    head_eq_min := ok.head_eq_min
    head_eq_tail := fun empty => ok.head_eq.trans (BroadcastQueue.slowest_of_nil empty)
    within := ok.within
    readers := ⟨ok.readers, ok.distinct⟩
    tail_eq := by
      have balance := change.balance
      simpa [BroadcastQueue.new, PaceState.new] using balance
    position_le := fun reader position found =>
      ok.within _ (BroadcastQueue.mem_of_position? found)
    lookup := fun reader position found left => ok.lookup found left }

end Traffic

end CollectorFeed
