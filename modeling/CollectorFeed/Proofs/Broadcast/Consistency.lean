import CollectorFeed.Queue.Broadcast
import Mathlib.Data.List.Nodup

/-!
# Consistent queues

A queue keeps positions in the endless row of messages and a list of the messages themselves, and
finds a message by the distance of two positions. That works as long as the two fit together:
`BroadcastQueue.Consistent` says how. Every section keeps a queue consistent; sections that only
pace their writers do not touch anything that it speaks of (`BroadcastQueue.Alike`).
-/

set_option autoImplicit false

namespace CollectorFeed

variable {α : Type}

/-! ## What pacing leaves alone -/

namespace PaceState

/-- The counters that say where the messages of a queue are. -/
structure Extent where
  /-- Position of the oldest message that is kept. -/
  head : Nat
  /-- Position at which the next message is put. -/
  tail : Nat
  /-- How many messages the queue is meant to keep. -/
  capacity : Nat
  /-- Number of readers. -/
  readers : Nat

/-- The extent of a queue by its counters. -/
def extent (s : PaceState α) : Extent :=
  ⟨s.head, s.tail, s.capacity, s.readers⟩

theorem extent_addWriter (s : PaceState α) : s.addWriter.2.extent = s.extent := rfl

theorem extent_removeWriter (s : PaceState α) (slot : Nat) :
    (s.removeWriter slot).extent = s.extent := rfl

variable [PacingNumber α]

theorem extent_recomputeLimit (s : PaceState α) : s.recomputeLimit.extent = s.extent := by
  unfold recomputeLimit
  split <;> rfl

theorem extent_closeInterval (s : PaceState α) : s.closeInterval.extent = s.extent := by
  unfold closeInterval
  dsimp only
  split
  · exact extent_recomputeLimit { s with intervalStart := s.intervalStart + s.policy.interval }
  · rfl

theorem extent_closeIntervals (s : PaceState α) (now : Nat) :
    (s.closeIntervals now).extent = s.extent := by
  unfold closeIntervals
  -- how many intervals have ended does not matter, each of them is closed like the first
  generalize s.endedIntervals now = count
  induction count with
  | zero => rfl
  | succ count ih =>
    rw [Nat.repeat, extent_closeInterval]
    exact ih

theorem extent_pace (s : PaceState α) (slot now : Nat) : (s.pace slot now).2.extent = s.extent := by
  unfold pace noticeFilling
  split <;> rfl

theorem extent_noticeEmptying (s : PaceState α) : s.noticeEmptying.extent = s.extent := by
  unfold noticeEmptying
  split <;> rfl

end PaceState

namespace BroadcastQueue

/-- Two queues that keep the same messages for the same readers. -/
structure Alike (q r : BroadcastQueue α) : Prop where
  extent : r.pace.extent = q.pace.extent
  items : r.items = q.items
  positions : r.positions = q.positions
  nextReader : r.nextReader = q.nextReader
  dropped : r.dropped = q.dropped
  closed : r.closed = q.closed

theorem Alike.refl (q : BroadcastQueue α) : Alike q q :=
  ⟨rfl, rfl, rfl, rfl, rfl, rfl⟩

theorem Alike.trans {q r s : BroadcastQueue α} (first : Alike q r) (second : Alike r s) :
    Alike q s :=
  ⟨second.extent.trans first.extent, second.items.trans first.items,
    second.positions.trans first.positions, second.nextReader.trans first.nextReader,
    second.dropped.trans first.dropped, second.closed.trans first.closed⟩

theorem alike_of_extent (q : BroadcastQueue α) {pace : PaceState α}
    (same : pace.extent = q.pace.extent) : Alike q { q with pace := pace } :=
  ⟨same, rfl, rfl, rfl, rfl, rfl⟩

theorem alike_attachWriter (q : BroadcastQueue α) : Alike q q.attachWriter.2 :=
  alike_of_extent q (PaceState.extent_addWriter q.pace)

theorem alike_detachWriter (q : BroadcastQueue α) (slot : Nat) : Alike q (q.detachWriter slot) :=
  alike_of_extent q (PaceState.extent_removeWriter q.pace slot)

variable [PacingNumber α]

theorem alike_settle (q : BroadcastQueue α) : Alike q q.settle :=
  alike_of_extent q (PaceState.extent_noticeEmptying q.pace)

theorem alike_closeIntervals (q : BroadcastQueue α) (now : Nat) : Alike q (q.closeIntervals now) :=
  alike_of_extent q (PaceState.extent_closeIntervals q.pace now)

theorem alike_beginWrite (q : BroadcastQueue α) (slot now checked : Nat) :
    Alike q (q.beginWrite slot now checked).2 := by
  unfold beginWrite
  split
  · exact Alike.refl q
  · apply alike_of_extent q
    -- the clock is read twice, first for the intervals and then for the wait
    exact (PaceState.extent_pace _ slot checked).trans (PaceState.extent_closeIntervals q.pace now)

end BroadcastQueue

/-! ## Consistency -/

namespace BroadcastQueue

/-- Positions, counters and kept messages fit together, but for the head, which may be behind the
slowest reader. -/
structure Ordered (q : BroadcastQueue α) : Prop where
  /-- The head is never past the tail. -/
  head_le_tail : q.pace.head ≤ q.pace.tail
  /-- Exactly the messages from the head to the tail are kept. -/
  length_items : q.items.length = q.pace.tail - q.pace.head
  /-- No more messages are kept than the queue is meant to keep. -/
  fits : q.pace.tail - q.pace.head ≤ q.pace.capacity
  /-- Every reader stands between the head and the tail. -/
  within : ∀ entry ∈ q.positions, q.pace.head ≤ entry.2 ∧ entry.2 ≤ q.pace.tail
  /-- Readers are counted. -/
  readers : q.pace.readers = q.positions.length
  /-- No two readers have the same number. -/
  distinct : (q.positions.map Prod.fst).Nodup
  /-- Numbers of readers are given out once. -/
  numbered : ∀ entry ∈ q.positions, entry.1 < q.nextReader

/-- Positions, counters and kept messages fit together. -/
structure Consistent (q : BroadcastQueue α) : Prop extends Ordered q where
  /-- The head is where the slowest reader stands. -/
  head_eq : q.pace.head = q.slowest

/-! ## The slowest reader -/

theorem slowest_of_nil {q : BroadcastQueue α} (empty : q.positions = []) :
    q.slowest = q.pace.tail := by
  simp [slowest, empty]

theorem slowest_spec {q : BroadcastQueue α} (occupied : q.positions ≠ []) :
    q.slowest ∈ q.positions.map Prod.snd ∧
      ∀ position ∈ q.positions.map Prod.snd, q.slowest ≤ position := by
  cases found : (q.positions.map Prod.snd).min? with
  -- a list with a position has a least one
  | none => simp [occupied] at found
  | some least =>
    have same : q.slowest = least := by simp [slowest, found]
    rw [same]
    exact List.min?_eq_some_iff.1 found

theorem slowest_le {q : BroadcastQueue α} {entry : Nat × Nat} (mem : entry ∈ q.positions) :
    q.slowest ≤ entry.2 :=
  (slowest_spec (List.ne_nil_of_mem mem)).2 entry.2 (List.mem_map_of_mem mem)

theorem slowest_mem {q : BroadcastQueue α} (occupied : q.positions ≠ []) :
    ∃ entry ∈ q.positions, entry.2 = q.slowest :=
  List.mem_map.1 (slowest_spec occupied).1

theorem slowest_le_tail {q : BroadcastQueue α}
    (within : ∀ entry ∈ q.positions, entry.2 ≤ q.pace.tail) : q.slowest ≤ q.pace.tail := by
  by_cases empty : q.positions = []
  · exact Nat.le_of_eq (slowest_of_nil empty)
  · obtain ⟨entry, mem, same⟩ := slowest_mem empty
    rw [← same]
    exact within entry mem

theorem le_slowest {q : BroadcastQueue α} {bound : Nat} (below : bound ≤ q.pace.tail)
    (within : ∀ entry ∈ q.positions, bound ≤ entry.2) : bound ≤ q.slowest := by
  by_cases empty : q.positions = []
  · rw [slowest_of_nil empty]
    exact below
  · obtain ⟨entry, mem, same⟩ := slowest_mem empty
    rw [← same]
    exact within entry mem

theorem slowest_congr {q r : BroadcastQueue α} (positions : r.positions = q.positions)
    (tail : r.pace.tail = q.pace.tail) : r.slowest = q.slowest := by
  simp [slowest, positions, tail]

theorem Alike.head {q r : BroadcastQueue α} (alike : Alike q r) : r.pace.head = q.pace.head :=
  congrArg PaceState.Extent.head alike.extent

theorem Alike.tail {q r : BroadcastQueue α} (alike : Alike q r) : r.pace.tail = q.pace.tail :=
  congrArg PaceState.Extent.tail alike.extent

theorem Alike.capacity {q r : BroadcastQueue α} (alike : Alike q r) :
    r.pace.capacity = q.pace.capacity :=
  congrArg PaceState.Extent.capacity alike.extent

theorem Alike.readers {q r : BroadcastQueue α} (alike : Alike q r) :
    r.pace.readers = q.pace.readers :=
  congrArg PaceState.Extent.readers alike.extent

theorem Consistent.of_alike {q r : BroadcastQueue α} (ok : q.Consistent) (alike : Alike q r) :
    r.Consistent where
  head_le_tail := by rw [alike.head, alike.tail]; exact ok.head_le_tail
  length_items := by rw [alike.items, alike.head, alike.tail]; exact ok.length_items
  fits := by rw [alike.head, alike.tail, alike.capacity]; exact ok.fits
  within := by rw [alike.positions, alike.head, alike.tail]; exact ok.within
  head_eq := by
    rw [alike.head, slowest_congr alike.positions alike.tail]
    exact ok.head_eq
  readers := by rw [alike.readers, alike.positions]; exact ok.readers
  distinct := by rw [alike.positions]; exact ok.distinct
  numbered := by rw [alike.positions, alike.nextReader]; exact ok.numbered

/-! ## Readers and their positions -/

theorem mem_of_position? {q : BroadcastQueue α} {reader position : Nat}
    (found : q.position? reader = some position) : (reader, position) ∈ q.positions := by
  obtain ⟨entry, first, same⟩ := Option.map_eq_some_iff.1 found
  have number : entry.1 = reader := by simpa using List.find?_some first
  have mem := List.mem_of_find?_eq_some first
  rwa [← number, ← same]

/-- A reader that leaves takes exactly one position with it. -/
theorem length_positions_without {q : BroadcastQueue α} (ordered : q.Ordered) {reader : Nat}
    (registered : (q.position? reader).isSome) :
    (q.positions.filter fun entry => entry.1 != reader).length = q.positions.length - 1 := by
  obtain ⟨position, found⟩ := Option.isSome_iff_exists.1 registered
  have mem : reader ∈ q.positions.map Prod.fst := List.mem_map_of_mem (mem_of_position? found)
  -- the numbers are distinct, so leaving a number out erases it once
  have erased := List.length_erase_of_mem mem
  rw [ordered.distinct.erase_eq_filter, List.filter_map, List.length_map, List.length_map] at erased
  exact erased

/-! ## Sections keep queues consistent -/

theorem consistent_new [PacingNumber α] (capacity : Nat) (policy : PacingPolicy α) (start : Nat) :
    (BroadcastQueue.new capacity policy start).Consistent where
  head_le_tail := Nat.le_refl 0
  length_items := rfl
  fits := Nat.zero_le _
  within := by simp [BroadcastQueue.new]
  readers := rfl
  distinct := List.nodup_nil
  numbered := by simp [BroadcastQueue.new]
  head_eq := rfl

/-- The new reader stands at the tail, so it is the slowest one only if it is alone. -/
theorem Consistent.attachReader {q : BroadcastQueue α} (ok : q.Consistent) :
    q.attachReader.2.Consistent where
  head_le_tail := ok.head_le_tail
  length_items := ok.length_items
  fits := ok.fits
  within := by
    intro entry mem
    rcases List.mem_append.1 mem with old | new
    · exact ok.within entry old
    · rw [List.mem_singleton.1 new]
      exact ⟨ok.head_le_tail, Nat.le_refl _⟩
  readers := by
    simp [BroadcastQueue.attachReader, PaceState.addReader, ok.readers]
  distinct := by
    -- all numbers that were given out are smaller than the next one
    have fresh : q.nextReader ∉ q.positions.map Prod.fst := by
      intro mem
      obtain ⟨entry, mem, same⟩ := List.mem_map.1 mem
      have less := ok.numbered entry mem
      omega
    simpa [BroadcastQueue.attachReader, List.nodup_append] using
      ⟨ok.distinct, fun a b mem same => fresh (List.mem_map.2 ⟨(a, b), mem, same⟩)⟩
  numbered := by
    intro entry mem
    rcases List.mem_append.1 mem with old | new
    · exact Nat.lt_succ_of_lt (ok.numbered entry old)
    · rw [List.mem_singleton.1 new]
      exact Nat.lt_succ_self _
  head_eq := by
    have head := ok.head_eq
    by_cases empty : q.positions = []
    -- without other readers the head is at the tail already, where the new one stands
    · rw [slowest_of_nil empty] at head
      simpa [BroadcastQueue.attachReader, PaceState.addReader, slowest, empty] using head
    -- otherwise the reader that was the slowest still is
    · obtain ⟨entry, mem, same⟩ := slowest_mem empty
      apply Nat.le_antisymm
      · show q.pace.head ≤ q.attachReader.2.slowest
        refine le_slowest (q := q.attachReader.2) ok.head_le_tail ?_
        intro entry mem
        rcases List.mem_append.1 mem with old | new
        · exact (ok.within entry old).1
        · rw [List.mem_singleton.1 new]
          exact ok.head_le_tail
      · have least : q.attachReader.2.slowest ≤ entry.2 :=
          slowest_le (List.mem_append_left _ mem)
        exact Nat.le_trans least (Nat.le_of_eq (same.trans head.symm))

/-- Releasing what every reader has taken moves the head up to the slowest reader. -/
theorem Ordered.release {q : BroadcastQueue α} (ordered : q.Ordered) : q.release.Consistent := by
  have above : q.pace.head ≤ q.slowest :=
    le_slowest ordered.head_le_tail fun entry mem => (ordered.within entry mem).1
  have below : q.slowest ≤ q.pace.tail :=
    slowest_le_tail fun entry mem => (ordered.within entry mem).2
  have head : q.release.pace.head = q.slowest := Nat.max_eq_right above
  -- as many messages go as the head moves on
  have items : q.release.items = q.items.drop (q.slowest - q.pace.head) := by
    simp [BroadcastQueue.release, Nat.max_eq_right above]
  have length := ordered.length_items
  have fits := ordered.fits
  constructor
  · constructor
    · rw [head]
      exact below
    · rw [items, head, List.length_drop, length]
      show q.pace.tail - q.pace.head - (q.slowest - q.pace.head) = q.pace.tail - q.slowest
      omega
    · rw [head]
      show q.pace.tail - q.slowest ≤ q.pace.capacity
      omega
    · intro entry mem
      rw [head]
      exact ⟨slowest_le mem, (ordered.within entry mem).2⟩
    · exact ordered.readers
    · exact ordered.distinct
    · exact ordered.numbered
  · rw [head]
    exact (slowest_congr rfl rfl).symm

theorem Ordered.without {q : BroadcastQueue α} (ordered : q.Ordered) {reader : Nat}
    (registered : (q.position? reader).isSome) :
    (q.without reader).Ordered where
  head_le_tail := ordered.head_le_tail
  length_items := ordered.length_items
  fits := ordered.fits
  within := fun entry mem => ordered.within entry (List.mem_filter.1 mem).1
  readers := by
    show q.pace.readers - 1 = (q.positions.filter fun entry => entry.1 != reader).length
    rw [length_positions_without ordered registered, ordered.readers]
  distinct := ordered.distinct.sublist (List.filter_sublist.map Prod.fst)
  numbered := fun entry mem => ordered.numbered entry (List.mem_filter.1 mem).1

theorem Ordered.stepReader {q : BroadcastQueue α} (ordered : q.Ordered) {reader position : Nat}
    (found : q.position? reader = some position) (left : position < q.pace.tail) :
    (q.stepReader reader position).Ordered where
  head_le_tail := ordered.head_le_tail
  length_items := ordered.length_items
  fits := ordered.fits
  within := by
    intro entry mem
    obtain ⟨old, mem, same⟩ := List.mem_map.1 mem
    have above := (ordered.within _ (mem_of_position? found)).1
    rw [← same]
    split
    · exact ⟨Nat.le_succ_of_le above, left⟩
    · exact ordered.within old mem
  readers := by
    rw [BroadcastQueue.stepReader, List.length_map]
    exact ordered.readers
  distinct := by
    -- only a position changes, the numbers stay
    have numbers : (q.stepReader reader position).positions.map Prod.fst =
        q.positions.map Prod.fst := by
      rw [BroadcastQueue.stepReader, List.map_map]
      apply List.map_congr_left
      intro entry _
      by_cases same : entry.1 = reader <;> simp [same]
    rw [numbers]
    exact ordered.distinct
  numbered := by
    intro entry mem
    obtain ⟨old, mem, same⟩ := List.mem_map.1 mem
    rw [← same]
    split
    · exact ordered.numbered (reader, position) (mem_of_position? found)
    · exact ordered.numbered old mem

theorem Ordered.close {q : BroadcastQueue α} (ordered : q.Ordered) : q.close.Ordered :=
  ⟨ordered.head_le_tail, ordered.length_items, ordered.fits, ordered.within, ordered.readers,
    ordered.distinct, ordered.numbered⟩

theorem Consistent.close {q : BroadcastQueue α} (ok : q.Consistent) : q.close.Consistent :=
  ⟨ok.toOrdered.close, ok.head_eq⟩

/-- A reader that has not come to the tail finds its next message. -/
theorem Ordered.lookup {q : BroadcastQueue α} (ordered : q.Ordered) {reader position : Nat}
    (found : q.position? reader = some position) (left : position < q.pace.tail) :
    ∃ message, q.items[position - q.pace.head]? = some message := by
  have above := (ordered.within _ (mem_of_position? found)).1
  have inside : position - q.pace.head < q.items.length := by
    rw [ordered.length_items]
    exact Nat.sub_lt_sub_right above left
  exact ⟨_, List.getElem?_eq_getElem inside⟩

/-! ## Putting a message -/

/-- Putting a message ends in one of four ways: the queue is closed, there is no room, nobody is
there to read, or the message is put. -/
theorem offer_cases (q : BroadcastQueue α) (slot : Nat) (message : Message) :
    (q.closed = true ∧ q.offer slot message = (.closed, q)) ∨
    (q.hasNoRoom = true ∧ q.offer slot message = (.full, q)) ∨
    (q.closed = false ∧ q.positions = [] ∧ q.offer slot message = (.dropped, q.drop slot)) ∨
    (q.closed = false ∧ q.hasNoRoom = false ∧ q.positions ≠ [] ∧
      q.offer slot message = (.stored, q.store slot message)) := by
  cases taking : q.closed with
  | true => exact .inl ⟨rfl, by simp [offer, taking]⟩
  | false =>
    by_cases empty : q.positions = []
    · exact .inr (.inr (.inl ⟨rfl, empty, by simp [offer, taking, hasNoRoom, empty]⟩))
    · cases room : q.hasNoRoom with
      | true => exact .inr (.inl ⟨rfl, by simp [offer, taking, room]⟩)
      | false => exact .inr (.inr (.inr ⟨rfl, rfl, empty, by simp [offer, taking, room, empty]⟩))

/-- With a reader at the queue, having room means that fewer messages are kept than may be. -/
theorem occupancy_lt_of_room {q : BroadcastQueue α} (room : q.hasNoRoom = false)
    (occupied : q.positions ≠ []) : q.pace.tail - q.pace.head < q.pace.capacity := by
  cases full : q.pace.isFull with
  | true => simp [hasNoRoom, full, occupied] at room
  | false => exact Nat.not_le.1 (of_decide_eq_false full)

/-- Nobody is at the queue, so nothing is kept, and the head follows the tail. -/
theorem Consistent.drop {q : BroadcastQueue α} (ok : q.Consistent) (slot : Nat)
    (empty : q.positions = []) :
    (q.drop slot).Consistent := by
  -- head and tail meet, and both move on by one
  have head : q.pace.head = q.pace.tail := ok.head_eq.trans (slowest_of_nil empty)
  have length := ok.length_items
  constructor
  · constructor
    · exact Nat.le_refl _
    · show q.items.length = q.pace.tail + 1 - (q.pace.tail + 1)
      omega
    · show q.pace.tail + 1 - (q.pace.tail + 1) ≤ q.pace.capacity
      omega
    · intro entry mem
      exact absurd mem (empty ▸ List.not_mem_nil)
    · exact ok.readers
    · exact ok.distinct
    · exact ok.numbered
  · exact (slowest_of_nil (q := q.drop slot) empty).symm

theorem Consistent.store {q : BroadcastQueue α} (ok : q.Consistent) (slot : Nat)
    (message : Message) (room : q.hasNoRoom = false) (occupied : q.positions ≠ []) :
    (q.store slot message).Consistent := by
  have below := ok.head_le_tail
  have length := ok.length_items
  have free := occupancy_lt_of_room room occupied
  constructor
  · constructor
    · exact Nat.le_succ_of_le below
    · show (q.items ++ [message]).length = q.pace.tail + 1 - q.pace.head
      rw [List.length_append, List.length_singleton, length]
      omega
    · show q.pace.tail + 1 - q.pace.head ≤ q.pace.capacity
      omega
    · intro entry mem
      have stands := ok.within entry mem
      exact ⟨stands.1, Nat.le_succ_of_le stands.2⟩
    · exact ok.readers
    · exact ok.distinct
    · exact ok.numbered
  · -- the slowest reader is the same one, since the tail counts only without readers
    have head := ok.head_eq
    obtain ⟨entry, mem, same⟩ := slowest_mem occupied
    apply Nat.le_antisymm
    · refine le_slowest (q := q.store slot message) (Nat.le_succ_of_le below) ?_
      intro entry mem
      exact (ok.within entry mem).1
    · exact Nat.le_trans (slowest_le (q := q.store slot message) mem)
        (Nat.le_of_eq (same.trans head.symm))

theorem positions_offer (q : BroadcastQueue α) (slot : Nat) (message : Message) :
    (q.offer slot message).2.positions = q.positions := by
  rcases q.offer_cases slot message with
    ⟨-, offered⟩ | ⟨-, offered⟩ | ⟨-, -, offered⟩ | ⟨-, -, -, offered⟩
  · rw [offered]
  · rw [offered]
  · rw [offered]
    rfl
  · rw [offered]
    rfl

/-! ## Letting a reader go, and taking a message -/

variable [PacingNumber α]

theorem Consistent.detachReader {q : BroadcastQueue α} (ok : q.Consistent) {reader : Nat}
    (registered : (q.position? reader).isSome) : (q.detachReader reader).Consistent :=
  (ok.toOrdered.without registered).release.of_alike (alike_settle _)

theorem take_of_position?_eq_none {q : BroadcastQueue α} {reader : Nat}
    (missing : q.position? reader = none) : q.take reader = (none, q) := by
  simp only [take, missing]

theorem take_of_tail_le {q : BroadcastQueue α} {reader position : Nat}
    (found : q.position? reader = some position) (done : q.pace.tail ≤ position) :
    q.take reader = (none, q) := by
  simp only [take, found, if_pos done]

theorem take_of_lookup {q : BroadcastQueue α} {reader position : Nat} {message : Message}
    (found : q.position? reader = some position) (left : position < q.pace.tail)
    (item : q.items[position - q.pace.head]? = some message) :
    q.take reader = (some message, ((q.stepReader reader position).release).settle) := by
  simp only [take, found, if_neg (Nat.not_le.2 left), item]

/-- Taking a message leaves the queue as it is, or moves the reader on by one message. -/
theorem take_queue (q : BroadcastQueue α) (reader : Nat) :
    (q.take reader).2 = q ∨ ∃ position, q.position? reader = some position ∧
      (q.take reader).2 = ((q.stepReader reader position).release).settle := by
  unfold take
  split
  · exact .inl rfl
  · next position found =>
    split
    · exact .inl rfl
    · split
      · exact .inl rfl
      · exact .inr ⟨position, found, rfl⟩

/-- What moving a reader on leaves alone is left alone by taking a message. -/
theorem take_congr {β : Type} (part : BroadcastQueue α → β)
    (moved : ∀ q reader position, part ((stepReader q reader position).release).settle = part q)
    (q : BroadcastQueue α) (reader : Nat) : part (q.take reader).2 = part q := by
  rcases take_queue q reader with same | ⟨position, -, went⟩
  · rw [same]
  · rw [went, moved]

theorem Consistent.take {q : BroadcastQueue α} (ok : q.Consistent) (reader : Nat) :
    (q.take reader).2.Consistent := by
  cases found : q.position? reader with
  | none =>
    rw [take_of_position?_eq_none found]
    exact ok
  | some position =>
    by_cases left : position < q.pace.tail
    · obtain ⟨message, item⟩ := ok.lookup found left
      rw [take_of_lookup found left item]
      -- the step leaves the head behind the slowest reader, and the release moves it up
      exact (ok.toOrdered.stepReader found left).release.of_alike (alike_settle _)
    · rw [take_of_tail_le found (Nat.not_lt.1 left)]
      exact ok

end BroadcastQueue

end CollectorFeed
