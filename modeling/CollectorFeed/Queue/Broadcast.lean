import CollectorFeed.Queue.Message
import CollectorFeed.Queue.Pacing

/-!
# The broadcast queue

Writers put messages at the tail of a queue, and every reader is given every message put after it
came, in order. A message is kept until the slowest reader has taken it. Without readers messages
are dropped as they are written.

Every function here is one section in which a thread has the queue for itself. Writing a message is
made of such sections: the first one decides whether the writer has to wait for the end of an
interval, and the last one puts the message, unless there is no room or the queue has been closed
in between. A writer without room, and a reader without a message, wait and try again.
-/

set_option autoImplicit false

namespace CollectorFeed

/-- Why a message was not taken. -/
inductive QueueRefusal
  | closed
deriving DecidableEq, Repr

/-- Text of why a message was not taken. -/
def QueueRefusal.message : QueueRefusal → String
  | closed => "queue is closed"

/-- A queue of messages. -/
structure BroadcastQueue (α : Type) where
  /-- Positions and counters. -/
  pace : PaceState α
  /-- The messages that are kept, oldest first. -/
  items : List Message
  /-- The position of the next message of each reader, by the number of the reader. -/
  positions : List (Nat × Nat)
  /-- Number of the next reader. -/
  nextReader : Nat
  /-- Messages that were written while there was no reader. -/
  dropped : Nat
  /-- Whether messages are no longer taken. -/
  closed : Bool

/-- Counters of a queue at one time. -/
structure QueueCounters (α : Type) where
  /-- Messages that are kept. -/
  occupancy : Nat
  /-- Messages the queue is meant to keep. -/
  capacity : Nat
  /-- Number of readers. -/
  readers : Nat
  /-- Number of writers. -/
  writers : Nat
  /-- Messages that were written. -/
  totalWrites : Nat
  /-- Messages that were dropped. -/
  dropped : Nat
  /-- Whether pacing is on. -/
  pacingActive : Bool
  /-- How often pacing turned on. -/
  pacingActivations : Nat
  /-- Budget of each writer for an interval. -/
  writesLimit : α

/-- How writing a message begins. -/
inductive WriteStart
  /-- The queue is closed. -/
  | closed
  /-- The message may be put at once. -/
  | ready
  /-- The writer waits so many milliseconds first. -/
  | wait (milliseconds : Nat)
deriving DecidableEq, Repr

/-- How putting a message ends. -/
inductive Offer
  /-- The queue is closed. -/
  | closed
  /-- There is no room; the writer waits. -/
  | full
  /-- The message was put. -/
  | stored
  /-- There is no reader, so the message was dropped. -/
  | dropped
deriving DecidableEq, Repr

namespace BroadcastQueue

variable {α : Type} [PacingNumber α]

/-- An empty queue, which has room for at least one message. -/
def new (capacity : Nat) (policy : PacingPolicy α) (now : Nat) : BroadcastQueue α where
  pace := PaceState.new (max capacity 1) policy now
  items := []
  positions := []
  nextReader := 0
  dropped := 0
  closed := false

/-- Counters of a queue. -/
def stats (q : BroadcastQueue α) : QueueCounters α where
  occupancy := q.pace.occupancy
  capacity := q.pace.capacity
  readers := q.pace.readers
  writers := q.pace.writers
  totalWrites := q.pace.tail
  dropped := q.dropped
  pacingActive := q.pace.active
  pacingActivations := q.pace.activations
  writesLimit := q.pace.limit

/-! ## Registration -/

/-- Registers a writer; gives its slot. -/
def attachWriter (q : BroadcastQueue α) : Nat × BroadcastQueue α :=
  let (slot, pace) := q.pace.addWriter
  (slot, { q with pace := pace })

/-- Registers a reader at the tail; gives its number. -/
def attachReader (q : BroadcastQueue α) : Nat × BroadcastQueue α :=
  (q.nextReader,
    { q with
      pace := q.pace.addReader
      positions := q.positions ++ [(q.nextReader, q.pace.tail)]
      nextReader := q.nextReader + 1 })

/-- The position of a reader, if it is registered. -/
def position? (q : BroadcastQueue α) (reader : Nat) : Option Nat :=
  (q.positions.find? fun entry => entry.1 == reader).map Prod.snd

/-- The position up to which every reader has taken all messages. -/
def slowest (q : BroadcastQueue α) : Nat :=
  ((q.positions.map Prod.snd).min?).getD q.pace.tail

/-- Releases the messages that every reader has taken. -/
def release (q : BroadcastQueue α) : BroadcastQueue α :=
  let head := max q.pace.head q.slowest
  { q with items := q.items.drop (head - q.pace.head), pace := { q.pace with head := head } }

/-- Turns pacing off if the queue is filled little enough. -/
def settle (q : BroadcastQueue α) : BroadcastQueue α :=
  { q with pace := q.pace.noticeEmptying }

/-- Lets a writer go. -/
def detachWriter (q : BroadcastQueue α) (slot : Nat) : BroadcastQueue α :=
  { q with pace := q.pace.removeWriter slot }

/-- Forgets where a reader stands. -/
def without (q : BroadcastQueue α) (reader : Nat) : BroadcastQueue α :=
  { q with
    positions := q.positions.filter fun entry => entry.1 != reader
    pace := q.pace.removeReader }

/-- Lets a reader go, with everything that was kept for it alone. -/
def detachReader (q : BroadcastQueue α) (reader : Nat) : BroadcastQueue α :=
  (q.without reader).release.settle

/-- Takes no more messages. Those that are kept can still be read. -/
def close (q : BroadcastQueue α) : BroadcastQueue α :=
  { q with closed := true }

/-! ## Writing -/

/-- Ends the intervals that have ended at a time. -/
def closeIntervals (q : BroadcastQueue α) (now : Nat) : BroadcastQueue α :=
  { q with pace := q.pace.closeIntervals now }

/-- The first section of writing: whether the writer has to wait for the end of an interval. The
clock is read twice, at `now` to end intervals and at `checked` to see how long the wait is. -/
def beginWrite (q : BroadcastQueue α) (slot now checked : Nat) : WriteStart × BroadcastQueue α :=
  if q.closed then (.closed, q)
  else
    let q := q.closeIntervals now
    let (wait?, pace) := q.pace.pace slot checked
    (match wait? with
      | some milliseconds => .wait milliseconds
      | none => .ready,
      { q with pace := pace })

/-- Whether a writer has to wait for room. -/
def hasNoRoom (q : BroadcastQueue α) : Bool :=
  q.pace.isFull && !q.positions.isEmpty

/-- Puts a message at the tail. -/
def store (q : BroadcastQueue α) (slot : Nat) (message : Message) : BroadcastQueue α :=
  { q with pace := q.pace.noteWrite slot, items := q.items ++ [message] }

/-- Counts a message that nobody is there to read. The head follows the tail. -/
def drop (q : BroadcastQueue α) (slot : Nat) : BroadcastQueue α :=
  let pace := q.pace.noteWrite slot
  { q with pace := { pace with head := pace.tail }, dropped := q.dropped + 1 }

/-- The last section of writing: puts the message, if the queue takes it and has room. -/
def offer (q : BroadcastQueue α) (slot : Nat) (message : Message) : Offer × BroadcastQueue α :=
  if q.closed then (.closed, q)
  else if q.hasNoRoom then (.full, q)
  else if q.positions.isEmpty then (.dropped, q.drop slot)
  else (.stored, q.store slot message)

/-- Writes a message with nobody else at the queue; gives how it ends and the time at which it does.
A wait ends with the interval. -/
def write (q : BroadcastQueue α) (slot now : Nat) (message : Message) :
    Offer × Nat × BroadcastQueue α :=
  match q.beginWrite slot now now with
  | (.closed, q) => (.closed, now, q)
  | (.ready, q) =>
    let (result, q) := q.offer slot message
    (result, now, q)
  | (.wait milliseconds, q) =>
    let (result, q) := (q.closeIntervals (now + milliseconds)).offer slot message
    (result, now + milliseconds, q)

/-! ## Reading -/

/-- Moves a reader on by one message. -/
def stepReader (q : BroadcastQueue α) (reader position : Nat) : BroadcastQueue α :=
  { q with
    positions := q.positions.map fun entry =>
      if entry.1 == reader then (reader, position + 1) else entry
    pace := q.pace.noteRead }

/-- Gives a reader its next message, if there is one. -/
def take (q : BroadcastQueue α) (reader : Nat) : Option Message × BroadcastQueue α :=
  match q.position? reader with
  | none => (none, q)
  | some position =>
    if q.pace.tail ≤ position then (none, q)
    else
      match q.items[position - q.pace.head]? with
      | none => (none, q)
      | some message => (some message, ((q.stepReader reader position).release).settle)

/-- Messages that were written for a reader and that it has not taken yet. -/
def pending (q : BroadcastQueue α) (reader : Nat) : Nat :=
  match q.position? reader with
  | some position => q.pace.tail - position
  | none => 0

end BroadcastQueue

end CollectorFeed
