import CollectorFeed.Proofs.Broadcast.Pending

/-!
# Threads at a queue

Any number of threads use a queue. A thread has the queue for itself for one section of a call at a
time, and sections of different threads follow each other in any order. A writer that has to wait
for the end of an interval, or for room, gives the queue away and comes back in a later section, and
so does a reader without a message.

`Traffic` is a queue with the calls that are under way, and with a journal of what has happened so
far. `Traffic.step` is one section, `Traffic.run` any number of them in any order. A move that no
thread can make changes nothing: a handle is let go once and only while no call uses it, and a
thread that waits comes back when it is woken.
-/

set_option autoImplicit false

namespace CollectorFeed

/-! ## Calls and their journal -/

/-- The ways to read. -/
inductive ReadKind
  /-- Gives nothing at once if there is no message. -/
  | atOnce
  /-- Waits for a message. -/
  | patient
  /-- Waits for a message, but only for some time. -/
  | timed
deriving DecidableEq

/-- What a call that is under way waits for. -/
inductive Activity
  /-- A writer sleeps to the end of an interval, which is at a time. -/
  | paused (slot : Nat) (message : Message) (deadline : Nat)
  /-- A writer waits for room. -/
  | blocked (slot : Nat) (message : Message) (woken : Bool)
  /-- A reader waits for a message. -/
  | starved (reader : Nat) (kind : ReadKind) (woken : Bool)
  /-- The queue has been closed and everybody has to be woken, readers first. -/
  | closing (readersWoken : Bool)
deriving DecidableEq

/-- Something that happened at a queue. Calls have numbers. -/
inductive Entry
  /-- A reader was registered. -/
  | joined (reader : Nat)
  /-- A reader was let go. -/
  | left (reader : Nat)
  /-- A call to write a message began. -/
  | begun (call slot : Nat) (message : Message)
  /-- A call put a message at the tail. -/
  | appended (call : Nat) (message : Message)
  /-- A call to write came back, with so many readers registered in its last section. -/
  | returned (call : Nat) (result : Except QueueRefusal Unit) (readers : Nat)
  /-- A reader was given a message. -/
  | given (reader : Nat) (message : Message)
  /-- A call to read came back without a message. -/
  | nothing (reader : Nat) (kind : ReadKind)
  /-- The queue was closed. -/
  | closed
deriving DecidableEq

/-- The message that an entry says was put, if it says so. -/
def Entry.appended? : Entry → Option Message
  | appended _ message => some message
  | _ => none

/-- The messages that were put, in order. -/
def appendedMessages (journal : List Entry) : List Message :=
  journal.filterMap Entry.appended?

theorem appendedMessages_append (first second : List Entry) :
    appendedMessages (first ++ second) = appendedMessages first ++ appendedMessages second :=
  List.filterMap_append

/-- A thread that waits for room is woken. -/
def Activity.wakeWriter : Activity → Activity
  | blocked slot message _ => blocked slot message true
  | activity => activity

/-- A thread that waits for a message is woken. -/
def Activity.wakeReader : Activity → Activity
  | starved reader kind _ => starved reader kind true
  | activity => activity

/-- Whether a call uses the handle of the writer in a slot. -/
def Activity.writes (slot : Nat) : Activity → Bool
  | paused other _ _ => other == slot
  | blocked other _ _ => other == slot
  | _ => false

/-- Whether a call uses the handle of a reader. -/
def Activity.reads (reader : Nat) : Activity → Bool
  | starved other _ _ => other == reader
  | _ => false

/-- A queue that threads use. -/
structure Traffic (α : Type) where
  /-- The queue. -/
  queue : BroadcastQueue α
  /-- Slots of the writers whose handles have not been let go. -/
  writers : List Nat
  /-- The calls that have given the queue away. -/
  calls : List (Nat × Activity)
  /-- Number of the next call. -/
  nextCall : Nat
  /-- What has happened, oldest first. -/
  journal : List Entry

/-- A section that a thread may come with. -/
inductive Move
  | attachWriter
  | detachWriter (slot : Nat)
  | attachReader
  | detachReader (reader : Nat)
  /-- A call to write begins. The clock is read twice. -/
  | write (slot : Nat) (message : Message) (now checked : Nat)
  /-- A writer comes back from its sleep. -/
  | resume (call now : Nat)
  /-- A writer that was woken looks for room again. -/
  | retryWrite (call : Nat)
  /-- A call to read begins. -/
  | read (reader : Nat) (kind : ReadKind)
  /-- A reader that was woken looks for a message again. -/
  | retryRead (call : Nat)
  /-- A reader has waited long enough. -/
  | giveUp (call : Nat)
  /-- The queue is closed. -/
  | close
  /-- The thread that closed the queue wakes the readers. -/
  | wakeReaders (call : Nat)
  /-- The thread that closed the queue wakes the writers. -/
  | wakeWriters (call : Nat)
deriving DecidableEq

namespace Traffic

variable {α : Type}

/-! ## Waiting and waking -/

/-- What a call that is under way waits for. -/
def activity? (t : Traffic α) (call : Nat) : Option Activity :=
  (t.calls.find? fun entry => entry.1 == call).map Prod.snd

/-- Whether a call uses the handle of the writer in a slot. -/
def isWriting (t : Traffic α) (slot : Nat) : Bool :=
  t.calls.any fun entry => entry.2.writes slot

/-- Whether a call uses the handle of a reader. -/
def isReading (t : Traffic α) (reader : Nat) : Bool :=
  t.calls.any fun entry => entry.2.reads reader

/-- Adds to the journal. -/
def note (t : Traffic α) (entries : List Entry) : Traffic α :=
  { t with journal := t.journal ++ entries }

/-- A call gives the queue away and waits. -/
def park (t : Traffic α) (call : Nat) (activity : Activity) : Traffic α :=
  { t with calls := (call, activity) :: t.calls }

/-- A call that waited goes on. -/
def unpark (t : Traffic α) (call : Nat) : Traffic α :=
  { t with calls := t.calls.filter fun entry => entry.1 != call }

/-- Wakes every writer that waits for room. -/
def wakeAllWriters (t : Traffic α) : Traffic α :=
  { t with calls := t.calls.map fun entry => (entry.1, entry.2.wakeWriter) }

/-- Wakes every reader that waits for a message. -/
def wakeAllReaders (t : Traffic α) : Traffic α :=
  { t with calls := t.calls.map fun entry => (entry.1, entry.2.wakeReader) }

/-- Gives the next call its number. -/
def count (t : Traffic α) : Traffic α :=
  { t with nextCall := t.nextCall + 1 }

/-! ## Sections -/

variable [PacingNumber α]

/-- A queue that nobody uses yet. -/
def quiet (capacity : Nat) (policy : PacingPolicy α) (start : Nat) : Traffic α where
  queue := .new capacity policy start
  writers := []
  calls := []
  nextCall := 0
  journal := []

/-- The last section of a call to write, or one that finds no room. -/
def attemptWrite (t : Traffic α) (call slot : Nat) (message : Message) : Traffic α :=
  let readers := t.queue.positions.length
  match t.queue.offer slot message with
  | (.closed, queue) => { t with queue := queue }.note [.returned call (.error .closed) readers]
  | (.full, queue) => { t with queue := queue }.park call (.blocked slot message false)
  | (.stored, queue) =>
    ({ t with queue := queue }.note
      [.appended call message, .returned call (.ok ()) readers]).wakeAllReaders
  | (.dropped, queue) => { t with queue := queue }.note [.returned call (.ok ()) readers]

/-- The first section of a call to write, which goes on to the last one unless it has to wait for
the end of an interval. -/
def beginWrite (t : Traffic α) (call slot : Nat) (message : Message) (now checked : Nat) :
    Traffic α :=
  let t := t.note [.begun call slot message]
  match t.queue.beginWrite slot now checked with
  | (.closed, queue) =>
    { t with queue := queue }.note [.returned call (.error .closed) t.queue.positions.length]
  | (.wait milliseconds, queue) =>
    { t with queue := queue }.park call (.paused slot message (checked + milliseconds))
  | (.ready, queue) => { t with queue := queue }.attemptWrite call slot message

/-- A section of a call to read. Without a message it waits, if it waits at all and the queue is not
closed. -/
def attemptRead (t : Traffic α) (call reader : Nat) (kind : ReadKind) (waits : Bool) :
    Traffic α :=
  match t.queue.take reader with
  | (some message, queue) =>
    let next := { t with queue := queue }.note [.given reader message]
    if t.queue.pace.isFull && !queue.pace.isFull then next.wakeAllWriters else next
  | (none, queue) =>
    if waits && !queue.closed then { t with queue := queue }.park call (.starved reader kind false)
    else { t with queue := queue }.note [.nothing reader kind]

/-- One section. -/
def step (t : Traffic α) : Move → Traffic α
  | .attachWriter =>
    { t with queue := t.queue.attachWriter.2, writers := t.queue.attachWriter.1 :: t.writers }
  | .detachWriter slot =>
    if t.writers.contains slot && !t.isWriting slot then
      { t with queue := t.queue.detachWriter slot, writers := t.writers.erase slot }
    else t
  | .attachReader =>
    { t with queue := t.queue.attachReader.2 }.note [.joined t.queue.attachReader.1]
  | .detachReader reader =>
    if t.queue.isRegistered reader && !t.isReading reader then
      ({ t with queue := t.queue.detachReader reader }.note [.left reader]).wakeAllWriters
    else t
  | .write slot message now checked =>
    if t.writers.contains slot then t.count.beginWrite t.nextCall slot message now checked else t
  | .resume call now =>
    match t.activity? call with
    | some (.paused slot message _) =>
      { t.unpark call with queue := t.queue.closeIntervals now }.attemptWrite call slot message
    | _ => t
  | .retryWrite call =>
    match t.activity? call with
    | some (.blocked slot message true) => (t.unpark call).attemptWrite call slot message
    | _ => t
  | .read reader kind =>
    if t.queue.isRegistered reader then
      t.count.attemptRead t.nextCall reader kind (kind != .atOnce)
    else t
  | .retryRead call =>
    match t.activity? call with
    | some (.starved reader kind true) => (t.unpark call).attemptRead call reader kind true
    | _ => t
  | .giveUp call =>
    match t.activity? call with
    | some (.starved reader .timed false) => (t.unpark call).attemptRead call reader .timed false
    | _ => t
  | .close =>
    ({ t.count with queue := t.queue.close }.note [.closed]).park t.nextCall (.closing false)
  | .wakeReaders call =>
    match t.activity? call with
    | some (.closing false) => ((t.unpark call).wakeAllReaders).park call (.closing true)
    | _ => t
  | .wakeWriters call =>
    match t.activity? call with
    | some (.closing true) => (t.unpark call).wakeAllWriters
    | _ => t

/-- Sections one after the other. -/
def run (t : Traffic α) (moves : List Move) : Traffic α :=
  moves.foldl step t

end Traffic

end CollectorFeed
