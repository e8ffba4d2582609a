import CollectorFeed.Conversation.Surroundings
import CollectorFeed.Rehearsal.Script

/-!
# Rehearsals

The stage of a rehearsal is a table of sessions, a queue with one writer, perhaps somebody who
listens, and a script. Waits take no time; a writer that is paced is put at the end of its interval.
Whoever listens takes every message as soon as it was written, so there is always room for the next
one.
-/

set_option autoImplicit false

namespace CollectorFeed

/-- The state of everything around a conversation. -/
structure Stage where
  /-- The sessions. -/
  sessions : SessionTable
  /-- The queue. -/
  queue : BroadcastQueue Float
  /-- Slot of the conversation's writer. -/
  slot : Nat
  /-- The reader of whoever listens. -/
  listener? : Option Nat
  /-- Messages that the listener took. -/
  received : Array Message
  /-- Milliseconds since the rehearsal began. -/
  clock : Nat
  /-- Whether the conversation was asked to stop. -/
  cancelled : Bool
  /-- What others do. -/
  script : Script
  /-- Lengths of the waits. -/
  slept : Array Nat
  /-- Calls by which the conversation changed sessions. -/
  journal : Array JournalLine

namespace Stage

/-- A stage with sessions, a queue of the given capacity and pacing, and a script. -/
def new (sessions : SessionTable) (capacity : Nat) (pacing : PacingPolicy Float)
    (hasListener : Bool) (script : Script) : Stage :=
  let (slot, queue) := (BroadcastQueue.new capacity pacing 0).attachWriter
  let (listener?, queue) :=
    if hasListener then
      let (reader, queue) := queue.attachReader
      (some reader, queue)
    else (none, queue)
  { sessions := sessions
    queue := queue
    slot := slot
    listener? := listener?
    received := #[]
    clock := 0
    cancelled := false
    script := script
    slept := #[]
    journal := #[] }

/-! ## What others do -/

/-- Somebody asks to stop. -/
def cancel (stage : Stage) : Stage :=
  { stage with cancelled := true }

/-- The queue is closed. -/
def close (stage : Stage) : Stage :=
  { stage with queue := stage.queue.close }

/-- Somebody makes a call on the sessions. -/
def call (stage : Stage) (call : SessionCall) : SessionAnswer × Stage :=
  let (answer, sessions) := stage.sessions.call call
  (answer, { stage with sessions := sessions })

/-- What an intervention does. -/
def intervene (stage : Stage) : Intervention → Stage
  | .session call => (stage.call call).2
  | .cancel => stage.cancel
  | .close => stage.close

/-- The listener takes a message, if there is one. -/
def listenOnce (stage : Stage) : Stage :=
  match stage.listener? with
  | none => stage
  | some reader =>
    match stage.queue.take reader with
    | (some message, queue) =>
      { stage with queue := queue, received := stage.received.push message }
    | (none, queue) => { stage with queue := queue }

/-- The listener takes every message that is there. -/
def listen (stage : Stage) : Stage :=
  match stage.listener? with
  | none => stage
  | some reader => Nat.repeat listenOnce (stage.queue.pending reader) stage

/-- The writer of the conversation goes. -/
def detachWriter (stage : Stage) : Stage :=
  { stage with queue := stage.queue.detachWriter stage.slot }

/-! ## What the conversation does -/

/-- Adds a line to the journal. -/
def note (stage : Stage) (line : JournalLine) : Stage :=
  { stage with journal := stage.journal.push line }

/-- Creates a session. -/
def create (key : SessionKey) (handling : Handling) (width? : Option AsnWidth) (stage : Stage) :
    Except SessionRefusal SessionId × Stage :=
  let (result, sessions) := stage.sessions.create key handling width?
  (result, { stage with sessions := sessions }.note (.create key handling width? result))

/-- Moves a session into a state. -/
def setState (id : SessionId) (state : SessionState) (cause : SessionCause) (stage : Stage) :
    Stage :=
  { stage with sessions := stage.sessions.setState id state cause }.note
    (.setState id state cause)

/-- Notes the width of the AS numbers of a session. -/
def setWidth (id : SessionId) (width : AsnWidth) (stage : Stage) : Stage :=
  { stage with sessions := stage.sessions.setWidth id width }.note (.setWidth id width)

/-- Counts a message that was passed on. -/
def countMessage (id : SessionId) (stage : Stage) : Stage :=
  { stage with sessions := stage.sessions.countMessage id }.note (.countMessage id)

/-- Deletes the routes of a session, unless the script does not let it. -/
def deleteRoutes (id : SessionId) (stage : Stage) : Except SessionRefusal Unit × Stage :=
  let stage := stage.note (.deleteRoutes id)
  if stage.script.unclean.contains id then (.error (.unknownSession id), stage)
  else
    let (result, sessions) := stage.sessions.deleteRoutes id
    (result, { stage with sessions := sessions })

/-- Passes a message on. A queue that nobody will ever make room in counts as closed. -/
def passOn (message : Message) (stage : Stage) : Except QueueRefusal Unit × Stage :=
  let (offer, clock, queue) := stage.queue.write stage.slot stage.clock message
  let stage := { stage with queue := queue, clock := clock }.listen
  match offer with
  | .stored | .dropped => (.ok (), stage)
  | .closed | .full => (.error .closed, stage)

/-- Waits, while others do what the script says. -/
def sleep (milliseconds : Nat) (stage : Stage) : Stage :=
  let noted := { stage with slept := stage.slept.push milliseconds }
  match stage.script.waits with
  | [] => noted
  | first :: rest =>
    first.foldl intervene { noted with script := { stage.script with waits := rest } }

/-- Whether an offset from which others act has been reached. -/
def reached (place? : Option Nat) (touched : Nat) : Bool :=
  match place? with
  | some place => place < touched
  | none => false

/-- Lets others act as far as the stream was read. -/
def observe (touched : Nat) (stage : Stage) : Stage :=
  let stage := if reached stage.script.cancelAt? touched then stage.cancel else stage
  if reached stage.script.closeAt? touched then stage.close else stage

instance : Surroundings Stage where
  find key := fun stage => (stage.sessions.find? key, stage)
  create key handling width? := create key handling width?
  setState id state cause := fun stage => ((), stage.setState id state cause)
  state id := fun stage => (stage.sessions.state? id, stage)
  width id := fun stage => (stage.sessions.width? id, stage)
  setWidth id width := fun stage => ((), stage.setWidth id width)
  countMessage id := fun stage => ((), stage.countMessage id)
  deleteRoutes id := deleteRoutes id
  passOn message := passOn message
  isCancelled := fun stage => (stage.cancelled, stage)
  sleep milliseconds := fun stage => ((), stage.sleep milliseconds)
  observe touched := fun stage => ((), stage.observe touched)

end Stage

end CollectorFeed
