import CollectorFeed.Session.Basic

/-!
# The session table

The table keeps what is known of every session. Sessions are numbered from one in the order in which
they were created, and no two of them have the same key. A session is never removed, and a limit may
be set on their number.

Main statements: a created session is found by its key (`find?_create`), and a refused creation
leaves the table as it was (`create_of_error`).
-/

set_option autoImplicit false

namespace CollectorFeed

/-- What is known of a session. -/
structure SessionFacts where
  /-- The two ends. -/
  key : SessionKey
  /-- What receivers do with its messages. -/
  label : Handling
  /-- Width of its AS numbers, once it is known. -/
  width? : Option AsnWidth
  /-- How far the session has come. -/
  state : SessionState
  /-- What brought it there. -/
  lastCause : SessionCause
  /-- Messages that were passed on. -/
  messages : Nat
  /-- How often its routes were deleted. -/
  cleanings : Nat
deriving DecidableEq

/-- The sessions, in the order of their numbers. -/
structure SessionTable where
  /-- What is known of session `n + 1`, at place `n`. -/
  known : List SessionFacts
  /-- Greatest number of sessions, if there is one. -/
  limit? : Option Nat
deriving DecidableEq

namespace SessionTable

/-- A table without sessions. -/
def empty (limit? : Option Nat) : SessionTable :=
  ⟨[], limit?⟩

/-- Number of sessions. -/
def size (table : SessionTable) : Nat :=
  table.known.length

/-- The number of the session at a place. -/
def idAt (place : Nat) : SessionId :=
  ⟨place + 1⟩

/-- The place of what is known of a session, if it can have one. -/
def placeOf? (id : SessionId) : Option Nat :=
  if id.number = 0 then none else some (id.number - 1)

/-- What is known of a session, if there is one. -/
def get? (table : SessionTable) (id : SessionId) : Option SessionFacts :=
  (placeOf? id).bind fun place => table.known[place]?

/-- All sessions in the order of their numbers. -/
def sessions (table : SessionTable) : List (SessionId × SessionFacts) :=
  table.known.mapIdx fun place facts => (idAt place, facts)

/-- The session of a key. -/
def find? (table : SessionTable) (key : SessionKey) : Option SessionId :=
  (table.known.findIdx? fun facts => facts.key == key).map idAt

/-- Whether no session can be created. -/
def isFull (table : SessionTable) : Bool :=
  match table.limit? with
  | some limit => limit ≤ table.size
  | none => false

/-- What is known of a new session. -/
def newFacts (key : SessionKey) (handling : Handling) (width? : Option AsnWidth) :
    SessionFacts where
  key := key
  label := handling
  width? := width?
  state := .provisional
  lastCause := .none
  messages := 0
  cleanings := 0

/-- Creates a session; refused if there is one of the key, or if the table is full. -/
def create (table : SessionTable) (key : SessionKey) (handling : Handling)
    (width? : Option AsnWidth) : Except SessionRefusal SessionId × SessionTable :=
  match table.find? key with
  | some id => (.error (.alreadyExists id key), table)
  | none =>
    if table.isFull then (.error (.tableFull (table.limit?.getD 0)), table)
    else
      (.ok (idAt table.size),
        { table with known := table.known ++ [newFacts key handling width?] })

/-- Changes what is known of one session; a number without a session changes nothing. -/
def update (table : SessionTable) (id : SessionId) (change : SessionFacts → SessionFacts) :
    SessionTable :=
  match placeOf? id with
  | some place => { table with known := table.known.modify place change }
  | none => table

/-- Moves a session into a state. -/
def setState (table : SessionTable) (id : SessionId) (state : SessionState)
    (cause : SessionCause) : SessionTable :=
  table.update id fun facts => { facts with state := state, lastCause := cause }

/-- State of a session. -/
def state? (table : SessionTable) (id : SessionId) : Option SessionState :=
  (table.get? id).map SessionFacts.state

/-- Width of the AS numbers of a session, if it is known. -/
def width? (table : SessionTable) (id : SessionId) : Option AsnWidth :=
  (table.get? id).bind SessionFacts.width?

/-- Notes the width of the AS numbers of a session. -/
def setWidth (table : SessionTable) (id : SessionId) (width : AsnWidth) : SessionTable :=
  table.update id fun facts => { facts with width? := some width }

/-- Counts a message that was passed on. -/
def countMessage (table : SessionTable) (id : SessionId) : SessionTable :=
  table.update id fun facts => { facts with messages := facts.messages + 1 }

/-- Deletes the routes of a session; refused for a number without a session. -/
def deleteRoutes (table : SessionTable) (id : SessionId) :
    Except SessionRefusal Unit × SessionTable :=
  match table.get? id with
  | some _ =>
    (.ok (), table.update id fun facts => { facts with cleanings := facts.cleanings + 1 })
  | none => (.error (.unknownSession id), table)

/-! ## Creation -/

/-- A created session is found by its key. -/
theorem find?_create {table after : SessionTable} {key : SessionKey} {handling : Handling}
    {width? : Option AsnWidth} {id : SessionId}
    (created : table.create key handling width? = (.ok id, after)) : after.find? key = some id := by
  unfold create at created
  split at created
  · simp at created
  · rename_i absent
    split at created
    · simp at created
    · simp only [Prod.mk.injEq, Except.ok.injEq] at created
      obtain ⟨rfl, rfl⟩ := created
      have none_before : table.known.findIdx? (fun facts => facts.key == key) = none := by
        simpa [find?] using absent
      simp [find?, List.findIdx?_append, none_before, newFacts, size, idAt]

/-- A refused creation leaves the table as it was. -/
theorem create_of_error {table after : SessionTable} {key : SessionKey} {handling : Handling}
    {width? : Option AsnWidth} {e : SessionRefusal}
    (refused : table.create key handling width? = (.error e, after)) : after = table := by
  unfold create at refused
  split at refused
  · simp only [Prod.mk.injEq] at refused
    exact refused.2.symm
  · split at refused
    · simp only [Prod.mk.injEq] at refused
      exact refused.2.symm
    · simp at refused

end SessionTable

/-! ## Calls -/

/-- A call on the session table. -/
inductive SessionCall
  | find (key : SessionKey)
  | create (key : SessionKey) (handling : Handling) (width? : Option AsnWidth)
  | setState (id : SessionId) (state : SessionState) (cause : SessionCause)
  | state (id : SessionId)
  | width (id : SessionId)
  | setWidth (id : SessionId) (width : AsnWidth)
  | countMessage (id : SessionId)
  | deleteRoutes (id : SessionId)
  | get (id : SessionId)
deriving DecidableEq

/-- What a call on the session table answers. -/
inductive SessionAnswer
  | done
  | id (id? : Option SessionId)
  | state (state? : Option SessionState)
  | width (width? : Option AsnWidth)
  | facts (found? : Option (SessionId × SessionFacts))
  | refused (error : SessionRefusal)
deriving DecidableEq

/-- Makes a call on the session table. -/
def SessionTable.call (table : SessionTable) : SessionCall → SessionAnswer × SessionTable
  | .find key => (.id (table.find? key), table)
  | .create key handling width? =>
    match table.create key handling width? with
    | (.ok id, table) => (.id (some id), table)
    | (.error e, table) => (.refused e, table)
  | .setState id state cause => (.done, table.setState id state cause)
  | .state id => (.state (table.state? id), table)
  | .width id => (.width (table.width? id), table)
  | .setWidth id width => (.done, table.setWidth id width)
  | .countMessage id => (.done, table.countMessage id)
  | .deleteRoutes id =>
    match table.deleteRoutes id with
    | (.ok (), table) => (.done, table)
    | (.error e, table) => (.refused e, table)
  | .get id => (.facts ((table.get? id).map fun facts => (id, facts)), table)

end CollectorFeed
