import CollectorFeed.Conversation.Holdback
import CollectorFeed.Conversation.Surroundings

/-!
# Live feeds

In a live feed every record relays a BGP message as it came from a router. A message is submitted
once the record after it was decoded as well: it is bound to the session of its two ends, which is
created if need be, the session is established, and the message goes into the queue.

A record that cannot be decoded is corrupt. It takes the message that is held with it, and reading
goes on behind a recovery scan. However the feed ends, the message that is still held is submitted,
and every session that was fed is moved into the error state, because its feed has stopped.
-/

set_option autoImplicit false

namespace CollectorFeed

/-! ## Records of a live feed -/

/-- What a record is to a live feed. -/
inductive LiveRecord
  /-- It relays a message. -/
  | message (relayed : RelayedMessage)
  /-- It is known and has nothing to pass on. -/
  | ignored (subtype : RelaySubtype)
  /-- It cannot be decoded. -/
  | corrupt (reason : FeedError)
  /-- It belongs to a table dump, which a live feed cannot carry. -/
  | foreign (reason : FeedError)
deriving DecidableEq

namespace LiveRecord

/-- What the body of a record of relayed messages is to a live feed. -/
def ofDecoded : Except FeedError RelayRecord → LiveRecord
  | .ok (.message relayed) => message relayed
  | .ok (.ignored subtype) => ignored subtype
  | .error e => corrupt e

/-- What a record is to a live feed. -/
def ofRecord (record : FramedRecord) : LiveRecord :=
  match record.header.knownType? with
  | some .relay => ofDecoded (RelayRecord.decode record.header.subtype record.body)
  | some .relayTimed => ofDecoded (RelayRecord.decodeTimed record.header.subtype record.body)
  | some .tableDumpV2 => foreign (.unexpectedType record.header.type)
  | some .tableDump | none => corrupt (.unexpectedType record.header.type)

end LiveRecord

/-! ## The state of a live feed -/

/-- Counters of a live feed. -/
structure LiveStats where
  /-- Records that were taken. -/
  records : Nat
  /-- Messages that went into the queue. -/
  submitted : Nat
  /-- Messages that were dropped because of what came after them. -/
  discarded : Nat
  /-- Records with nothing to pass on. -/
  ignored : Nat
  /-- Records that could not be decoded. -/
  corrupt : Nat
  /-- Messages for which no session could be had. -/
  unbound : Nat
  /-- Sessions that were fed, counted at the end. -/
  sessions : Nat
deriving DecidableEq, Repr

/-- Counters before the first record. -/
def LiveStats.zero : LiveStats :=
  ⟨0, 0, 0, 0, 0, 0, 0⟩

/-- A live feed. -/
structure LiveFeed where
  /-- What is done with the messages of the sessions that it creates. -/
  handling : Handling
  /-- The message that is held. -/
  pending : Holdback RelayedMessage
  /-- Sessions that were fed, by rising numbers. -/
  fed : List SessionId
  /-- Counters. -/
  stats : LiveStats
deriving DecidableEq

/-- How a live feed goes on after a record. -/
inductive LiveStep
  /-- With the next record. -/
  | goOn
  /-- With a recovery scan. -/
  | rescan
  /-- Not at all. -/
  | ended (outcome : Except FeedError Unit)

/-- Adds a session to a list by rising numbers, unless it is there. -/
def insertSession (id : SessionId) : List SessionId → List SessionId
  | [] => [id]
  | first :: rest =>
    if id.number < first.number then id :: first :: rest
    else if id.number = first.number then first :: rest
    else first :: insertSession id rest

namespace LiveFeed

/-- A feed before its first record. -/
def new (handling : Handling) : LiveFeed :=
  ⟨handling, .empty, [], .zero⟩

/-- Drops the message that is held. -/
def dropHeld (feed : LiveFeed) : LiveFeed :=
  match feed.pending.drop with
  | (some _, pending) =>
    { feed with
      pending := pending
      stats := { feed.stats with discarded := feed.stats.discarded + 1 } }
  | (none, pending) => { feed with pending := pending }

/-- The key of the session of a message. -/
def keyOf (relayed : RelayedMessage) : SessionKey :=
  .onBgpPort relayed.peerAsn relayed.localAsn relayed.peerAddress relayed.localAddress

variable {ω : Type} [Surroundings ω]

/-- Moves a session into the established state, unless it is in it. -/
def establish (id : SessionId) : StateM ω Unit := do
  if (← Surroundings.state id) ≠ some SessionState.established then
    Surroundings.setState id .established .none

/-- Notes the width of the AS numbers of a session, unless it is known. -/
def learnWidth (id : SessionId) (width : AsnWidth) : StateM ω Unit := do
  if (← Surroundings.width id).isNone then
    Surroundings.setWidth id width

/-- Submits a message. One for which no session can be had is all that is lost by that; a queue that
takes no messages is an error. -/
def submit (feed : LiveFeed) (relayed : RelayedMessage) :
    StateM ω (Except QueueRefusal Unit × LiveFeed) := do
  match ← Surroundings.findOrCreate (keyOf relayed) feed.handling (some relayed.width) with
  | .error _ =>
    return (.ok (), { feed with stats := { feed.stats with unbound := feed.stats.unbound + 1 } })
  | .ok (id, _) =>
    let feed := { feed with fed := insertSession id feed.fed }
    establish id
    learnWidth id relayed.width
    match ← Surroundings.passOn ⟨id, .fromPeer, relayed.message⟩ with
    | .error e => return (.error e, feed)
    | .ok () =>
      Surroundings.countMessage id
      return (.ok (),
        { feed with stats := { feed.stats with submitted := feed.stats.submitted + 1 } })

/-- Holds a message and submits the one that it confirms. A queue that takes no messages ends the
feed in good order. -/
def hold (feed : LiveFeed) (relayed : RelayedMessage) : StateM ω (LiveStep × LiveFeed) := do
  let (confirmed?, pending) := feed.pending.confirm relayed
  let feed := { feed with pending := pending }
  match confirmed? with
  | none => return (.goOn, feed)
  | some confirmed =>
    match ← feed.submit confirmed with
    | (.ok (), feed) => return (.goOn, feed)
    | (.error _, feed) => return (.ended (.ok ()), feed)

/-- The feed with a record counted; the message that is held is dropped if the record was found by
a recovery scan. -/
def noteRecord (feed : LiveFeed) (record : FramedRecord) : LiveFeed :=
  let feed := { feed with stats := { feed.stats with records := feed.stats.records + 1 } }
  if record.recoveries > 0 then feed.dropHeld else feed

/-- Takes a record. -/
def accept (feed : LiveFeed) (record : FramedRecord) : StateM ω (LiveStep × LiveFeed) := do
  let feed := feed.noteRecord record
  match LiveRecord.ofRecord record with
  | .message relayed => feed.hold relayed
  | .ignored _ =>
    return (.goOn, { feed with stats := { feed.stats with ignored := feed.stats.ignored + 1 } })
  | .corrupt _ =>
    let feed := { feed with stats := { feed.stats with corrupt := feed.stats.corrupt + 1 } }
    return (.rescan, feed.dropHeld)
  | .foreign e => return (.ended (.error e), feed)

/-! ## Running a live feed -/

variable {φ : Type} [RecordSupply φ]

/-- The given record if there is one, otherwise the next record of the supply. -/
def fetch (first? : Option FramedRecord) (supply : φ) : Except FeedError FramedRecord × φ :=
  match first? with
  | some record => (.ok record, supply)
  | none => RecordSupply.next supply

theorem left_of_fetch {first? : Option FramedRecord} {supply after : φ} {record : FramedRecord}
    (fetched : fetch first? supply = (.ok record, after)) :
    RecordSupply.left after < RecordSupply.left supply + first?.toList.length := by
  cases first? with
  | none => exact RecordSupply.left_lt_of_next fetched
  | some given =>
    simp only [fetch, Prod.mk.injEq] at fetched
    simp [fetched.2]

/-- Takes records until the feed ends, beginning with the given one if there is one. The end of the
stream and a request to stop are good ends. -/
def takeRecords (first? : Option FramedRecord) (supply : φ) (feed : LiveFeed) :
    StateM ω (Except FeedError Unit × φ × LiveFeed) := do
  if ← Surroundings.isCancelled then return (.ok (), supply, feed)
  match _fetched : fetch first? supply with
  | (.error e, supply) =>
    Surroundings.watch supply
    if e.isEndOfFeed then return (.ok (), supply, feed)
    else return (.error e, supply, feed.dropHeld)
  | (.ok record, supply) =>
    Surroundings.watch supply
    match ← feed.accept record with
    | (.ended outcome, feed) => return (outcome, supply, feed)
    | (.goOn, feed) => takeRecords none supply feed
    | (.rescan, feed) =>
      match _scanned : RecordSupply.rescan supply with
      | (.error e, supply) =>
        Surroundings.watch supply
        return (.error e, supply, feed)
      | (.ok _, supply) =>
        Surroundings.watch supply
        takeRecords none supply feed
termination_by RecordSupply.left supply + first?.toList.length
decreasing_by
  · have taken := left_of_fetch _fetched
    simpa using taken
  · have taken := left_of_fetch _fetched
    have scanned := RecordSupply.left_le_of_rescan _scanned
    simp only [Option.toList_none, List.length_nil]
    omega

/-- Submits the message that is still held. That the queue takes no messages no longer matters. -/
def submitLast (feed : LiveFeed) : StateM ω LiveFeed := do
  match feed.pending.release with
  | (none, pending) => return { feed with pending := pending }
  | (some relayed, pending) =>
    let (_, feed) ← { feed with pending := pending }.submit relayed
    return feed

/-- Moves sessions into the error state. -/
def markStopped : List SessionId → StateM ω Unit
  | [] => return
  | id :: rest => do
    Surroundings.setState id .error .manualStop
    markStopped rest

/-- Runs a live feed to its end. Gives the counters, how the feed ended, and what is left of the
supply. -/
def run (feed : LiveFeed) (first? : Option FramedRecord) (supply : φ) :
    StateM ω (LiveStats × Except FeedError Unit × φ) := do
  let (outcome, supply, feed) ← takeRecords first? supply feed
  let feed ← feed.submitLast
  markStopped feed.fed
  return ({ feed.stats with sessions := feed.fed.length }, outcome, supply)

end LiveFeed

end CollectorFeed
