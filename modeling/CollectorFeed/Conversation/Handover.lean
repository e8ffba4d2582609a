import CollectorFeed.Conversation.DumpTransfer
import CollectorFeed.Update.Route

/-!
# Handing a table dump over

The routes of a router can be passed on once a live feed has established its session. Until then the
tables are looked through in rounds with a wait after each one. A table whose session is established
is handed over with the width of that session's AS numbers; if its router had no routes at all, the
routes that the session had from earlier dumps are deleted.

Rounds end when no table has routes, when their number is used up, when somebody asks to stop, or
when the queue takes no more messages. In the first two cases every router that is left over counts
as one without routes.
-/

set_option autoImplicit false

namespace CollectorFeed

variable {ω : Type} [Surroundings ω]

namespace PeerTable

/-- Passes routes on; gives their number, or nothing if the queue takes no messages. A route that
fits no message is left out. -/
def sendRoutes (session : SessionId) (width : AsnWidth) (sent : Nat) :
    List DumpedRoute → StateM ω (Option Nat)
  | [] => return some sent
  | route :: rest =>
    match route.updateMessage width with
    | .error _ => sendRoutes session width sent rest
    | .ok octets => do
      match ← Surroundings.passOn ⟨session, .tableTransfer, octets⟩ with
      | .error _ => return none
      | .ok () =>
        Surroundings.countMessage session
        sendRoutes session width (sent + 1) rest

/-- Hands the routes of a router over. -/
def flush (table : PeerTable) : StateM ω (Option Nat × PeerTable) := do
  let width := (← Surroundings.width table.session).getD .four
  let sent? ← sendRoutes table.session width 0 table.routes.toList
  return (sent?, table.resolve)

/-- Deletes the routes that the session of a router had before. -/
def clean (table : PeerTable) : StateM ω PeerTable := do
  Surroundings.setState table.session .error .manualStop
  let _ ← Surroundings.deleteRoutes table.session
  return table.resolve

end PeerTable

namespace HandoverReport

/-- The report after the routes of a router were handed over. -/
def addFlushed (report : HandoverReport) (sent : Nat) : HandoverReport :=
  { report with
    flushedPeers := report.flushedPeers + 1
    flushedRoutes := report.flushedRoutes + sent }

/-- The report after the routes of a session were deleted. -/
def addCleaned (report : HandoverReport) : HandoverReport :=
  { report with cleanedPeers := report.cleanedPeers + 1 }

/-- The report after a round and the wait behind it. -/
def addRound (report : HandoverReport) : HandoverReport :=
  { report with rounds := report.rounds + 1, sleeps := report.sleeps + 1 }

end HandoverReport

namespace Handover

/-- What became of a table in a round. -/
structure TableVisit where
  /-- Whether the queue takes messages. -/
  isOpen : Bool
  /-- The table afterwards. -/
  table : PeerTable
  /-- The report afterwards. -/
  report : HandoverReport

/-- Looks at one table. -/
def visit (table : PeerTable) (report : HandoverReport) : StateM ω TableVisit := do
  if table.resolved then return ⟨true, table, report⟩
  if (← Surroundings.state table.session) ≠ some SessionState.established then
    return ⟨true, table, report⟩
  if table.isEmpty then
    if table.hasData then return ⟨true, table, report⟩
    let table ← table.clean
    return ⟨true, table, report.addCleaned⟩
  match ← table.flush with
  | (some sent, table) => return ⟨true, table, report.addFlushed sent⟩
  | (none, table) => return ⟨false, table, report⟩

/-- One round over all tables. It breaks off where the queue takes no messages. -/
def round : List PeerTable → HandoverReport → StateM ω (Bool × List PeerTable × HandoverReport)
  | [], report => return (true, [], report)
  | table :: rest, report => do
    let visited ← visit table report
    if visited.isOpen then
      let (isOpen, rest, report) ← round rest visited.report
      return (isOpen, visited.table :: rest, report)
    else return (false, visited.table :: rest, visited.report)

/-- At most so many rounds, each with a wait of so many milliseconds behind it. -/
def rounds (interval : Nat) : Nat → List PeerTable → HandoverReport →
    StateM ω (List PeerTable × HandoverReport)
  | 0, tables, report => return (tables, report)
  | attempts + 1, tables, report => do
    if ← Surroundings.isCancelled then return (tables, { report with cancelled := true })
    if tables.all PeerTable.isEmpty then return (tables, report)
    let (isOpen, tables, report) ← round tables report
    if !isOpen then return (tables, { report with cancelled := true })
    Surroundings.sleep interval
    rounds interval attempts tables report.addRound

/-- Deletes the routes of every session whose router is left over. -/
def sweep : List PeerTable → HandoverReport → StateM ω (List PeerTable × HandoverReport)
  | [], report => return ([], report)
  | table :: rest, report => do
    if table.resolved then
      let (rest, report) ← sweep rest report
      return (table :: rest, report)
    else
      let table ← table.clean
      let (rest, report) ← sweep rest report.addCleaned
      return (table :: rest, report)

/-- Sweeps unless the rounds were broken off or somebody asks to stop. -/
def sweepUnlessCancelled (tables : List PeerTable) (report : HandoverReport) :
    StateM ω (List PeerTable × HandoverReport) := do
  if report.cancelled then return (tables, report)
  if ← Surroundings.isCancelled then return (tables, report)
  sweep tables report

end Handover

namespace DumpTransfer

/-- Hands the tables over. -/
def handOver (dump : DumpTransfer) : StateM ω (HandoverReport × DumpTransfer) := do
  let (tables, report) ←
    Handover.rounds dump.settings.pollInterval dump.settings.pollAttempts dump.tables .zero
  let (tables, report) ← Handover.sweepUnlessCancelled tables report
  return (report,
    { dump with
      phase := .done
      tables := tables
      stats := { dump.stats with handover := report } })

/-! ## Running a table dump -/

/-- How the taking in ended. -/
inductive Intake
  /-- The conversation is broken off. -/
  | brokenOff (reason : FeedError)
  /-- What was committed is handed over; the stream may have failed. -/
  | over (outcome : Except FeedError Unit)

variable {φ : Type} [RecordSupply φ]

/-- Takes records until the taking in ends. The end of the stream, a malformed record and a request
to stop are good ends. -/
def takeRecords (supply : φ) (dump : DumpTransfer) : StateM ω (Intake × φ × DumpTransfer) := do
  if dump.phase ≠ .intake then return (.over (.ok ()), supply, dump)
  if ← Surroundings.isCancelled then return (.over (.ok ()), supply, dump)
  match _read : RecordSupply.next supply with
  | (.error e, supply) =>
    Surroundings.watch supply
    if e.isEndOfFeed then return (.over (.ok ()), supply, dump)
    else return (.over (.error e), supply, dump.dropHeld)
  | (.ok record, supply) =>
    Surroundings.watch supply
    match ← dump.accept record with
    | (.error e, dump) => return (.brokenOff e, supply, dump)
    | (.ok (), dump) => takeRecords supply dump
termination_by RecordSupply.left supply
decreasing_by exact RecordSupply.left_lt_of_next _read

/-- Runs a table dump to its end behind its first record. Gives the counters, how the conversation
ended, and what is left of the supply. -/
def proceed (dump : DumpTransfer) (supply : φ) :
    StateM ω (DumpStats × Except FeedError Unit × φ) := do
  match ← takeRecords supply dump with
  | (.brokenOff e, supply, dump) => return (dump.stats, .error e, supply)
  | (.over outcome, supply, dump) =>
    let (_, dump) ← dump.closeIntake.handOver
    return (dump.stats, outcome, supply)

/-- Runs a table dump to its end, beginning with the given record. -/
def run (dump : DumpTransfer) (first : FramedRecord) (supply : φ) :
    StateM ω (DumpStats × Except FeedError Unit × φ) := do
  match ← dump.accept first with
  | (.error e, dump) => return (dump.stats, .error e, supply)
  | (.ok (), dump) => dump.proceed supply

end DumpTransfer

end CollectorFeed
