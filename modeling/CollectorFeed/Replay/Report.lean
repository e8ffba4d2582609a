import CollectorFeed.Replay.Basic
import CollectorFeed.Text.JsonLine

/-!
# Reports of replays

The report of a replay is a few lines of text, or one line of JSON whose fields are in the order of
their names. Messages are counted by where they come from, and an origin without messages is not
mentioned.
-/

set_option autoImplicit false

namespace CollectorFeed

/-- How a report names an origin. -/
def MessageOrigin.reportName : MessageOrigin → String
  | fromPeer => "from_peer"
  | tableTransfer => "table_transfer"

/-- Messages of one origin. -/
structure OriginCount where
  /-- The origin. -/
  origin : MessageOrigin
  /-- Their number. -/
  messages : Nat
  /-- Their octets. -/
  octets : Nat
deriving DecidableEq

namespace Replay

/-- The error that ended the connection, if one did. -/
def error? (replay : Replay) : Option FeedError :=
  match replay.summary.outcome with
  | .ok () => none
  | .error e => some e

/-- Messages of one origin. -/
def countOrigin (replay : Replay) (origin : MessageOrigin) : OriginCount :=
  let messages := replay.messages.filter fun message => message.origin = origin
  ⟨origin, messages.length, messages.foldr (fun message rest => message.length + rest) 0⟩

/-- The origins that have messages. -/
def counts (replay : Replay) : List OriginCount :=
  ([MessageOrigin.fromPeer, .tableTransfer].map replay.countOrigin).filter fun count =>
    count.messages ≠ 0

/-! ## Text -/

/-- A text with blanks behind it up to a width. -/
def padded (width : Nat) (text : String) : String :=
  text ++ String.ofList (List.replicate (width - text.length) ' ')

/-- A line with a name and what it says. -/
def titled (title what : String) : String :=
  padded 14 (title ++ ":") ++ " " ++ what

/-- The line of an origin. -/
def countLine (count : OriginCount) : String :=
  titled count.origin.reportName s!"{count.messages} messages, {count.octets} bytes"

/-- The line of a session. -/
def sessionLine (session : SessionId × SessionFacts) : String :=
  let (id, record) := session
  s!"{id.text} {record.key.text} {record.state.name} {record.messages} messages"

/-- The lines of a report. -/
def lines (replay : Replay) (withSessions : Bool) : List String :=
  [titled "records read" (toString replay.summary.recordsRead),
    titled "recoveries" (toString replay.summary.recoveries)] ++
    replay.counts.map countLine ++
    (match replay.error? with
      | some e => [titled "ended with" e.message]
      | none => []) ++
    if withSessions then replay.sessions.sessions.map sessionLine else []

/-! ## JSON -/

open Json (ofCount ofText ofFields)

/-- What a connection carried. -/
def carriedJson : Carried → Json
  | .empty => ofFields [("type", ofText "empty")]
  | .live stats =>
    ofFields [("type", ofText "update_stream"), ("records", ofCount stats.records),
      ("submitted", ofCount stats.submitted), ("discarded", ofCount stats.discarded),
      ("ignored", ofCount stats.ignored), ("corrupt", ofCount stats.corrupt),
      ("sessions", ofCount stats.sessions)]
  | .tableDump stats =>
    ofFields [("type", ofText "table_dump"), ("records", ofCount stats.records),
      ("committed_routes", ofCount stats.committedRoutes),
      ("discarded_batches", ofCount stats.discardedBatches),
      ("skipped_records", ofCount stats.skippedRecords),
      ("flushed_peers", ofCount stats.handover.flushedPeers),
      ("flushed_routes", ofCount stats.handover.flushedRoutes),
      ("cleaned_peers", ofCount stats.handover.cleanedPeers),
      ("drain_rounds", ofCount stats.handover.rounds)]

/-- A session. -/
def sessionJson (session : SessionId × SessionFacts) : Json :=
  let (id, record) := session
  ofFields [("id", ofCount id.number), ("peer_asn", ofCount record.key.peerAsn.toNat),
    ("peer_addr", ofText record.key.peerAddress.text),
    ("local_asn", ofCount record.key.localAsn.toNat),
    ("local_addr", ofText record.key.localAddress.text), ("state", ofText record.state.name),
    ("messages", ofCount record.messages)]

/-- Messages of an origin, under its name. -/
def countField (count : OriginCount) : String × Json :=
  (count.origin.reportName,
    ofFields [("count", ofCount count.messages), ("bytes", ofCount count.octets)])

/-- The sessions, if they are asked for. -/
def sessionsField (replay : Replay) (withSessions : Bool) : List (String × Json) :=
  if withSessions then [("sessions", .array (replay.sessions.sessions.map sessionJson))] else []

/-- The report as a value. -/
def json (replay : Replay) (withSessions : Bool) : Json :=
  ofFields <|
    [("records_read", ofCount replay.summary.recordsRead),
      ("recoveries", ofCount replay.summary.recoveries),
      ("error", (replay.error?.map fun e => ofText e.message).getD .null),
      ("conversation", carriedJson replay.summary.carried),
      ("messages", ofFields (replay.counts.map countField)),
      ("pacing_activations", ofCount replay.pacingActivations)] ++
      replay.sessionsField withSessions

/-- The report in the form that is asked for. -/
def report (replay : Replay) (options : ReplayOptions) : List String :=
  if options.asJson then [(replay.json options.withSessions).line]
  else replay.lines options.withSessions

end Replay

end CollectorFeed
