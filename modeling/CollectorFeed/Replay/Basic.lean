import CollectorFeed.Conversation.Connection
import CollectorFeed.Rehearsal.Stage
import CollectorFeed.Replay.Options
import CollectorFeed.Settings.Reading

/-!
# Replays

A replay plays a file as if a collector had sent it over a connection, with new sessions, a queue of
its own and somebody who listens. Nobody else is there, so nothing would happen during a wait and
none takes any time.
-/

set_option autoImplicit false

namespace CollectorFeed

/-- Why there is no replay. -/
inductive ReplayError
  /-- There are no settings. -/
  | settings (error : SettingsError)
  /-- The file with the stream could not be read. -/
  | file (name : String) (fault : FileFault)

/-- Text of why there is no replay. -/
def ReplayError.message : ReplayError → String
  | settings error => error.message
  | file name fault => s!"{name}: {fault.message}"

/-- What came of a replay. -/
structure Replay where
  /-- What is known of the connection. -/
  summary : ConnectionReport
  /-- Messages that the listener took. -/
  messages : List Message
  /-- The sessions at the end. -/
  sessions : SessionTable
  /-- How often pacing turned on. -/
  pacingActivations : Nat

namespace Replay

/-- Plays a stream with the given settings. -/
def ofOctets (settings : FeedSettings Float) (octets : Octets) : Replay :=
  let stage := Stage.new (.empty none) settings.capacity settings.pacing true .quiet
  let (summary, stage) := (Connection.run 1 settings (.ofOctets octets)).run stage
  { summary := summary
    messages := stage.received.toList
    sessions := stage.sessions
    pacingActivations := stage.queue.stats.pacingActivations }

/-- The settings of a replay: those of the settings file if one is named, with what the options put
in their place. -/
def settingsFor (options : ReplayOptions) (settingsFile? : Option (Except FileFault Octets)) :
    Except SettingsError (FeedSettings Float) := do
  let settings ← match settingsFile? with
    | none => .ok .usual
    | some file => FeedSettings.ofFile file
  let tableDump := { settings.tableDump with
    pollInterval := options.pollInterval?.getD settings.tableDump.pollInterval }
  { settings with
    capacity := options.capacity?.getD settings.capacity
    tableDump := tableDump }.usable

/-- The replay that is asked for, given what the files hold. Settings come first. -/
def run (options : ReplayOptions) (settingsFile? : Option (Except FileFault Octets))
    (file : Except FileFault Octets) : Except ReplayError Replay :=
  match settingsFor options settingsFile? with
  | .error e => .error (.settings e)
  | .ok settings =>
    match file with
    | .error fault => .error (.file options.file fault)
    | .ok octets => .ok (ofOctets settings octets)

end Replay

end CollectorFeed
