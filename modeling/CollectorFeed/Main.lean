import CollectorFeed.Replay.Report

/-!
# Command line

Reads the files that the command line names, replays the stream, and prints the report.
-/

set_option autoImplicit false

namespace CollectorFeed

/-- What a file holds. -/
def readOctets (name : String) : IO (Except FileFault Octets) := do
  try
    let content ← IO.FS.readBinFile name
    return .ok content.toList
  catch
    | .noFileOrDirectory _ _ _ => return .error .missing
    | e => return .error (.other (toString e))

/-- Replays what the options ask for; gives the exit code. -/
def replay (options : ReplayOptions) : IO UInt32 := do
  let settingsFile? ← options.settingsFile?.mapM readOctets
  match Replay.run options settingsFile? (← readOctets options.file) with
  | .ok replay =>
    for line in replay.report options do
      IO.println line
    return 0
  | .error e =>
    IO.eprintln e.message
    return 1

end CollectorFeed

open CollectorFeed in
/-- The command line. -/
def main (arguments : List String) : IO UInt32 := do
  match ReplayOptions.ofArguments arguments with
  | .ok options => replay options
  | .error e =>
    IO.eprintln e.message
    IO.eprintln ReplayOptions.usage
    return 2
