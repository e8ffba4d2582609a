/-!
# Options of a replay

A replay is asked for on a command line: the file with the stream, and options in any order. An
option's value is the next argument, or stands behind an equals sign. An option that is given must
be known, and none is given twice.
-/

set_option autoImplicit false

namespace CollectorFeed

/-- What a replay is asked for. -/
structure ReplayOptions where
  /-- The file with the stream. -/
  file : String
  /-- The file with the settings, if there is one. -/
  settingsFile? : Option String
  /-- Capacity of the queue in place of that of the settings. -/
  capacity? : Option Nat
  /-- Milliseconds between two rounds in place of those of the settings. -/
  pollInterval? : Option Nat
  /-- Whether the report is JSON. -/
  asJson : Bool
  /-- Whether the report lists the sessions. -/
  withSessions : Bool
deriving DecidableEq, Repr

/-- What is wrong with a command line. -/
inductive UsageError
  /-- It names no file. -/
  | noFile
  /-- It names more than one file. -/
  | secondFile (name : String)
  /-- It has an option that is not known. -/
  | unknownOption (name : String)
  /-- It has an option twice. -/
  | repeatedOption (name : String)
  /-- It ends where a value should stand. -/
  | noValue (name : String)
  /-- It has a value that is none for its option. -/
  | badValue (name value : String)
deriving DecidableEq, Repr

/-- Text of what is wrong with a command line. -/
def UsageError.message : UsageError → String
  | noFile => "no file given"
  | secondFile name => s!"unexpected argument {name}"
  | unknownOption name => s!"unexpected option {name}"
  | repeatedOption name => s!"option {name} given twice"
  | noValue name => s!"no value for option {name}"
  | badValue name value => s!"invalid value {value} for option {name}"

namespace ReplayOptions

/-- How to ask for a replay. -/
def usage : String :=
  "usage: FILE [--config FILE] [--capacity N] [--drain-poll-ms N] [--json] [--sessions]"

/-- The options that take a value. -/
inductive ValueOption
  | settingsFile
  | capacity
  | pollInterval
deriving DecidableEq

/-- The options that take none. -/
inductive Switch
  | json
  | sessions
deriving DecidableEq

/-- The option with a value that has a name. -/
def ValueOption.ofName? : String → Option ValueOption
  | "--config" | "-c" => some settingsFile
  | "--capacity" => some capacity
  | "--drain-poll-ms" => some pollInterval
  | _ => none

/-- The option without a value that has a name. -/
def Switch.ofName? : String → Option Switch
  | "--json" => some json
  | "--sessions" | "-s" => some sessions
  | _ => none

/-- The count that an argument spells, if it is below 2 to the power of 64. -/
def countOf? (text : String) : Option Nat :=
  let digits := text.toList
  if digits ≠ [] ∧ digits.all Char.isDigit then
    (some (digits.foldl (fun count c => count * 10 + (c.toNat - '0'.toNat)) 0)).filter
      fun count => count < UInt64.size
  else none

/-- What was read of a command line. -/
structure Given where
  /-- The file. -/
  file? : Option String
  /-- Options with their values. -/
  values : List (ValueOption × String)
  /-- Options without values. -/
  switches : List Switch

namespace Given

/-- Adds the file. -/
def addFile (given : Given) (name : String) : Except UsageError Given :=
  match given.file? with
  | none => .ok { given with file? := some name }
  | some _ => .error (.secondFile name)

/-- Adds an option without a value. -/
def addSwitch (given : Given) (name : String) (switch : Switch) : Except UsageError Given :=
  if given.switches.contains switch then .error (.repeatedOption name)
  else .ok { given with switches := switch :: given.switches }

/-- The value of an option, if it is given. -/
def value? (given : Given) (option : ValueOption) : Option String :=
  (given.values.find? fun entry => entry.1 = option).map Prod.snd

/-- Adds an option with its value. -/
def addValue (given : Given) (name : String) (option : ValueOption) (value : String) :
    Except UsageError Given :=
  if (given.value? option).isSome then .error (.repeatedOption name)
  else .ok { given with values := (option, value) :: given.values }

/-- The count that is given for an option, if it is given. -/
def count? (given : Given) (name : String) (option : ValueOption) :
    Except UsageError (Option Nat) :=
  match given.value? option with
  | none => .ok none
  | some value =>
    match countOf? value with
    | some count => .ok (some count)
    | none => .error (.badValue name value)

end Given

/-- Splits a long option with a value behind an equals sign. -/
def splitArgument (argument : String) : List String :=
  let name := argument.toList.takeWhile fun c => c ≠ '='
  let rest := argument.toList.drop name.length
  if argument.startsWith "--" ∧ rest ≠ [] then [String.ofList name, String.ofList (rest.drop 1)]
  else [argument]

/-- Reads arguments. -/
def readArguments (given : Given) : List String → Except UsageError Given
  | [] => .ok given
  | argument :: rest =>
    match ValueOption.ofName? argument, Switch.ofName? argument with
    | some option, _ =>
      match rest with
      | [] => .error (.noValue argument)
      | value :: rest => do readArguments (← given.addValue argument option value) rest
    | none, some switch => do readArguments (← given.addSwitch argument switch) rest
    | none, none =>
      if argument.startsWith "-" then .error (.unknownOption argument)
      else do readArguments (← given.addFile argument) rest

/-- What a command line asks for. -/
def ofArguments (arguments : List String) : Except UsageError ReplayOptions := do
  let given ← readArguments ⟨none, [], []⟩ (arguments.flatMap splitArgument)
  let capacity? ← given.count? "--capacity" .capacity
  let pollInterval? ← given.count? "--drain-poll-ms" .pollInterval
  match given.file? with
  | none => .error .noFile
  | some file =>
    return ⟨file, given.value? .settingsFile, capacity?, pollInterval?,
      given.switches.contains .json, given.switches.contains .sessions⟩

end ReplayOptions

end CollectorFeed
