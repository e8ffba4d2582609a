import CollectorFeed.Settings
import CollectorFeed.Text.Double
import CollectorFeed.Text.Json
import CollectorFeed.Text.Utf8

/-!
# Reading settings

Settings are read from a JSON text. A group of settings is an object, whose missing fields have
their usual values, or an array of the fields in their order, in which the last ones may be missing.
A field that is not known is passed over; one that is known must not be given twice. A name is
written as a string, or as an object that has it as the key of a null.
-/

set_option autoImplicit false

namespace CollectorFeed

/-! ## What can go wrong -/

/-- Why a file could not be read. -/
inductive FileFault
  /-- There is no such file. -/
  | missing
  /-- It is not a text. -/
  | notText
  /-- Any other reason. -/
  | other (reason : String)
deriving DecidableEq, Repr

/-- Text of why a file could not be read. -/
def FileFault.message : FileFault → String
  | missing => "No such file or directory (os error 2)"
  | notText => "stream did not contain valid UTF-8"
  | other reason => reason

/-- Text of what makes settings unusable. -/
def SettingsFault.message : SettingsFault Float → String
  | noLength min max => s!"min_record_length {min} exceeds max_record_length {max}"
  | weight alpha => "alpha " ++ Double.text alpha ++ " outside [0, 1]"
  | thresholds off on =>
    "off_threshold " ++ Double.text off ++ " above on_threshold " ++ Double.text on
  | interval => "pacing interval must be positive"
  | capacity => "queue capacity must be positive"

/-- Why there are no settings. -/
inductive SettingsError
  /-- Their file could not be read. -/
  | file (fault : FileFault)
  /-- Their text is no JSON, or not that of settings. -/
  | malformed
  /-- They cannot be used. -/
  | unusable (fault : SettingsFault Float)

/-- Text of why there are no settings. -/
def SettingsError.message : SettingsError → String
  | file fault => s!"unable to read config file: {fault.message}"
  | malformed => "unable to parse config"
  | unusable fault => s!"invalid config: {fault.message}"

/-! ## Fields -/

/-- The value of a field that is given at most once. -/
def onceGiven? (fields : List (Option String × Json)) (name : String) : Option (Option Json) :=
  match fields.filter fun field => field.1 = some name with
  | [] => some none
  | [field] => some (some field.2)
  | _ => none

/-- The values of the named fields of a group, in the order of the names. -/
def fieldValues? (names : List String) : Json → Option (List (Option Json))
  | .object fields =>
    if fields.all fun field => field.1.isSome then names.mapM (onceGiven? fields) else none
  | .array items =>
    if items.length ≤ names.length then
      some (items.map some ++ List.replicate (names.length - items.length) none)
    else none
  | _ => none

/-- The value that a reader gives for a field, or the usual one for a missing field. -/
def orUsual {α : Type} (usual : α) (read? : Json → Option α) : Option Json → Option α
  | none => some usual
  | some json => read? json

/-- A whole number of so many bits. -/
def readWord? (bits : Nat) : Json → Option Nat
  | .number numeral => numeral.count?.filter fun count => count < Nat.pow 2 bits
  | _ => none

/-- A double. -/
def readDouble? : Json → Option Float
  | .number numeral => numeral.double?
  | _ => none

/-- A name out of a list of names. -/
def readName? {α : Type} (ofName? : String → Option α) : Json → Option α
  | .string (some name) => ofName? name
  | .object [(some name, .null)] => ofName? name
  | _ => none

/-! ## Groups -/

/-- Accepted lengths of bodies. -/
def LengthLimits.ofJson? (json : Json) : Option LengthLimits := do
  let usual := LengthLimits.usual
  match ← fieldValues? ["max_record_length", "min_record_length"] json with
  | [max?, min?] =>
    let max ← orUsual usual.max.toNat (readWord? 32) max?
    let min ← orUsual usual.min.toNat (readWord? 32) min?
    return ⟨UInt32.ofNat max, UInt32.ofNat min⟩
  | _ => none

/-- Pacing of writers. -/
def PacingPolicy.ofJson? (json : Json) : Option (PacingPolicy Float) := do
  let usual := PacingPolicy.usual
  match ← fieldValues? ["on_threshold", "off_threshold", "alpha", "min_writes_per_interval",
      "interval_ms", "mode"] json with
  | [on?, off?, alpha?, minWrites?, interval?, rule?] =>
    let onThreshold ← orUsual usual.onThreshold readDouble? on?
    let offThreshold ← orUsual usual.offThreshold readDouble? off?
    let alpha ← orUsual usual.alpha readDouble? alpha?
    let minWrites ← orUsual usual.minWrites (readWord? 64) minWrites?
    let interval ← orUsual usual.interval (readWord? 64) interval?
    let rule ← orUsual usual.rule (readName? BudgetRule.ofName?) rule?
    return ⟨onThreshold, offThreshold, alpha, minWrites, interval, rule⟩
  | _ => none

/-- How table dumps are handed over. -/
def DumpSettings.ofJson? (json : Json) : Option DumpSettings := do
  let usual := DumpSettings.usual
  match ← fieldValues? ["local_asn", "bgp_port", "drain_poll_interval_ms", "drain_poll_attempts"]
      json with
  | [asn?, tcpPort?, interval?, attempts?] =>
    let asn ← orUsual usual.localAsn.toNat (readWord? 32) asn?
    let tcpPort ← orUsual usual.tcpPort.toNat (readWord? 16) tcpPort?
    let pollInterval ← orUsual usual.pollInterval (readWord? 64) interval?
    let pollAttempts ← orUsual usual.pollAttempts (readWord? 32) attempts?
    return ⟨UInt32.ofNat asn, UInt16.ofNat tcpPort, pollInterval, pollAttempts⟩
  | _ => none

/-- Capacity of the queue. -/
def capacityOfJson? (json : Json) : Option Nat := do
  match ← fieldValues? ["capacity"] json with
  | [capacity?] => orUsual FeedSettings.usual.capacity (readWord? 64) capacity?
  | _ => none

/-! ## Settings -/

namespace FeedSettings

/-- The settings that a JSON value gives, usable or not. -/
def ofJson? (json : Json) : Option (FeedSettings Float) := do
  match ← fieldValues? ["limits", "pacing", "table_dump", "queue", "label_action"] json with
  | [limits?, pacing?, dump?, queue?, handling?] =>
    let limits ← orUsual usual.limits LengthLimits.ofJson? limits?
    let pacing ← orUsual usual.pacing PacingPolicy.ofJson? pacing?
    let tableDump ← orUsual usual.tableDump DumpSettings.ofJson? dump?
    let capacity ← orUsual usual.capacity capacityOfJson? queue?
    let handling ← orUsual usual.handling (readName? Handling.ofName?) handling?
    return ⟨limits, pacing, tableDump, capacity, handling⟩
  | _ => none

/-- The settings that a text gives, usable or not. -/
def parse? (text : String) : Option (FeedSettings Float) :=
  (Json.parse? text).bind ofJson?

/-- Refuses settings that cannot be used. -/
def usable (settings : FeedSettings Float) : Except SettingsError (FeedSettings Float) :=
  match settings.validate with
  | .ok () => .ok settings
  | .error fault => .error (.unusable fault)

/-- The usable settings that a text gives. -/
def ofText (text : String) : Except SettingsError (FeedSettings Float) :=
  match parse? text with
  | some settings => settings.usable
  | none => .error .malformed

/-- The usable settings that a file gives. -/
def ofFile : Except FileFault Octets → Except SettingsError (FeedSettings Float)
  | .error fault => .error (.file fault)
  | .ok octets =>
    match Utf8.decode? octets with
    | some text => ofText text
    | none => .error (.file .notText)

end FeedSettings

end CollectorFeed
