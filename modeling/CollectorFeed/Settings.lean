import CollectorFeed.Queue.Pacing
import CollectorFeed.Record.Header

/-!
# Settings of a feed

The numbers that a feed is run with, their usual values, and what makes them unusable. Of several
things that make settings unusable the first one in a fixed order is reported: lengths of bodies,
weight of the average, thresholds of pacing, length of an interval, capacity of the queue.
-/

set_option autoImplicit false

namespace CollectorFeed

/-- How table dumps are handed over. -/
structure DumpSettings where
  /-- AS number of the collector in the keys of sessions. -/
  localAsn : UInt32
  /-- TCP port of both ends in the keys of sessions. -/
  tcpPort : UInt16
  /-- Milliseconds between two rounds. -/
  pollInterval : Nat
  /-- Greatest number of rounds. -/
  pollAttempts : Nat
deriving DecidableEq, Repr

/-- Everything a feed is run with. -/
structure FeedSettings (α : Type) where
  /-- Accepted lengths of bodies. -/
  limits : LengthLimits
  /-- Pacing of writers. -/
  pacing : PacingPolicy α
  /-- How table dumps are handed over. -/
  tableDump : DumpSettings
  /-- Messages the queue is meant to keep. -/
  capacity : Nat
  /-- What is done with the messages of new sessions. -/
  handling : Handling
deriving BEq

/-! ## Usual values -/

/-- From a bare BGP message behind the header of a relayed message to the longest BGP message behind
a record header. -/
def LengthLimits.usual : LengthLimits where
  max := 4096 + 12
  min := 19 + 16

/-- The TCP port is that of BGP; six rounds follow each other every half minute. -/
def DumpSettings.usual : DumpSettings where
  localAsn := 6447
  tcpPort := bgpPort
  pollInterval := 30000
  pollAttempts := 6

/-- Pacing starts at four fifths and stops below three fifths of the capacity. -/
def PacingPolicy.usual : PacingPolicy Float where
  onThreshold := 0.8
  offThreshold := 0.6
  alpha := 0.5
  minWrites := 10
  interval := 10000
  rule := .perWriter

/-- The usual settings. -/
def FeedSettings.usual : FeedSettings Float where
  limits := .usual
  pacing := .usual
  tableDump := .usual
  capacity := 100000
  handling := .label

/-! ## Unusable settings -/

/-- What makes settings unusable. -/
inductive SettingsFault (α : Type)
  /-- No length of a body is accepted. -/
  | noLength (min max : UInt32)
  /-- The weight is not a share of one. -/
  | weight (alpha : α)
  /-- Pacing would stop above the filling at which it starts. -/
  | thresholds (off on : α)
  /-- Intervals have no length. -/
  | interval
  /-- The queue keeps no message. -/
  | capacity

variable {α : Type} [PacingNumber α]

/-- Refuses bounds that accept no length. -/
def LengthLimits.validate (limits : LengthLimits) : Except (SettingsFault α) Unit :=
  if limits.max < limits.min then .error (.noLength limits.min limits.max) else .ok ()

/-- Refuses numbers with which pacing cannot work. -/
def PacingPolicy.validate (policy : PacingPolicy α) : Except (SettingsFault α) Unit := do
  let share := PacingNumber.atLeast policy.alpha (PacingNumber.ofCount 0) &&
    PacingNumber.atLeast (PacingNumber.ofCount 1) policy.alpha
  if !share then throw (.weight policy.alpha)
  if PacingNumber.below policy.onThreshold policy.offThreshold then
    throw (.thresholds policy.offThreshold policy.onThreshold)
  if policy.interval = 0 then throw .interval

/-- Refuses unusable settings. -/
def FeedSettings.validate (settings : FeedSettings α) : Except (SettingsFault α) Unit := do
  settings.limits.validate
  settings.pacing.validate
  if settings.capacity = 0 then throw .capacity

end CollectorFeed
