import CollectorFeed.Queue.PacingNumber

/-!
# Pacing of writers

A queue that fills up slows its writers down. Pacing turns on when a writer finds the queue filled
to one share of its capacity, and off when a reader leaves it filled below a lower share. While it
is on, a writer that has used up its budget waits for the end of the current interval.

Intervals follow each other without gaps. At the end of each one the budget is computed anew, from
what readers took or from what writers wrote, smoothed with the budgets before.

The state holds two positions in the endless row of messages: the head, in front of which all
messages are released, and the tail, at which the next one is put.
-/

set_option autoImplicit false

namespace CollectorFeed

/-- How the budget of a writer is computed. -/
inductive BudgetRule
  /-- Each writer has an equal share of what readers take. -/
  | perWriter
  /-- All writers together have what they wrote on average. -/
  | writeBehind
deriving DecidableEq, Repr

/-- Name of a rule. -/
def BudgetRule.name : BudgetRule → String
  | perWriter => "PerWriter"
  | writeBehind => "WriteBehind"

/-- The rule with a name, if there is one. -/
def BudgetRule.ofName? : String → Option BudgetRule
  | "PerWriter" => some perWriter
  | "WriteBehind" => some writeBehind
  | _ => none

/-- The numbers that pacing is set up with. -/
structure PacingPolicy (α : Type) where
  /-- Share of the capacity at which pacing turns on. -/
  onThreshold : α
  /-- Share of the capacity below which pacing turns off. -/
  offThreshold : α
  /-- Weight of the newest interval in an average. -/
  alpha : α
  /-- Least budget of an interval. -/
  minWrites : Nat
  /-- Milliseconds of an interval. -/
  interval : Nat
  /-- How budgets are computed. -/
  rule : BudgetRule
deriving BEq

/-- Counters of a queue. -/
structure PaceState (α : Type) where
  /-- Position of the oldest message that is kept. -/
  head : Nat
  /-- Position at which the next message is put. -/
  tail : Nat
  /-- How many messages the queue is meant to keep. -/
  capacity : Nat
  /-- The numbers that pacing is set up with. -/
  policy : PacingPolicy α
  /-- Writes of the current interval in each writer's slot; a free slot has none. -/
  writes : List (Option Nat)
  /-- Reads of the current interval. -/
  reads : Nat
  /-- Number of readers. -/
  readers : Nat
  /-- Budget of each writer for an interval. -/
  limit : α
  /-- Whether pacing is on. -/
  active : Bool
  /-- How often pacing turned on. -/
  activations : Nat
  /-- Time at which the current interval began, in milliseconds. -/
  intervalStart : Nat
  /-- Average of the writes of an interval. -/
  average : α
  /-- Writes of the current interval by all writers. -/
  intervalWrites : Nat
  /-- Where a reader would be that keeps up with the average. -/
  idealPosition : Nat

namespace PaceState

variable {α : Type} [PacingNumber α]

open PacingNumber

/-- Counters of a new queue. -/
def new (capacity : Nat) (policy : PacingPolicy α) (now : Nat) : PaceState α where
  head := 0
  tail := 0
  capacity := capacity
  policy := policy
  writes := []
  reads := 0
  readers := 0
  limit := ofCount policy.minWrites
  active := false
  activations := 0
  intervalStart := now
  average := ofCount 0
  intervalWrites := 0
  idealPosition := 0

/-! ## What the counters say -/

/-- Number of messages that are kept. -/
def occupancy (s : PaceState α) : Nat :=
  s.tail - s.head

/-- Whether there is no room for another message. -/
def isFull (s : PaceState α) : Bool :=
  s.capacity ≤ s.occupancy

/-- Share of the capacity that is filled. -/
def filling (s : PaceState α) : α :=
  div (ofCount s.occupancy) (ofCount s.capacity)

/-- Number of writers. -/
def writers (s : PaceState α) : Nat :=
  (s.writes.filter Option.isSome).length

/-- Writes of the current interval in a slot. -/
def written (s : PaceState α) (slot : Nat) : Nat :=
  (s.writes[slot]?.join).getD 0

/-! ## Writers and readers -/

/-- Gives a new writer the first free slot, or a slot of its own. -/
def addWriter (s : PaceState α) : Nat × PaceState α :=
  let slot := (s.writes.takeWhile Option.isSome).length
  (slot, { s with writes := if slot < s.writes.length then s.writes.set slot (some 0)
                            else s.writes ++ [some 0] })

/-- Frees the slot of a writer. -/
def removeWriter (s : PaceState α) (slot : Nat) : PaceState α :=
  { s with writes := s.writes.set slot none }

/-- Counts a new reader. -/
def addReader (s : PaceState α) : PaceState α :=
  { s with readers := s.readers + 1 }

/-- Stops counting a reader. -/
def removeReader (s : PaceState α) : PaceState α :=
  { s with readers := s.readers - 1 }

/-- Counts a write of the writer in a slot. -/
def noteWrite (s : PaceState α) (slot : Nat) : PaceState α :=
  { s with
    writes := s.writes.modify slot (Option.map (· + 1))
    intervalWrites := s.intervalWrites + 1
    tail := s.tail + 1 }

/-- Counts a read. -/
def noteRead (s : PaceState α) : PaceState α :=
  { s with reads := s.reads + 1 }

/-! ## Ends of intervals -/

/-- A smoothed number: the old one and the newest sample, weighted. -/
def smooth (s : PaceState α) (old sample : α) : α :=
  add (mul (sub (ofCount 1) s.policy.alpha) old) (mul s.policy.alpha sample)

/-- Reads of the current interval for each reader and writer. -/
def shareOfReads (s : PaceState α) : α :=
  div (div (ofCount s.reads) (ofCount s.readers)) (ofCount s.writers)

/-- Half of the free space. -/
def halfFree (s : PaceState α) : Nat :=
  (s.capacity - s.occupancy) / 2

/-- Computes the budget anew: smoothed, at most half of the free space, at least the least budget.
Without readers or without writers it stays as it is. -/
def recomputeLimit (s : PaceState α) : PaceState α :=
  if s.readers = 0 ∨ s.writers = 0 then s
  else
    let smoothed := smooth s s.limit s.shareOfReads
    let capped := lesser smoothed (ofCount s.halfFree)
    { s with limit := greater capped (ofCount s.policy.minWrites) }

/-- Takes the writes of the current interval into the average. An average of zero begins anew with
the writes themselves. -/
def foldAverage (s : PaceState α) : PaceState α :=
  let sample := ofCount s.intervalWrites
  { s with average := if isZero s.average then sample else smooth s s.average sample }

/-- Moves the ideal position on by the average, but not past the tail. Positions are counted in 64
bits. -/
def advanceIdeal (s : PaceState α) : PaceState α :=
  { s with idealPosition := min ((s.idealPosition + wholePart s.average) % UInt64.size) s.tail }

/-- Ends the current interval and begins the next one. -/
def closeInterval (s : PaceState α) : PaceState α :=
  let s := { s with intervalStart := s.intervalStart + s.policy.interval }
  match s.policy.rule with
  | .perWriter =>
    { s.recomputeLimit with reads := 0, writes := s.writes.map (Option.map fun _ => 0) }
  | .writeBehind => { s.advanceIdeal.foldAverage with intervalWrites := 0 }

/-- Number of intervals that have ended at a time. An interval of no length never ends. -/
def endedIntervals (s : PaceState α) (now : Nat) : Nat :=
  (now - s.intervalStart) / s.policy.interval

/-- Ends every interval that has ended at a time. -/
def closeIntervals (s : PaceState α) (now : Nat) : PaceState α :=
  Nat.repeat closeInterval (s.endedIntervals now) s

/-! ## Pacing on and off -/

/-- Turns pacing on if the queue is filled far enough. -/
def noticeFilling (s : PaceState α) : PaceState α :=
  if atLeast s.filling s.policy.onThreshold then
    { s with active := true, activations := if s.active then s.activations else s.activations + 1 }
  else s

/-- Whether the writer in a slot has used up its budget. -/
def overBudget (s : PaceState α) (slot : Nat) : Bool :=
  match s.policy.rule with
  | .perWriter => atLeast (ofCount (s.written slot)) s.limit
  | .writeBehind =>
    atLeast (ofCount s.intervalWrites) (greater s.average (ofCount s.policy.minWrites))

/-- Time to the end of the current interval, unless that lies in the past. -/
def untilIntervalEnd? (s : PaceState α) (now : Nat) : Option Nat :=
  if now ≤ s.intervalStart + s.policy.interval then
    some (s.intervalStart + s.policy.interval - now)
  else none

/-- Turns pacing on where called for, and says how long the writer in a slot has to wait before it
writes, if it has to. -/
def pace (s : PaceState α) (slot now : Nat) : Option Nat × PaceState α :=
  let s := s.noticeFilling
  (if s.active && s.overBudget slot then s.untilIntervalEnd? now else none, s)

/-- Turns pacing off if the queue is filled little enough. -/
def noticeEmptying (s : PaceState α) : PaceState α :=
  if s.active && below s.filling s.policy.offThreshold then { s with active := false } else s

end PaceState

end CollectorFeed
