import CollectorFeed.Conversation.Handover
import CollectorFeed.Conversation.LiveFeed

/-!
# Connections

A collector connects and sends one stream of records. The first record decides what the stream is: a
record of a table dump opens a table dump, any other one a live feed. A stream that ends before its
first record carries nothing.
-/

set_option autoImplicit false

namespace CollectorFeed

/-- What a connection carried. -/
inductive Carried
  /-- Nothing. -/
  | empty
  /-- A live feed. -/
  | live (stats : LiveStats)
  /-- A table dump. -/
  | tableDump (stats : DumpStats)
deriving DecidableEq

/-- What is known of a connection after its end. -/
structure ConnectionReport where
  /-- Number of the connection. -/
  number : Nat
  /-- What it carried. -/
  carried : Carried
  /-- Records that were read. -/
  recordsRead : Nat
  /-- Recovery scans that were begun. -/
  recoveries : Nat
  /-- Whether it was asked to stop. -/
  cancelled : Bool
  /-- The error that ended it, if one did. -/
  outcome : Except FeedError Unit

namespace Connection

variable {ω φ : Type} [Surroundings ω] [RecordSupply φ]

/-- Carries on the conversation that a record opens. -/
def converse {α : Type} (settings : FeedSettings α) (first : FramedRecord) (supply : φ) :
    StateM ω (Carried × Except FeedError Unit × φ) := do
  if first.header.knownType? = some .tableDumpV2 then
    let dump := DumpTransfer.new settings.tableDump settings.handling
    let (stats, outcome, supply) ← dump.run first supply
    return (.tableDump stats, outcome, supply)
  else
    let feed := LiveFeed.new settings.handling
    let (stats, outcome, supply) ← feed.run (some first) supply
    return (.live stats, outcome, supply)

/-- Carries on the conversation of a supply. -/
def carry {α : Type} (settings : FeedSettings α) (supply : φ) :
    StateM ω (Carried × Except FeedError Unit × φ) := do
  let (result, supply) := RecordSupply.next supply
  Surroundings.watch supply
  match result with
  | .ok first => converse settings first supply
  | .error e =>
    return (.empty, if e.isEndOfFeed then .ok () else .error e, supply)

/-- Runs a connection to the end of its stream. -/
def run {α : Type} (number : Nat) (settings : FeedSettings α) (source : Source) :
    StateM ω ConnectionReport := do
  let (carried, outcome, framer) ← carry settings (Framer.ofSource source settings.limits)
  let cancelled ← Surroundings.isCancelled
  return ⟨number, carried, framer.recordsRead, framer.recoveries, cancelled, outcome⟩

end Connection

end CollectorFeed
