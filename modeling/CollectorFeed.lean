import CollectorFeed.Conversation.StopRequests
import CollectorFeed.Main
import CollectorFeed.Proofs.Broadcast.Consistency
import CollectorFeed.Proofs.Broadcast.Pending
import CollectorFeed.Proofs.Broadcast.Interleaving
import CollectorFeed.Proofs.Broadcast.History
import CollectorFeed.Proofs.Broadcast.Representation
import CollectorFeed.Proofs.Broadcast.Calls
import CollectorFeed.Proofs.Broadcast.Delivery
import CollectorFeed.Proofs.Broadcast.Wakeups
import CollectorFeed.Proofs.Session.Registry
import CollectorFeed.Proofs.Decoding.Errors
import CollectorFeed.Proofs.Decoding.Forms
import CollectorFeed.Proofs.Path.AsNumbers
import CollectorFeed.Proofs.TableDump.Tables
import CollectorFeed.Proofs.TableDump.CommitRule
import CollectorFeed.Proofs.Conversation.Logbook
import CollectorFeed.Proofs.Conversation.Turns
import CollectorFeed.Proofs.Conversation.HeldThroughScan
import CollectorFeed.Proofs.Conversation.Minutes
import CollectorFeed.Proofs.Handover.Course
import CollectorFeed.Proofs.Handover.Settlement
import CollectorFeed.Proofs.Handover.SharedSessions
import CollectorFeed.Proofs.Handover.FirstRound
import CollectorFeed.Proofs.LiveFeed.Conservation
import CollectorFeed.Proofs.LiveFeed.Containment
import CollectorFeed.Proofs.TableDump.Grammar
import CollectorFeed.Proofs.TableDump.Layout
import CollectorFeed.Proofs.TableDump.IndexRoundTrip
import CollectorFeed.Proofs.TableDump.Uptake
import CollectorFeed.Proofs.Conversation.Binding
import CollectorFeed.Proofs.Session.Sharing
import CollectorFeed.Proofs.Update.Reception
import CollectorFeed.Proofs.Update.Rereading
import CollectorFeed.Proofs.Update.Restoration
import CollectorFeed.Proofs.TableDump.Sendable
import CollectorFeed.Proofs.TableDump.EndToEnd
import CollectorFeed.Proofs.Stream.ReadSizes
import CollectorFeed.Proofs.Stream.Slices
import CollectorFeed.Proofs.Stream.RoundTrip
import CollectorFeed.Proofs.Decoding.Accesses
import CollectorFeed.Proofs.Decoding.Soundness
import CollectorFeed.Proofs.Stream.MarkerSearch
import CollectorFeed.Proofs.TableDump.Verdicts
import CollectorFeed.Proofs.LiveFeed.OwnTable
import CollectorFeed.Proofs.LiveFeed.SessionEffects
import CollectorFeed.Proofs.Conversation.Interruptions
import CollectorFeed.Proofs.Handover.Completeness
import CollectorFeed.Proofs.Relay.Outcomes
import CollectorFeed.Proofs.TableDump.IndexSessions
import CollectorFeed.Proofs.Handover.Accounting
import CollectorFeed.Proofs.Pacing.Budget
import CollectorFeed.Proofs.Pacing.Hysteresis
import CollectorFeed.Proofs.Pacing.Allowance
import CollectorFeed.Proofs.Pacing.ExclusiveSlots
import CollectorFeed.Proofs.Pacing.WriteBehind
import CollectorFeed.Proofs.Net.RoundTrip
import CollectorFeed.Proofs.Path.RoundTrip
