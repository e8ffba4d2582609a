import CollectorFeed.Session.Basic

/-!
# Messages

What is passed on to those who listen: a BGP message with the session it belongs to, and whether it
came live or from a table dump.
-/

set_option autoImplicit false

namespace CollectorFeed

/-- Where a message comes from. -/
inductive MessageOrigin
  /-- It came live and was relayed by the collector. -/
  | fromPeer
  /-- It was made of a route of a table dump. -/
  | tableTransfer
deriving DecidableEq, Repr

/-- Name of an origin. -/
def MessageOrigin.name : MessageOrigin → String
  | fromPeer => "FromPeer"
  | tableTransfer => "TableTransfer"

/-- A BGP message of a session. -/
structure Message where
  /-- The session it belongs to. -/
  session : SessionId
  /-- Where it comes from. -/
  origin : MessageOrigin
  /-- The message. -/
  octets : Octets
deriving DecidableEq

namespace Message

/-- Octets of a message. -/
def length (message : Message) : Nat :=
  message.octets.length

/-- Whether a message has no octets. -/
def isEmpty (message : Message) : Bool :=
  message.octets.isEmpty

end Message

end CollectorFeed
