import CollectorFeed.Conversation.Supply
import CollectorFeed.Queue.Broadcast

/-!
# The surroundings of a conversation

While it runs a conversation deals with the sessions, the queue, those who may ask it to stop, and
the clock. All of that is the state of its surroundings, which it changes and asks only through the
calls given here. Nothing is assumed about what happens between two calls: the answer to each one
may depend on whatever others did in the meantime.
-/

set_option autoImplicit false

namespace CollectorFeed

/-- States of the surroundings, with the calls that a conversation makes. -/
class Surroundings (ω : Type) where
  /-- The session of a key. -/
  find : SessionKey → StateM ω (Option SessionId)
  /-- Creates a session. -/
  create : SessionKey → Handling → Option AsnWidth → StateM ω (Except SessionRefusal SessionId)
  /-- Moves a session into a state. -/
  setState : SessionId → SessionState → SessionCause → StateM ω Unit
  /-- The state of a session. -/
  state : SessionId → StateM ω (Option SessionState)
  /-- The width of the AS numbers of a session, if it is known. -/
  width : SessionId → StateM ω (Option AsnWidth)
  /-- Notes the width of the AS numbers of a session. -/
  setWidth : SessionId → AsnWidth → StateM ω Unit
  /-- Counts a message that was passed on. -/
  countMessage : SessionId → StateM ω Unit
  /-- Deletes the routes of a session. -/
  deleteRoutes : SessionId → StateM ω (Except SessionRefusal Unit)
  /-- Passes a message on, which may mean waiting for room. -/
  passOn : Message → StateM ω (Except QueueRefusal Unit)
  /-- Whether the conversation was asked to stop. -/
  isCancelled : StateM ω Bool
  /-- Waits so many milliseconds, or until asked to stop. -/
  sleep : Nat → StateM ω Unit
  /-- Lets others see how far the stream was read: one more than the offset at which octets were
  last asked for. -/
  observe : Nat → StateM ω Unit

namespace Surroundings

variable {ω : Type} [Surroundings ω]

/-- The session of a key, created if there is none; says whether it is new. -/
def findOrCreate (key : SessionKey) (handling : Handling) (width? : Option AsnWidth) :
    StateM ω (Except SessionRefusal (SessionId × Bool)) := do
  match ← find key with
  | some id => return .ok (id, false)
  | none =>
    match ← create key handling width? with
    | .ok id => return .ok (id, true)
    | .error e => return .error e

/-- Lets others see how far a supply has read its stream. -/
def watch {φ : Type} [RecordSupply φ] (supply : φ) : StateM ω Unit :=
  observe (RecordSupply.touched supply)

end Surroundings

end CollectorFeed
