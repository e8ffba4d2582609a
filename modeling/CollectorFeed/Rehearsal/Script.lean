import CollectorFeed.Session.Table

/-!
# Scripts of rehearsals

A rehearsal runs a conversation with everything around it in memory. Its script says what others do
in the meantime: when somebody asks to stop, when the queue is closed, which sessions cannot have
their routes deleted, and what happens during each wait. The journal keeps the calls by which the
conversation changes sessions.
-/

set_option autoImplicit false

namespace CollectorFeed

/-- Something that others do during a conversation. -/
inductive Intervention
  /-- A call on the sessions. -/
  | session (call : SessionCall)
  /-- Somebody asks to stop. -/
  | cancel
  /-- The queue is closed. -/
  | close
deriving DecidableEq

/-- What others do during a conversation. -/
structure Script where
  /-- Somebody asks to stop as soon as octets from this offset on are asked for. -/
  cancelAt? : Option Nat
  /-- The queue is closed as soon as octets from this offset on are asked for. -/
  closeAt? : Option Nat
  /-- Sessions whose routes cannot be deleted. -/
  unclean : List SessionId
  /-- What happens during the waits, in their order. -/
  waits : List (List Intervention)
deriving DecidableEq

/-- Nobody does anything. -/
def Script.quiet : Script where
  cancelAt? := none
  closeAt? := none
  unclean := []
  waits := []

/-- A call by which a conversation changes sessions. -/
inductive JournalLine
  | create (key : SessionKey) (handling : Handling) (width? : Option AsnWidth)
      (result : Except SessionRefusal SessionId)
  | setState (id : SessionId) (state : SessionState) (cause : SessionCause)
  | setWidth (id : SessionId) (width : AsnWidth)
  | countMessage (id : SessionId)
  | deleteRoutes (id : SessionId)

end CollectorFeed
