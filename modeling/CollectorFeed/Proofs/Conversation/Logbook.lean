import CollectorFeed.Conversation.Surroundings
import CollectorFeed.Session.Table

/-!
# Surroundings in which nobody else acts

Sessions stand in a table, every message that is passed on is written down, and nobody asks to stop.
-/

set_option autoImplicit false

namespace CollectorFeed

/-- The sessions, and the messages that were passed on, oldest first. -/
structure Logbook where
  sessions : SessionTable
  passed : List Message
deriving DecidableEq

namespace Logbook

/-- No sessions and no messages. -/
def blank : Logbook :=
  ⟨.empty none, []⟩

instance : Surroundings Logbook where
  find key := fun book => (book.sessions.find? key, book)
  create key handling width? := fun book =>
    let (result, sessions) := book.sessions.create key handling width?
    (result, { book with sessions := sessions })
  setState id state cause := fun book =>
    ((), { book with sessions := book.sessions.setState id state cause })
  state id := fun book => (book.sessions.state? id, book)
  width id := fun book => (book.sessions.width? id, book)
  setWidth id width := fun book =>
    ((), { book with sessions := book.sessions.setWidth id width })
  countMessage id := fun book => ((), { book with sessions := book.sessions.countMessage id })
  deleteRoutes id := fun book =>
    let (result, sessions) := book.sessions.deleteRoutes id
    (result, { book with sessions := sessions })
  passOn message := fun book => (.ok (), { book with passed := book.passed ++ [message] })
  isCancelled := fun book => (false, book)
  sleep _ := fun book => ((), book)
  observe _ := fun book => ((), book)

end Logbook

end CollectorFeed
