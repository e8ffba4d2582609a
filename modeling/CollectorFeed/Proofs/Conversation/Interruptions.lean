import CollectorFeed.Proofs.Conversation.Logbook

/-!
# Surroundings in which a conversation is interrupted

Nobody else acts, but the queue may be closed behind a number of messages, and a stop may be asked
for during a wait.
-/

set_option autoImplicit false

namespace CollectorFeed

/-- A logbook, and when the conversation is interrupted. -/
structure Interrupted where
  book : Logbook
  /-- Messages that the queue still takes, if it is going to be closed. -/
  room? : Option Nat
  /-- Waits until a stop is asked for, if one is going to be. -/
  patience? : Option Nat
deriving DecidableEq

namespace Interrupted

/-- Makes a call on the logbook. -/
def onBook {α : Type} (call : StateM Logbook α) : StateM Interrupted α := fun world =>
  let (answer, book) := call.run world.book
  (answer, { world with book := book })

/-- The queue takes a message if it is not closed. -/
def offer (message : Message) : StateM Interrupted (Except QueueRefusal Unit) := fun world =>
  match world.room? with
  | none => onBook (Surroundings.passOn message) world
  | some 0 => (.error .closed, world)
  | some (room + 1) => onBook (Surroundings.passOn message) { world with room? := some room }

instance : Surroundings Interrupted where
  find key := onBook (Surroundings.find key)
  create key handling width? := onBook (Surroundings.create key handling width?)
  setState id state cause := onBook (Surroundings.setState id state cause)
  state id := onBook (Surroundings.state id)
  width id := onBook (Surroundings.width id)
  setWidth id width := onBook (Surroundings.setWidth id width)
  countMessage id := onBook (Surroundings.countMessage id)
  deleteRoutes id := onBook (Surroundings.deleteRoutes id)
  passOn := offer
  isCancelled := fun world => (world.patience? = some 0, world)
  sleep _ := fun world => ((), { world with patience? := world.patience?.map Nat.pred })
  observe touched := onBook (Surroundings.observe touched)

end Interrupted

end CollectorFeed
