/-!
# Holding back one value

A damaged record can damage what stands right before it. What was decoded last is therefore held
back until the value after it was decoded as well, or until the stream has ended in good order. If
the next record turns out damaged, the value that is held goes with it.
-/

set_option autoImplicit false

namespace CollectorFeed

/-- Holds at most one value. -/
structure Holdback (α : Type) where
  /-- The value that is held, if there is one. -/
  held? : Option α
deriving DecidableEq

namespace Holdback

variable {α : Type}

/-- Holds nothing. -/
def empty : Holdback α :=
  ⟨none⟩

/-- Whether nothing is held. -/
def isEmpty (holdback : Holdback α) : Bool :=
  holdback.held?.isNone

/-- Holds the next value and releases the one that it confirms. -/
def confirm (holdback : Holdback α) (next : α) : Option α × Holdback α :=
  (holdback.held?, ⟨some next⟩)

/-- Drops what is held. -/
def drop (holdback : Holdback α) : Option α × Holdback α :=
  (holdback.held?, empty)

/-- Releases what is held at the end of the stream. -/
def release (holdback : Holdback α) : Option α × Holdback α :=
  (holdback.held?, empty)

@[simp] theorem confirm_fst (holdback : Holdback α) (next : α) :
    (holdback.confirm next).1 = holdback.held? := rfl

@[simp] theorem held?_confirm (holdback : Holdback α) (next : α) :
    (holdback.confirm next).2.held? = some next := rfl

@[simp] theorem held?_drop (holdback : Holdback α) : holdback.drop.2.held? = none := rfl

@[simp] theorem held?_release (holdback : Holdback α) : holdback.release.2.held? = none := rfl

end Holdback

end CollectorFeed
