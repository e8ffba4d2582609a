import CollectorFeed.FeedError

/-!
# Reading from a buffer

A reader takes octets from the front of a buffer and gives a value or an error. In both cases it
says what it leaves in the buffer: a reader that fails may have taken octets before it did.

The primitive readers take nothing when the buffer is too short for them. Reading a network is made
of two such steps, so its length octet stays taken if the second one fails.
-/

set_option autoImplicit false

namespace CollectorFeed

/-- Whether a buffer has at least so many octets. -/
def holds : Nat → Octets → Bool
  | 0, _ => true
  | _ + 1, [] => false
  | count + 1, _ :: rest => holds count rest

theorem holds_iff (count : Nat) (buffer : Octets) :
    holds count buffer = true ↔ count ≤ buffer.length := by
  induction count generalizing buffer with
  | zero => simp [holds]
  | succ count ih =>
    cases buffer with
    | nil => simp [holds]
    | cons octet rest => simp [holds, ih]

/-- Takes octets from the front of a buffer; gives a result and what is left. -/
def Reader (α : Type) : Type :=
  Octets → Except FeedError α × Octets

namespace Reader

variable {α β : Type}

/-- Applies a reader to a buffer. -/
def run (reader : Reader α) (buffer : Octets) : Except FeedError α × Octets :=
  reader buffer

instance : Monad Reader where
  pure value := fun buffer => (.ok value, buffer)
  bind reader next := fun buffer =>
    match reader buffer with
    | (.ok value, rest) => next value rest
    | (.error e, rest) => (.error e, rest)

/-- Fails with an error and takes nothing. -/
def fail (e : FeedError) : Reader α :=
  fun buffer => (.error e, buffer)

/-- The octets that are left, which stay in the buffer. -/
def peek : Reader Octets :=
  fun buffer => (.ok buffer, buffer)

@[simp] theorem run_pure (value : α) (buffer : Octets) :
    (pure value : Reader α).run buffer = (.ok value, buffer) := rfl

theorem run_bind (reader : Reader α) (next : α → Reader β) (buffer : Octets) :
    (reader >>= next).run buffer =
      match reader.run buffer with
      | (.ok value, rest) => (next value).run rest
      | (.error e, rest) => (.error e, rest) := rfl

theorem run_bind_ok {reader : Reader α} {next : α → Reader β} {buffer rest : Octets} {value : α}
    (read : reader.run buffer = (.ok value, rest)) :
    (reader >>= next).run buffer = (next value).run rest := by
  rw [run_bind, read]

@[simp] theorem run_fail (e : FeedError) (buffer : Octets) :
    (fail e : Reader α).run buffer = (.error e, buffer) := rfl

@[simp] theorem run_peek (buffer : Octets) : peek.run buffer = (.ok buffer, buffer) := rfl

/-! ## Primitive readers -/

/-- Fails unless the buffer has at least so many octets. -/
def need (count : Nat) : Reader Unit := fun buffer =>
  if holds count buffer then (.ok (), buffer) else (.error .bufferExhausted, buffer)

/-- Takes so many octets. -/
def take (count : Nat) : Reader Octets := fun buffer =>
  if holds count buffer then (.ok (buffer.take count), buffer.drop count)
  else (.error .bufferExhausted, buffer)

theorem run_need (count : Nat) (buffer : Octets) :
    (need count).run buffer =
      if count ≤ buffer.length then (.ok (), buffer) else (.error .bufferExhausted, buffer) := by
  simp only [need, run, holds_iff]

theorem run_take (count : Nat) (buffer : Octets) :
    (take count).run buffer =
      if count ≤ buffer.length then (.ok (buffer.take count), buffer.drop count)
      else (.error .bufferExhausted, buffer) := by
  simp only [take, run, holds_iff]

/-- Taking as many octets as stand in front gives those and leaves the others. -/
theorem run_take_append {front rest : Octets} {count : Nat} (width : front.length = count) :
    (take count).run (front ++ rest) = (.ok front, rest) := by
  subst width
  simp [run_take]

/-- Takes one octet. -/
def u8 : Reader UInt8 :=
  return UInt8.ofNat (Octets.toNat (← take 1))

/-- Takes a number of two octets. -/
def u16 : Reader UInt16 :=
  return UInt16.ofNat (Octets.toNat (← take 2))

/-- Takes a number of four octets. -/
def u32 : Reader UInt32 :=
  return UInt32.ofNat (Octets.toNat (← take 4))

/-- Takes four octets as they are. -/
def quad : Reader Quad :=
  return FixedOctets.padded 4 (← take 4)

/-- Takes an AS number of the given width. -/
def asn (width : AsnWidth) : Reader UInt32 :=
  return UInt32.ofNat (Octets.toNat (← take width.octetCount))

/-- Takes an address of the given family. -/
def address (family : AddressFamily) : Reader Address :=
  return Address.padded family (← take family.octetCount)

/-- Takes the written form of a network. A bit length above the greatest of the family is refused
before any octet of the address is taken. -/
def network (family : AddressFamily) : Reader Network := do
  let bits ← u8
  if fits : bits.toNat ≤ family.maxBits then
    let front ← take (octetsFor bits.toNat)
    return ⟨Address.padded family front, bits.toNat, by simpa using fits⟩
  else fail (.networkTooLong bits.toNat family.maxBits)

/-! ## Repetition -/

/-- Reads so many values, put in front of those already read, which stand latest first. -/
def repeated (item : Reader α) : Nat → List α → Reader (List α)
  | 0, done => pure done.reverse
  | count + 1, done => do
    let value ← item
    repeated item count (value :: done)

/-- Reads so many values one after the other. -/
def times (item : Reader α) (count : Nat) : Reader (List α) :=
  repeated item count []

/-- Reads values as long as the buffer has at least `floor` octets, for at most `turns` values. -/
def repeatedWhile (floor : Nat) (item : Reader α) : Nat → List α → Reader (List α)
  | 0, done => pure done.reverse
  | turns + 1, done => do
    if holds floor (← peek) then
      let value ← item
      repeatedWhile floor item turns (value :: done)
    else pure done.reverse

/-- Reads values as long as the buffer has at least `floor` octets. Each value takes an octet or
more, so there cannot be more values than octets. -/
def many (floor : Nat) (item : Reader α) : Reader (List α) := do
  repeatedWhile floor item (← peek).length []

end Reader

end CollectorFeed
