import CollectorFeed.Path.Reachability

/-!
# Attribute blocks of table dumps

The path attributes of one route stand one behind the other in a block. A reader of the block takes
attributes as long as there is room for the head of one, and refuses a block with octets left over.
-/

set_option autoImplicit false

namespace CollectorFeed

namespace AttributeBlock

/-- Octets of the shortest head of an attribute. -/
def shortestHead : Nat := 3

/-- Takes the length of a value: two octets if the flags say so, else one. -/
def valueLength (flags code : UInt8) : Reader Nat := fun buffer =>
  if AttributeFlags.isExtended flags then
    match Reader.u16.run buffer with
    | (.ok length, rest) => (.ok length.toNat, rest)
    | (.error _, rest) => (.error (.malformedAttribute (.lengthMissing code)), rest)
  else
    match Reader.u8.run buffer with
    | (.ok length, rest) => (.ok length.toNat, rest)
    | (.error e, rest) => (.error e, rest)

/-- Takes the value of an attribute, which must not reach past the block. -/
def value (code : UInt8) (length : Nat) : Reader Octets := fun buffer =>
  if holds length buffer then (.ok (buffer.take length), buffer.drop length)
  else (.error (.malformedAttribute (.valueTooLong code length buffer.length)), buffer)

/-- The value of an attribute as it is kept: networks with their next hop are completed, every other
value is kept as read. -/
def kept (target : RouteTarget) (code : UInt8) (value : Octets) : Except FeedError Octets :=
  if code = AttributeKind.mpReach.code then Reachability.complete target value else .ok value

/-- Takes one attribute. -/
def one (target : RouteTarget) : Reader PathAttribute := do
  let flags ← Reader.u8
  let code ← Reader.u8
  let length ← valueLength flags code
  let octets ← value code length
  match kept target code octets with
  | .ok value => return ⟨flags, code, value⟩
  | .error e => Reader.fail e

/-- Takes all attributes of a block. -/
def reader (target : RouteTarget) : Reader (List PathAttribute) := do
  let attributes ← Reader.many shortestHead (one target)
  let left ← Reader.peek
  if left.isEmpty then return attributes
  else Reader.fail (.malformedAttribute (.trailing left.length))

/-- The attributes of a block. -/
def decode (target : RouteTarget) (block : Octets) : Except FeedError (List PathAttribute) :=
  ((reader target).run block).1

end AttributeBlock

end CollectorFeed
