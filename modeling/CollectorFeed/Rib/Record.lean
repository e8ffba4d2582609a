import CollectorFeed.Path.Block

/-!
# Routes of a table dump

A record of a table dump gives all routes to one network. It has a sequence number, the network, and
an entry for each router that knows a route: place of the router in the index, time, and a block of
path attributes. Family and use are those of the record's subtype, or stand in a generic record
behind its sequence number.
-/

set_option autoImplicit false

namespace CollectorFeed

/-- The route of one router. -/
structure RibEntry where
  /-- Place of the router in the index. -/
  peerPlace : UInt16
  /-- Seconds since the epoch at which the route came. -/
  originated : UInt32
  /-- Path attributes of the route. -/
  attributes : List PathAttribute
deriving DecidableEq

/-- All routes to one network. -/
structure RibRecord where
  /-- Sequence number of the record. -/
  sequence : UInt32
  /-- Where the routes lead. -/
  target : RouteTarget
  /-- The routes in the order of the record. -/
  entries : List RibEntry
deriving DecidableEq

/-- A route on its own. -/
structure DumpedRoute where
  /-- Where the route leads. -/
  target : RouteTarget
  /-- Path attributes of the route. -/
  attributes : List PathAttribute
deriving DecidableEq

/-- Whether the network of the route stands in one of its attributes. -/
def DumpedRoute.hasMpReach (route : DumpedRoute) : Bool :=
  route.attributes.any PathAttribute.isMpReach

namespace RibEntry

/-- Octets in front of the attribute block of an entry. -/
def headLength : Nat := 8

/-- Takes an attribute block, which must not reach past the record. -/
def block (length : Nat) : Reader Octets := fun buffer =>
  if holds length buffer then (.ok (buffer.take length), buffer.drop length)
  else (.error (.malformedAttribute (.blockTooLong length buffer.length)), buffer)

/-- Takes an entry from a buffer. -/
def reader (target : RouteTarget) : Reader RibEntry := do
  let left ← Reader.peek
  if holds headLength left then
    let peerPlace ← Reader.u16
    let originated ← Reader.u32
    let length ← Reader.u16
    let octets ← block length.toNat
    match AttributeBlock.decode target octets with
    | .ok attributes => return ⟨peerPlace, originated, attributes⟩
    | .error e => Reader.fail e
  else Reader.fail (.cutShort (.ribEntry left.length))

end RibEntry

namespace RibRecord

/-- Takes the network and the entries of a record. -/
def body (sequence : UInt32) (family : AddressFamily) (use : SubsequentFamily) :
    Reader RibRecord := do
  let network ← Reader.network family
  let target : RouteTarget := ⟨family, use, network⟩
  let count ← Reader.u16
  let entries ← Reader.times (RibEntry.reader target) count.toNat
  return ⟨sequence, target, entries⟩

/-- Takes a record of the family that its subtype names. -/
def familyReader (subtype : TableDumpSubtype) : Reader RibRecord :=
  match subtype.family? with
  | some (family, use) => do
    let sequence ← Reader.u32
    body sequence family use
  | none => Reader.fail (.contradiction (.notFamilyRib subtype.name))

/-- Takes a record that names its family itself; nothing comes of a family that is not known. -/
def genericReader : Reader (Option RibRecord) := do
  let sequence ← Reader.u32
  let family ← Reader.u16
  let use ← Reader.u8
  match AddressFamily.ofCode? family, SubsequentFamily.ofCode? use with
  | some family, some use => return some (← body sequence family use)
  | _, _ => return none

end RibRecord

end CollectorFeed
