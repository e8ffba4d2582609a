import CollectorFeed.Update.Route
import CollectorFeed.Proofs.TableDump.Layout
import Mathlib.Data.List.Forall2

/-!
# How UPDATE messages are read

A router reads an UPDATE message without knowing how it was made: withdrawn networks, path
attributes and announced networks stand behind their lengths (RFC 4271), and networks other than
those for IPv4 unicast stand in an attribute of their own, with their family, their use and a next
hop (RFC 4760). `receive` is that reading. A message that was made of the route of a table dump
is read as the announcement of the network of the record, with the attributes and the next hop that
stand in the dump (`announces_updateMessage`).
-/

set_option autoImplicit false

namespace CollectorFeed

open Reader

/-! ## Reading a message -/

/-- Reads a whole buffer. -/
def Reader.whole {α : Type} (reader : Reader α) (octets : Octets) : Option α :=
  match reader.run octets with
  | (.ok value, []) => some value
  | _ => none

/-- A network as it stands in a message. -/
structure SentNetwork where
  /-- Leading bits of the network. -/
  bits : UInt8
  /-- The octets that these bits reach into. -/
  front : Octets
deriving DecidableEq

/-- Networks with their next hop in an attribute. -/
structure Reached where
  /-- Number of the family. -/
  family : UInt16
  /-- Number of the use. -/
  use : UInt8
  /-- The next hop. -/
  nextHop : Octets
  /-- The networks. -/
  networks : List SentNetwork
deriving DecidableEq

/-- The parts of an UPDATE message, which lengths tell from each other. -/
structure UpdateParts where
  /-- What stands in front of every message. -/
  marker : Octets
  /-- Octets of the message. -/
  length : UInt16
  /-- Kind of the message. -/
  type : UInt8
  /-- Networks that are withdrawn. -/
  withdrawn : Octets
  /-- Path attributes. -/
  attributes : Octets
  /-- IPv4 networks that are announced. -/
  networks : Octets

/-- An UPDATE message that was read. -/
structure ReceivedUpdate where
  /-- Networks that are withdrawn. -/
  withdrawn : List SentNetwork
  /-- Path attributes in order. -/
  attributes : List PathAttribute
  /-- What the attributes say that carry networks. -/
  reached : List Reached
  /-- IPv4 networks that are announced. -/
  networks : List SentNetwork
deriving DecidableEq

namespace ReceivedUpdate

/-- Consumes a network. -/
def oneNetwork : Reader SentNetwork := do
  let bits ← Reader.u8
  let front ← Reader.take (octetsFor bits.toNat)
  return ⟨bits, front⟩

/-- Consumes the length of an attribute, which stands in two octets if the flags say so. -/
def valueLength (flags : UInt8) : Reader Nat :=
  if AttributeFlags.isExtended flags then do
    return (← Reader.u16).toNat
  else do
    return (← Reader.u8).toNat

/-- Consumes an attribute. -/
def oneAttribute : Reader PathAttribute := do
  let flags ← Reader.u8
  let code ← Reader.u8
  let length ← valueLength flags
  let value ← Reader.take length
  return ⟨flags, code, value⟩

/-- Consumes the value of an attribute that carries networks. -/
def reach : Reader Reached := do
  let family ← Reader.u16
  let use ← Reader.u8
  let length ← Reader.u8
  let nextHop ← Reader.take length.toNat
  let _ ← Reader.u8
  let networks ← Reader.many 1 oneNetwork
  return ⟨family, use, nextHop, networks⟩

/-- Consumes all octets that are left. -/
def remainder : Reader Octets := do
  Reader.take (← Reader.peek).length

/-- Consumes a message apart. -/
def parts : Reader UpdateParts := do
  let marker ← Reader.take bgpMarker.length
  let length ← Reader.u16
  let type ← Reader.u8
  let withdrawnLength ← Reader.u16
  let withdrawn ← Reader.take withdrawnLength.toNat
  let attributesLength ← Reader.u16
  let attributes ← Reader.take attributesLength.toNat
  let networks ← remainder
  return ⟨marker, length, type, withdrawn, attributes, networks⟩

/-- Reads the parts of a message. -/
def ofParts (parts : UpdateParts) : Option ReceivedUpdate := do
  let withdrawn ← (Reader.many 1 oneNetwork).whole parts.withdrawn
  let attributes ← (Reader.many 1 oneAttribute).whole parts.attributes
  let reached ← (attributes.filter PathAttribute.isMpReach).mapM fun attr => reach.whole attr.value
  let networks ← (Reader.many 1 oneNetwork).whole parts.networks
  return ⟨withdrawn, attributes, reached, networks⟩

/-- The UPDATE message that octets are. -/
def receive (message : Octets) : Option ReceivedUpdate := do
  let parts ← parts.whole message
  if parts.marker = bgpMarker ∧ parts.length.toNat = message.length ∧ parts.type = bgpUpdateType then
    ofParts parts
  else none

end ReceivedUpdate

/-! ## Flags of lengths -/

namespace AttributeFlags

theorem isExtended_setExtended (flags : UInt8) : isExtended (setExtended flags) = true := by
  have same : (flags ||| extended) &&& extended = extended := by
    rw [← UInt8.toBitVec_inj]
    ext place
    simp only [UInt8.toBitVec_and, UInt8.toBitVec_or, BitVec.getElem_and, BitVec.getElem_or,
      Bool.and_eq_right_iff_imp, Bool.or_eq_true]
    intro one
    exact .inr one
  rw [isExtended, setExtended, same]
  rfl

theorem isExtended_clearExtended (flags : UInt8) : isExtended (clearExtended flags) = false := by
  have none_ : (flags &&& ~~~extended) &&& extended = 0 := by
    rw [UInt8.and_assoc]
    show flags &&& 0 = 0
    exact UInt8.and_zero
  rw [isExtended, clearExtended, none_]
  rfl

/-- Setting the flag of the long length leaves the other flags alone. -/
theorem clearExtended_setExtended (flags : UInt8) :
    clearExtended (setExtended flags) = clearExtended flags := by
  unfold clearExtended setExtended
  rw [← UInt8.toBitVec_inj]
  ext place
  simp
  grind

theorem clearExtended_clearExtended (flags : UInt8) :
    clearExtended (clearExtended flags) = clearExtended flags := by
  rw [clearExtended, clearExtended, UInt8.and_assoc, UInt8.and_self]

end AttributeFlags

namespace PathAttribute

/-- The attribute as it stands in a message. -/
def sent (attr : PathAttribute) : PathAttribute :=
  { attr with flags := attr.writtenFlags }

theorem isExtended_writtenFlags (attr : PathAttribute) :
    AttributeFlags.isExtended attr.writtenFlags = attr.isLong := by
  unfold writtenFlags
  cases attr.isLong with
  | true => exact AttributeFlags.isExtended_setExtended attr.flags
  | false => exact AttributeFlags.isExtended_clearExtended attr.flags

/-- Two attributes are the same but for the flag of the long length. -/
structure SameContent (one other : PathAttribute) : Prop where
  code : one.code = other.code
  value : one.value = other.value
  flags : AttributeFlags.clearExtended one.flags = AttributeFlags.clearExtended other.flags

theorem sent_sameContent (attr : PathAttribute) : attr.sent.SameContent attr := by
  refine ⟨rfl, rfl, ?_⟩
  unfold sent writtenFlags
  cases attr.isLong with
  | true => exact AttributeFlags.clearExtended_setExtended attr.flags
  | false => exact AttributeFlags.clearExtended_clearExtended attr.flags

end PathAttribute

/-! ## What is read of a written message -/

namespace Reader

variable {α β : Type}

theorem whole_of_run {reader : Reader α} {octets : Octets} {value : α}
    (read : reader.run octets = (.ok value, [])) : reader.whole octets = some value := by
  rw [whole, read]

/-- A form that is taken first, and a buffer that is used up behind it. -/
theorem Consumes.ends {reader : Reader α} {next : α → Reader β} {front back : Octets} {value : α}
    {result : β} (first : Consumes reader front value)
    (second : (next value).run back = (.ok result, [])) :
    (reader >>= next).run (front ++ back) = (.ok result, []) := by
  rw [run_bind_ok (first back)]
  exact second

end Reader

/-- The network as it stands in a message. -/
def SentNetwork.ofNetwork (network : Network) : SentNetwork :=
  ⟨UInt8.ofNat network.bits, network.address.octets.take (octetsFor network.bits)⟩

namespace ReceivedUpdate

theorem consumes_oneNetwork (network : Network) :
    Consumes oneNetwork network.encode (.ofNetwork network) := by
  have small : network.bits < 256 := Nat.lt_of_le_of_lt network.bits_le_longest (by decide)
  have number : (UInt8.ofNat network.bits).toNat = network.bits :=
    UInt8.toNat_ofNat_of_lt' small
  have count : (network.address.octets.take (octetsFor network.bits)).length =
      octetsFor (UInt8.ofNat network.bits).toNat := by
    rw [number]
    exact List.length_take_of_le network.octetsFor_le
  exact (consumes_u8 _).bind ((consumes_take count).map rfl)

theorem run_networks (networks : List Network) :
    (Reader.many 1 oneNetwork).run (networks.flatMap Network.encode) =
      (.ok (networks.map .ofNetwork), []) := by
  apply run_many Nat.one_pos
  intro network _
  refine ⟨consumes_oneNetwork network, ?_⟩
  rw [Network.length_encode, Network.encodedLength]
  exact Nat.le_add_right _ _

theorem consumes_valueLength {attr : PathAttribute} (short : attr.value.length < Octets.bound 2) :
    Consumes (valueLength attr.writtenFlags) attr.lengthOctets attr.value.length := by
  unfold valueLength PathAttribute.lengthOctets
  rw [attr.isExtended_writtenFlags]
  cases long : attr.isLong with
  | true =>
    have number : (UInt16.ofNat attr.value.length).toNat = attr.value.length :=
      UInt16.toNat_ofNat_of_lt' short
    have read := consumes_u16 (UInt16.ofNat attr.value.length)
    rw [number] at read
    exact read.map (congrArg pure number)
  | false =>
    have few : attr.value.length < 256 := by
      have few := of_decide_eq_false long
      omega
    have number : (UInt8.ofNat attr.value.length).toNat = attr.value.length :=
      UInt8.toNat_ofNat_of_lt' few
    have read := consumes_u8 (UInt8.ofNat attr.value.length)
    exact read.map (congrArg pure number)

theorem consumes_oneAttribute {attr : PathAttribute} (short : attr.value.length < Octets.bound 2) :
    Consumes oneAttribute attr.encode attr.sent := by
  have value : Consumes (Reader.take attr.value.length) attr.value attr.value := consumes_take rfl
  have length := consumes_valueLength short
  exact (consumes_u8 _).bind ((consumes_u8 _).bind (length.bind (value.map rfl)))

theorem run_attributes {attributes : List PathAttribute}
    (short : ∀ attr ∈ attributes, attr.value.length < Octets.bound 2) :
    (Reader.many 1 oneAttribute).run (UpdateMessage.encodeAttributes attributes) =
      (.ok (attributes.map PathAttribute.sent), []) := by
  apply run_many Nat.one_pos
  intro attr there
  refine ⟨consumes_oneAttribute (short attr there), ?_⟩
  rw [PathAttribute.length_encode, PathAttribute.encodedLength]
  split <;> omega

/-- The attribute that was completed from a record carries the network of the record. -/
theorem whole_reach (target : RouteTarget) {hop : Octets} (short : hop.length < 256) :
    reach.whole (Reachability.full target hop) =
      some ⟨target.family.code, target.use.code, hop, [.ofNetwork target.network]⟩ := by
  have number : (UInt8.ofNat hop.length).toNat = hop.length := UInt8.toNat_ofNat_of_lt' short
  have networks := run_networks [target.network]
  rw [List.flatMap_singleton] at networks
  have last (next : List SentNetwork → Reader Reached) :
      (Reader.many 1 oneNetwork >>= next).run target.network.encode =
        (next [.ofNetwork target.network]).run [] := run_bind_ok networks
  apply whole_of_run
  refine (consumes_u16 _).ends ((consumes_u8 _).ends ((consumes_u8 _).ends ?_))
  refine (consumes_take number.symm).ends ((consumes_u8 0).ends ?_)
  exact last _

theorem run_remainder (buffer : Octets) : remainder.run buffer = (.ok buffer, []) := by
  have all := consumes_take (rfl : buffer.length = buffer.length) []
  rw [List.append_nil] at all
  rw [remainder, run_bind_ok (run_peek buffer), all]

theorem run_parts {attributes : List PathAttribute} {network? : Option Network}
    (fits : UpdateMessage.totalLength attributes network? ≤ UpdateMessage.greatestLength) :
    parts.run (UpdateMessage.octets attributes network?) = (.ok {
      marker := bgpMarker
      length := UInt16.ofNat (UpdateMessage.totalLength attributes network?)
      type := bgpUpdateType
      withdrawn := []
      attributes := UpdateMessage.encodeAttributes attributes
      networks := UpdateMessage.encodeNetwork network? }, []) := by
  have few : UpdateMessage.attributesLength attributes < UInt16.size := by
    unfold UpdateMessage.totalLength UpdateMessage.greatestLength at fits
    show _ < 65536
    omega
  have number := UInt16.toNat_ofNat_of_lt' (Nat.lt_succ_of_le fits)
  have number' := UInt16.toNat_ofNat_of_lt' few
  have total := consumes_u16 (UInt16.ofNat (UpdateMessage.totalLength attributes network?))
  have length := consumes_u16 (UInt16.ofNat (UpdateMessage.attributesLength attributes))
  rw [number] at total
  rw [number'] at length
  have count : (UpdateMessage.encodeAttributes attributes).length =
      (UInt16.ofNat (UpdateMessage.attributesLength attributes)).toNat := by
    rw [number', UpdateMessage.length_encodeAttributes]
  unfold UpdateMessage.octets
  simp only [List.append_assoc]
  refine (consumes_take rfl).ends (total.ends ((consumes_u8 _).ends ((consumes_u16 0).ends ?_)))
  -- no networks are withdrawn, so nothing stands behind their length
  refine (show Consumes (Reader.take (0 : UInt16).toNat) [] [] from consumes_take rfl).ends ?_
  refine length.ends ((consumes_take count).ends ?_)
  rw [run_bind_ok (run_remainder _)]
  rfl

end ReceivedUpdate

namespace UpdateMessage

theorem length_octets (attributes : List PathAttribute) (network? : Option Network) :
    (octets attributes network?).length = totalLength attributes network? := by
  have network : (encodeNetwork network?).length = (network?.map Network.encodedLength).getD 0 := by
    cases network? with
    | none => rfl
    | some network => exact network.length_encode
  unfold octets totalLength
  simp only [List.length_append, Octets.length_ofNat, length_encodeAttributes, network]
  rfl

theorem length_le_attributesLength {attributes : List PathAttribute} {attr : PathAttribute}
    (there : attr ∈ attributes) : attr.value.length ≤ attributesLength attributes := by
  induction attributes with
  | nil => cases there
  | cons first rest ih =>
    rw [attributesLength, List.foldr_cons, ← attributesLength, PathAttribute.encodedLength]
    rcases List.mem_cons.1 there with rfl | later
    · omega
    · have less := ih later
      omega

end UpdateMessage

namespace ReceivedUpdate

/-- A message whose length fits is read as it was made, up to the flag of the long length. -/
theorem receive_octets {attributes : List PathAttribute} {network? : Option Network}
    {reached : List Reached}
    (fits : UpdateMessage.totalLength attributes network? ≤ UpdateMessage.greatestLength)
    (carried : (attributes.filter PathAttribute.isMpReach).mapM (fun attr => reach.whole attr.value) =
      some reached) :
    receive (UpdateMessage.octets attributes network?) = some {
      withdrawn := []
      attributes := attributes.map PathAttribute.sent
      reached := reached
      networks := network?.toList.map .ofNetwork } := by
  have short : ∀ attr ∈ attributes, attr.value.length < Octets.bound 2 := by
    intro attr there
    have less := UpdateMessage.length_le_attributesLength there
    unfold UpdateMessage.totalLength UpdateMessage.greatestLength at fits
    show _ < 65536
    omega
  -- the length that is written is the one that the message has, because it fits
  have length : (UInt16.ofNat (UpdateMessage.totalLength attributes network?)).toNat =
      (UpdateMessage.octets attributes network?).length := by
    rw [UpdateMessage.length_octets]
    exact UInt16.toNat_ofNat_of_lt' (Nat.lt_succ_of_le fits)
  have form : UpdateMessage.encodeNetwork network? = network?.toList.flatMap Network.encode := by
    cases network? with
    | none => rfl
    | some network => exact (List.flatMap_singleton _ _).symm
  have apart := whole_of_run (run_parts fits)
  have withdrawn : (Reader.many 1 oneNetwork).whole [] = some [] := whole_of_run (run_networks [])
  have all := whole_of_run (run_attributes short)
  have networks := whole_of_run (run_networks network?.toList)
  have carried' : ((attributes.map PathAttribute.sent).filter PathAttribute.isMpReach).mapM
      (fun attr => reach.whole attr.value) = some reached := by
    rw [List.filter_map, List.mapM_map]
    exact carried
  rw [← form] at networks
  rw [receive, apart, Option.bind_eq_bind, Option.bind_some, if_pos ⟨rfl, length, rfl⟩]
  simp [ofParts, withdrawn, all, networks, carried']

/-! ## What a message says of a route -/

/-- The attributes that do not carry networks. -/
def others (update : ReceivedUpdate) : List PathAttribute :=
  update.attributes.filter fun attr => !attr.isMpReach

/-- The next hop: the one that stands with the networks, else the one that has an attribute of its
own. -/
def nextHop? (update : ReceivedUpdate) : Option Octets :=
  (update.reached.head?.map Reached.nextHop).or
    ((update.attributes.find? fun attr => attr.code == AttributeKind.nextHop.code).map
      PathAttribute.value)

/-- The networks that are announced, each with the numbers of its family and its use. -/
def announced (update : ReceivedUpdate) : List (UInt16 × UInt8 × SentNetwork) :=
  update.networks.map (fun network =>
      (AddressFamily.ipv4.code, SubsequentFamily.unicast.code, network)) ++
    update.reached.flatMap fun reached =>
      reached.networks.map fun network => (reached.family, reached.use, network)

end ReceivedUpdate

namespace RibEntry

/-- The attributes of an entry that do not carry networks. -/
def others (entry : RibEntry) : List PathAttribute :=
  entry.attributes.filter fun attr => !attr.isMpReach

/-- The attributes of an entry that do. -/
def reaches (entry : RibEntry) : List PathAttribute :=
  entry.attributes.filter PathAttribute.isMpReach

/-- The next hop of an entry: in a dump it stands alone behind its length, or in an attribute of its
own. -/
def nextHop? (entry : RibEntry) : Option Octets :=
  (entry.reaches.head?.map fun attr => attr.value.tail).or
    ((entry.attributes.find? fun attr => attr.code == AttributeKind.nextHop.code).map
      PathAttribute.value)

end RibEntry

/-- A message says of a network what an entry of a record says of it. -/
structure Announces (rib : DumpedRib) (entry : RibEntry) (update : ReceivedUpdate) : Prop where
  /-- It has the other attributes of the entry, in order. -/
  others : List.Forall₂ PathAttribute.SameContent update.others entry.others
  /-- It has the next hop of the entry. -/
  nextHop? : update.nextHop? = entry.nextHop?
  /-- It announces the network of the record and no other one. -/
  announced : update.announced =
    [(rib.family.code, rib.use.code, ⟨rib.bits, rib.front⟩)]
  /-- The field for withdrawn networks is empty. -/
  withdrawn : update.withdrawn = []

/-! ## Messages of routes -/

namespace PathAttribute

theorem isMpReach_completed (target : RouteTarget) (attr : PathAttribute) :
    (attr.completed target).isMpReach = attr.isMpReach := by
  unfold completed
  split <;> rfl

theorem code_completed (target : RouteTarget) (attr : PathAttribute) :
    (attr.completed target).code = attr.code := by
  unfold completed
  split <;> rfl

/-- Only the attribute that carries networks is completed. -/
theorem completed_of_not {attr : PathAttribute} (other : attr.isMpReach = false)
    (target : RouteTarget) : attr.completed target = attr := by
  rw [completed, other, if_neg Bool.false_ne_true]

end PathAttribute

namespace DumpedRib

/-- The route of an entry, as it is kept. -/
def route (rib : DumpedRib) (entry : RibEntry) : DumpedRoute :=
  ⟨rib.target, (entry.completed rib.target).attributes⟩

/-- What an attribute of an entry that carries networks says in a message. -/
def reachedBy (rib : DumpedRib) (attr : PathAttribute) : Reached :=
  ⟨rib.family.code, rib.use.code, attr.value.tail, [⟨rib.bits, rib.front⟩]⟩

theorem ofNetwork_target (rib : DumpedRib) :
    SentNetwork.ofNetwork rib.target.network = ⟨rib.bits, rib.front⟩ := by
  have count : rib.front.length ≤ rib.family.octetCount := by
    have most := rib.bits_le
    rw [rib.length_front, octetsFor]
    unfold AddressFamily.maxBits at most
    omega
  have octets : (Address.padded rib.family rib.front).octets.take (octetsFor rib.bits.toNat) =
      rib.front := by
    have front : (Address.padded rib.family rib.front).octets =
        (rib.front ++ List.replicate rib.family.octetCount 0).take rib.family.octetCount := by
      cases rib.family <;> rfl
    rw [front, ← rib.length_front, List.take_take, Nat.min_eq_left count, List.take_left]
  unfold SentNetwork.ofNetwork target
  dsimp only
  rw [octets, UInt8.ofNat_toNat]

variable {rib : DumpedRib} {entry : RibEntry}

theorem filter_isMpReach_route (rib : DumpedRib) (entry : RibEntry) :
    (rib.route entry).attributes.filter PathAttribute.isMpReach =
      entry.reaches.map (PathAttribute.completed rib.target) := by
  unfold route RibEntry.completed RibEntry.reaches
  rw [List.filter_map]
  congr 2
  funext attr
  exact attr.isMpReach_completed rib.target

/-- What gives a value for each item gives all values. -/
theorem mapM_eq_some_map {α β : Type} {items : List α} {partly : α → Option β} {fully : α → β}
    (each : ∀ item ∈ items, partly item = some (fully item)) :
    items.mapM partly = some (items.map fully) := by
  induction items with
  | nil => rfl
  | cons item rest ih =>
    rw [List.forall_mem_cons] at each
    rw [List.mapM_cons, each.1, ih each.2]
    rfl

/-- The attributes that carry networks are read as next hops to the network of the record. -/
theorem mapM_reach_route (dumpable : entry.Dumpable) :
    ((rib.route entry).attributes.filter PathAttribute.isMpReach).mapM
        (fun attr => ReceivedUpdate.reach.whole attr.value) =
      some (entry.reaches.map rib.reachedBy) := by
  rw [filter_isMpReach_route, List.mapM_map]
  apply mapM_eq_some_map
  intro attr there
  obtain ⟨inside, reach⟩ := List.mem_filter.1 there
  obtain ⟨hop, -, short, value⟩ := (dumpable.attributes attr inside).reach reach
  rw [Function.comp_apply, PathAttribute.completed, if_pos reach, value, List.tail_cons,
    ReceivedUpdate.whole_reach _ short, ofNetwork_target, reachedBy, value]
  rfl

/-- The network stands at the end of the message exactly if no attribute carries it. -/
theorem trailingNetwork?_route (rib : DumpedRib) (entry : RibEntry)
    (needed : ¬(rib.family = .ipv4 ∧ rib.use = .unicast) → entry.reaches ≠ []) :
    (rib.route entry).trailingNetwork? =
      if entry.reaches = [] then some rib.target.network else none := by
  have carried : (rib.route entry).hasMpReach = false ↔ entry.reaches = [] := by
    rw [← List.map_eq_nil_iff, ← filter_isMpReach_route, List.filter_eq_nil_iff,
      DumpedRoute.hasMpReach, List.any_eq_false]
  unfold DumpedRoute.trailingNetwork?
  by_cases alone : entry.reaches = []
  · have plain : rib.family = .ipv4 ∧ rib.use = .unicast := by
      by_contra other
      exact needed other alone
    -- such a network stands at the end of the message
    rw [if_pos alone, if_pos ⟨plain.1, plain.2, carried.2 alone⟩]
    rfl
  · rw [if_neg alone, if_neg]
    rintro ⟨-, -, without⟩
    exact alone (carried.1 without)

theorem sameContent_others (rib : DumpedRib) (entry : RibEntry) :
    List.Forall₂ PathAttribute.SameContent
      (((rib.route entry).attributes.map PathAttribute.sent).filter fun attr => !attr.isMpReach)
      entry.others := by
  have same : (fun attr : PathAttribute => !attr.isMpReach) ∘ PathAttribute.completed rib.target =
      fun attr => !attr.isMpReach := by
    funext attr
    exact congrArg not (attr.isMpReach_completed rib.target)
  unfold route RibEntry.completed RibEntry.others
  rw [List.filter_map, List.filter_map, List.forall₂_map_left_iff, List.forall₂_map_left_iff]
  change List.Forall₂ _
    (entry.attributes.filter ((fun attr : PathAttribute => !attr.isMpReach) ∘ _)) _
  rw [same, List.forall₂_same]
  intro attr there
  have other := (List.mem_filter.1 there).2
  rw [PathAttribute.completed_of_not (by simpa using other)]
  exact attr.sent_sameContent

/-- The attribute of the next hop is not touched. -/
theorem find?_nextHop (rib : DumpedRib) (entry : RibEntry) :
    (((rib.route entry).attributes.map PathAttribute.sent).find?
        fun attr => attr.code == AttributeKind.nextHop.code).map PathAttribute.value =
      (entry.attributes.find? fun attr => attr.code == AttributeKind.nextHop.code).map
        PathAttribute.value := by
  have same : ((fun attr => attr.code == AttributeKind.nextHop.code) ∘ PathAttribute.sent) ∘
      PathAttribute.completed rib.target = fun attr => attr.code == AttributeKind.nextHop.code := by
    funext attr
    exact congrArg (· == _) (attr.code_completed rib.target)
  unfold route RibEntry.completed
  rw [List.find?_map, List.find?_map, same, Option.map_map, Option.map_map]
  apply Option.map_congr
  intro attr found
  have code : attr.code = AttributeKind.nextHop.code := by
    have held := List.find?_some found
    exact beq_iff_eq.1 held
  have other : attr.isMpReach = false := by
    rw [PathAttribute.isMpReach, code]
    rfl
  rw [Function.comp_apply, Function.comp_apply, PathAttribute.completed_of_not other]
  rfl

/-- The message of the route of an entry is read as the announcement of the network of the record,
with the attributes and the next hop of the entry. -/
theorem announces_updateMessage (dumpable : entry.Dumpable) (once : entry.reaches.length ≤ 1)
    (needed : ¬(rib.family = .ipv4 ∧ rib.use = .unicast) → entry.reaches ≠ [])
    (fits : UpdateMessage.totalLength (rib.route entry).attributes
      (rib.route entry).trailingNetwork? ≤ UpdateMessage.greatestLength) :
    ∃ octets update, (rib.route entry).updateMessage .four = .ok octets ∧
      ReceivedUpdate.receive octets = some update ∧ Announces rib entry update := by
  have encoded : (rib.route entry).updateMessage .four = .ok (UpdateMessage.octets
      (rib.route entry).attributes (rib.route entry).trailingNetwork?) :=
    if_neg (Nat.not_lt_of_le fits)
  refine ⟨_, _, encoded, ReceivedUpdate.receive_octets fits (mapM_reach_route dumpable), ?_⟩
  have trailing := rib.trailingNetwork?_route entry needed
  constructor
  · exact sameContent_others rib entry
  · unfold ReceivedUpdate.nextHop? RibEntry.nextHop?
    dsimp only
    rw [List.head?_map, Option.map_map, find?_nextHop]
    rfl
  · unfold ReceivedUpdate.announced
    dsimp only
    rw [trailing]
    -- either no attribute carries the network, or just one does
    rcases reaches : entry.reaches with _ | ⟨attr, _ | ⟨more, rest⟩⟩
    · obtain ⟨family, use⟩ : rib.family = .ipv4 ∧ rib.use = .unicast := by
        by_contra other
        exact needed other reaches
      rw [if_pos rfl, family, use]
      exact congrArg (fun network => [(_, _, network)]) rib.ofNetwork_target
    · rw [if_neg (List.cons_ne_nil _ _)]
      rfl
    · rw [reaches, List.length_cons, List.length_cons] at once
      omega
  · rfl

end DumpedRib

end CollectorFeed
