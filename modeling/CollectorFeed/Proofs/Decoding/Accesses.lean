import CollectorFeed.Path.AsPath
import CollectorFeed.Path.Aggregator
import CollectorFeed.Proofs.Decoding.Unchecked
import CollectorFeed.Relay.Message
import CollectorFeed.Stream.Framer

/-!
# Decoding with unchecked accesses

Each decoder as a program that checks lengths on its own and takes octets without a check: headers
of records, relayed messages, records of table dumps with their attribute blocks, AS paths and
aggregators. Every one of them follows its reader. So no length that a body announces makes a
decoder reach out of its buffer, every loop over a buffer ends, and the branches for cases that the
checks rule out are never entered.
-/

set_option autoImplicit false

namespace CollectorFeed

/-- A length that is not too great reaches into no more octets than an address has. -/
theorem AddressFamily.octetsFor_le {family : AddressFamily} {bits : Nat}
    (fits : bits ≤ family.maxBits) : octetsFor bits ≤ family.octetCount := by
  rw [maxBits] at fits
  rw [octetsFor]
  omega

namespace Unchecked

/-! ## Numbers, addresses and networks -/

/-- Takes one octet. -/
def u8 : Unchecked UInt8 :=
  return UInt8.ofNat (Octets.toNat (← ensured 1))

/-- Takes a number of two octets. -/
def u16 : Unchecked UInt16 :=
  return UInt16.ofNat (Octets.toNat (← ensured 2))

/-- Takes a number of four octets. -/
def u32 : Unchecked UInt32 :=
  return UInt32.ofNat (Octets.toNat (← ensured 4))

/-- Takes four octets as they are. -/
def quad : Unchecked Quad :=
  return FixedOctets.padded 4 (← ensured 4)

/-- Takes an AS number of the given width. -/
def asn (width : AsnWidth) : Unchecked UInt32 :=
  return UInt32.ofNat (Octets.toNat (← ensured width.octetCount))

/-- Takes an address of the given family. -/
def address (family : AddressFamily) : Unchecked Address :=
  return Address.padded family (← ensured family.octetCount)

/-- Takes the octets that an array for an address is filled with. The part of the array that they go
into is cut off first, so they must not be more than the array has. -/
def addressFront (family : AddressFamily) (count : Nat) : Unchecked Octets := do
  ensure count
  let _part ← Outcome.cut (List.replicate family.octetCount 0) count
  pull count

/-- Takes the written form of a network. Its length is compared with the longest one of the family
before the address is taken, and checked once more when the network is made. -/
def network (family : AddressFamily) : Unchecked Network := do
  let bits ← u8
  if family.maxBits < bits.toNat then refuse (.networkTooLong bits.toNat family.maxBits)
  else do
    let front ← addressFront family (octetsFor bits.toNat)
    match Network.ofBits? (Address.padded family front) bits.toNat with
    | some network => return network
    | none => enterDead (.networkLength bits.toNat)

namespace Follows

theorem u8 : Follows Unchecked.u8 Reader.u8 :=
  bind (ensured 1) fun _ => pure _

theorem u16 : Follows Unchecked.u16 Reader.u16 :=
  bind (ensured 2) fun _ => pure _

theorem u32 : Follows Unchecked.u32 Reader.u32 :=
  bind (ensured 4) fun _ => pure _

theorem quad : Follows Unchecked.quad Reader.quad :=
  bind (ensured 4) fun _ => pure _

theorem asn (width : AsnWidth) : Follows (Unchecked.asn width) (Reader.asn width) :=
  bind (ensured _) fun _ => pure _

theorem address (family : AddressFamily) :
    Follows (Unchecked.address family) (Reader.address family) :=
  bind (ensured _) fun _ => pure _

theorem addressFront {family : AddressFamily} {count : Nat} (fits : count ≤ family.octetCount) :
    Follows (Unchecked.addressFront family count) (Reader.take count) := by
  have room : Outcome.cut (List.replicate family.octetCount 0) count
      = Pure.pure ((List.replicate family.octetCount 0).take count) :=
    Outcome.cut_eq (by simpa using fits)
  rw [Unchecked.addressFront, room]
  exact ensured count

/-- The address array has room for what is copied into it, and the second check of the length never
fails. -/
theorem network (family : AddressFamily) :
    Follows (Unchecked.network family) (Reader.network family) := by
  refine bind u8 fun bits => ?_
  by_cases fits : bits.toNat ≤ family.maxBits
  · rw [if_neg (Nat.not_lt.mpr fits), dif_pos fits]
    refine bind (addressFront (AddressFamily.octetsFor_le fits)) fun front => ?_
    -- the second check has the bound of the address, which is the one of the family asked for
    have accepted : bits.toNat ≤ (Address.padded family front).family.maxBits := by simpa using fits
    rw [Network.ofBits?, dif_pos accepted]
    exact pure _
  · rw [if_pos (Nat.lt_of_not_le fits), dif_neg fits]
    exact refuse _

end Follows

/-! ## Headers of records -/

/-- The fields of a header, taken from its array without any check. -/
def headerFields : Unchecked RecordHeader := do
  let timestamp ← pull 4
  let type ← pull 2
  let subtype ← pull 2
  let length ← pull 4
  return {
    timestamp := UInt32.ofNat (Octets.toNat timestamp)
    type := UInt16.ofNat (Octets.toNat type)
    subtype := UInt16.ofNat (Octets.toNat subtype)
    length := UInt32.ofNat (Octets.toNat length) }

/-- Reads a header: the stream fills an array of twelve octets or fails. -/
def header (source : Source) : Outcome RecordHeader × Source :=
  match source.readExactly RecordHeader.octetCount with
  | (.ok octets, source) => (headerFields.on octets, source)
  | (.error .unfilled, source) => (throw (.refused .shortHeader), source)
  | (.error e, source) => (throw (.refused (.unreadable e)), source)

/-- The fields of a header are as long together as the header. -/
theorem headerFields_on {octets : Octets} (filled : octets.length = RecordHeader.octetCount) :
    headerFields.on octets = .settle (.ok (.ofOctets octets)) := by
  have whole : octets.length = 12 := filled
  show Prod.fst <$> (pull 4 octets >>= fun time => pull 2 time.2 >>= fun type =>
    pull 2 type.2 >>= fun subtype => pull 4 subtype.2 >>= fun length =>
      (pure (RecordHeader.mk (UInt32.ofNat (Octets.toNat time.1))
        (UInt16.ofNat (Octets.toNat type.1)) (UInt16.ofNat (Octets.toNat subtype.1))
        (UInt32.ofNat (Octets.toNat length.1)), length.2) : Outcome (RecordHeader × Octets))) = _
  rw [pull_apply (by omega), pure_bind, pull_apply (by simp; omega), pure_bind,
    pull_apply (by simp; omega), pure_bind, pull_apply (by simp; omega), pure_bind]
  simp only [List.drop_drop]
  rfl

theorem header_eq (source : Source) :
    header source = (.settle source.readHeader.1, source.readHeader.2) := by
  rw [header, Source.readHeader]
  rcases read : source.readExactly RecordHeader.octetCount with ⟨e | octets, after⟩
  · cases e with
    | unfilled => rfl
    | skipEnded skipped wanted => rfl
    | failure reason => rfl
  · have filled := (Source.readExactly_append read).2
    simp only [headerFields_on filled]

/-! ## Relayed messages -/

/-- Refuses a remainder that is no BGP message with a body. Once it is known to be longer than a
header, its marker and its length field are looked up in place; nothing depends on the length. -/
def checkMessage (message : Octets) : Outcome Unit :=
  if message.length ≤ bgpHeaderLength then
    throw (.refused (.cutShort (.relayedMessage message.length)))
  else do
    let marker ← Outcome.cut message bgpMarker.length
    if marker ≠ bgpMarker then throw (.refused .missingMarker)
    else do
      let _high ← Outcome.lookUp message 16
      let _low ← Outcome.lookUp message 17
      return ()

/-- Takes a relayed message; the message is all that is left behind the header. -/
def relayedMessage (width : AsnWidth) : Unchecked RelayedMessage := do
  let peerAsn ← asn width
  let localAsn ← asn width
  let interface ← u16
  let family ← u16
  let peerAddress ← address (AddressFamily.ofRelayField family)
  let localAddress ← address (AddressFamily.ofRelayField family)
  let message ← get
  checkMessage message
  return ⟨width, peerAsn, localAsn, interface, peerAddress, localAddress, message⟩

/-- What a body of relayed messages holds. -/
def relayRecord (subtype : UInt16) (body : Octets) : Outcome RelayRecord :=
  match RelaySubtype.ofCode? subtype with
  | none => throw (.refused (.unexpectedSubtype RecordType.relay.code subtype))
  | some known =>
    match known.forwardedWidth? with
    | none => return .ignored known
    | some width => return .message (← (relayedMessage width).on body)

/-- What a body with microseconds in front holds. -/
def relayTimedRecord (subtype : UInt16) (body : Octets) : Outcome RelayRecord := do
  let microseconds ← u32 body
  relayRecord subtype microseconds.2

/-- A message that is longer than a header has a marker and a length field. -/
theorem checkMessage_eq (message : Octets) :
    checkMessage message = .settle (RelayedMessage.checkMessage message) := by
  rw [checkMessage, RelayedMessage.checkMessage]
  by_cases short : message.length ≤ bgpHeaderLength
  · rw [if_pos short, if_pos short]
    rfl
  · have long : 19 < message.length := Nat.lt_of_not_le short
    have marked : bgpMarker.length ≤ message.length := by
      rw [bgpMarker, List.length_replicate]
      omega
    rw [if_neg short, if_neg short, Outcome.cut_eq marked, pure_bind]
    by_cases begins : message.take bgpMarker.length = bgpMarker
    · rw [if_neg fun other => other begins, if_pos begins, Outcome.lookUp_eq (by omega), pure_bind,
        Outcome.lookUp_eq (by omega), pure_bind]
      rfl
    · rw [if_pos begins, if_neg begins]
      rfl

theorem Follows.relayedMessage (width : AsnWidth) :
    Follows (Unchecked.relayedMessage width) (RelayedMessage.reader width) := by
  refine bind (asn width) fun peerAsn => bind (asn width) fun localAsn => bind u16 fun interface =>
    bind u16 fun family => bind (address _) fun peerAddress => bind (address _) fun localAddress =>
      bind peek fun message => ?_
  rw [checkMessage_eq]
  apply settled
  · intro e refused
    rw [refused]
  · intro accepted given
    rw [given]
    exact pure _

theorem relayRecord_eq (subtype : UInt16) (body : Octets) :
    relayRecord subtype body = .settle (RelayRecord.decode subtype body) := by
  rw [relayRecord, RelayRecord.decode]
  cases RelaySubtype.ofCode? subtype with
  | none => rfl
  | some known =>
    dsimp only
    cases known.forwardedWidth? with
    | none => rfl
    | some width =>
      dsimp only
      rw [(Follows.relayedMessage width).on body, RelayedMessage.decode]
      rcases (RelayedMessage.reader width).run body with ⟨e | relayed, rest⟩
      · rfl
      · rfl

theorem relayTimedRecord_eq (subtype : UInt16) (body : Octets) :
    relayTimedRecord subtype body = .settle (RelayRecord.decodeTimed subtype body) := by
  rw [relayTimedRecord, Follows.u32 body, Reader.outcome, RelayRecord.decodeTimed]
  rcases Reader.u32.run body with ⟨e | microseconds, rest⟩
  · rfl
  · exact relayRecord_eq subtype rest

/-! ## The index of routers -/

/-- Takes the entry of a router. -/
def peer : Unchecked Peer := do
  let type ← u8
  let bgpId ← quad
  let address ← address (Peer.typeFamily type)
  let asn ← asn (Peer.typeWidth type)
  return ⟨type, bgpId, address, asn⟩

/-- Takes an index. -/
def peerIndex : Unchecked PeerIndex := do
  let collector ← quad
  let nameLength ← u16
  let name ← ensured nameLength.toNat
  let count ← u16
  let peers ← repeated peer count.toNat []
  return ⟨collector, Utf8.lossy name, peers⟩

namespace Follows

theorem peer : Follows Unchecked.peer Peer.reader :=
  bind u8 fun _ => bind quad fun _ => bind (address _) fun _ => bind (asn _) fun _ => pure _

theorem peerIndex : Follows Unchecked.peerIndex PeerIndex.reader :=
  bind quad fun _ => bind u16 fun _ => bind (ensured _) fun _ => bind u16 fun _ =>
    bind (times peer _) fun _ => pure _

end Follows

/-! ## Attributes of routes -/

/-- Writes a network behind octets. Of the address those octets are cut off that the bits of the
network reach into. -/
def appendNetwork (front : Octets) (network : Network) : Outcome Octets := do
  let address ← Outcome.cut network.address.octets (octetsFor network.bits)
  return front ++ UInt8.ofNat network.bits :: address

/-- No network reaches into more octets than its address has. -/
theorem appendNetwork_eq (front : Octets) (network : Network) :
    appendNetwork front network = pure (front ++ network.encode) := by
  rw [appendNetwork, Outcome.cut_eq network.octetsFor_le]
  rfl

example : Outcome.cut [10, 0, 0, 1] (octetsFor 33) = throw (.breach (.cut 5 4)) := rfl

/-- Takes a next hop behind its length, and writes the full form of the attribute. -/
def completed (target : RouteTarget) : Unchecked Octets := do
  let length ← relabel (.malformedAttribute .nextHopTooLong) u8
  let hop ← relabel (.malformedAttribute .nextHopTooLong) (ensured length.toNat)
  appendNetwork
    (Octets.ofNat 2 target.family.code.toNat ++ target.use.code :: length :: (hop ++ [0]))
    target.network

/-- The full form of a value that stands in a table dump. -/
def complete (target : RouteTarget) (value : Octets) : Outcome Octets :=
  if value.head? = some 0 then return value else (completed target).on value

/-- Takes the length of a value: two octets if the flags say so, else one. -/
def valueLength (flags code : UInt8) : Unchecked Nat := do
  if AttributeFlags.isExtended flags then
    return (← relabel (.malformedAttribute (.lengthMissing code)) u16).toNat
  else
    return (← u8).toNat

/-- The value of an attribute as it is kept. -/
def kept (target : RouteTarget) (code : UInt8) (value : Octets) : Outcome Octets :=
  if code = AttributeKind.mpReach.code then complete target value else return value

/-- Takes one attribute. -/
def oneAttribute (target : RouteTarget) : Unchecked PathAttribute := do
  let flags ← u8
  let code ← u8
  let length ← valueLength flags code
  let octets ← checked length fun room => .malformedAttribute (.valueTooLong code length room)
  let value ← kept target code octets
  return ⟨flags, code, value⟩

/-- Takes attributes as long as there is room for the head of one, and refuses what is left. -/
noncomputable def attributeBlock (target : RouteTarget) : Unchecked (List PathAttribute) := do
  let attributes ← whileLeft AttributeBlock.shortestHead (oneAttribute target)
  let rest ← left
  if 0 < rest then refuse (.malformedAttribute (.trailing rest)) else return attributes

namespace Follows

theorem valueLength (flags code : UInt8) :
    Follows (Unchecked.valueLength flags code) (AttributeBlock.valueLength flags code) := by
  intro buffer
  rw [Unchecked.valueLength, Reader.outcome, Reader.run, AttributeBlock.valueLength]
  by_cases extended : AttributeFlags.isExtended flags = true
  · rw [if_pos extended, if_pos extended]
    show (Unchecked.relabel _ Unchecked.u16 buffer >>= fun found => _) = _
    rw [relabel _ u16 buffer]
    rcases Reader.u16.run buffer with ⟨e | length, rest⟩
    · rfl
    · rfl
  · rw [if_neg extended, if_neg extended]
    show (Unchecked.u8 buffer >>= fun found => _) = _
    rw [u8 buffer, Reader.outcome]
    rcases Reader.u8.run buffer with ⟨e | length, rest⟩
    · rfl
    · rfl

end Follows

/-- The length octet that is written is the one that was read. -/
theorem complete_eq (target : RouteTarget) (value : Octets) :
    complete target value = .settle (Reachability.complete target value) := by
  rw [complete, Reachability.complete]
  split
  · rfl
  · show Prod.fst <$> (relabel _ u8 value >>= fun length =>
      relabel _ (ensured length.1.toNat) length.2 >>= fun hop =>
        appendNetwork _ target.network >>= fun written => pure (written, hop.2)) = _
    rw [Follows.relabel _ Follows.u8 value, Reachability.nextHop, Reader.run_bind]
    rcases Reader.u8.run value with ⟨e | length, rest⟩
    · rfl
    · dsimp only
      rw [pure_bind, Follows.relabel _ (Follows.ensured _) rest, Reader.run_take]
      by_cases enough : length.toNat ≤ rest.length
      · have again : UInt8.ofNat (rest.take length.toNat).length = length := by
          rw [List.length_take_of_le enough, UInt8.ofNat_toNat]
        simp only [if_pos enough, pure_bind, appendNetwork_eq, Outcome.settle_ok, map_pure,
          Reachability.full, again, List.append_assoc, List.cons_append, List.nil_append]
      · simp only [if_neg enough]
        rfl

theorem kept_eq (target : RouteTarget) (code : UInt8) (value : Octets) :
    kept target code value = .settle (AttributeBlock.kept target code value) := by
  rw [kept, AttributeBlock.kept]
  split
  · exact complete_eq target value
  · rfl

theorem takesAtLeast_valueLength (flags code : UInt8) :
    (AttributeBlock.valueLength flags code).TakesAtLeast 0 := by
  intro buffer length rest read
  rw [Reader.run, AttributeBlock.valueLength] at read
  split at read
  · split at read
    next taken =>
      cases read
      exact Reader.TakesAtLeast.u16.mono (Nat.zero_le 2) buffer _ _ taken
    next => cases read
  · split at read
    next taken =>
      cases read
      exact Reader.TakesAtLeast.u8.mono (Nat.zero_le 1) buffer _ _ taken
    next => cases read

theorem takesAtLeast_value (code : UInt8) (length : Nat) :
    (AttributeBlock.value code length).TakesAtLeast 0 := by
  intro buffer octets rest read
  rw [Reader.run, AttributeBlock.value] at read
  split at read
  · cases read
    simp
  · cases read

/-- An attribute has at least its flags octet. -/
theorem takesAtLeast_one (target : RouteTarget) : (AttributeBlock.one target).TakesAtLeast 1 := by
  refine .front .u8 fun flags => (Reader.TakesAtLeast.u8.mono (Nat.zero_le 1)).front fun code => ?_
  refine (takesAtLeast_valueLength flags code).front fun length => ?_
  refine (takesAtLeast_value code length).front fun octets => ?_
  split
  · exact .pure _
  · exact .fail 0 _

namespace Follows

theorem oneAttribute (target : RouteTarget) :
    Follows (Unchecked.oneAttribute target) (AttributeBlock.one target) := by
  refine bind u8 fun flags => bind u8 fun code => bind (valueLength flags code) fun length => ?_
  refine bind (checked length _) fun octets => ?_
  rw [kept_eq]
  apply settled
  · intro e refused
    rw [refused]
  · intro value given
    rw [given]
    exact pure _

theorem attributeBlock (target : RouteTarget) :
    Follows (Unchecked.attributeBlock target) (AttributeBlock.reader target) := by
  refine bind (whileLeft (oneAttribute target) (takesAtLeast_one target) (by decide)) fun all => ?_
  intro rest
  show (if 0 < rest.length then Unchecked.refuse _ else Pure.pure all : Unchecked _) rest
    = Reader.outcome (if rest.isEmpty then Pure.pure all else Reader.fail _) rest
  cases rest with
  | nil => rfl
  | cons octet rest => rfl

end Follows

/-! ## Routes of a table dump -/

/-- Takes an entry. A head of eight octets is asked for before any of its fields. -/
noncomputable def ribEntry (target : RouteTarget) : Unchecked RibEntry := do
  check RibEntry.headLength fun room => .cutShort (.ribEntry room)
  let peerPlace ← u16
  let originated ← u32
  let length ← u16
  let block ← checked length.toNat fun room =>
    .malformedAttribute (.blockTooLong length.toNat room)
  let attributes ← (attributeBlock target).on block
  return ⟨peerPlace, originated, attributes⟩

/-- Takes the network and the entries of a record. -/
noncomputable def ribBody (sequence : UInt32) (family : AddressFamily) (use : SubsequentFamily) :
    Unchecked RibRecord := do
  let network ← network family
  let count ← u16
  let entries ← repeated (ribEntry ⟨family, use, network⟩) count.toNat []
  return ⟨sequence, ⟨family, use, network⟩, entries⟩

/-- Takes a record of the family that its subtype names. -/
noncomputable def familyRib (subtype : TableDumpSubtype) : Unchecked RibRecord :=
  match subtype.family? with
  | some (family, use) => do
    let sequence ← u32
    ribBody sequence family use
  | none => enterDead (.ribKind subtype)

/-- Takes a record that names its family itself; nothing comes of a family that is not known. -/
noncomputable def genericRib : Unchecked (Option RibRecord) := do
  let sequence ← u32
  let family ← u16
  let use ← u8
  match AddressFamily.ofCode? family, SubsequentFamily.ofCode? use with
  | some family, some use => return some (← ribBody sequence family use)
  | _, _ => return none

/-- Takes the body of a record of a table dump. A subtype that is neither read nor passed over has a
branch of its own. -/
noncomputable def tableDumpBody (subtype : TableDumpSubtype) : Unchecked TableDumpRecord :=
  match subtype with
  | .peerIndexTable => return .index (← peerIndex)
  | .ribIpv4Unicast | .ribIpv4Multicast | .ribIpv6Unicast | .ribIpv6Multicast =>
    return .rib (← familyRib subtype)
  | .ribGeneric => do
    match ← genericRib with
    | some record => return .rib record
    | none => return .skipped subtype
  | other => if other.isIgnored then return .skipped other else enterDead (.subtype other)

/-- What a body of the given subtype number holds. -/
noncomputable def tableDumpRecord (subtype : UInt16) (body : Octets) : Outcome TableDumpRecord :=
  match TableDumpSubtype.ofCode? subtype with
  | some known => (tableDumpBody known).on body
  | none => throw (.refused (.unexpectedSubtype RecordType.tableDumpV2.code subtype))

namespace Follows

theorem ribEntry (target : RouteTarget) :
    Follows (Unchecked.ribEntry target) (RibEntry.reader target) := by
  refine check (bind u16 fun peerPlace => bind u32 fun originated => bind u16 fun length => ?_)
  refine bind (checked length.toNat _) fun block => ?_
  rw [(attributeBlock target).on block]
  apply settled
  · intro e refused
    rw [AttributeBlock.decode, refused]
  · intro attributes given
    rw [AttributeBlock.decode, given]
    exact pure _

theorem ribBody (sequence : UInt32) (family : AddressFamily) (use : SubsequentFamily) :
    Follows (Unchecked.ribBody sequence family use) (RibRecord.body sequence family use) :=
  bind (network family) fun _ => bind u16 fun _ => bind (times (ribEntry _) _) fun _ => pure _

/-- A reader of routes of one family is not used for any other subtype. -/
theorem familyRib {subtype : TableDumpSubtype} (known : subtype.family?.isSome = true) :
    Follows (Unchecked.familyRib subtype) (RibRecord.familyReader subtype) := by
  rw [Unchecked.familyRib, RibRecord.familyReader]
  cases named : subtype.family? with
  | some routes => exact bind u32 fun sequence => ribBody sequence _ _
  | none =>
    rw [named] at known
    cases known

theorem genericRib : Follows Unchecked.genericRib RibRecord.genericReader := by
  refine bind u32 fun sequence => bind u16 fun family => bind u8 fun use => ?_
  cases AddressFamily.ofCode? family with
  | none => exact pure _
  | some family =>
    cases SubsequentFamily.ofCode? use with
    | none => exact pure _
    | some use => exact bind (ribBody sequence family use) fun _ => pure _

/-- Every registered subtype is read or passed over. -/
theorem tableDumpBody (subtype : TableDumpSubtype) :
    Follows (Unchecked.tableDumpBody subtype) (TableDumpRecord.reader subtype) := by
  -- the cases are those of the reader; the last one has the subtypes that are passed over
  cases subtype with
  | peerIndexTable => exact bind peerIndex fun _ => pure _
  | ribIpv4Unicast | ribIpv4Multicast | ribIpv6Unicast | ribIpv6Multicast =>
    exact bind (familyRib rfl) fun _ => pure _
  | ribGeneric =>
    refine bind genericRib fun record? => ?_
    cases record? with
    | some record => exact pure _
    | none => exact pure _
  | _ => exact pure _

end Follows

theorem tableDumpRecord_eq (subtype : UInt16) (body : Octets) :
    tableDumpRecord subtype body = .settle (TableDumpRecord.decode subtype body) := by
  rw [tableDumpRecord, TableDumpRecord.decode]
  cases TableDumpSubtype.ofCode? subtype with
  | some known => exact (Follows.tableDumpBody known).on body
  | none => rfl

/-! ## AS paths and aggregators -/

/-- Takes a segment. The count is checked against the octets that are left before any AS number. -/
def pathSegment (width : AsnWidth) : Unchecked PathSegment := do
  let kind ← u8
  let count ← u8
  ensure (count.toNat * width.octetCount)
  let asns ← repeated (asn width) count.toNat []
  return ⟨kind, asns⟩

/-- Takes segments as long as an octet is left. -/
noncomputable def asPath (width : AsnWidth) : Unchecked (List PathSegment) :=
  whileLeft 1 (pathSegment width)

/-- Takes an aggregator whose AS number has the given width. -/
def aggregatorOf (width : AsnWidth) : Unchecked Aggregator := do
  let asn ← asn width
  let id ← quad
  return ⟨asn, id⟩

/-- Takes an aggregator; the number of octets tells the width of its AS number. -/
def aggregator : Unchecked Aggregator := do
  let length ← left
  match Aggregator.width? length with
  | some width => aggregatorOf width
  | none => refuse (.contradiction (.aggregatorLength length))

/-- A segment has at least its kind. -/
theorem takesAtLeast_segment (width : AsnWidth) : (PathSegment.reader width).TakesAtLeast 1 := by
  have asns (count : Nat) : (Reader.times (Reader.asn width) count).TakesAtLeast 0 :=
    .times ((Reader.TakesAtLeast.asn width).mono (Nat.zero_le _)) count
  refine .front .u8 fun kind => (Reader.TakesAtLeast.u8.mono (Nat.zero_le 1)).front fun count => ?_
  exact (Reader.TakesAtLeast.need _).front fun _ => (asns count.toNat).front fun _ => .pure _

namespace Follows

theorem pathSegment (width : AsnWidth) :
    Follows (Unchecked.pathSegment width) (PathSegment.reader width) :=
  bind u8 fun _ => bind u8 fun _ => bind (ensure _) fun _ => bind (times (asn width) _) fun _ =>
    pure _

theorem asPath (width : AsnWidth) : Follows (Unchecked.asPath width) (AsPath.reader width) :=
  whileLeft (pathSegment width) (takesAtLeast_segment width) (by decide)

end Follows

theorem asPath_on (width : AsnWidth) (octets : Octets) :
    (asPath width).on octets = .settle (AsPath.decode width octets) :=
  (Follows.asPath width).on octets

theorem Follows.aggregatorOf (width : AsnWidth) :
    Follows (Unchecked.aggregatorOf width) (Aggregator.reader width) :=
  bind (asn width) fun _ => bind quad fun _ => pure _

theorem aggregator_on (octets : Octets) :
    aggregator.on octets = .settle (Aggregator.decode octets) := by
  have same : aggregator.on octets =
      Unchecked.on (match Aggregator.width? octets.length with
        | some width => aggregatorOf width
        | none => refuse (.contradiction (.aggregatorLength octets.length))) octets := rfl
  rw [same, Aggregator.decode]
  cases Aggregator.width? octets.length with
  | some width => exact (Follows.aggregatorOf width).on octets
  | none => rfl

end Unchecked

end CollectorFeed
