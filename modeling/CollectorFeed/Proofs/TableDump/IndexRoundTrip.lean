import CollectorFeed.Proofs.TableDump.Layout

/-!
# The index of routers is read as it is written

The entry of a router has one of four lengths. A reader takes it from two bits of the type octet, a
writer from the address and one of these bits, so that the two agree on entries whose type octet tells
what stands behind it (`Peer.Marked`). An index of such entries is read as it was written, and an index
that was read is written as it stood, provided that the name of its view is text: any other name is
mended by reading. Main statement: `PeerIndex.roundTrip_encode`.
-/

set_option autoImplicit false

namespace CollectorFeed

open Reader

/-! ## Routers -/

namespace Peer

/-- The type octet tells the family of the address, and four octets if the AS number needs them. -/
structure Marked (peer : Peer) : Prop where
  family : peer.type &&& ipv6Bit ≠ 0 ↔ peer.address.family = .ipv6
  asn : peer.type &&& wideAsnBit ≠ 0 ∨ peer.asn.toNat ≤ 65535

theorem typeFamily_eq_iff (type : UInt8) (family : AddressFamily) :
    typeFamily type = family ↔ (type &&& ipv6Bit ≠ 0 ↔ family = .ipv6) := by
  unfold typeFamily
  by_cases marked : type &&& ipv6Bit = 0
  · cases family <;> simp [marked]
  · cases family <;> simp [marked]

theorem le_greatest_typeWidth_iff (type : UInt8) (asn : UInt32) :
    asn.toNat ≤ (typeWidth type).greatest ↔ type &&& wideAsnBit ≠ 0 ∨ asn.toNat ≤ 65535 := by
  have small : asn.toNat ≤ AsnWidth.four.greatest := Nat.le_sub_one_of_lt asn.toNat_lt
  unfold typeWidth
  by_cases marked : type &&& wideAsnBit = 0
  · simp [marked, AsnWidth.greatest, AsnWidth.octetCount, Octets.bound]
  · simp [marked, small]

/-- Such entries are those that a dump can hold. -/
theorem marked_iff_dumpable (peer : Peer) : peer.Marked ↔ peer.Dumpable := by
  rw [dumpable_iff, typeFamily_eq_iff, le_greatest_typeWidth_iff]
  exact ⟨fun marked => ⟨marked.family, marked.asn⟩, fun told => ⟨told.1, told.2⟩⟩

theorem typeFor_ipv6Bit (address : Address) (asn : UInt32) :
    typeFor address asn &&& ipv6Bit ≠ 0 ↔ address.family = .ipv6 := by
  unfold typeFor
  split <;> rename_i wide <;> split <;> rename_i six
  · exact iff_of_true (by decide) six
  · exact iff_of_false (by decide) six
  · exact iff_of_true (by decide) six
  · exact iff_of_false (by decide) six

theorem typeFor_wideAsnBit (address : Address) (asn : UInt32) :
    typeFor address asn &&& wideAsnBit ≠ 0 ↔ AsnWidth.two.greatest < asn.toNat := by
  unfold typeFor
  split <;> rename_i wide <;> split
  · exact iff_of_true (by decide) wide
  · exact iff_of_true (by decide) wide
  · exact iff_of_false (by decide) wide
  · exact iff_of_false (by decide) wide

/-- The type octet that is made for an address and an AS number tells what they are. -/
theorem marked_ofAddress (bgpId : Quad) (address : Address) (asn : UInt32) :
    (ofAddress bgpId address asn).Marked where
  family := typeFor_ipv6Bit address asn
  asn := by
    rcases Nat.lt_or_ge AsnWidth.two.greatest asn.toNat with wide | narrow
    · exact .inl ((typeFor_wideAsnBit address asn).2 wide)
    · exact .inr narrow

end Peer

/-! ## The index -/

namespace PeerIndex

/-- What an index must be to be written without loss: the lengths of its name and of its list fit into
two octets, and every type octet tells what stands behind it. -/
structure Writable (index : PeerIndex) : Prop where
  viewName : (Utf8.encode index.viewName).length ≤ 65535
  count : index.peers.length ≤ 65535
  peers : ∀ peer ∈ index.peers, peer.Marked

/-- The index as it stands in a dump. -/
def dumped (index : PeerIndex) : DumpedIndex where
  timestamp := 0
  collector := index.collector
  viewName := Utf8.encode index.viewName
  peers := index.peers

/-- The octets of the name in the body of an index. -/
def viewNameIn (body : Octets) : Octets :=
  (body.drop 6).take (Octets.toNat ((body.drop 4).take 2))

variable {index : PeerIndex}

theorem body_dumped (index : PeerIndex) : index.dumped.body = index.encode := by
  simp only [DumpedIndex.body, dumped, encode, List.append_assoc]

theorem content_dumped (index : PeerIndex) : index.dumped.content = index := by
  rw [DumpedIndex.content, dumped, Utf8.lossy_encode]

theorem writable_iff_dumpable (index : PeerIndex) : index.Writable ↔ index.dumped.Dumpable := by
  constructor
  · intro writable
    exact ⟨Nat.lt_succ_of_le writable.viewName, Nat.lt_succ_of_le writable.count,
      fun peer there => (peer.marked_iff_dumpable).1 (writable.peers peer there)⟩
  · intro dumpable
    exact ⟨Nat.le_of_lt_succ dumpable.viewName, Nat.le_of_lt_succ dumpable.count,
      fun peer there => (peer.marked_iff_dumpable).2 (dumpable.peers peer there)⟩

theorem viewNameIn_body {dumped : DumpedIndex} (dumpable : dumped.Dumpable) (rest : Octets) :
    viewNameIn (dumped.body ++ rest) = dumped.viewName := by
  have four : dumped.collector.toList.length = 4 := dumped.collector.length_toList
  have number : Octets.toNat (Octets.ofNat 2 dumped.viewName.length) = dumped.viewName.length := by
    rw [Octets.toNat_ofNat, Nat.mod_eq_of_lt dumpable.viewName]
  have behind : (dumped.body ++ rest).drop 4 = Octets.ofNat 2 dumped.viewName.length ++
      (dumped.viewName ++ (Octets.ofNat 2 dumped.peers.length ++
        dumped.peers.flatMap Peer.encode ++ rest)) := by
    rw [DumpedIndex.body, List.append_assoc, List.drop_left' four]
    simp only [List.append_assoc]
  rw [viewNameIn, show 6 = 4 + 2 from rfl, ← List.drop_drop, behind,
    List.take_left' (Octets.length_ofNat _ _), List.drop_left' (Octets.length_ofNat _ _), number,
    List.take_left]

/-- A name stands in the written form of what was read of it exactly if it is text. -/
theorem isText_iff_body_eq (dumped : DumpedIndex) :
    (Utf8.decode? dumped.viewName).isSome = true ↔ dumped.body = dumped.content.encode := by
  rw [← body_dumped]
  constructor
  · intro text
    obtain ⟨name, read⟩ := Option.isSome_iff_exists.1 text
    have same : Utf8.encode (Utf8.lossy dumped.viewName) = dumped.viewName := by
      rw [Utf8.lossy, read]
      exact Utf8.encode_of_decode? read
    simp only [DumpedIndex.body, PeerIndex.dumped, DumpedIndex.content, same]
  · intro same
    -- the two forms agree in front of the name and behind it
    have behind := List.append_cancel_left same
    obtain ⟨-, names⟩ := List.append_inj behind (by rw [Octets.length_ofNat, Octets.length_ofNat])
    have name : dumped.viewName = Utf8.encode (Utf8.lossy dumped.viewName) :=
      List.append_cancel_right names
    rw [name, Utf8.decode?_encode]
    rfl

/-- An index that can be written without loss is read as it was written, whatever stands behind it.
Every index that is read lists routers whose type octets tell what they are, and it is written as it
stood exactly if the name of its view was text; then it can be written without loss. The routers that
are made of an address and an AS number are of this kind. -/
theorem roundTrip_encode :
    (∀ index : PeerIndex, index.Writable → ∀ rest,
      reader.run (index.encode ++ rest) = (.ok index, rest)) ∧
    (∀ (body rest : Octets) (index : PeerIndex), reader.run body = (.ok index, rest) →
      index.peers.length ≤ 65535 ∧ (∀ peer ∈ index.peers, peer.Marked) ∧
      ((Utf8.decode? (viewNameIn body)).isSome = true ↔ body = index.encode ++ rest) ∧
      ((Utf8.decode? (viewNameIn body)).isSome = true → index.Writable)) ∧
    ∀ bgpId address asn, (Peer.ofAddress bgpId address asn).Marked := by
  refine ⟨?_, ?_, Peer.marked_ofAddress⟩
  · intro index writable rest
    have dumpable := (index.writable_iff_dumpable).1 writable
    have takes := (DumpedIndex.reads_reader 0).consumes ⟨dumpable, rfl⟩ rest
    rwa [body_dumped, content_dumped] at takes
  · intro body rest index read
    obtain ⟨dumped, ⟨dumpable, -⟩, rfl, rfl⟩ := (DumpedIndex.reads_reader 0 _ _ _).1 read
    have peers : ∀ peer ∈ dumped.peers, peer.Marked :=
      fun peer there => (peer.marked_iff_dumpable).2 (dumpable.peers peer there)
    have count : dumped.peers.length ≤ 65535 := Nat.le_of_lt_succ dumpable.count
    rw [viewNameIn_body dumpable, List.append_cancel_right_eq]
    refine ⟨count, peers, isText_iff_body_eq dumped, fun text => ⟨?_, count, peers⟩⟩
    -- the name is as long as it was in the dump
    obtain ⟨name, read⟩ := Option.isSome_iff_exists.1 text
    have same : Utf8.encode dumped.content.viewName = dumped.viewName := by
      rw [DumpedIndex.content, Utf8.lossy, read]
      exact Utf8.encode_of_decode? read
    rw [same]
    exact Nat.le_of_lt_succ dumpable.viewName

/-- An index with entries of all four lengths. The type octet of the third one announces four octets
for a small AS number, and has a bit that tells nothing. -/
def mixedIndex : PeerIndex where
  collector := .padded 4 [10, 0, 0, 1]
  viewName := "rib"
  peers :=
    [⟨0, .padded 4 [1, 1, 1, 1], .v4 (.padded 4 [192, 0, 2, 1]), 65001⟩,
      ⟨3, .padded 4 [2, 2, 2, 2], .v6 (.padded 16 [0x20, 1, 0xd, 0xb8]), 4200000000⟩,
      ⟨0x82, .padded 4 [3, 3, 3, 3], .v4 (.padded 4 [192, 0, 2, 3]), 7⟩,
      ⟨1, .padded 4 [4, 4, 4, 4], .v6 (.padded 16 [0x20, 2]), 65535⟩]

theorem roundTrip_encode_mixedIndex :
    mixedIndex.Writable ∧ reader.run (mixedIndex.encode ++ [0, 7]) = (.ok mixedIndex, [0, 7]) := by
  have writable : mixedIndex.Writable :=
    (mixedIndex.writable_iff_dumpable).2 (by decide +kernel)
  exact ⟨writable, roundTrip_encode.1 mixedIndex writable [0, 7]⟩

end PeerIndex

end CollectorFeed
