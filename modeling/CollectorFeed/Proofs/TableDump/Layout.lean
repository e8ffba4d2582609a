import CollectorFeed.Proofs.TableDump.Grammar

/-!
# The layout of table dumps

A table dump is written as an index of routers and records of routes. A writer of dumps keeps to less
than what a reader takes: the attribute that carries networks has nothing but its next hop
(`PathAttribute.Dumpable`). Reading what was written gives it back, with that attribute completed from
the record (`DumpedIndex.decode_record`, `DumpedRib.decode_record`).
-/

set_option autoImplicit false

namespace CollectorFeed

open Reader

/-! ## Attributes -/

namespace PathAttribute

/-- What an attribute must be to stand in a dump: its length fits where the flags have it stand, and
the one that carries networks is a next hop of at least one octet behind its length. -/
@[mk_iff] structure Dumpable (attr : PathAttribute) : Prop where
  length : attr.value.length < Octets.bound (AttributeFlags.lengthWidth attr.flags)
  reach : attr.isMpReach = true →
    ∃ hop : Octets, hop ≠ [] ∧ hop.length < 256 ∧ attr.value = UInt8.ofNat hop.length :: hop

/-- The next hop of a value can only be what stands behind its first octet. -/
theorem exists_hop_iff (value : Octets) :
    (∃ hop : Octets, hop ≠ [] ∧ hop.length < 256 ∧ value = UInt8.ofNat hop.length :: hop) ↔
      value.tail ≠ [] ∧ value.tail.length < 256 ∧
        value = UInt8.ofNat value.tail.length :: value.tail := by
  constructor
  · rintro ⟨hop, some_, short, rfl⟩
    exact ⟨some_, short, rfl⟩
  · exact fun told => ⟨value.tail, told⟩

instance (attr : PathAttribute) : Decidable attr.Dumpable :=
  have (value : Octets) := decidable_of_iff _ (exists_hop_iff value).symm
  decidable_of_iff _ (dumpable_iff attr).symm

/-- The attribute as it is kept: the one that carries networks is completed from the record. -/
def completed (target : RouteTarget) (attr : PathAttribute) : PathAttribute :=
  if attr.isMpReach then { attr with value := Reachability.full target attr.value.tail } else attr

variable {attr : PathAttribute}

/-- A next hop alone is told from the full form by its length, which is not zero. -/
theorem Dumpable.legible (dumpable : attr.Dumpable) : attr.Legible where
  length := dumpable.length
  reach := by
    intro reach
    obtain ⟨hop, -, short, value⟩ := dumpable.reach reach
    have number : (UInt8.ofNat hop.length).toNat = hop.length := UInt8.toNat_ofNat_of_lt' short
    rw [value]
    exact .inr (Nat.le_of_eq number)

theorem Dumpable.kept_eq (dumpable : attr.Dumpable) (target : RouteTarget) :
    attr.kept target = attr.completed target := by
  unfold kept completed
  cases reach : attr.isMpReach with
  | false => rfl
  | true =>
    obtain ⟨hop, some_, short, value⟩ := dumpable.reach reach
    have number : (UInt8.ofNat hop.length).toNat = hop.length := UInt8.toNat_ofNat_of_lt' short
    have first : UInt8.ofNat hop.length ≠ 0 := by
      intro zero
      rw [zero] at number
      exact some_ (List.length_eq_zero_iff.1 number.symm)
    have all : hop.take (UInt8.ofNat hop.length).toNat = hop := by
      rw [number, List.take_length]
    have full := Reachability.full_take target (Nat.le_of_eq number)
    rw [if_pos rfl, if_pos rfl, value, Reachability.kept, if_neg first, ← full, all, List.tail_cons]

end PathAttribute

/-! ## Routes -/

namespace RibEntry

/-- What an entry must be to stand in a dump. -/
@[mk_iff] structure Dumpable (entry : RibEntry) : Prop where
  attributes : ∀ attr ∈ entry.attributes, attr.Dumpable
  length : entry.attributeForm.length < Octets.bound 2

instance (entry : RibEntry) : Decidable entry.Dumpable :=
  decidable_of_iff _ (dumpable_iff entry).symm

/-- The entry as it is kept. -/
def completed (target : RouteTarget) (entry : RibEntry) : RibEntry :=
  { entry with attributes := entry.attributes.map (PathAttribute.completed target) }

variable {entry : RibEntry}

theorem Dumpable.legible (dumpable : entry.Dumpable) : entry.Legible where
  attributes := fun attr there => (dumpable.attributes attr there).legible
  length := dumpable.length

theorem Dumpable.kept_eq (dumpable : entry.Dumpable) (target : RouteTarget) :
    entry.kept target = entry.completed target := by
  unfold kept completed
  rw [List.map_congr_left fun attr there => (dumpable.attributes attr there).kept_eq target]

end RibEntry

namespace DumpedRib

/-- The routes as they are kept. -/
def content (rib : DumpedRib) : RibRecord where
  sequence := rib.sequence
  target := rib.target
  entries := rib.entries.map (RibEntry.completed rib.target)

/-- What a record of routes must be to stand in a dump. -/
@[mk_iff] structure Dumpable (rib : DumpedRib) : Prop where
  entries : ∀ entry ∈ rib.entries, entry.Dumpable
  count : rib.entries.length < Octets.bound 2

instance (rib : DumpedRib) : Decidable rib.Dumpable :=
  decidable_of_iff _ (dumpable_iff rib).symm

variable {rib : DumpedRib}

theorem Dumpable.legible (dumpable : rib.Dumpable) : rib.Legible where
  entries := fun entry there => (dumpable.entries entry there).legible
  count := dumpable.count

theorem Dumpable.kept_eq (dumpable : rib.Dumpable) : rib.kept = rib.content := by
  unfold kept content
  rw [List.map_congr_left fun entry there => (dumpable.entries entry there).kept_eq rib.target]

/-- A record of routes is decoded to the routes that were written. -/
theorem decode_record (dumpable : rib.Dumpable) :
    TableDumpRecord.decode rib.record.header.subtype rib.record.body = .ok (.rib rib.content) := by
  have read : (TableDumpRecord.reader rib.subtype).run rib.body = (.ok (.rib rib.content), []) :=
    TableDumpRecord.run_reader_eq_rib_iff.2
      ⟨rib, ⟨dumpable.legible, rfl⟩, (List.append_nil _).symm, dumpable.kept_eq⟩
  unfold TableDumpRecord.decode
  dsimp only [record]
  rw [TableDumpSubtype.ofCode?_code]
  dsimp only
  rw [read]

end DumpedRib

/-! ## The index -/

namespace Peer

/-- What a router must be to stand in a dump: its type octet tells the family of its address, and its
AS number fits the width that the octet tells. -/
@[mk_iff] structure Dumpable (peer : Peer) : Prop where
  family : typeFamily peer.type = peer.address.family
  asn : peer.asn.toNat ≤ (typeWidth peer.type).greatest

instance (peer : Peer) : Decidable peer.Dumpable :=
  decidable_of_iff _ (dumpable_iff peer).symm

theorem reads_reader : Reads reader Dumpable encode id := by
  intro buffer result rest
  unfold reader
  simp only [run_bind_eq_ok_iff, run_u8_eq_ok_iff, run_quad_eq_ok_iff, run_address_eq_ok_iff,
    run_asn_eq_ok_iff, run_pure_eq_ok_iff]
  constructor
  · rintro ⟨type, _, rfl, bgpId, _, rfl, address, _, ⟨rfl, family⟩, asn, _, ⟨rfl, fits⟩, rfl, rfl⟩
    refine ⟨⟨type, bgpId, address, asn⟩, ⟨family.symm, fits⟩, ?_, rfl⟩
    simp only [encode, List.cons_append, List.append_assoc]
  · rintro ⟨peer, ⟨family, fits⟩, rfl, rfl⟩
    refine ⟨peer.type, _, List.cons_append, peer.bgpId, _, ?_, peer.address, _,
      ⟨rfl, family.symm⟩, peer.asn, rest, ⟨rfl, fits⟩, rfl, rfl⟩
    simp only [List.append_assoc]

end Peer

/-- An index of routers as it stands in a dump. -/
structure DumpedIndex where
  /-- Time of the record. -/
  timestamp : UInt32
  /-- Identifier of the collector. -/
  collector : Quad
  /-- Name of the view, whether or not it is text. -/
  viewName : Octets
  /-- The routers. -/
  peers : List Peer

namespace DumpedIndex

/-- The body of the record. -/
def body (index : DumpedIndex) : Octets :=
  index.collector.toList ++ (Octets.ofNat 2 index.viewName.length ++ (index.viewName ++
    (Octets.ofNat 2 index.peers.length ++ index.peers.flatMap Peer.encode)))

/-- The record. -/
def record (index : DumpedIndex) : FramedRecord where
  header := ⟨index.timestamp, RecordType.tableDumpV2.code, TableDumpSubtype.peerIndexTable.code,
    UInt32.ofNat index.body.length⟩
  body := index.body
  recoveries := 0

/-- The index as it is kept. -/
def content (index : DumpedIndex) : PeerIndex :=
  ⟨index.collector, Utf8.lossy index.viewName, index.peers⟩

/-- What an index must be to stand in a dump. -/
@[mk_iff] structure Dumpable (index : DumpedIndex) : Prop where
  viewName : index.viewName.length < Octets.bound 2
  count : index.peers.length < Octets.bound 2
  peers : ∀ peer ∈ index.peers, peer.Dumpable

instance (index : DumpedIndex) : Decidable index.Dumpable :=
  decidable_of_iff _ (dumpable_iff index).symm

/-- Indexes are read by this form whatever the time of their record. -/
theorem reads_reader (timestamp : UInt32) :
    Reads PeerIndex.reader
      (fun index : DumpedIndex => index.Dumpable ∧ index.timestamp = timestamp) body content := by
  intro buffer result rest
  unfold PeerIndex.reader
  simp only [run_bind_eq_ok_iff, run_quad_eq_ok_iff, run_u16_eq_ok_iff, run_take_eq_ok_iff,
    run_pure_eq_ok_iff, Peer.reads_reader.times _ _ _ _]
  constructor
  · rintro ⟨collector, _, rfl, length, _, rfl, name, _, ⟨rfl, width⟩, count, _, rfl, _, _,
      ⟨peers, ⟨number, fine⟩, rfl, rfl⟩, rfl, rfl⟩
    refine ⟨⟨timestamp, collector, name, peers⟩, ⟨⟨?_, ?_, fine⟩, rfl⟩, ?_, ?_⟩
    · rw [width]
      exact length.toNat_lt
    · rw [number]
      exact count.toNat_lt
    · rw [body, width, number]
      simp only [List.append_assoc]
    · rw [List.map_id]
      rfl
  · rintro ⟨index, ⟨dumpable, -⟩, rfl, rfl⟩
    have length : (UInt16.ofNat index.viewName.length).toNat = index.viewName.length :=
      UInt16.toNat_ofNat_of_lt' dumpable.viewName
    have count : (UInt16.ofNat index.peers.length).toNat = index.peers.length :=
      UInt16.toNat_ofNat_of_lt' dumpable.count
    refine ⟨index.collector, _, ?_, UInt16.ofNat index.viewName.length, _, rfl, index.viewName, _,
      ⟨rfl, length.symm⟩, UInt16.ofNat index.peers.length, _, rfl, index.peers, rest,
      ⟨index.peers, ⟨count.symm, dumpable.peers⟩, rfl, List.map_id _⟩, rfl, rfl⟩
    rw [body, length, count]
    simp only [List.append_assoc]

/-- An index is decoded to the routers that were written. -/
theorem decode_record {index : DumpedIndex} (dumpable : index.Dumpable) :
    TableDumpRecord.decode index.record.header.subtype index.record.body =
      .ok (.index index.content) := by
  have whole : Consumes PeerIndex.reader index.body index.content :=
    (reads_reader index.timestamp).consumes ⟨dumpable, rfl⟩
  have takes : Consumes (TableDumpRecord.reader .peerIndexTable) index.body
      (.index index.content) := whole.map rfl
  have all := takes []
  rw [List.append_nil] at all
  unfold TableDumpRecord.decode
  dsimp only [record]
  rw [TableDumpSubtype.ofCode?_code]
  dsimp only
  rw [all]

end DumpedIndex

end CollectorFeed
