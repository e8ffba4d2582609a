import CollectorFeed.Record.Header
import CollectorFeed.Rib.TableDump
import CollectorFeed.Proofs.Decoding.Forms
import Mathlib.Tactic.MkIffOfInductiveProp

/-!
# The grammar of records of routes

What the body of a record of routes can be, told without a reader. An attribute stands behind its
flags, its code and a length of one or two octets, as the flags say (`PathAttribute.dumpForm`), and
the one that carries networks is either complete or a next hop behind its length. Attributes fill
the block of an entry, and entries follow the network of the record (`DumpedRib.body`).

A reader takes legible items by these forms and nothing else: attributes
(`AttributeBlock.decode_eq_ok_iff`), entries (`RibEntry.reads_reader`) and records
(`TableDumpRecord.run_reader_eq_rib_iff`). So a record is decoded exactly if it is legible
(`TableDumpRecord.grammar_decode`).
-/

set_option autoImplicit false

namespace CollectorFeed

open Reader

/-! ## Attributes -/

/-- Octets of the length of an attribute in a dump: the flags say how many. -/
def AttributeFlags.lengthWidth (flags : UInt8) : Nat :=
  if isExtended flags then 2 else 1

namespace Reachability

/-- What the value of the attribute that carries networks can be in a dump: the full form, which
begins with a zero octet, or the length of a next hop with at least so many octets behind it. -/
def Legible : Octets → Prop
  | [] => False
  | first :: rest => first = 0 ∨ first.toNat ≤ rest.length

instance : DecidablePred Legible
  | [] => inferInstanceAs (Decidable False)
  | first :: rest => inferInstanceAs (Decidable (first = 0 ∨ first.toNat ≤ rest.length))

/-- Such a value as it is kept: family, use, the next hop behind its length, a reserved octet and the
network. -/
def kept (target : RouteTarget) : Octets → Octets
  | [] => []
  | first :: rest =>
    if first = 0 then first :: rest
    else Octets.ofNat 2 target.family.code.toNat ++ [target.use.code, first] ++
      rest.take first.toNat ++ [0] ++ target.network.encode

theorem full_take (target : RouteTarget) {length : UInt8} {rest : Octets}
    (there : length.toNat ≤ rest.length) :
    full target (rest.take length.toNat) = Octets.ofNat 2 target.family.code.toNat ++
      [target.use.code, length] ++ rest.take length.toNat ++ [0] ++ target.network.encode := by
  have count : UInt8.ofNat (rest.take length.toNat).length = length := by
    rw [List.length_take_of_le there, UInt8.ofNat_toNat]
  rw [full, count]
  simp only [List.append_assoc, List.cons_append, List.nil_append]

theorem complete_eq_ok_iff {target : RouteTarget} {value result : Octets} :
    complete target value = .ok result ↔ Legible value ∧ kept target value = result := by
  unfold complete Legible kept
  cases value with
  | nil =>
    have read : nextHop.run [] = (.error .bufferExhausted, []) := rfl
    simp [read]
  | cons first rest =>
    have read : nextHop.run (first :: rest) = (take first.toNat).run rest :=
      run_bind_ok (consumes_u8 first rest)
    simp only [List.head?_cons, Option.some_inj, read, run_take]
    -- a zero octet in front is that of the full form, and any other one the length of a next hop
    by_cases zero : first = 0
    · simp [zero]
    · by_cases there : first.toNat ≤ rest.length
      · simp [zero, there, full_take target there]
      · simp [zero, there]

end Reachability

namespace PathAttribute

/-- The form of an attribute in a dump. -/
def dumpForm (attr : PathAttribute) : Octets :=
  attr.flags :: attr.code ::
    (Octets.ofNat (AttributeFlags.lengthWidth attr.flags) attr.value.length ++ attr.value)

/-- What an attribute can be in a dump: its length fits where the flags have it stand. -/
@[mk_iff] structure Legible (attr : PathAttribute) : Prop where
  length : attr.value.length < Octets.bound (AttributeFlags.lengthWidth attr.flags)
  reach : attr.isMpReach = true → Reachability.Legible attr.value

instance (attr : PathAttribute) : Decidable attr.Legible :=
  decidable_of_iff _ (legible_iff attr).symm

/-- The attribute as it is kept. -/
def kept (target : RouteTarget) (attr : PathAttribute) : PathAttribute :=
  { attr with
    value := if attr.isMpReach then Reachability.kept target attr.value else attr.value }

theorem length_dumpForm (attr : PathAttribute) :
    attr.dumpForm.length = 2 + AttributeFlags.lengthWidth attr.flags + attr.value.length := by
  simp only [dumpForm, List.length_cons, List.length_append, Octets.length_ofNat]
  omega

end PathAttribute

namespace AttributeBlock

/-- A number of so many octets is written in them, and every number that they can hold is one. -/
theorem exists_number_iff {ν : Type} {toNat : ν → Nat} {width : Nat}
    (numbers : ∀ length, length < Octets.bound width ↔ ∃ value, toNat value = length)
    {buffer rest : Octets} {length : Nat} :
    (∃ value, buffer = Octets.ofNat width (toNat value) ++ rest ∧ toNat value = length) ↔
      buffer = Octets.ofNat width length ++ rest ∧ length < Octets.bound width := by
  rw [numbers]
  constructor
  · rintro ⟨value, rfl, rfl⟩
    exact ⟨rfl, value, rfl⟩
  · rintro ⟨rfl, value, rfl⟩
    exact ⟨value, rfl, rfl⟩

theorem run_valueLength_eq_ok_iff {flags code : UInt8} {buffer rest : Octets} {length : Nat} :
    (valueLength flags code).run buffer = (.ok length, rest) ↔
      buffer = Octets.ofNat (AttributeFlags.lengthWidth flags) length ++ rest ∧
        length < Octets.bound (AttributeFlags.lengthWidth flags) := by
  unfold AttributeFlags.lengthWidth
  show (if AttributeFlags.isExtended flags = true then _ else _) = _ ↔ _
  -- the errors of the two readers are told apart, but only their values count here
  split
  case isTrue =>
    have words (length : Nat) : length < Octets.bound 2 ↔ ∃ value : UInt16, value.toNat = length :=
      ⟨fun fits => ⟨UInt16.ofNat length, UInt16.toNat_ofNat_of_lt' fits⟩,
        fun ⟨value, same⟩ => same ▸ value.toNat_lt⟩
    rw [← exists_number_iff words]
    simp only [← run_u16_eq_ok_iff]
    rcases u16.run buffer with ⟨e | value, between⟩ <;> simp [and_assoc, and_comm]
  case isFalse =>
    have octets (length : Nat) : length < Octets.bound 1 ↔ ∃ value : UInt8, value.toNat = length :=
      ⟨fun fits => ⟨UInt8.ofNat length, UInt8.toNat_ofNat_of_lt' fits⟩,
        fun ⟨value, same⟩ => same ▸ value.toNat_lt⟩
    rw [← exists_number_iff octets]
    simp only [Octets.ofNat_one, List.singleton_append, ← run_u8_eq_ok_iff]
    rcases u8.run buffer with ⟨e | value, between⟩ <;> simp [and_assoc, and_comm]

theorem run_value_eq_ok_iff {code : UInt8} {length : Nat} {buffer octets rest : Octets} :
    (value code length).run buffer = (.ok octets, rest) ↔
      buffer = octets ++ rest ∧ octets.length = length :=
  ite_holds_eq_ok_iff

theorem kept_eq_ok_iff (target : RouteTarget) (attr : PathAttribute) {result : Octets} :
    kept target attr.code attr.value = .ok result ↔
      (attr.isMpReach = true → Reachability.Legible attr.value) ∧
        (attr.kept target).value = result := by
  unfold kept PathAttribute.kept PathAttribute.isMpReach
  by_cases reach : attr.code = AttributeKind.mpReach.code
  · simp [reach, Reachability.complete_eq_ok_iff]
  · simp [reach]

theorem reads_one (target : RouteTarget) :
    Reads (one target) PathAttribute.Legible PathAttribute.dumpForm (PathAttribute.kept target) := by
  intro buffer result rest
  unfold one
  simp only [run_bind_eq_ok_iff, run_u8_eq_ok_iff, run_valueLength_eq_ok_iff, run_value_eq_ok_iff]
  constructor
  · rintro ⟨flags, _, rfl, code, _, rfl, length, _, ⟨rfl, fits⟩, octets, _, ⟨rfl, rfl⟩, read⟩
    cases kept : AttributeBlock.kept target code octets with
    | error e =>
      rw [kept] at read
      cases read
    | ok value =>
      rw [kept] at read
      cases read
      obtain ⟨reach, rfl⟩ := (kept_eq_ok_iff target ⟨flags, code, octets⟩).1 kept
      -- the value as it stands in the block, and not as it is kept, is that of the legible attribute
      refine ⟨⟨flags, code, octets⟩, ⟨fits, reach⟩, ?_, rfl⟩
      simp only [PathAttribute.dumpForm, List.cons_append, List.append_assoc]
  · rintro ⟨attr, legible, rfl, rfl⟩
    have kept := (kept_eq_ok_iff target attr).2 ⟨legible.reach, rfl⟩
    refine ⟨attr.flags, _, rfl, attr.code, _, rfl, attr.value.length, _, ⟨?_, legible.length⟩,
      attr.value, rest, ⟨rfl, rfl⟩, ?_⟩
    · exact List.append_assoc _ _ _
    · rw [kept]
      rfl

/-- A block is decoded to attributes exactly if legible ones fill it, and those are kept. -/
theorem decode_eq_ok_iff {target : RouteTarget} {block : Octets} {attributes : List PathAttribute} :
    decode target block = .ok attributes ↔
      ∃ raw : List PathAttribute, (∀ attr ∈ raw, attr.Legible) ∧
        block = raw.flatMap PathAttribute.dumpForm ∧
        raw.map (PathAttribute.kept target) = attributes := by
  have some_ : 0 < shortestHead := Nat.succ_pos _
  have long : ∀ attr : PathAttribute, attr.Legible → shortestHead ≤ attr.dumpForm.length := by
    intro attr _
    rw [attr.length_dumpForm, AttributeFlags.lengthWidth, shortestHead]
    split <;> omega
  rw [decode, run_fst_eq_ok_iff]
  unfold reader
  simp only [run_bind_eq_ok_iff, (reads_one target).run_many_eq_ok_iff some_ long,
    run_peek, Prod.mk.injEq, Except.ok.injEq]
  constructor
  · rintro ⟨rest, read, left, ⟨-, raw, fine, rfl, rfl⟩, _, _, ⟨rfl, rfl⟩, ended⟩
    -- the loop may stop in front of one octet or two, which are then refused
    cases left with
    | nil =>
      cases ended
      exact ⟨raw, fine, List.append_nil _, rfl⟩
    | cons octet left => cases ended
  · rintro ⟨raw, fine, rfl, rfl⟩
    exact ⟨[], _, [], ⟨some_, raw, fine, (List.append_nil _).symm, rfl⟩, [], [],
      ⟨rfl, rfl⟩, rfl⟩

end AttributeBlock

/-! ## Entries -/

namespace RibEntry

/-- The attributes of an entry as they stand in a dump. -/
def attributeForm (entry : RibEntry) : Octets :=
  entry.attributes.flatMap PathAttribute.dumpForm

/-- The form of an entry in a dump. -/
def dumpForm (entry : RibEntry) : Octets :=
  Octets.ofNat 2 entry.peerPlace.toNat ++ (Octets.ofNat 4 entry.originated.toNat ++
    (Octets.ofNat 2 entry.attributeForm.length ++ entry.attributeForm))

/-- What an entry can be in a dump. -/
@[mk_iff] structure Legible (entry : RibEntry) : Prop where
  attributes : ∀ attr ∈ entry.attributes, attr.Legible
  length : entry.attributeForm.length < Octets.bound 2

instance (entry : RibEntry) : Decidable entry.Legible :=
  decidable_of_iff _ (legible_iff entry).symm

/-- The entry as it is kept. -/
def kept (target : RouteTarget) (entry : RibEntry) : RibEntry :=
  { entry with attributes := entry.attributes.map (PathAttribute.kept target) }

theorem run_block_eq_ok_iff {length : Nat} {buffer octets rest : Octets} :
    (block length).run buffer = (.ok octets, rest) ↔
      buffer = octets ++ rest ∧ octets.length = length :=
  ite_holds_eq_ok_iff

theorem reads_reader (target : RouteTarget) :
    Reads (reader target) Legible dumpForm (kept target) := by
  intro buffer result rest
  rw [reader, run_bind_ok (run_peek _)]
  constructor
  · intro read
    split at read
    case isFalse => cases read
    simp only [run_bind_eq_ok_iff, run_u16_eq_ok_iff, run_u32_eq_ok_iff, run_block_eq_ok_iff] at read
    obtain ⟨place, _, rfl, originated, _, rfl, length, _, rfl, octets, _, ⟨rfl, width⟩, read⟩ := read
    cases decoded : AttributeBlock.decode target octets with
    | error e =>
      rw [decoded] at read
      cases read
    | ok attributes =>
      rw [decoded] at read
      cases read
      obtain ⟨raw, fine, rfl, rfl⟩ := AttributeBlock.decode_eq_ok_iff.1 decoded
      refine ⟨⟨place, originated, raw⟩, ⟨fine, ?_⟩, ?_, rfl⟩
      · rw [attributeForm, width]
        exact length.toNat_lt
      · rw [dumpForm, attributeForm, width]
        simp only [List.append_assoc]
  · rintro ⟨entry, legible, rfl, rfl⟩
    have number : (UInt16.ofNat entry.attributeForm.length).toNat = entry.attributeForm.length :=
      UInt16.toNat_ofNat_of_lt' legible.length
    have decoded : AttributeBlock.decode target entry.attributeForm =
        .ok (entry.attributes.map (PathAttribute.kept target)) :=
      AttributeBlock.decode_eq_ok_iff.2 ⟨entry.attributes, legible.attributes, rfl, rfl⟩
    -- the head is looked for before any of its numbers is taken
    have there : holds headLength (entry.dumpForm ++ rest) = true := by
      rw [holds_iff, dumpForm, headLength]
      simp only [List.length_append, Octets.length_ofNat]
      omega
    rw [if_pos there]
    simp only [run_bind_eq_ok_iff, run_u16_eq_ok_iff, run_u32_eq_ok_iff, run_block_eq_ok_iff]
    refine ⟨entry.peerPlace, _, ?_, entry.originated, _, rfl,
      UInt16.ofNat entry.attributeForm.length, _, rfl, entry.attributeForm, rest,
      ⟨rfl, number.symm⟩, ?_⟩
    · rw [dumpForm, number]
      simp only [List.append_assoc]
    · rw [decoded]
      rfl

end RibEntry

/-! ## Records -/

/-- A record of routes as it stands in a dump. -/
structure DumpedRib where
  /-- Time of the record. -/
  timestamp : UInt32
  /-- Whether family and use stand in the record. Else its subtype tells them. -/
  generic : Bool
  /-- Sequence number of the record. -/
  sequence : UInt32
  /-- Family of the network. -/
  family : AddressFamily
  /-- What the routes are for. -/
  use : SubsequentFamily
  /-- Leading bits of the network. -/
  bits : UInt8
  /-- The octets that these bits reach into. -/
  front : Octets
  /-- The routes, with attributes as they stand in the dump. -/
  entries : List RibEntry
  /-- No network is longer than an address. -/
  bits_le : bits.toNat ≤ family.maxBits
  /-- There are as many octets as the bits reach into. -/
  length_front : front.length = octetsFor bits.toNat

namespace DumpedRib

/-- Where the routes lead. -/
def target (rib : DumpedRib) : RouteTarget where
  family := rib.family
  use := rib.use
  network := ⟨Address.padded rib.family rib.front, rib.bits.toNat, by simpa using rib.bits_le⟩

/-- The subtype of the record. -/
def subtype (rib : DumpedRib) : TableDumpSubtype :=
  if rib.generic then .ribGeneric
  else
    match rib.family, rib.use with
    | .ipv4, .unicast => .ribIpv4Unicast
    | .ipv4, .multicast => .ribIpv4Multicast
    | .ipv6, .unicast => .ribIpv6Unicast
    | .ipv6, .multicast => .ribIpv6Multicast

/-- Network and routes as they stand in the record. -/
def networkForm (rib : DumpedRib) : Octets :=
  [rib.bits] ++ rib.front ++
    (Octets.ofNat 2 rib.entries.length ++ rib.entries.flatMap RibEntry.dumpForm)

/-- Family and use as they stand in the record, if they do. -/
def familyForm (rib : DumpedRib) : Octets :=
  if rib.generic then Octets.ofNat 2 rib.family.code.toNat ++ [rib.use.code] else []

/-- The body of the record. -/
def body (rib : DumpedRib) : Octets :=
  Octets.ofNat 4 rib.sequence.toNat ++ (rib.familyForm ++ rib.networkForm)

/-- The record. -/
def record (rib : DumpedRib) : FramedRecord where
  header := ⟨rib.timestamp, RecordType.tableDumpV2.code, rib.subtype.code,
    UInt32.ofNat rib.body.length⟩
  body := rib.body
  recoveries := 0

/-- What a record of routes can be in a dump. -/
@[mk_iff] structure Legible (rib : DumpedRib) : Prop where
  entries : ∀ entry ∈ rib.entries, entry.Legible
  count : rib.entries.length < Octets.bound 2

instance (rib : DumpedRib) : Decidable rib.Legible :=
  decidable_of_iff _ (legible_iff rib).symm

/-- The routes as they are kept. -/
def kept (rib : DumpedRib) : RibRecord where
  sequence := rib.sequence
  target := rib.target
  entries := rib.entries.map (RibEntry.kept rib.target)

/-- Network and routes are read of a record whatever stands in front of them. -/
theorem reads_body (timestamp : UInt32) (generic : Bool) (sequence : UInt32)
    (family : AddressFamily) (use : SubsequentFamily) :
    Reads (RibRecord.body sequence family use)
      (fun rib : DumpedRib => rib.Legible ∧ rib.timestamp = timestamp ∧ rib.generic = generic ∧
        rib.sequence = sequence ∧ rib.family = family ∧ rib.use = use) networkForm kept := by
  intro buffer result rest
  unfold RibRecord.body
  simp only [run_bind_eq_ok_iff, run_network_eq_ok_iff, run_u16_eq_ok_iff, run_pure_eq_ok_iff]
  constructor
  · rintro ⟨network, _, ⟨bits, front, fits, width, rfl, rfl⟩, count, _, rfl, entries, _, read, rfl,
      rfl⟩
    obtain ⟨raw, ⟨length, fine⟩, rfl, rfl⟩ := ((RibEntry.reads_reader _).times _ _ _ _).1 read
    refine ⟨⟨timestamp, generic, sequence, family, use, bits, front, raw, fits, width⟩,
      ⟨⟨fine, ?_⟩, rfl, rfl, rfl, rfl, rfl⟩, ?_, rfl⟩
    · rw [length]
      exact count.toNat_lt
    · rw [networkForm, length]
      simp only [List.append_assoc]
  · rintro ⟨rib, ⟨legible, -, -, rfl, rfl, rfl⟩, rfl, rfl⟩
    have number : (UInt16.ofNat rib.entries.length).toNat = rib.entries.length :=
      UInt16.toNat_ofNat_of_lt' legible.count
    refine ⟨rib.target.network, _, ⟨rib.bits, rib.front, rib.bits_le, rib.length_front, ?_, rfl⟩,
      UInt16.ofNat rib.entries.length, rib.entries.flatMap RibEntry.dumpForm ++ rest, rfl,
      rib.entries.map (RibEntry.kept rib.target), rest, ?_, rfl, rfl⟩
    · rw [networkForm, number]
      simp only [List.append_assoc]
    · rw [number]
      exact ((RibEntry.reads_reader rib.target).times _ _ _ _).2
        ⟨rib.entries, ⟨rfl, legible.entries⟩, rfl, rfl⟩

/-- A subtype that names family and use is the one for those of the record. -/
theorem family?_subtype {rib : DumpedRib} (named : rib.generic = false) :
    rib.subtype.family? = some (rib.family, rib.use) := by
  unfold subtype
  rw [named, if_neg Bool.false_ne_true]
  cases rib.family <;> cases rib.use <;> rfl

theorem subtype_eq_of_family? {rib : DumpedRib} {subtype : TableDumpSubtype}
    (own : rib.generic = false) (named : subtype.family? = some (rib.family, rib.use)) :
    rib.subtype = subtype := by
  unfold DumpedRib.subtype
  rw [own, if_neg Bool.false_ne_true]
  cases subtype with
  | ribIpv4Unicast | ribIpv4Multicast | ribIpv6Unicast | ribIpv6Multicast =>
    obtain ⟨family, use⟩ := Prod.mk.inj (Option.some.inj named)
    rw [← family, ← use]
  | _ => cases named

theorem subtype_eq_ribGeneric_iff {rib : DumpedRib} :
    rib.subtype = .ribGeneric ↔ rib.generic = true := by
  unfold subtype
  cases rib.generic with
  | true => simp
  | false => cases rib.family <;> cases rib.use <;> simp

/-- Without a family of its own a record has its network behind its sequence number. -/
theorem body_append_of_own {rib : DumpedRib} (own : rib.generic = false) (left : Octets) :
    rib.body ++ left = Octets.ofNat 4 rib.sequence.toNat ++ (rib.networkForm ++ left) := by
  rw [body, familyForm, own, if_neg Bool.false_ne_true, List.nil_append, List.append_assoc]

theorem body_append_of_generic {rib : DumpedRib} (generic : rib.generic = true) (left : Octets) :
    rib.body ++ left = Octets.ofNat 4 rib.sequence.toNat ++
      (Octets.ofNat 2 rib.family.code.toNat ++ rib.use.code :: (rib.networkForm ++ left)) := by
  rw [body, familyForm, generic, if_pos rfl]
  simp only [List.append_assoc, List.cons_append, List.nil_append]

end DumpedRib

theorem AddressFamily.ofCode?_eq_some_iff {code : UInt16} {family : AddressFamily} :
    ofCode? code = some family ↔ code = family.code := by
  cases family <;> grind [ofCode?, AddressFamily.code]

theorem SubsequentFamily.ofCode?_eq_some_iff {code : UInt8} {use : SubsequentFamily} :
    ofCode? code = some use ↔ code = use.code := by
  cases use <;> grind [ofCode?, SubsequentFamily.code]

namespace RibRecord

open DumpedRib

theorem run_familyReader_eq_ok_iff {subtype : TableDumpSubtype} {buffer left : Octets}
    {record : RibRecord} :
    (familyReader subtype).run buffer = (.ok record, left) ↔
      ∃ rib : DumpedRib, (rib.Legible ∧ rib.generic = false ∧ rib.subtype = subtype) ∧
        buffer = rib.body ++ left ∧ rib.kept = record := by
  constructor
  · intro read
    unfold familyReader at read
    split at read
    case h_2 => cases read
    case h_1 family use named =>
      simp only [run_bind_eq_ok_iff, run_u32_eq_ok_iff] at read
      obtain ⟨sequence, _, rfl, read⟩ := read
      obtain ⟨rib, ⟨legible, -, own, rfl, rfl, rfl⟩, rfl, rfl⟩ :=
        (reads_body 0 false sequence family use _ _ _).1 read
      exact ⟨rib, ⟨legible, own, subtype_eq_of_family? own named⟩,
        (body_append_of_own own left).symm, rfl⟩
  · rintro ⟨rib, ⟨legible, own, rfl⟩, rfl, rfl⟩
    rw [familyReader, family?_subtype own]
    simp only [run_bind_eq_ok_iff, run_u32_eq_ok_iff]
    refine ⟨rib.sequence, rib.networkForm ++ left, body_append_of_own own left, ?_⟩
    exact (reads_body rib.timestamp rib.generic _ _ _ _ _ _).2
      ⟨rib, ⟨legible, rfl, rfl, rfl, rfl, rfl⟩, rfl, rfl⟩

theorem run_genericReader_eq_some_iff {buffer left : Octets} {record : RibRecord} :
    genericReader.run buffer = (.ok (some record), left) ↔
      ∃ rib : DumpedRib, (rib.Legible ∧ rib.generic = true) ∧
        buffer = rib.body ++ left ∧ rib.kept = record := by
  unfold genericReader
  simp only [run_bind_eq_ok_iff, run_u32_eq_ok_iff, run_u16_eq_ok_iff, run_u8_eq_ok_iff]
  constructor
  · rintro ⟨sequence, _, rfl, family, _, rfl, use, _, rfl, read⟩
    split at read
    -- no routes come of a family or a use that is not registered
    case h_2 => cases read
    case h_1 family' use' known known' =>
      obtain rfl := AddressFamily.ofCode?_eq_some_iff.1 known
      obtain rfl := SubsequentFamily.ofCode?_eq_some_iff.1 known'
      simp only [run_bind_eq_ok_iff, run_pure_eq_ok_iff, Option.some_inj] at read
      obtain ⟨record, _, read, rfl, rfl⟩ := read
      obtain ⟨rib, ⟨legible, -, generic, rfl, rfl, rfl⟩, rfl, rfl⟩ :=
        (reads_body 0 true sequence family' use' _ _ _).1 read
      exact ⟨rib, ⟨legible, generic⟩, (body_append_of_generic generic _).symm, rfl⟩
  · rintro ⟨rib, ⟨legible, generic⟩, rfl, rfl⟩
    refine ⟨rib.sequence, _, body_append_of_generic generic left, rib.family.code, _, rfl,
      rib.use.code, _, rfl, ?_⟩
    rw [AddressFamily.ofCode?_code, SubsequentFamily.ofCode?_code]
    simp only [run_bind_eq_ok_iff, run_pure_eq_ok_iff, Option.some_inj]
    refine ⟨rib.kept, left, ?_, rfl, rfl⟩
    exact (reads_body rib.timestamp rib.generic _ _ _ _ _ _).2
      ⟨rib, ⟨legible, rfl, rfl, rfl, rfl, rfl⟩, rfl, rfl⟩

end RibRecord

namespace TableDumpRecord

/-- All subtypes that name a family are read in the same way. -/
theorem reader_of_family? {subtype : TableDumpSubtype}
    {named : AddressFamily × SubsequentFamily} (known : subtype.family? = some named) :
    reader subtype = (do return .rib (← RibRecord.familyReader subtype)) := by
  cases subtype with
  | ribIpv4Unicast | ribIpv4Multicast | ribIpv6Unicast | ribIpv6Multicast => rfl
  | _ => cases known

/-- Whatever the subtype, routes are read exactly of the legible records of that subtype. -/
theorem run_reader_eq_rib_iff {subtype : TableDumpSubtype} {buffer left : Octets}
    {record : RibRecord} :
    (reader subtype).run buffer = (.ok (.rib record), left) ↔
      ∃ rib : DumpedRib, (rib.Legible ∧ rib.subtype = subtype) ∧
        buffer = rib.body ++ left ∧ rib.kept = record := by
  by_cases generic : subtype = .ribGeneric
  · subst generic
    simp only [DumpedRib.subtype_eq_ribGeneric_iff, ← RibRecord.run_genericReader_eq_some_iff]
    unfold reader
    rw [run_bind]
    rcases RibRecord.genericReader.run buffer with ⟨e | _ | known, between⟩ <;> simp
  cases named : subtype.family? with
  | some family =>
    have own (rib : DumpedRib) (same : rib.subtype = subtype) : rib.generic = false :=
      Bool.eq_false_iff.2 fun told =>
        generic (same.symm.trans (DumpedRib.subtype_eq_ribGeneric_iff.2 told))
    rw [reader_of_family? named]
    simp only [run_bind_eq_ok_iff, run_pure_eq_ok_iff, rib.injEq,
      RibRecord.run_familyReader_eq_ok_iff]
    constructor
    · rintro ⟨record, _, ⟨rib, ⟨legible, -, same⟩, rfl, rfl⟩, rfl, rfl⟩
      exact ⟨rib, ⟨legible, same⟩, rfl, rfl⟩
    · rintro ⟨rib, ⟨legible, same⟩, rfl, rfl⟩
      exact ⟨_, _, ⟨rib, ⟨legible, own rib same, same⟩, rfl, rfl⟩, rfl, rfl⟩
  | none =>
    -- no other subtype is that of a record of routes, and no routes come of it
    have other (rib : DumpedRib) : rib.subtype ≠ subtype := by
      rintro rfl
      cases told : rib.generic with
      | true => exact generic (DumpedRib.subtype_eq_ribGeneric_iff.2 told)
      | false =>
        rw [DumpedRib.family?_subtype told] at named
        cases named
    constructor
    · intro read
      cases subtype with
      | ribGeneric => exact absurd rfl generic
      | ribIpv4Unicast | ribIpv4Multicast | ribIpv6Unicast | ribIpv6Multicast => cases named
      | peerIndexTable =>
        obtain ⟨_, _, -, same⟩ := run_bind_eq_ok_iff.1 read
        cases same
      | geoPeerTable | ribIpv4UnicastAddPath | ribIpv4MulticastAddPath | ribIpv6UnicastAddPath
      | ribIpv6MulticastAddPath | ribGenericAddPath => cases read
    · rintro ⟨rib, ⟨-, same⟩, -⟩
      exact absurd same (other rib)

/-- A body tells the family of its routes: its subtype names one, or the registered numbers of one
and of a use stand behind the sequence number. -/
def TellsFamily (subtype : TableDumpSubtype) (body : Octets) : Prop :=
  subtype.family?.isSome = true ∨ subtype = .ribGeneric ∧
    ∃ (sequence : UInt32) (family : AddressFamily) (use : SubsequentFamily) (rest : Octets),
      body = Octets.ofNat 4 sequence.toNat ++
        (Octets.ofNat 2 family.code.toNat ++ ([use.code] ++ rest))

/-- A body that tells the family of its routes is never passed over. -/
theorem exists_rib_of_tellsFamily {subtype : TableDumpSubtype} {body left : Octets}
    {result : TableDumpRecord} (tells : TellsFamily subtype body)
    (read : (reader subtype).run body = (.ok result, left)) : ∃ record, result = .rib record := by
  rcases tells with named | ⟨rfl, sequence, family, use, rest, rfl⟩
  · obtain ⟨family, named⟩ := Option.isSome_iff_exists.1 named
    rw [reader_of_family? named] at read
    obtain ⟨record, _, -, same⟩ := run_bind_eq_ok_iff.1 read
    exact ⟨record, (run_pure_eq_ok_iff.1 same).1.symm⟩
  · obtain ⟨known?, _, taken, told⟩ := run_bind_eq_ok_iff.1 read
    cases known? with
    | some record => exact ⟨record, (run_pure_eq_ok_iff.1 told).1.symm⟩
    | none =>
      rw [RibRecord.genericReader, run_bind_ok (consumes_u32 sequence _),
        run_bind_ok (consumes_u16 family.code _), run_bind_ok (consumes_u8 use.code rest),
        AddressFamily.ofCode?_code, SubsequentFamily.ofCode?_code] at taken
      obtain ⟨_, _, -, same⟩ := run_bind_eq_ok_iff.1 taken
      cases same

/-- A record of routes is decoded exactly if it is legible. What it gives are its entries as they are
kept, and octets behind the record stay in the buffer. -/
theorem grammar_decode (subtype : TableDumpSubtype) (body : Octets)
    (tells : TellsFamily subtype body) :
    ((∃ result, decode subtype.code body = .ok result) ↔
      ∃ (rib : DumpedRib) (left : Octets),
        rib.Legible ∧ rib.subtype = subtype ∧ body = rib.body ++ left) ∧
    ∀ (rib : DumpedRib) (left : Octets),
      rib.Legible → rib.subtype = subtype → body = rib.body ++ left →
        decode subtype.code body = .ok (.rib rib.kept) ∧
        (reader subtype).run body = (.ok (.rib rib.kept), left) := by
  have decoded : decode subtype.code body = ((reader subtype).run body).1 := by
    rw [decode, TableDumpSubtype.ofCode?_code]
  have kept (rib : DumpedRib) (left : Octets) (legible : rib.Legible)
      (same : rib.subtype = subtype) (form : body = rib.body ++ left) :
      (reader subtype).run body = (.ok (.rib rib.kept), left) :=
    run_reader_eq_rib_iff.2 ⟨rib, ⟨legible, same⟩, form, rfl⟩
  refine ⟨⟨?_, ?_⟩, ?_⟩
  · rintro ⟨result, fine⟩
    rw [decoded, run_fst_eq_ok_iff] at fine
    obtain ⟨left, read⟩ := fine
    obtain ⟨record, rfl⟩ := exists_rib_of_tellsFamily tells read
    obtain ⟨rib, ⟨legible, same⟩, form, -⟩ := run_reader_eq_rib_iff.1 read
    exact ⟨rib, left, legible, same, form⟩
  · rintro ⟨rib, left, legible, same, form⟩
    exact ⟨.rib rib.kept, by rw [decoded, kept rib left legible same form]⟩
  · intro rib left legible same form
    have read := kept rib left legible same form
    exact ⟨by rw [decoded, read], read⟩

/-- A generic record with one route. Its first attribute has a long length without need, and its
second one has an octet behind the next hop. -/
def sampleGeneric : DumpedRib where
  timestamp := 0
  generic := true
  sequence := 5
  family := .ipv4
  use := .multicast
  bits := 9
  front := [10, 128]
  entries := [⟨2, 7, [⟨0x50, 1, [3]⟩, ⟨0x80, 14, [1, 77, 78]⟩]⟩]
  bits_le := by decide
  length_front := rfl

/-- The octet behind the next hop is dropped, and the one behind the record is left over. -/
theorem grammar_decode_sampleGeneric :
    TellsFamily .ribGeneric (sampleGeneric.body ++ [255]) ∧
      (reader .ribGeneric).run (sampleGeneric.body ++ [255]) =
        (.ok (.rib sampleGeneric.kept), [255]) ∧
      sampleGeneric.kept.entries =
        [⟨2, 7, [⟨0x50, 1, [3]⟩, ⟨0x80, 14, [0, 1, 2, 1, 77, 0, 9, 10, 128]⟩]⟩] := by
  have tells : TellsFamily .ribGeneric (sampleGeneric.body ++ [255]) :=
    .inr ⟨rfl, 5, .ipv4, .multicast, sampleGeneric.networkForm ++ [255], rfl⟩
  have read := (grammar_decode .ribGeneric _ tells).2 sampleGeneric [255] (by decide) rfl rfl
  exact ⟨tells, read.2, rfl⟩

end TableDumpRecord

end CollectorFeed
