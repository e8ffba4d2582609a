import CollectorFeed.Path.AsPath
import CollectorFeed.Path.Aggregator
import CollectorFeed.Proofs.Decoding.Forms

/-!
# AS numbers of both widths

Octets are decoded to an AS path exactly if they are its written form, with at most 255 AS numbers in
a segment and none that is too wide (`AsPath.decode_eq_ok_iff`), and the same holds of aggregators.
In two octets `transitionAsn` is written for every AS number that is too wide, so a path written in
two octets is read as the path of the narrowed AS numbers (`AsPath.decode_encode_two`).
-/

set_option autoImplicit false

namespace CollectorFeed

open Reader

/-! ## AS numbers -/

/-- What is read of an AS number that was written in two octets. -/
def narrowAsn (asn : UInt32) : UInt32 :=
  if asn.toNat ≤ 65535 then asn else 23456

theorem narrowAsn_of_le {asn : UInt32} (narrow : asn.toNat ≤ 65535) : narrowAsn asn = asn :=
  if_pos narrow

theorem narrowAsn_le (asn : UInt32) : (narrowAsn asn).toNat ≤ AsnWidth.two.greatest := by
  unfold narrowAsn
  split
  case isTrue narrow => exact narrow
  case isFalse => decide

theorem encodeAsn_narrowAsn (asn : UInt32) : encodeAsn .two (narrowAsn asn) = encodeAsn .two asn := by
  unfold narrowAsn
  split
  case isTrue => rfl
  case isFalse wide => exact (if_neg wide).symm

theorem asn_le_greatest_four (asn : UInt32) : asn.toNat ≤ AsnWidth.four.greatest :=
  Nat.le_of_lt_succ asn.toNat_lt

theorem Reader.reads_asn (width : AsnWidth) :
    Reads (Reader.asn width) (fun asn => asn.toNat ≤ width.greatest) (encodeAsn width) id := by
  intro buffer result rest
  rw [run_asn_eq_ok_iff]
  constructor
  · rintro ⟨rfl, fits⟩
    exact ⟨result, fits, by rw [encodeAsn, if_pos fits], rfl⟩
  · rintro ⟨_, fits, rfl, rfl⟩
    exact ⟨by rw [encodeAsn, if_pos fits]; rfl, fits⟩

/-! ## Paths -/

namespace PathSegment

/-- What a segment must be to be written with AS numbers of a width and read again. -/
structure Fits (width : AsnWidth) (segment : PathSegment) : Prop where
  count : segment.asns.length ≤ 255
  asns : ∀ asn ∈ segment.asns, asn.toNat ≤ width.greatest

/-- The segment with narrow AS numbers. -/
def narrowed (segment : PathSegment) : PathSegment :=
  { segment with asns := segment.asns.map narrowAsn }

theorem length_flatMap_encodeAsn (width : AsnWidth) (asns : List UInt32) :
    (asns.flatMap (encodeAsn width)).length = asns.length * width.octetCount := by
  simp [List.length_flatMap, List.map_const']

theorem length_encode (width : AsnWidth) (segment : PathSegment) :
    (segment.encode width).length = 2 + segment.asns.length * width.octetCount := by
  rw [encode, List.length_cons, List.length_cons, length_flatMap_encodeAsn]
  omega

/-- Segments are taken by their written forms and in no other way. -/
theorem reads_reader (width : AsnWidth) : Reads (reader width) (Fits width) (encode width) id := by
  intro buffer result rest
  have asns := (reads_asn width).times
  unfold reader
  simp only [run_bind_eq_ok_iff, run_u8_eq_ok_iff, run_pure_eq_ok_iff]
  constructor
  · rintro ⟨kind, _, rfl, count, _, rfl, _, between, needed, numbers, _, taken, rfl, rfl⟩
    obtain ⟨items, ⟨length, narrow⟩, rfl, rfl⟩ := (asns _ _ _ _).1 taken
    rw [List.map_id]
    -- the count is one octet, so no more than 255 AS numbers were taken
    have few : items.length ≤ 255 := by
      have less := count.toNat_lt
      omega
    refine ⟨⟨kind, items⟩, ⟨few, narrow⟩, ?_, rfl⟩
    rw [run_need] at needed
    split at needed
    case isFalse => cases needed
    case isTrue =>
      cases needed
      rw [encode, length, UInt8.ofNat_toNat]
      rfl
  · rintro ⟨segment, fits, rfl, rfl⟩
    have number : (UInt8.ofNat segment.asns.length).toNat = segment.asns.length :=
      UInt8.toNat_ofNat_of_lt' (Nat.lt_succ_of_le fits.count)
    refine ⟨segment.kind, _, rfl, UInt8.ofNat segment.asns.length, _, rfl, (),
      segment.asns.flatMap (encodeAsn width) ++ rest, ?_, segment.asns, rest, ?_, rfl, rfl⟩
    · -- the octets of all AS numbers are looked for before one is taken
      have there : (UInt8.ofNat segment.asns.length).toNat * width.octetCount ≤
          (segment.asns.flatMap (encodeAsn width) ++ rest).length := by
        rw [number, List.length_append, length_flatMap_encodeAsn]
        exact Nat.le_add_right _ _
      exact (run_need _ _).trans (if_pos there)
    · exact (asns _ _ _ _).2 ⟨segment.asns, ⟨number.symm, fits.asns⟩, rfl, List.map_id _⟩

variable {segment : PathSegment}

theorem Fits.narrowed {width : AsnWidth} (fits : segment.Fits width) : segment.narrowed.Fits .two := by
  constructor
  · rw [PathSegment.narrowed, List.length_map]
    exact fits.count
  · rw [PathSegment.narrowed, List.forall_mem_map]
    exact fun asn _ => narrowAsn_le asn

theorem encode_narrowed (segment : PathSegment) :
    segment.narrowed.encode .two = segment.encode .two := by
  unfold narrowed encode
  rw [List.length_map, List.flatMap_map]
  exact congrArg (_ :: _ :: List.flatMap · segment.asns) (funext encodeAsn_narrowAsn)

theorem isWide_eq_true_iff : segment.isWide = true ↔ ∃ asn ∈ segment.asns, 65535 < asn.toNat := by
  rw [isWide, List.any_eq_true]
  simp only [decide_eq_true_eq]
  rfl

theorem narrowed_of_not_isWide (narrow : ¬segment.isWide = true) : segment.narrowed = segment := by
  have small : ∀ asn ∈ segment.asns, narrowAsn asn = id asn := by
    intro asn there
    refine narrowAsn_of_le (Nat.le_of_not_lt fun wide => ?_)
    exact narrow (isWide_eq_true_iff.2 ⟨asn, there, wide⟩)
  rw [narrowed, List.map_congr_left small, List.map_id]

end PathSegment

namespace AsPath

variable {segments : List PathSegment}

/-- Octets are decoded to a path exactly if they are its written form. -/
theorem decode_eq_ok_iff {width : AsnWidth} {octets : Octets} :
    decode width octets = .ok segments ↔
      (∀ segment ∈ segments, segment.Fits width) ∧ octets = encode width segments := by
  have long (segment : PathSegment) (_ : segment.Fits width) :
      1 ≤ (segment.encode width).length := by
    rw [segment.length_encode]
    omega
  rw [decode, run_fst_eq_ok_iff]
  unfold reader encode
  simp only [(PathSegment.reads_reader width).run_many_eq_ok_iff Nat.one_pos long, Nat.lt_one_iff,
    List.length_eq_zero_iff, List.map_id]
  constructor
  · rintro ⟨_, rfl, _, fits, rfl, rfl⟩
    exact ⟨fits, List.append_nil _⟩
  · rintro ⟨fits, rfl⟩
    exact ⟨[], rfl, segments, fits, (List.append_nil _).symm, rfl⟩

/-- A path that is written in two octets is read with narrow AS numbers. -/
theorem decode_encode_two {width : AsnWidth} (fits : ∀ segment ∈ segments, segment.Fits width) :
    decode .two (encode .two segments) = .ok (segments.map PathSegment.narrowed) := by
  rw [decode_eq_ok_iff, List.forall_mem_map]
  refine ⟨fun segment there => (fits segment there).narrowed, ?_⟩
  unfold encode
  rw [List.flatMap_map]
  exact congrArg (List.flatMap · segments) (funext fun segment => segment.encode_narrowed.symm)

theorem map_narrowed_of_not_isWide (narrow : segments.any PathSegment.isWide = false) :
    segments.map PathSegment.narrowed = segments := by
  rw [List.any_eq_false] at narrow
  have same : ∀ segment ∈ segments, segment.narrowed = id segment :=
    fun segment there => PathSegment.narrowed_of_not_isWide (narrow segment there)
  rw [List.map_congr_left same, List.map_id]

/-- In two octets a path takes no more room than in four. -/
theorem length_encode_two_le (segments : List PathSegment) :
    (encode .two segments).length ≤ (encode .four segments).length := by
  unfold encode
  induction segments with
  | nil => exact Nat.le_refl _
  | cons segment segments ih =>
    rw [List.flatMap_cons, List.flatMap_cons, List.length_append, List.length_append,
      PathSegment.length_encode, PathSegment.length_encode]
    simp only [AsnWidth.octetCount]
    omega

end AsPath

/-! ## Aggregators -/

namespace Aggregator

/-- The aggregator with a narrow AS number. -/
def narrowed (router : Aggregator) : Aggregator :=
  { router with asn := narrowAsn router.asn }

theorem length_encode (width : AsnWidth) (router : Aggregator) :
    (router.encode width).length = width.octetCount + 4 := by
  rw [encode, List.length_append, length_encodeAsn, router.id.length_toList]

theorem encode_narrowed (router : Aggregator) : router.narrowed.encode .two = router.encode .two :=
  congrArg (· ++ _) (encodeAsn_narrowAsn router.asn)

theorem reads_reader (width : AsnWidth) :
    Reads (reader width) (fun router : Aggregator => router.asn.toNat ≤ width.greatest)
      (encode width) (fun router => router) := by
  intro buffer result rest
  unfold reader
  simp only [run_bind_eq_ok_iff, run_asn_eq_ok_iff, run_quad_eq_ok_iff, run_pure_eq_ok_iff]
  constructor
  · rintro ⟨asn, _, ⟨rfl, fits⟩, router, _, rfl, rfl, rfl⟩
    refine ⟨⟨asn, router⟩, fits, ?_, rfl⟩
    rw [encode, encodeAsn, if_pos fits, List.append_assoc]
  · rintro ⟨router, fits, rfl, rfl⟩
    refine ⟨router.asn, _, ⟨?_, fits⟩, router.id, rest, rfl, rfl, rfl⟩
    rw [encode, encodeAsn, if_pos fits, List.append_assoc]

theorem width?_eq_some_iff {length : Nat} {width : AsnWidth} :
    width? length = some width ↔ length = width.octetCount + 4 := by
  unfold width?
  cases width <;> simp only [AsnWidth.octetCount] <;> grind

/-- Octets are decoded to an aggregator exactly if they are its written form in one of the widths. -/
theorem decode_eq_ok_iff {octets : Octets} {router : Aggregator} :
    decode octets = .ok router ↔
      ∃ width : AsnWidth, router.asn.toNat ≤ width.greatest ∧ octets = router.encode width := by
  unfold decode
  constructor
  · intro read
    split at read
    case h_2 => cases read
    case h_1 width known =>
      obtain ⟨left, taken⟩ := run_fst_eq_ok_iff.1 read
      obtain ⟨_, fits, form, rfl⟩ := (reads_reader width _ _ _).1 taken
      -- the length leaves no room for octets behind the aggregator
      have length := congrArg List.length form
      rw [List.length_append, length_encode, width?_eq_some_iff.1 known, Nat.left_eq_add,
        List.length_eq_zero_iff] at length
      rw [length, List.append_nil] at form
      exact ⟨width, fits, form⟩
  · rintro ⟨width, fits, rfl⟩
    have taken := (reads_reader width).consumes fits []
    rw [List.append_nil] at taken
    rw [width?_eq_some_iff.2 (router.length_encode width)]
    exact congrArg Prod.fst taken

/-- An aggregator that is written in two octets is read with a narrow AS number. -/
theorem decode_encode_two (router : Aggregator) :
    decode (router.encode .two) = .ok router.narrowed :=
  decode_eq_ok_iff.2 ⟨.two, narrowAsn_le router.asn, router.encode_narrowed.symm⟩

/-- The length of an aggregator tells in which width it is written. -/
theorem eq_encode_four {octets : Octets} {router : Aggregator} (length : octets.length = 8)
    (read : decode octets = .ok router) : octets = router.encode .four := by
  obtain ⟨width, -, rfl⟩ := decode_eq_ok_iff.1 read
  rw [length_encode] at length
  cases width with
  | two => cases length
  | four => rfl

/-- Eight octets always are an aggregator. -/
theorem exists_of_length {octets : Octets} (length : octets.length = 8) :
    ∃ router : Aggregator, decode octets = .ok router := by
  have front : (octets.take 4).length = 4 := by simp [length]
  have number : (UInt32.ofNat (Octets.toNat (octets.take 4))).toNat = Octets.toNat (octets.take 4) := by
    have small := Octets.toNat_lt (octets.take 4)
    rw [front] at small
    exact UInt32.toNat_ofNat_of_lt' small
  have written : Octets.ofNat 4 (Octets.toNat (octets.take 4)) = octets.take 4 := by
    have all := Octets.ofNat_toNat (octets.take 4)
    rwa [front] at all
  refine ⟨⟨UInt32.ofNat (Octets.toNat (octets.take 4)), ⟨octets.drop 4, by simp [length]⟩⟩, ?_⟩
  refine decode_eq_ok_iff.2 ⟨.four, asn_le_greatest_four _, ?_⟩
  rw [encode, encodeAsn, if_pos (asn_le_greatest_four _), number]
  exact ((congrArg (· ++ octets.drop 4) written).trans (List.take_append_drop 4 octets)).symm

end Aggregator

end CollectorFeed
