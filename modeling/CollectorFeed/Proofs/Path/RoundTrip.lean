import CollectorFeed.Proofs.Decoding.Accesses
import CollectorFeed.Proofs.Decoding.Errors
import CollectorFeed.Proofs.Path.AsNumbers

/-!
# Paths are read as they are written

Octets are a path if they are segments one behind the other, where a segment is a kind, a count and so
many AS numbers (`AsPath.Segmented`). Such octets, and no others, are decoded, and what they are
decoded to is written as they stood. A path with at most 255 AS numbers in a segment is read as it was
written in four octets, and in two octets with `transitionAsn` for every AS number that is too wide.
The loop over segments has no bound of its own; it comes to its end because a segment is not empty.
Main statement: `AsPath.roundTrip_path`.
-/

set_option autoImplicit false

namespace CollectorFeed

open Reader

/-! ## AS numbers -/

/-- Octets of one AS number always are one. -/
theorem exists_asn {width : AsnWidth} {octets : Octets} (length : octets.length = width.octetCount) :
    ∃ asn : UInt32, asn.toNat ≤ width.greatest ∧ octets = encodeAsn width asn := by
  have taken : (Reader.asn width).run (octets ++ []) =
      (.ok (UInt32.ofNat (Octets.toNat octets)), []) := run_bind_ok (run_take_append length)
  obtain ⟨asn, fits, form, -⟩ := (reads_asn width _ _ _).1 taken
  exact ⟨asn, fits, List.append_cancel_right form⟩

theorem exists_asns {width : AsnWidth} {count : Nat} {octets : Octets}
    (length : octets.length = count * width.octetCount) :
    ∃ asns : List UInt32, asns.length = count ∧ (∀ asn ∈ asns, asn.toNat ≤ width.greatest) ∧
      octets = asns.flatMap (encodeAsn width) := by
  induction count generalizing octets with
  | zero =>
    rw [Nat.zero_mul, List.length_eq_zero_iff] at length
    exact ⟨[], rfl, List.forall_mem_nil _, length⟩
  | succ count ih =>
    rw [Nat.succ_mul] at length
    have front : (octets.take width.octetCount).length = width.octetCount :=
      List.length_take_of_le (by omega)
    have behind : (octets.drop width.octetCount).length = count * width.octetCount := by
      rw [List.length_drop]
      omega
    obtain ⟨asn, fits, first⟩ := exists_asn front
    obtain ⟨asns, rfl, others, rest⟩ := ih behind
    refine ⟨asn :: asns, rfl, List.forall_mem_cons.2 ⟨fits, others⟩, ?_⟩
    rw [List.flatMap_cons, ← first, ← rest, List.take_append_drop]

namespace AsPath

/-! ## Octets that are a path -/

/-- Segments one behind the other: a kind, a count and so many AS numbers of the width each time. -/
inductive Segmented (width : AsnWidth) : Octets → Prop
  /-- There is no segment. -/
  | nil : Segmented width []
  /-- There is one more segment in front. -/
  | cons (kind count : UInt8) {numbers rest : Octets}
      (length : numbers.length = count.toNat * width.octetCount) (others : Segmented width rest) :
      Segmented width (kind :: count :: (numbers ++ rest))

variable {width : AsnWidth} {octets : Octets} {segments : List PathSegment}

theorem segmented_encode (counts : ∀ segment ∈ segments, segment.asns.length ≤ 255) :
    Segmented width (encode width segments) := by
  induction segments with
  | nil => exact .nil
  | cons segment segments ih =>
    obtain ⟨count, others⟩ := List.forall_mem_cons.1 counts
    have number : (UInt8.ofNat segment.asns.length).toNat = segment.asns.length :=
      UInt8.toNat_ofNat_of_lt' (Nat.lt_succ_of_le count)
    refine .cons segment.kind (UInt8.ofNat segment.asns.length) ?_ (ih others)
    rw [number, PathSegment.length_flatMap_encodeAsn]

theorem Segmented.exists_segments (segmented : Segmented width octets) :
    ∃ segments : List PathSegment,
      (∀ segment ∈ segments, segment.Fits width) ∧ octets = encode width segments := by
  induction segmented with
  | nil => exact ⟨[], List.forall_mem_nil _, rfl⟩
  | cons kind count length _ ih =>
    obtain ⟨segments, fits, rfl⟩ := ih
    obtain ⟨asns, number, narrow, rfl⟩ := exists_asns length
    have few : asns.length ≤ 255 := number ▸ Nat.le_of_lt_succ count.toNat_lt
    refine ⟨⟨kind, asns⟩ :: segments, List.forall_mem_cons.2 ⟨⟨few, narrow⟩, fits⟩, ?_⟩
    show _ = (⟨kind, asns⟩ : PathSegment).encode width ++ encode width segments
    rw [PathSegment.encode, number, UInt8.ofNat_toNat]
    rfl

/-- Octets are decoded exactly if they are a path. -/
theorem exists_decode_eq_ok_iff :
    (∃ segments, decode width octets = .ok segments) ↔ Segmented width octets := by
  simp only [decode_eq_ok_iff]
  constructor
  · rintro ⟨segments, fits, rfl⟩
    exact segmented_encode fun segment there => (fits segment there).count
  · exact Segmented.exists_segments

/-! ## Octets that are none -/

/-- Nothing else is wrong with a path than that octets are missing. -/
theorem failsOnly_reader (width : AsnWidth) : FailsOnly FeedError.isExhausted (reader width) :=
  .many 1 (.bind .u8 fun _ => .bind .u8 fun _ => .bind (.need _) fun _ =>
    .bind (.times (.asn width) _) fun _ => .pure _)

theorem eq_bufferExhausted_of_decode {e : FeedError} (failed : decode width octets = .error e) :
    e = .bufferExhausted :=
  FeedError.isExhausted_iff.1 (failsOnly_reader width octets e _ (Prod.ext failed rfl))

theorem decode_eq_error_iff {e : FeedError} :
    decode width octets = .error e ↔ e = .bufferExhausted ∧ ¬ Segmented width octets := by
  rw [← exists_decode_eq_ok_iff]
  constructor
  · intro failed
    refine ⟨eq_bufferExhausted_of_decode failed, ?_⟩
    rintro ⟨segments, read⟩
    cases failed.symm.trans read
  · rintro ⟨rfl, nothing⟩
    cases read : decode width octets with
    | ok segments => exact absurd ⟨segments, read⟩ nothing
    | error e => rw [eq_bufferExhausted_of_decode read]

/-! ## All of it together -/

/-- How paths are read and written. -/
structure PathRoundTrip : Prop where
  /-- What was read is written again as it stood. -/
  written_again : ∀ width octets segments,
    decode width octets = .ok segments → encode width segments = octets
  /-- What is written in four octets is read as it was. -/
  wide_again : ∀ segments : List PathSegment, (∀ segment ∈ segments, segment.asns.length ≤ 255) →
    decode .four (encode .four segments) = .ok segments
  /-- What is written in two octets is read with another AS number for those that are too wide. -/
  narrow_again : ∀ segments : List PathSegment, (∀ segment ∈ segments, segment.asns.length ≤ 255) →
    decode .two (encode .two segments) = .ok (segments.map fun segment =>
      { segment with asns := segment.asns.map fun asn => if 65535 < asn.toNat then 23456 else asn })
  /-- The loop that takes segments as long as an octet is left ends on all octets, with what they
  are decoded to. -/
  ends : ∀ width octets, ((Unchecked.asPath width).on octets).Settles (decode width octets)
  /-- It refuses octets that are no path, for the want of octets, and no others. -/
  refused : ∀ width octets e,
    decode width octets = .error e ↔ e = .bufferExhausted ∧ ¬ Segmented width octets

/-- Paths of both widths are read as they are written, but for AS numbers that are too wide, and octets
are refused only if they are no path. -/
theorem roundTrip_path : PathRoundTrip where
  written_again := fun _ _ _ read => (decode_eq_ok_iff.1 read).2.symm
  wide_again := by
    intro segments counts
    refine decode_eq_ok_iff.2 ⟨fun segment there => ⟨counts segment there, ?_⟩, rfl⟩
    exact fun asn _ => asn_le_greatest_four asn
  narrow_again := by
    intro segments counts
    have fits : ∀ segment ∈ segments, segment.Fits .four :=
      fun segment there => ⟨counts segment there, fun asn _ => asn_le_greatest_four asn⟩
    have same (asn : UInt32) : narrowAsn asn = if 65535 < asn.toNat then 23456 else asn := by
      rcases Nat.lt_or_ge 65535 asn.toNat with wide | narrow
      · rw [narrowAsn, if_neg (Nat.not_le.2 wide), if_pos wide]
      · rw [narrowAsn, if_pos narrow, if_neg (Nat.not_lt.2 narrow)]
    rw [decode_encode_two fits, ← funext same]
    rfl
  ends := fun width octets => .of_eq (Unchecked.asPath_on width octets)
  refused := fun _ _ _ => decode_eq_error_iff

/-- A path of a sequence, an empty segment and a set. -/
def mixedPath : List PathSegment :=
  [⟨2, [1, 65535, 65536]⟩, ⟨4, []⟩, ⟨1, [4294967295]⟩]

/-- Two of the AS numbers are too wide for two octets. -/
theorem roundTrip_path_mixedPath :
    (∀ segment ∈ mixedPath, segment.asns.length ≤ 255) ∧
      decode .four (encode .four mixedPath) = .ok mixedPath ∧
      decode .two (encode .two mixedPath) =
        .ok [⟨2, [1, 65535, 23456]⟩, ⟨4, []⟩, ⟨1, [23456]⟩] := by
  have counts : ∀ segment ∈ mixedPath, segment.asns.length ≤ 255 := by decide
  exact ⟨counts, roundTrip_path.wide_again mixedPath counts,
    roundTrip_path.narrow_again mixedPath counts⟩

/-- A segment that lacks one octet. -/
example : decode .four [2, 1, 0, 0, 1] = .error .bufferExhausted := rfl

end AsPath

end CollectorFeed
