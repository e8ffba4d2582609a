import CollectorFeed.Proofs.Update.Reception
import CollectorFeed.Proofs.TableDump.Grammar
import Mathlib.Algebra.BigOperators.Group.List.Basic
import Mathlib.Algebra.GroupWithZero.Nat

/-!
# Written attributes read again

The attributes of a message stand in a form that they can have in a dump, so the reader of a dump can
go over them again. What it gives are the attributes that were written, with the flag of the long
length as the value asks for it (`ReadBack`). Nothing is completed a second time, because what was
completed begins with a zero octet.

Main statement: `UpdateMessage.rereading_encode`, with the layout of a message (`Framed`). A message
is refused only if its length does not fit, and attributes that were read of a block are read of
their message in one form from then on.
-/

set_option autoImplicit false

namespace CollectorFeed

/-! ## One attribute -/

namespace AttributeFlags

theorem testBit_setExtended (flags : UInt8) (place : Nat) :
    (setExtended flags).toNat.testBit place =
      (decide (place = 4) || flags.toNat.testBit place) := by
  have flag : extended.toNat.testBit place = decide (4 = place) :=
    Nat.testBit_two_pow (n := 4) (m := place)
  rw [setExtended, UInt8.toNat_or, Nat.testBit_or, flag, Bool.or_comm]
  simp only [eq_comm]

theorem testBit_clearExtended (flags : UInt8) (place : Nat) :
    (clearExtended flags).toNat.testBit place =
      (!decide (place = 4) && flags.toNat.testBit place) := by
  rw [clearExtended, UInt8.toNat_and, Nat.testBit_and, Bool.and_comm]
  rcases Nat.lt_or_ge place 8 with inside | outside
  · -- the mask has all eight bits but one
    have mask : ∀ place < 8, (~~~extended).toNat.testBit place = !decide (place = 4) := by decide
    rw [mask place inside]
  · have none_ : flags.toNat.testBit place = false :=
      Nat.testBit_lt_two_pow
        (Nat.lt_of_lt_of_le flags.toNat_lt (Nat.pow_le_pow_right Nat.two_pos outside))
    rw [none_, Bool.and_false, Bool.and_false]

theorem setExtended_setExtended (flags : UInt8) :
    setExtended (setExtended flags) = setExtended flags := by
  rw [setExtended, setExtended, UInt8.or_assoc, UInt8.or_self]

end AttributeFlags

/-- What is read of a written attribute. It has the code and the value, and all flags but for the one
of the long length, which tells whether the value has more than 255 octets. -/
structure ReadBack (attr read : PathAttribute) : Prop where
  code : read.code = attr.code
  value : read.value = attr.value
  extended : read.flags.toNat.testBit 4 = decide (255 < attr.value.length)
  others : ∀ place, place ≠ 4 → read.flags.toNat.testBit place = attr.flags.toNat.testBit place

namespace PathAttribute

/-- The attribute is not completed from a record: if it carries networks, it has the full form, which
begins with a zero octet. -/
def Complete (attr : PathAttribute) : Prop :=
  attr.code = 14 → attr.value.head? = some 0

theorem readBack_sent (attr : PathAttribute) : ReadBack attr attr.sent := by
  -- the flags are told place by place, so that it does not matter how they are set and cleared
  have flags (place : Nat) : attr.writtenFlags.toNat.testBit place =
      if place = 4 then attr.isLong else attr.flags.toNat.testBit place := by
    unfold writtenFlags
    cases attr.isLong with
    | true =>
      rw [if_pos rfl, AttributeFlags.testBit_setExtended]
      split <;> simp [*]
    | false =>
      rw [if_neg Bool.false_ne_true, AttributeFlags.testBit_clearExtended]
      split <;> simp [*]
  refine ⟨rfl, rfl, ?_, ?_⟩
  · exact (flags 4).trans (if_pos rfl)
  · intro place other
    exact (flags place).trans (if_neg other)

theorem sent_sent (attr : PathAttribute) : attr.sent.sent = attr.sent := by
  have flags : attr.sent.writtenFlags = attr.writtenFlags := by
    show (if attr.isLong then AttributeFlags.setExtended attr.writtenFlags
      else AttributeFlags.clearExtended attr.writtenFlags) = attr.writtenFlags
    unfold writtenFlags
    cases attr.isLong with
    | true => exact AttributeFlags.setExtended_setExtended attr.flags
    | false => exact AttributeFlags.clearExtended_clearExtended attr.flags
  unfold sent at flags ⊢
  rw [flags]

/-- In a message an attribute has the form that it would have in a dump. -/
theorem dumpForm_sent (attr : PathAttribute) : attr.sent.dumpForm = attr.encode := by
  show attr.writtenFlags :: attr.code ::
    (Octets.ofNat (AttributeFlags.lengthWidth attr.writtenFlags) attr.value.length ++ attr.value) = _
  rw [AttributeFlags.lengthWidth, attr.isExtended_writtenFlags]
  rfl

theorem encode_sent (attr : PathAttribute) : attr.sent.encode = attr.encode := by
  rw [← dumpForm_sent, sent_sent, dumpForm_sent]

theorem complete_sent {attr : PathAttribute} (complete : attr.Complete) : attr.sent.Complete :=
  complete

theorem legible_sent {attr : PathAttribute} (complete : attr.Complete)
    (short : attr.value.length < Octets.bound 2) : attr.sent.Legible := by
  constructor
  · show attr.value.length < Octets.bound (AttributeFlags.lengthWidth attr.writtenFlags)
    rw [AttributeFlags.lengthWidth, attr.isExtended_writtenFlags]
    cases long : attr.isLong with
    | true => exact short
    | false =>
      have few : ¬255 < attr.value.length := of_decide_eq_false long
      show attr.value.length < 256
      omega
  · intro reach
    have full : attr.value.head? = some 0 := complete (beq_iff_eq.1 reach)
    show Reachability.Legible attr.value
    cases value : attr.value with
    | nil =>
      rw [value] at full
      cases full
    | cons first rest =>
      rw [value, List.head?_cons, Option.some_inj] at full
      exact .inl full

theorem kept_of_complete {attr : PathAttribute} (complete : attr.Complete) (target : RouteTarget) :
    attr.kept target = attr := by
  unfold kept
  cases reach : attr.isMpReach with
  | false => rfl
  | true =>
    have full : attr.value.head? = some 0 := complete (beq_iff_eq.1 reach)
    obtain ⟨rest, value⟩ := List.head?_eq_some_iff.1 full
    rw [if_pos rfl, value, Reachability.kept, if_pos rfl, ← value]

/-- What is kept of a dump begins with a zero octet: no family has a number of two octets. -/
theorem complete_kept {attr : PathAttribute} (legible : attr.Legible) (target : RouteTarget) :
    (attr.kept target).Complete := by
  intro reach
  have reach' : attr.isMpReach = true := beq_iff_eq.2 reach
  have known := legible.reach reach'
  rw [kept, reach', if_pos rfl]
  cases value : attr.value with
  | nil =>
    rw [value] at known
    exact known.elim
  | cons first rest =>
    rw [Reachability.kept]
    split
    case isTrue zero => rw [zero, List.head?_cons]
    case isFalse => cases target.family <;> rfl

end PathAttribute

/-! ## A message -/

namespace UpdateMessage

variable {attributes : List PathAttribute} {network? : Option Network}

/-- A message is laid out around a block of attributes: marker, length of the message, type, no
withdrawn routes, the block behind its length, the network and nothing else. Its length fits. -/
structure Framed (block : Octets) (network? : Option Network) (message : Octets) : Prop where
  form : message = List.replicate 16 255 ++ Octets.ofNat 2 message.length ++ [2] ++
    Octets.ofNat 2 0 ++ Octets.ofNat 2 block.length ++ block ++
      (network?.map Network.encode).getD []
  fits : message.length ≤ 65535

theorem attributesLength_eq_sum (attributes : List PathAttribute) :
    attributesLength attributes = (attributes.map PathAttribute.encodedLength).sum := by
  induction attributes with
  | nil => rfl
  | cons first rest ih => rw [List.map_cons, List.sum_cons, ← ih]; rfl

theorem encode_eq_ok_iff {message : Octets} :
    encode attributes network? = .ok message ↔
      totalLength attributes network? ≤ greatestLength ∧ octets attributes network? = message := by
  unfold encode
  dsimp only
  split
  case isTrue long => simp [Nat.not_le.2 long]
  case isFalse short => simp [Nat.le_of_not_lt short]

/-- Length is the only reason to refuse a message. -/
theorem exists_error_iff :
    (∃ e, encode attributes network? = .error e) ↔
      greatestLength < totalLength attributes network? := by
  unfold encode
  dsimp only
  split
  case isTrue long => exact iff_of_true ⟨_, rfl⟩ long
  case isFalse short => exact iff_of_false (fun ⟨_, same⟩ => nomatch same) short

theorem framed_octets (fits : totalLength attributes network? ≤ greatestLength) :
    Framed (encodeAttributes attributes) network? (octets attributes network?) := by
  constructor
  · rw [length_octets, length_encodeAttributes]
    rfl
  · rw [length_octets]
    exact fits

theorem encode_sent (attributes : List PathAttribute) (network? : Option Network) :
    encode (attributes.map PathAttribute.sent) network? = encode attributes network? := by
  have block : encodeAttributes (attributes.map PathAttribute.sent) = encodeAttributes attributes := by
    unfold encodeAttributes
    rw [List.flatMap_map]
    exact congrArg (List.flatMap · attributes) (funext PathAttribute.encode_sent)
  have length : attributesLength (attributes.map PathAttribute.sent) = attributesLength attributes := by
    rw [← length_encodeAttributes, block, length_encodeAttributes]
  unfold encode octets totalLength
  rw [block, length]

/-- The reader of a dump goes over the attributes of a message without completing any of them. -/
theorem decode_encodeAttributes (complete : ∀ attr ∈ attributes, attr.Complete)
    (fits : totalLength attributes network? ≤ greatestLength) (target : RouteTarget) :
    AttributeBlock.decode target (encodeAttributes attributes) =
      .ok (attributes.map PathAttribute.sent) := by
  rw [AttributeBlock.decode_eq_ok_iff]
  refine ⟨attributes.map PathAttribute.sent, ?_, ?_, ?_⟩
  · rw [List.forall_mem_map]
    intro attr there
    -- a value is shorter than the message, so two octets are enough for its length
    have less := length_le_attributesLength there
    refine PathAttribute.legible_sent (complete attr there) ?_
    unfold totalLength greatestLength at fits
    show _ < 65536
    omega
  · rw [List.flatMap_map]
    exact congrArg (List.flatMap · attributes) (funext fun attr => attr.dumpForm_sent.symm)
  · rw [List.map_map]
    refine List.map_congr_left fun attr there => ?_
    exact PathAttribute.kept_of_complete (PathAttribute.complete_sent (complete attr there)) target

theorem complete_of_decode {target : RouteTarget} {block : Octets}
    (read : AttributeBlock.decode target block = .ok attributes) :
    ∀ attr ∈ attributes, attr.Complete := by
  obtain ⟨raw, legible, -, rfl⟩ := AttributeBlock.decode_eq_ok_iff.1 read
  rw [List.forall_mem_map]
  exact fun attr there => PathAttribute.complete_kept (legible attr there) target

/-- A message is refused exactly if its length does not fit. Otherwise its attributes fill a block,
and of this block they are read again whatever the record is, unless one of them could be completed.
Attributes that were read of a block cannot: they are written, read, written again and read again
without any further change. -/
theorem rereading_encode (attributes : List PathAttribute) (network? : Option Network) :
    ((∃ e, encode attributes network? = .error e) ↔
      65535 < 23 + (attributes.map PathAttribute.encodedLength).sum +
        (network?.map Network.encodedLength).getD 0) ∧
    (∀ message, encode attributes network? = .ok message →
      ∃ block, Framed block network? message ∧
        block.length = (attributes.map PathAttribute.encodedLength).sum ∧
        ((∀ attr ∈ attributes, attr.Complete) → ∀ target : RouteTarget,
          ∃ read, AttributeBlock.decode target block = .ok read ∧
            List.Forall₂ ReadBack attributes read)) ∧
    (∀ (target : RouteTarget) (dumped : Octets),
      AttributeBlock.decode target dumped = .ok attributes →
        (∀ attr ∈ attributes, attr.Complete) ∧
        ∀ message, encode attributes network? = .ok message →
          ∃ block read, Framed block network? message ∧ List.Forall₂ ReadBack attributes read ∧
            encode read network? = .ok message ∧
            ∀ target : RouteTarget, AttributeBlock.decode target block = .ok read) := by
  have back : List.Forall₂ ReadBack attributes (attributes.map PathAttribute.sent) := by
    rw [List.forall₂_map_right_iff, List.forall₂_same]
    exact fun attr _ => attr.readBack_sent
  refine ⟨?_, ?_, ?_⟩
  · rw [exists_error_iff, totalLength, attributesLength_eq_sum]
    rfl
  · intro message written
    obtain ⟨fits, rfl⟩ := encode_eq_ok_iff.1 written
    refine ⟨encodeAttributes attributes, framed_octets fits, ?_, ?_⟩
    · rw [length_encodeAttributes, attributesLength_eq_sum]
    · intro complete target
      exact ⟨_, decode_encodeAttributes complete fits target, back⟩
  · intro target dumped read
    have complete := complete_of_decode read
    refine ⟨complete, fun message written => ?_⟩
    obtain ⟨fits, rfl⟩ := encode_eq_ok_iff.1 written
    refine ⟨encodeAttributes attributes, _, framed_octets fits, back, ?_,
      decode_encodeAttributes complete fits⟩
    -- writing what was read gives the same message, and so the same attributes once more
    rw [encode_sent, written]

/-- The flag of the long length is cleared where one octet is enough. -/
example (target : RouteTarget) :
    AttributeBlock.decode target (encodeAttributes [⟨0x50, 1, [0]⟩]) = .ok [⟨0x40, 1, [0]⟩] := rfl

end UpdateMessage

end CollectorFeed
