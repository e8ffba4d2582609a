import CollectorFeed.Update.Narrowing
import CollectorFeed.Proofs.Path.AsNumbers
import Mathlib.Data.List.Forall2
import Mathlib.Tactic.MkIffOfInductiveProp

/-!
# What narrow AS numbers leave of a route

For a session with AS numbers of two octets an attribute of a dump becomes a group of one attribute or
two (`NarrowedTo`): paths and aggregators have narrow AS numbers, and the full value follows at once
if narrowing changed one of them. So the attributes of the dump can be told from the groups
(`restored`), and no two routes become the same (`lossless_adaptAttributes`).
-/

set_option autoImplicit false

namespace CollectorFeed

/-! ## Attributes of a dump and their groups -/

/-- What an attribute of a dump is as a rule: it does not hold the full value of another one, and its
AS numbers, if it has any, stand in four octets. -/
@[mk_iff] structure PathAttribute.FullWidth (attr : PathAttribute) : Prop where
  notPath : attr.code ≠ AttributeKind.as4Path.code
  notAggregator : attr.code ≠ AttributeKind.as4Aggregator.code
  path : attr.code = AttributeKind.asPath.code → (AsPath.decode .four attr.value).isOk = true
  aggregator : attr.code = AttributeKind.aggregator.code → attr.value.length = 8

instance (attr : PathAttribute) : Decidable attr.FullWidth :=
  decidable_of_iff _ attr.fullWidth_iff.symm

/-- The attributes that stand for one attribute of a dump in a session with narrow AS numbers. -/
inductive NarrowedTo (attr : PathAttribute) : List PathAttribute → Prop
  /-- A path has the same segments with narrow AS numbers. The path of the dump follows it exactly if
  one of its AS numbers is wide. -/
  | path {segments : List PathSegment} {narrow : Octets}
      (kind : attr.code = AttributeKind.asPath.code)
      (full : AsPath.decode .four attr.value = .ok segments)
      (read : AsPath.decode .two narrow = .ok (segments.map PathSegment.narrowed)) :
      NarrowedTo attr ({ attr with value := narrow } ::
        if ∃ segment ∈ segments, ∃ asn ∈ segment.asns, 65535 < asn.toNat then
          [⟨0xC0, AttributeKind.as4Path.code, attr.value⟩]
        else [])
  /-- An aggregator has the same identifier behind a narrow AS number of two octets. The aggregator of
  the dump follows it exactly if its AS number is wide. -/
  | aggregator {router : Aggregator} {narrow : Octets}
      (kind : attr.code = AttributeKind.aggregator.code)
      (full : Aggregator.decode attr.value = .ok router)
      (length : narrow.length = 6)
      (read : Aggregator.decode narrow = .ok router.narrowed) :
      NarrowedTo attr ({ attr with value := narrow } ::
        if 65535 < router.asn.toNat then [⟨0xC0, AttributeKind.as4Aggregator.code, attr.value⟩]
        else [])
  /-- Any other attribute is kept. -/
  | kept (notPath : attr.code ≠ AttributeKind.asPath.code)
      (notAggregator : attr.code ≠ AttributeKind.aggregator.code) : NarrowedTo attr [attr]

/-! ## Restoring the attributes -/

/-- A path with AS numbers of two octets, in four octets. -/
def AsPath.widen (value : Octets) : Octets :=
  match decode .two value with
  | .ok segments => encode .four segments
  | .error _ => value

/-- An aggregator of either width, in four octets. -/
def Aggregator.widen (value : Octets) : Octets :=
  match decode value with
  | .ok router => router.encode .four
  | .error _ => value

/-- The value that comes next if it is of the kind of a full value. -/
def fullBehind? (kind : AttributeKind) (behind : List PathAttribute) : Option Octets :=
  behind.head?.bind fun next => if next.code = kind.code then some next.value else none

/-- The value that an attribute had in the dump: the full one behind it, or else its own in four
octets. -/
def restoredValue (attr : PathAttribute) (behind : List PathAttribute) : Octets :=
  if attr.code = AttributeKind.asPath.code then
    (fullBehind? .as4Path behind).getD (AsPath.widen attr.value)
  else if attr.code = AttributeKind.aggregator.code then
    (fullBehind? .as4Aggregator behind).getD (Aggregator.widen attr.value)
  else attr.value

/-- The attributes of the dump, told from those of a session with narrow AS numbers. -/
def restored : List PathAttribute → List PathAttribute
  | [] => []
  | attr :: behind =>
    if attr.code = AttributeKind.as4Path.code ∨ attr.code = AttributeKind.as4Aggregator.code then
      restored behind
    else { attr with value := restoredValue attr behind } :: restored behind

/-- No full value comes next. -/
def NoFullNext (behind : List PathAttribute) : Prop :=
  ∀ next ∈ behind.head?,
    next.code ≠ AttributeKind.as4Path.code ∧ next.code ≠ AttributeKind.as4Aggregator.code

theorem fullBehind?_of_not {kind : AttributeKind} {behind : List PathAttribute}
    (other : ∀ next ∈ behind.head?, next.code ≠ kind.code) : fullBehind? kind behind = none := by
  unfold fullBehind?
  cases first : behind.head? with
  | none => rfl
  | some next =>
    rw [Option.bind_some, if_neg (other next first)]

theorem restored_cons_full {attr : PathAttribute} {behind : List PathAttribute}
    (full : attr.code = AttributeKind.as4Path.code ∨ attr.code = AttributeKind.as4Aggregator.code) :
    restored (attr :: behind) = restored behind := by
  rw [restored, if_pos full]

section Groups

variable {attr : PathAttribute} {group behind : List PathAttribute}

theorem restored_cons (full : attr.FullWidth) (value : Octets) :
    restored ({ attr with value := value } :: behind) =
      { attr with value := restoredValue { attr with value := value } behind } :: restored behind := by
  rw [restored, if_neg]
  rintro (path | aggregator)
  · exact full.notPath path
  · exact full.notAggregator aggregator

theorem widen_path {segments : List PathSegment} {narrow : Octets}
    (full : AsPath.decode .four attr.value = .ok segments)
    (read : AsPath.decode .two narrow = .ok (segments.map PathSegment.narrowed))
    (small : ¬∃ segment ∈ segments, ∃ asn ∈ segment.asns, 65535 < asn.toNat) :
    AsPath.widen narrow = attr.value := by
  have same : segments.map PathSegment.narrowed = segments := by
    apply AsPath.map_narrowed_of_not_isWide
    rw [← Bool.not_eq_true, List.any_eq_true]
    simpa only [PathSegment.isWide_eq_true_iff] using small
  rw [AsPath.widen, read, same]
  exact (AsPath.decode_eq_ok_iff.1 full).2.symm

theorem widen_aggregator {router : Aggregator} {narrow : Octets} (length : attr.value.length = 8)
    (full : Aggregator.decode attr.value = .ok router)
    (read : Aggregator.decode narrow = .ok router.narrowed) (small : ¬65535 < router.asn.toNat) :
    Aggregator.widen narrow = attr.value := by
  have same : router.narrowed = router := by
    rw [Aggregator.narrowed, narrowAsn_of_le (Nat.le_of_not_lt small)]
  rw [Aggregator.widen, read, same]
  exact (Aggregator.eq_encode_four length full).symm

/-- Behind a narrow value stands the full one, or else the narrow one says as much. -/
theorem restored_cons_append {kind : AttributeKind} {narrow widened : Octets} {called : Prop}
    [Decidable called] (full : attr.FullWidth)
    (isFull : kind.code = AttributeKind.as4Path.code ∨ kind.code = AttributeKind.as4Aggregator.code)
    (value : ∀ behind, restoredValue { attr with value := narrow } behind =
      (fullBehind? kind behind).getD widened)
    (same : ¬called → widened = attr.value) (next : fullBehind? kind behind = none) :
    restored (({ attr with value := narrow } ::
      if called then [⟨0xC0, kind.code, attr.value⟩] else []) ++ behind) =
        attr :: restored behind := by
  rw [List.cons_append, restored_cons full, value]
  split
  case isTrue =>
    have found : fullBehind? kind (⟨0xC0, kind.code, attr.value⟩ :: behind) = some attr.value :=
      if_pos rfl
    rw [List.singleton_append, restored_cons_full isFull, found, Option.getD_some]
  case isFalse small =>
    rw [List.nil_append, next, Option.getD_none, same small]

/-- A group is read as the attribute that it stands for. -/
theorem restored_append (full : attr.FullWidth) (narrowed : NarrowedTo attr group)
    (next : NoFullNext behind) : restored (group ++ behind) = attr :: restored behind := by
  cases narrowed with
  | path kind value read =>
    refine restored_cons_append full (.inl rfl) (fun _ => if_pos kind) (widen_path value read) ?_
    exact fullBehind?_of_not fun other there => (next other there).1
  | aggregator kind value length read =>
    have other : attr.code ≠ AttributeKind.asPath.code := by
      rw [kind]
      decide
    refine restored_cons_append full (.inr rfl) (fun _ => (if_neg other).trans (if_pos kind))
      (widen_aggregator (full.aggregator kind) value read) ?_
    exact fullBehind?_of_not fun other there => (next other there).2
  | kept notPath notAggregator =>
    have value : restoredValue attr behind = attr.value := by
      rw [restoredValue, if_neg notPath, if_neg notAggregator]
    rw [List.singleton_append, restored_cons full attr.value, value]

/-- A group begins with an attribute of the kind that it stands for. -/
theorem NarrowedTo.noFullNext (full : attr.FullWidth) (narrowed : NarrowedTo attr group) :
    NoFullNext (group ++ behind) := by
  have first : ∃ value rest, group = { attr with value := value } :: rest := by
    cases narrowed with
    | path => exact ⟨_, _, rfl⟩
    | aggregator => exact ⟨_, _, rfl⟩
    | kept => exact ⟨_, _, rfl⟩
  obtain ⟨value, rest, rfl⟩ := first
  rintro next same
  cases same
  exact ⟨full.notPath, full.notAggregator⟩

/-- By induction on the attributes: no group can be taken for the full value of the one before it. -/
theorem restored_flatten {attributes : List PathAttribute} {groups : List (List PathAttribute)}
    (full : ∀ attr ∈ attributes, attr.FullWidth)
    (narrowed : List.Forall₂ NarrowedTo attributes groups) :
    NoFullNext groups.flatten ∧ restored groups.flatten = attributes := by
  induction narrowed with
  | nil => exact ⟨nofun, rfl⟩
  | cons first rest ih =>
    rw [List.forall_mem_cons] at full
    obtain ⟨next, others⟩ := ih full.2
    rw [List.flatten_cons]
    refine ⟨first.noFullNext full.1, ?_⟩
    rw [restored_append full.1 first next, others]

end Groups

/-! ## Narrowing -/

namespace Narrowing

theorem kind?_eq_some_iff {attr : PathAttribute} {kind : AttributeKind} :
    attr.kind? = some kind ↔ attr.code = kind.code := by
  unfold PathAttribute.kind?
  cases kind <;> grind [AttributeKind.ofCode?, AttributeKind.code]

theorem hasKind_eq_false {attributes : List PathAttribute} {kind : AttributeKind}
    (without : ∀ attr ∈ attributes, attr.code ≠ kind.code) : hasKind kind attributes = false := by
  rw [hasKind, List.any_eq_false]
  intro attr there
  rw [decide_eq_true_eq, kind?_eq_some_iff]
  exact without attr there

theorem exists_segments {attr : PathAttribute} (full : attr.FullWidth)
    (kind : attr.code = AttributeKind.asPath.code) :
    ∃ segments, AsPath.decode .four attr.value = .ok segments := by
  have read := full.path kind
  cases value : AsPath.decode .four attr.value with
  | ok segments => exact ⟨segments, rfl⟩
  | error e =>
    rw [value] at read
    cases read

/-- Each attribute of a dump becomes a group that stands for it. -/
theorem narrowedTo_one {attr : PathAttribute} (full : attr.FullWidth) :
    NarrowedTo attr (one false false attr) := by
  unfold one
  simp only [kind?_eq_some_iff]
  split
  case isTrue kind =>
    obtain ⟨segments, value⟩ := exists_segments full kind
    have fits := (AsPath.decode_eq_ok_iff.1 value).1
    have wide : segments.any PathSegment.isWide = true ↔
        ∃ segment ∈ segments, ∃ asn ∈ segment.asns, 65535 < asn.toNat := by
      simp only [List.any_eq_true, PathSegment.isWide_eq_true_iff]
    have group := NarrowedTo.path kind value (AsPath.decode_encode_two fits)
    simp only [← wide] at group
    have form : path false attr = { attr with value := AsPath.encode .two segments } ::
        fullValue (segments.any PathSegment.isWide && !false) .as4Path attr.value := by
      rw [path, value]
    rw [form, fullValue, Bool.not_false, Bool.and_true]
    exact group
  case isFalse notPath =>
    split
    case isTrue kind =>
      obtain ⟨router, value⟩ := Aggregator.exists_of_length kind.2
      have group := NarrowedTo.aggregator kind.1 value (router.length_encode .two)
        router.decode_encode_two
      have form : aggregator false attr = { attr with value := router.encode .two } ::
          fullValue (decide (65535 < router.asn.toNat) && !false) .as4Aggregator attr.value := by
        rw [aggregator, value]
        rfl
      rw [form, fullValue, Bool.not_false, Bool.and_true]
      simp only [decide_eq_true_eq]
      exact group
    case isFalse notAggregator =>
      exact .kept notPath fun kind => notAggregator ⟨kind, full.aggregator kind⟩

variable {attributes : List PathAttribute}

theorem exists_groups (full : ∀ attr ∈ attributes, attr.FullWidth) :
    ∃ groups, List.Forall₂ NarrowedTo attributes groups ∧
      adaptAttributes .two attributes = groups.flatten := by
  refine ⟨attributes.map (one false false), ?_, ?_⟩
  · rw [List.forall₂_map_right_iff, List.forall₂_same]
    exact fun attr there => narrowedTo_one (full attr there)
  · -- the route holds no full values yet, so none is left out
    rw [adaptAttributes, hasKind_eq_false fun attr there => (full attr there).notPath,
      hasKind_eq_false fun attr there => (full attr there).notAggregator, List.flatMap_def]

theorem restored_adaptAttributes (full : ∀ attr ∈ attributes, attr.FullWidth) :
    restored (adaptAttributes .two attributes) = attributes := by
  obtain ⟨groups, narrowed, same⟩ := exists_groups full
  rw [same]
  exact (restored_flatten full narrowed).2

end Narrowing

/-- Narrowing keeps all that a route says. The attributes of the dump can be told from those of the
session, each of which stands in the group of an attribute of the dump, and in a session with AS
numbers of four octets they are the same. -/
theorem lossless_adaptAttributes {attributes : List PathAttribute}
    (full : ∀ attr ∈ attributes, attr.FullWidth) :
    restored (adaptAttributes .two attributes) = attributes ∧
    (∀ others : List PathAttribute, (∀ attr ∈ others, attr.FullWidth) →
      adaptAttributes .two others = adaptAttributes .two attributes → others = attributes) ∧
    (∃ groups, List.Forall₂ NarrowedTo attributes groups ∧
      adaptAttributes .two attributes = groups.flatten) ∧
    adaptAttributes .four attributes = attributes := by
  have back := Narrowing.restored_adaptAttributes full
  refine ⟨back, ?_, Narrowing.exists_groups full, rfl⟩
  intro others full' same
  rw [← Narrowing.restored_adaptAttributes full', same, back]

/-- A route with a wide path, a narrow path and a wide aggregator. -/
def sampleAttributes : List PathAttribute :=
  [⟨0x40, 2, [2, 2, 0, 1, 0, 0, 0, 0, 0, 7]⟩, ⟨0x40, 2, [1, 1, 0, 0, 0, 7]⟩,
    ⟨0xC0, 7, [0, 2, 0, 0, 10, 0, 0, 1]⟩]

theorem lossless_adaptAttributes_sample :
    (∀ attr ∈ sampleAttributes, attr.FullWidth) ∧
      adaptAttributes .two sampleAttributes =
        [⟨0x40, 2, [2, 2, 91, 160, 0, 7]⟩, ⟨0xC0, 17, [2, 2, 0, 1, 0, 0, 0, 0, 0, 7]⟩,
          ⟨0x40, 2, [1, 1, 0, 7]⟩, ⟨0xC0, 7, [91, 160, 10, 0, 0, 1]⟩,
          ⟨0xC0, 18, [0, 2, 0, 0, 10, 0, 0, 1]⟩] ∧
      restored (adaptAttributes .two sampleAttributes) = sampleAttributes := by
  have full : ∀ attr ∈ sampleAttributes, attr.FullWidth := by decide
  exact ⟨full, by decide, (lossless_adaptAttributes full).1⟩

end CollectorFeed
