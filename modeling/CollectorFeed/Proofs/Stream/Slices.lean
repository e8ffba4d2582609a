import CollectorFeed.Proofs.Stream.ReadSizes

/-!
# What a framer takes from its stream

Whatever octets a stream has and whether or not it fails, a call on a framer takes octets from the
front, and these can be told apart: refused headers with a recovery span behind each, then the
header that was accepted and the body behind it, or what there was in their place (`CallCourse`).
The call ends after a number of read calls that the octets bound (`Source.Hands`), and what it adds
to the counters is what is seen in the octets. The records of a run are slices of the stream that do
not meet. Main statement: `slices_cut`.
-/

set_option autoImplicit false

namespace CollectorFeed

/-! ## Octets that are handed out -/

namespace Source

/-- A stream has handed out the given octets. It took a read call for each of them at most, and
`idle` read calls that gave nothing. -/
structure Hands (source : Source) (octets : Octets) (idle : Nat) (after : Source) : Prop where
  unread : source.unread = octets ++ after.unread
  offset : after.offset = source.offset + octets.length
  calls : after.calls ≤ source.calls + octets.length + idle

namespace Hands

variable {source between after : Source} {front back : Octets} {idle more : Nat}

theorem refl (source : Source) : source.Hands [] 0 source :=
  ⟨rfl, rfl, Nat.le_refl _⟩

theorem trans (first : source.Hands front idle between) (second : between.Hands back more after) :
    source.Hands (front ++ back) (idle + more) after := by
  have calls := first.calls
  have calls' := second.calls
  constructor
  · rw [first.unread, second.unread, List.append_assoc]
  · rw [second.offset, first.offset, List.length_append, Nat.add_assoc]
  · rw [List.length_append]
    omega

theorem mono (hands : source.Hands front idle after) (few : idle ≤ more) :
    source.Hands front more after := by
  have calls := hands.calls
  exact ⟨hands.unread, hands.offset, by omega⟩

end Hands

variable {source after : Source} {wanted : Nat}

/-! ### Reads -/

theorem read_hands {octets : Octets} (call : source.read wanted = (.ok octets, after)) :
    source.Hands octets (if octets = [] then 1 else 0) after := by
  unfold read at call
  split at call
  · cases call
  · obtain ⟨given, rfl⟩ := Prod.mk.inj call
    cases given
    constructor
    · exact (List.take_append_drop _ _).symm
    · rfl
    · show source.calls + 1 ≤ _
      split
      · omega
      · have some_ := List.length_pos_iff.2 ‹_ ≠ []›
        omega

theorem read_hands_error {e : ReadFault} (call : source.read wanted = (.error e, after)) :
    source.Hands [] 1 after := by
  unfold read at call
  split at call
  · obtain ⟨-, rfl⟩ := Prod.mk.inj call
    exact ⟨rfl, rfl, Nat.le_refl _⟩
  · cases call

/-- A loop of read calls either comes to what was asked for, or ends at a read call that gives
nothing. -/
theorem gatherFrom_hands (wanted : Nat) (pieces : List Octets) (source : Source) :
    ∃ given, (source.gatherFrom wanted pieces).1.octets = pieces.reverse.flatten ++ given ∧
      ((given.length = wanted ∧ (source.gatherFrom wanted pieces).1.fault? = none ∧
          source.Hands given 0 (source.gatherFrom wanted pieces).2) ∨
        (given.length < wanted ∧ source.Hands given 1 (source.gatherFrom wanted pieces).2)) := by
  fun_induction gatherFrom wanted pieces source with
  | case1 pieces source =>
    exact ⟨[], (List.append_nil _).symm, .inl ⟨rfl, rfl, .refl source⟩⟩
  | case2 wanted pieces source more e after call =>
    exact ⟨[], (List.append_nil _).symm, .inr ⟨Nat.pos_of_ne_zero more, read_hands_error call⟩⟩
  | case3 wanted pieces source more after call =>
    exact ⟨[], (List.append_nil _).symm, .inr ⟨Nat.pos_of_ne_zero more, read_hands call⟩⟩
  | case4 wanted pieces source more first rest after call ih =>
    have few := read_length_le call
    rw [List.length_cons] at few
    have front : source.Hands (first :: rest) 0 after := read_hands call
    obtain ⟨given, octets, done⟩ := ih
    refine ⟨first :: rest ++ given, ?_, ?_⟩
    · rw [octets]
      simp
    · rw [List.length_append, List.length_cons]
      rcases done with ⟨full, faultless, behind⟩ | ⟨short, behind⟩
      · exact .inl ⟨by omega, faultless, front.trans behind⟩
      · exact .inr ⟨by omega, front.trans behind⟩

theorem gather_cases (wanted : Nat) (source : Source) :
    (∃ octets after, octets.length = wanted ∧ source.gather wanted = (⟨octets, none⟩, after) ∧
        source.Hands octets 0 after) ∨
      (∃ fault? part after, part.length < wanted ∧ source.gather wanted = (⟨part, fault?⟩, after) ∧
        source.Hands part 1 after) := by
  obtain ⟨given, octets, done⟩ := gatherFrom_hands wanted [] source
  unfold gather
  rcases loop : source.gatherFrom wanted [] with ⟨⟨found, fault?⟩, after⟩
  rw [loop] at octets done
  obtain rfl : found = given := octets
  rcases done with ⟨full, faultless, hands⟩ | ⟨short, hands⟩
  · obtain rfl : fault? = none := faultless
    exact .inl ⟨found, after, full, rfl, hands⟩
  · exact .inr ⟨fault?, found, after, short, rfl, hands⟩

/-- A read of a definite length comes to something, and has then taken so many octets, or it fails
with fewer. -/
theorem readWhole_cases {α ε : Type} (make : Octets → α) (failed : ReadFault → ε) (ended : Nat → ε)
    (wanted : Nat) (source : Source) :
    (∃ octets after, octets.length = wanted ∧
        source.readWhole make failed ended wanted = (.ok (make octets), after) ∧
        source.Hands octets 0 after) ∨
      (∃ e part after, part.length < wanted ∧
        source.readWhole make failed ended wanted = (.error e, after) ∧
        source.Hands part 1 after) := by
  unfold readWhole
  rcases gather_cases wanted source with
    ⟨octets, after, full, gathered, hands⟩ | ⟨fault?, part, after, short, gathered, hands⟩
  · rw [gathered]
    exact .inl ⟨octets, after, full, congrArg (·, after) (if_pos full), hands⟩
  · rw [gathered]
    cases fault? with
    | some fault => exact .inr ⟨_, part, after, short, rfl, hands⟩
    | none =>
      exact .inr ⟨_, part, after, short, congrArg (·, after) (if_neg (Nat.ne_of_lt short)), hands⟩

theorem readExactly_cases (wanted : Nat) (source : Source) :
    (∃ octets after, octets.length = wanted ∧ source.readExactly wanted = (.ok octets, after) ∧
        source.Hands octets 0 after) ∨
      (∃ e part after, part.length < wanted ∧ source.readExactly wanted = (.error e, after) ∧
        source.Hands part 1 after) := by
  rw [readExactly_eq]
  exact readWhole_cases id id _ wanted source

theorem skip_cases (wanted : Nat) (source : Source) :
    (∃ octets after, octets.length = wanted ∧ source.skip wanted = (.ok (), after) ∧
        source.Hands octets 0 after) ∨
      (∃ e part after, part.length < wanted ∧ source.skip wanted = (.error e, after) ∧
        source.Hands part 1 after) := by
  rw [skip_eq]
  exact readWhole_cases _ id _ wanted source

/-! ## Recovery spans -/

end Source

/-- The octets end in a marker, and no marker ends before. -/
structure FirstMarker (octets : Octets) : Prop where
  ends : bgpMarker <:+ octets
  first : ∀ front back, octets = front ++ back → back ≠ [] → ¬ bgpMarker <:+ front

/-- What a recovery scan takes: octets up to the first marker, the two octets of a length that
counts them and the marker, and as many octets as it says, or none if it does not even count so
far. -/
inductive RecoverySpan : Octets → UInt16 → Prop
  | mk {sought message : Octets} {length : UInt16} (marker : FirstMarker sought)
      (number : message.length = length.toNat - Source.markerAndLength) :
      RecoverySpan (sought ++ Octets.ofNat 2 length.toNat ++ message) length

/-- No marker reaches across an octet that is not all ones. -/
theorem marker_suffix_iff {octet : UInt8} (other : octet ≠ 0xFF) (front back : Octets) :
    bgpMarker <:+ front ++ octet :: back ↔ bgpMarker <:+ back := by
  have tail : octet :: back <:+ front ++ octet :: back := List.suffix_append _ _
  constructor
  · intro ends
    rcases Nat.lt_or_ge back.length bgpMarker.length with short | long
    · have across := List.suffix_of_suffix_length_le tail ends short
      have ones := List.eq_of_mem_replicate (across.mem List.mem_cons_self)
      exact absurd ones other
    · exact List.suffix_of_suffix_length_le ends ((List.suffix_cons _ _).trans tail) long
  · intro ends
    exact ends.trans ((List.suffix_cons _ _).trans tail)

theorem FirstMarker.of_ones : FirstMarker bgpMarker where
  ends := List.suffix_refl _
  first := by
    intro front back split some_ ends
    have longer := ends.length_le
    have all := congrArg List.length split
    have more := List.length_pos_iff.2 some_
    rw [List.length_append] at all
    omega

/-- An octet that is not all ones starts the search anew, if fewer octets of ones than a marker has
are in front of it. -/
theorem FirstMarker.cons_other_iff {octet : UInt8} (other : octet ≠ 0xFF) {run : Nat}
    (few : run < bgpMarker.length) (sought : Octets) :
    FirstMarker (List.replicate run 0xFF ++ octet :: sought) ↔ FirstMarker sought := by
  constructor
  · intro marker
    constructor
    · exact (marker_suffix_iff other _ _).1 marker.ends
    · intro front back split some_ ends
      refine marker.first (List.replicate run 0xFF ++ octet :: front) back ?_ some_ ?_
      · rw [split, List.append_assoc, List.cons_append]
      · exact (marker_suffix_iff other _ _).2 ends
  · intro marker
    constructor
    · exact (marker_suffix_iff other _ _).2 marker.ends
    · intro front back split some_ ends
      -- the part in front ends behind the other octet or within the ones before it
      rcases List.append_eq_append_iff.1 split with ⟨more, rfl, rest⟩ | ⟨less, ones, rfl⟩
      · cases more with
        | nil =>
          have long := ends.length_le
          rw [List.append_nil, List.length_replicate] at long
          omega
        | cons first more =>
          obtain ⟨rfl, rfl⟩ := List.cons.inj rest
          exact marker.first more back rfl some_ ((marker_suffix_iff other _ _).1 ends)
      · -- the part in front is made of fewer octets than a marker has
        have long := ends.length_le
        have count := congrArg List.length ones
        rw [List.length_replicate, List.length_append] at count
        omega

/-- Behind octets of ones that are a marker nothing is sought. -/
theorem FirstMarker.ones_append_iff (sought : Octets) :
    FirstMarker (bgpMarker ++ sought) ↔ sought = [] := by
  constructor
  · intro marker
    cases sought with
    | nil => rfl
    | cons octet rest =>
      exact absurd (List.suffix_refl _)
        (marker.first bgpMarker (octet :: rest) rfl (List.cons_ne_nil _ _))
  · rintro rfl
    rw [List.append_nil]
    exact .of_ones

theorem FirstMarker.not_of_few {run : Nat} (few : run < bgpMarker.length) :
    ¬ FirstMarker (List.replicate run 0xFF) := by
  intro marker
  have long := marker.ends.length_le
  rw [List.length_replicate] at long
  omega

/-- If something is still to be sought, the next octet belongs to it. -/
theorem FirstMarker.exists_cons_iff {run : Nat} (few : run < bgpMarker.length) {octet : UInt8}
    {rest left : Octets} :
    (∃ sought, octet :: rest = sought ++ left ∧ FirstMarker (List.replicate run 0xFF ++ sought)) ↔
      ∃ sought, rest = sought ++ left ∧
        FirstMarker (List.replicate run 0xFF ++ octet :: sought) := by
  constructor
  · rintro ⟨sought, split, marker⟩
    cases sought with
    | nil =>
      rw [List.append_nil] at marker
      exact absurd marker (FirstMarker.not_of_few few)
    | cons first sought =>
      obtain ⟨rfl, rfl⟩ := List.cons.inj split
      exact ⟨sought, rfl, marker⟩
  · rintro ⟨sought, rfl, marker⟩
    exact ⟨octet :: sought, rfl, marker⟩

namespace Source

theorem seek_marker_eq_some_iff {octets left : Octets} :
    seek bgpMarker.length octets = some left ↔
      ∃ sought, octets = sought ++ left ∧ FirstMarker (bgpMarker ++ sought) := by
  rw [seek.eq_def, if_pos rfl, Option.some.injEq]
  simp [FirstMarker.ones_append_iff]

/-- What `seek` leaves stands behind the first marker; `run` octets of ones came just before. By
induction on the octets. -/
theorem seek_eq_some_iff {run : Nat} (few : run ≤ bgpMarker.length) {octets left : Octets} :
    seek run octets = some left ↔
      ∃ sought, octets = sought ++ left ∧ FirstMarker (List.replicate run 0xFF ++ sought) := by
  induction octets generalizing run with
  | nil =>
    rcases Nat.eq_or_lt_of_le few with rfl | few
    · exact seek_marker_eq_some_iff
    · rw [seek, if_neg (Nat.ne_of_lt few)]
      constructor
      · intro found
        cases found
      · rintro ⟨sought, split, marker⟩
        obtain ⟨rfl, -⟩ := List.append_eq_nil_iff.1 split.symm
        rw [List.append_nil] at marker
        exact absurd marker (FirstMarker.not_of_few few)
  | cons octet rest ih =>
    rcases Nat.eq_or_lt_of_le few with rfl | few
    · exact seek_marker_eq_some_iff
    · rw [seek, if_neg (Nat.ne_of_lt few), FirstMarker.exists_cons_iff few]
      split
      case isTrue ones =>
        -- the run grows by this octet
        subst ones
        rw [ih few, List.replicate_succ']
        simp only [List.append_assoc, List.cons_append, List.nil_append]
      case isFalse other =>
        -- the search starts anew behind the octet
        rw [ih (Nat.zero_le _), List.replicate_zero]
        simp only [FirstMarker.cons_other_iff other few, List.nil_append]

theorem seek_zero_eq_some_iff {octets left : Octets} :
    seek 0 octets = some left ↔ ∃ sought, octets = sought ++ left ∧ FirstMarker sought :=
  seek_eq_some_iff (Nat.zero_le _)

theorem exists_pair {octets : Octets} (two : octets.length = 2) :
    ∃ high low, octets = [high, low] := by
  rcases octets with _ | ⟨high, _ | ⟨low, _ | _⟩⟩
  · cases two
  · cases two
  · exact ⟨high, low, rfl⟩
  · cases two

/-- Fewer than two octets hold no length. -/
theorem pass_eq_none {octets : Octets} (short : octets.length < 2) : pass octets = none := by
  rcases octets with _ | ⟨high, _ | ⟨low, left⟩⟩
  · rfl
  · rfl
  · rw [List.length_cons, List.length_cons] at short
    omega

/-- Two octets are the writing of a length. -/
theorem toNat_ofNat_pair {octets : Octets} (two : octets.length = 2) :
    (UInt16.ofNat (Octets.toNat octets)).toNat = Octets.toNat octets ∧
      Octets.ofNat 2 (UInt16.ofNat (Octets.toNat octets)).toNat = octets := by
  have small := Octets.toNat_lt octets
  rw [two] at small
  have number : (UInt16.ofNat (Octets.toNat octets)).toNat = Octets.toNat octets :=
    UInt16.toNat_ofNat_of_lt' small
  refine ⟨number, ?_⟩
  rw [number, ← two, Octets.ofNat_toNat]

theorem toNat_ofNat_length (length : UInt16) :
    Octets.toNat (Octets.ofNat 2 length.toNat) = length.toNat := by
  rw [Octets.toNat_ofNat]
  exact Nat.mod_eq_of_lt length.toNat_lt

/-- What `pass` leaves stands behind as many octets as the length tells. -/
theorem pass_eq_some_iff {octets left : Octets} :
    pass octets = some left ↔ ∃ (length : UInt16) (message : Octets),
      message.length = length.toNat - markerAndLength ∧
        octets = Octets.ofNat 2 length.toNat ++ message ++ left := by
  constructor
  · intro passed
    rcases octets with _ | ⟨high, _ | ⟨low, rest⟩⟩
    · cases passed
    · cases passed
    have two : [high, low].length = 2 := rfl
    obtain ⟨number, written⟩ := toNat_ofNat_pair two
    simp only [pass] at passed
    refine ⟨UInt16.ofNat (Octets.toNat [high, low]), ?_⟩
    rw [written, number]
    split at passed
    case isTrue short =>
      -- a length that does not count so far as the marker and itself passes over nothing
      cases passed
      refine ⟨[], ?_, rfl⟩
      rw [List.length_nil]
      omega
    case isFalse =>
      split at passed
      case isTrue there =>
        cases passed
        refine ⟨_, List.length_take_of_le there, ?_⟩
        rw [List.append_assoc, List.take_append_drop]
        rfl
      case isFalse => cases passed
  · rintro ⟨length, message, number, rfl⟩
    have value := toNat_ofNat_length length
    obtain ⟨high, low, written⟩ := exists_pair (Octets.length_ofNat 2 length.toNat)
    rw [written] at value
    rw [written, List.append_assoc, List.cons_append, List.cons_append, List.nil_append]
    simp only [pass]
    rw [value, ← number, List.drop_left, List.length_append]
    split
    case isTrue short =>
      have none_ : message.length = 0 := by omega
      rw [List.length_eq_zero_iff.1 none_, List.nil_append]
    case isFalse => rw [if_pos (Nat.le_add_right _ _)]

/-- A recovery scan takes a recovery span, if one begins the octets. -/
theorem scan_eq_some_iff {octets left : Octets} :
    scan octets = some left ↔ ∃ span length, RecoverySpan span length ∧ octets = span ++ left := by
  rw [scan, Option.bind_eq_some_iff]
  constructor
  · rintro ⟨between, found, passed⟩
    obtain ⟨sought, rfl, marker⟩ := seek_zero_eq_some_iff.1 found
    obtain ⟨length, message, number, rfl⟩ := pass_eq_some_iff.1 passed
    refine ⟨_, length, .mk marker number, ?_⟩
    simp only [List.append_assoc]
  · rintro ⟨_, length, ⟨marker, number⟩, rfl⟩
    refine ⟨_, seek_zero_eq_some_iff.2 ⟨_, ?_, marker⟩, pass_eq_some_iff.2 ⟨length, _, number, rfl⟩⟩
    simp only [List.append_assoc]

/-! ## What scans take -/

/-- By induction on the octets that are read. -/
theorem seekMarker_cases (run : Nat) (source : Source) :
    (∃ sought after, seek run sought = some [] ∧ source.seekMarker run = (.ok (), after) ∧
        source.Hands sought 0 after) ∨
      (∃ e part after, seek run part = none ∧ source.seekMarker run = (.error e, after) ∧
        source.Hands part 1 after) := by
  fun_induction seekMarker run source with
  | case1 source =>
    exact .inl ⟨[], source, by rw [seek, if_pos rfl], rfl, .refl source⟩
  | case2 run source more e after read =>
    rcases readExactly_cases 1 source with ⟨_, _, _, done, _⟩ | ⟨_, part, _, short, failed, hands⟩
    · cases read.symm.trans done
    · cases read.symm.trans failed
      obtain rfl := List.length_eq_zero_iff.1 (Nat.lt_one_iff.1 short)
      exact .inr ⟨e, [], after, by rw [seek, if_neg more], rfl, hands⟩
  | case3 run source more octets between read ih =>
    rcases readExactly_cases 1 source with ⟨_, _, one, done, front⟩ | ⟨_, _, _, _, failed, _⟩
    · cases read.symm.trans done
      obtain ⟨octet, rfl⟩ := List.length_eq_one_iff.1 one
      -- what was read is a list of one octet, and `seek` goes by the octet
      have ones : (if [octet] = [0xFF] then run + 1 else 0) =
          if octet = 0xFF then run + 1 else 0 := by simp only [List.cons.injEq, and_true]
      simp only [dite_eq_ite, ones] at ih ⊢
      have step (back : Octets) :
          seek run ([octet] ++ back) = seek (if octet = 0xFF then run + 1 else 0) back := by
        rw [List.singleton_append, seek, if_neg more]
      rcases ih with ⟨sought, after, found, done, back⟩ | ⟨e, part, after, nothing, failed, back⟩
      · exact .inl ⟨[octet] ++ sought, after, by rw [step, found], done, front.trans back⟩
      · exact .inr ⟨e, [octet] ++ part, after, by rw [step, nothing], failed, front.trans back⟩
    · cases read.symm.trans failed

theorem passMessage_cases (source : Source) :
    (∃ length message after, message.length = length.toNat - markerAndLength ∧
        source.passMessage = (.ok length, after) ∧
        source.Hands (Octets.ofNat 2 length.toNat ++ message) 0 after) ∨
      (∃ e part after, pass part = none ∧ source.passMessage = (.error e, after) ∧
        source.Hands part 1 after) := by
  unfold passMessage
  rcases readExactly_cases 2 source with
    ⟨octets, between, two, read, front⟩ | ⟨e, part, after, short, read, hands⟩
  · rw [read]
    dsimp only
    obtain ⟨number, written⟩ := toNat_ofNat_pair two
    split
    case isTrue few =>
      refine .inl ⟨_, [], between, ?_, rfl, ?_⟩
      · rw [number, Nat.sub_eq_zero_of_le (Nat.le_of_lt few), List.length_nil]
      · rw [written, List.append_nil]
        exact front
    case isFalse enough =>
      rcases skip_cases (Octets.toNat octets - markerAndLength) between with
        ⟨message, after, full, skipped, back⟩ | ⟨e, part, after, short, skipped, back⟩
      · rw [skipped]
        refine .inl ⟨_, message, after, ?_, rfl, ?_⟩
        · rw [number, full]
        · rw [written]
          exact front.trans back
      · rw [skipped]
        refine .inr ⟨e, octets ++ part, after, ?_, rfl, front.trans back⟩
        obtain ⟨high, low, rfl⟩ := exists_pair two
        rw [List.cons_append, List.cons_append, List.nil_append]
        simp only [pass]
        rw [if_neg enough, if_neg (Nat.not_le_of_lt short)]
  · rw [read]
    exact .inr ⟨e, part, after, pass_eq_none short, rfl, hands⟩

/-- A recovery scan takes a recovery span, or what begins none. -/
theorem rescan_cases (source : Source) :
    (∃ length span after, RecoverySpan span length ∧ source.rescan = (.ok length, after) ∧
        source.Hands span 0 after) ∨
      (∃ e part after, (∀ span length rest, part = span ++ rest → ¬ RecoverySpan span length) ∧
        source.rescan = (.error e, after) ∧ source.Hands part 1 after) := by
  have begins_none {part : Octets} (nothing : scan part = none) (span : Octets) (length : UInt16)
      (rest : Octets) (split : part = span ++ rest) : ¬ RecoverySpan span length := by
    intro recovery
    have found := scan_eq_some_iff.2 ⟨span, length, recovery, split⟩
    cases nothing.symm.trans found
  unfold rescan
  rcases seekMarker_cases 0 source with
    ⟨sought, between, found, done, front⟩ | ⟨e, part, after, nothing, failed, hands⟩
  · rw [done]
    dsimp only
    rcases passMessage_cases between with
      ⟨length, message, after, number, passed, back⟩ | ⟨e, part, after, nothing, failed, back⟩
    · rw [passed]
      obtain ⟨_, split, marker⟩ := seek_zero_eq_some_iff.1 found
      rw [List.append_nil] at split
      subst split
      refine .inl ⟨length, _, after, .mk marker number, rfl, ?_⟩
      rw [List.append_assoc]
      exact front.trans back
    · rw [failed]
      -- the marker was found, so it is the message that is not whole
      refine .inr ⟨_, sought ++ part, after, begins_none ?_, rfl, front.trans back⟩
      rw [scan, seek_append found part]
      exact nothing
  · rw [failed]
    refine .inr ⟨_, part, after, begins_none ?_, rfl, hands⟩
    rw [scan, nothing, Option.bind_none]

/-! ## What reads of headers and bodies take -/

end Source

/-- Twelve octets are the writing of the header that they spell. -/
theorem RecordHeader.encode_ofOctets {octets : Octets} (twelve : octets.length = octetCount) :
    (ofOctets octets).encode = octets := by
  have word (part : Octets) (four : part.length = 4) :
      Octets.ofNat 4 (UInt32.ofNat (Octets.toNat part)).toNat = part := by
    have small := Octets.toNat_lt part
    rw [four] at small
    rw [UInt32.toNat_ofNat_of_lt' small, ← four, Octets.ofNat_toNat]
  have half (part : Octets) (two : part.length = 2) :
      Octets.ofNat 2 (UInt16.ofNat (Octets.toNat part)).toNat = part :=
    (Source.toNat_ofNat_pair two).2
  have last : (octets.drop 8).take 4 = octets.drop 8 := by
    rw [List.take_of_length_le]
    rw [List.length_drop, twelve]
    decide
  have parts : octets.take 4 ++ (octets.drop 4).take 2 ++ (octets.drop 6).take 2 ++
      (octets.drop 8).take 4 = octets := by
    rw [last, ← List.take_add, ← List.take_add, List.take_append_drop]
  unfold octetCount at twelve
  rw [encode, ofOctets]
  dsimp only
  rw [word, half, half, word, parts]
  all_goals simp [twelve]

namespace Source

theorem readHeader_cases (source : Source) :
    (∃ header after, source.readHeader = (.ok header, after) ∧
        source.Hands header.encode 0 after) ∨
      (∃ e part after, part.length < RecordHeader.octetCount ∧
        source.readHeader = (.error e, after) ∧ source.Hands part 1 after) := by
  unfold readHeader
  rcases readExactly_cases RecordHeader.octetCount source with
    ⟨octets, after, twelve, read, hands⟩ | ⟨e, part, after, short, read, hands⟩
  · rw [read]
    refine .inl ⟨_, after, rfl, ?_⟩
    rw [RecordHeader.encode_ofOctets twelve]
    exact hands
  · rw [read]
    cases e <;> exact .inr ⟨_, part, after, short, rfl, hands⟩

theorem readBody_cases (length : Nat) (source : Source) :
    (∃ body after, body.length = length ∧ source.readBody length = (.ok body, after) ∧
        source.Hands body 0 after) ∨
      (∃ e part after, part.length < length ∧ source.readBody length = (.error e, after) ∧
        source.Hands part 1 after) := by
  rw [readBody_eq]
  exact readWhole_cases id _ _ length source

end Source

/-! ## What a call takes -/

/-- Refused headers, each with a recovery span behind it. -/
inductive Refused (limits : LengthLimits) : Nat → Octets → Prop
  | none : Refused limits 0 []
  | header {header : RecordHeader} {span rest : Octets} {length : UInt16} {count : Nat}
      (refused : limits.accepts header.length = false) (recovery : RecoverySpan span length)
      (others : Refused limits count rest) :
      Refused limits (count + 1) (header.encode ++ span ++ rest)

/-- The octets that a call takes which is to cut out a record, with what it gives and with the
number of headers that were refused. -/
inductive CallCourse (limits : LengthLimits) :
    Except FeedError FramedRecord → Nat → Octets → Prop
  /-- A header was accepted and its body is whole. -/
  | record {record : FramedRecord} {front : Octets}
      (others : Refused limits record.recoveries front)
      (accepted : limits.accepts record.header.length = true)
      (length : record.body.length = record.header.length.toNat) :
      CallCourse limits (.ok record) record.recoveries (front ++ record.encode)
  /-- There was no further header. -/
  | noHeader {e : FeedError} {count : Nat} {front part : Octets}
      (others : Refused limits count front) (short : part.length < RecordHeader.octetCount) :
      CallCourse limits (.error e) count (front ++ part)
  /-- A header was refused and no recovery span stands behind it. -/
  | scanFailed {e : FeedError} {count : Nat} {header : RecordHeader} {front part : Octets}
      (others : Refused limits count front) (refused : limits.accepts header.length = false)
      (nothing : ∀ span length rest, part = span ++ rest → ¬ RecoverySpan span length) :
      CallCourse limits (.error e) (count + 1) (front ++ (header.encode ++ part))
  /-- A header was accepted and its body is not whole. -/
  | noBody {e : FeedError} {count : Nat} {header : RecordHeader} {front part : Octets}
      (others : Refused limits count front) (accepted : limits.accepts header.length = true)
      (short : part.length < header.length.toNat) :
      CallCourse limits (.error e) count (front ++ (header.encode ++ part))

/-- One more header was refused in front of what made the call fail. -/
theorem CallCourse.behind {limits : LengthLimits} {e : FeedError} {count : Nat} {taken : Octets}
    (course : CallCourse limits (.error e) count taken) {header : RecordHeader} {span : Octets}
    {length : UInt16} (refused : limits.accepts header.length = false)
    (recovery : RecoverySpan span length) :
    CallCourse limits (.error e) (count + 1) (header.encode ++ span ++ taken) := by
  cases course with
  | noHeader others short =>
    rw [← List.append_assoc]
    exact .noHeader (.header refused recovery others) short
  | scanFailed others refused' nothing =>
    rw [← List.append_assoc]
    exact .scanFailed (.header refused recovery others) refused' nothing
  | noBody others accepted short =>
    rw [← List.append_assoc]
    exact .noBody (.header refused recovery others) accepted short

namespace Framer

/-- A framer has taken the given octets from its stream, with at most `idle` read calls that gave
nothing. It has begun `scans` recovery scans and cut out `records` records. -/
structure Takes (framer : Framer) (taken : Octets) (idle scans records : Nat) (after : Framer) :
    Prop where
  hands : framer.source.Hands taken idle after.source
  limits : after.limits = framer.limits
  recoveries : after.recoveries = framer.recoveries + scans
  recordsRead : after.recordsRead = framer.recordsRead + records

namespace Takes

variable {framer between after : Framer} {front back : Octets} {idle idle' scans scans' : Nat}
  {records records' : Nat}

theorem trans (first : framer.Takes front idle scans records between)
    (second : between.Takes back idle' scans' records' after) :
    framer.Takes (front ++ back) (idle + idle') (scans + scans') (records + records') after where
  hands := first.hands.trans second.hands
  limits := second.limits.trans first.limits
  recoveries := by rw [second.recoveries, first.recoveries, Nat.add_assoc]
  recordsRead := by rw [second.recordsRead, first.recordsRead, Nat.add_assoc]

/-- Only the stream was read. -/
theorem of_source {source : Source} (hands : framer.source.Hands front idle source) :
    framer.Takes front idle 0 0 { framer with source := source } :=
  ⟨hands, rfl, rfl, rfl⟩

end Takes

theorem rescan_takes (framer : Framer) :
    (∃ length span after, RecoverySpan span length ∧ framer.rescan = (.ok length, after) ∧
        framer.Takes span 0 1 0 after) ∨
      (∃ e part after, (∀ span length rest, part = span ++ rest → ¬ RecoverySpan span length) ∧
        framer.rescan = (.error e, after) ∧ framer.Takes part 1 1 0 after) := by
  unfold rescan
  rcases framer.source.rescan_cases with
    ⟨length, span, left, recovery, done, hands⟩ | ⟨e, part, left, nothing, failed, hands⟩
  · rw [done]
    exact .inl ⟨length, span, _, recovery, rfl, hands, rfl, rfl, rfl⟩
  · rw [failed]
    exact .inr ⟨e, part, _, nothing, rfl, hands, rfl, rfl, rfl⟩

/-- By induction on the headers that are read. -/
theorem acceptHeader_takes (skips : Nat) (framer : Framer) :
    (∃ header count front after, Refused framer.limits count front ∧
        framer.limits.accepts header.length = true ∧
        framer.acceptHeader skips = (.ok (header, skips + count), after) ∧
        framer.Takes (front ++ header.encode) 0 count 0 after) ∨
      (∃ e count taken after, CallCourse framer.limits (.error e) count taken ∧
        framer.acceptHeader skips = (.error e, after) ∧ framer.Takes taken 1 count 0 after) := by
  fun_induction acceptHeader skips framer with
  | case1 skips framer e left read =>
    rcases framer.source.readHeader_cases with ⟨_, _, done, _⟩ | ⟨_, part, _, short, failed, hands⟩
    · cases read.symm.trans done
    · cases read.symm.trans failed
      exact .inr ⟨e, 0, part, _, .noHeader .none short, rfl, .of_source hands⟩
  | case2 skips framer header left read accepted =>
    rcases framer.source.readHeader_cases with ⟨_, _, done, hands⟩ | ⟨_, _, _, _, failed, _⟩
    · cases read.symm.trans done
      exact .inl ⟨header, 0, [], _, .none, accepted, rfl, .of_source hands⟩
    · cases read.symm.trans failed
  | case3 skips framer header left read refused e after scanned =>
    rcases framer.source.readHeader_cases with ⟨_, _, done, hands⟩ | ⟨_, _, _, _, failed, _⟩
    · cases read.symm.trans done
      have front : framer.Takes header.encode 0 0 0 { framer with source := left } :=
        .of_source hands
      rcases rescan_takes { framer with source := left } with
        ⟨_, _, _, _, done, _⟩ | ⟨_, part, _, nothing, failed, back⟩
      · cases scanned.symm.trans done
      · cases scanned.symm.trans failed
        exact .inr ⟨e, 1, _, after,
          .scanFailed .none (Bool.eq_false_iff.2 refused) nothing, rfl, front.trans back⟩
    · cases read.symm.trans failed
  | case4 skips framer header left read refused length between scanned ih =>
    rcases framer.source.readHeader_cases with ⟨_, _, done, hands⟩ | ⟨_, _, _, _, failed, _⟩
    · cases read.symm.trans done
      have front : framer.Takes header.encode 0 0 0 { framer with source := left } :=
        .of_source hands
      rcases rescan_takes { framer with source := left } with
        ⟨_, span, _, recovery, done, back⟩ | ⟨_, _, _, _, failed, _⟩
      · cases scanned.symm.trans done
        -- a span stands behind the refused header, and the next header behind both
        have both := front.trans back
        have limits : between.limits = framer.limits := both.limits
        have refused : framer.limits.accepts header.length = false := Bool.eq_false_iff.2 refused
        rw [limits] at ih
        rcases ih with ⟨found, count, others, after, refusals, accepted, done, rest⟩ |
          ⟨e, count, taken, after, course, failed, rest⟩
        · refine .inl ⟨found, count + 1, _, after, .header refused recovery refusals, accepted,
            ?_, ?_⟩
          · rw [done, Nat.add_right_comm, Nat.add_assoc]
          · rw [List.append_assoc, Nat.add_comm count]
            exact both.trans rest
        · refine .inr ⟨e, count + 1, _, after, course.behind refused recovery, failed, ?_⟩
          rw [Nat.add_comm count]
          exact both.trans rest
      · cases scanned.symm.trans failed
    · cases read.symm.trans failed

/-- Whether a record was cut out, as a number. -/
def recordCount : Except FeedError FramedRecord → Nat
  | .ok _ => 1
  | .error _ => 0

/-- A call that is to cut out a record ends: it takes octets from the front of the stream, with at
most one read call that gives nothing, and the counters grow by what is seen in them. -/
theorem next_takes (framer : Framer) :
    ∃ taken count, CallCourse framer.limits framer.next.1 count taken ∧
      framer.Takes taken 1 count (recordCount framer.next.1) framer.next.2 := by
  unfold next
  rcases framer.acceptHeader_takes 0 with ⟨header, count, front, between, others, accepted, done, first⟩ |
    ⟨e, count, taken, after, course, failed, takes⟩
  · rw [done]
    dsimp only
    rcases between.source.readBody_cases header.length.toNat with
      ⟨body, left, full, filled, hands⟩ | ⟨e, part, left, short, failed, hands⟩
    · rw [filled, Nat.zero_add]
      have course : CallCourse framer.limits (.ok ⟨header, body, count⟩) count
          (front ++ (header.encode ++ body)) := .record others accepted full
      refine ⟨_, count, course, ?_⟩
      rw [← List.append_assoc]
      have last : between.Takes body 0 0 1
          { between with source := left, recordsRead := between.recordsRead + 1 } :=
        ⟨hands, rfl, rfl, rfl⟩
      have all := first.trans last
      -- no read call was idle, which is less than one
      exact ⟨all.hands.mono (Nat.zero_le 1), all.limits, all.recoveries, all.recordsRead⟩
    · rw [failed]
      refine ⟨_, count, .noBody others accepted short, ?_⟩
      rw [← List.append_assoc]
      exact first.trans (.of_source hands)
  · rw [failed]
    exact ⟨taken, count, course, takes⟩

end Framer

/-! ## Runs -/

/-- A record that was cut out, and the offsets in the stream between which it was. -/
structure Slice where
  /-- The record. -/
  record : FramedRecord
  /-- Offset of its first octet. -/
  start : Nat
  /-- Offset behind its last octet. -/
  stop : Nat

/-- The records that a run of calls cuts out. -/
def Framer.slices (framer : Framer) : List FramerCall → List Slice
  | [] => []
  | call :: rest =>
    match framer.call call with
    | (.record (.ok record), after) =>
      let stop := after.source.offset
      ⟨record, stop - record.encode.length, stop⟩ :: after.slices rest
    | (_, after) => after.slices rest

/-- Records stand in the octets of a stream one behind the other. -/
structure Sliced (limits : LengthLimits) (source : Source) (slices : List Slice) : Prop where
  /-- Each is as long as its header says, and the length is accepted. -/
  whole : ∀ slice ∈ slices, slice.record.body.length = slice.record.header.length.toNat ∧
    limits.accepts slice.record.header.length = true
  /-- Each is what stands in the stream between its offsets. -/
  stands : ∀ slice ∈ slices, ∃ front back, source.unread = front ++ slice.record.encode ++ back ∧
    slice.start = source.offset + front.length ∧
    slice.stop = slice.start + slice.record.encode.length
  /-- Each ends before the next ones begin. -/
  apart : slices.Pairwise fun slice next => slice.stop ≤ next.start

namespace Sliced

variable {limits : LengthLimits} {source after : Source} {slices : List Slice} {taken : Octets}
  {idle : Nat}

theorem nil : Sliced limits source [] :=
  ⟨List.forall_mem_nil _, List.forall_mem_nil _, .nil⟩

/-- Octets in front change nothing. -/
theorem behind (sliced : Sliced limits after slices) (hands : source.Hands taken idle after) :
    Sliced limits source slices := by
  refine ⟨sliced.whole, ?_, sliced.apart⟩
  intro slice member
  obtain ⟨front, back, split, start, stop⟩ := sliced.stands slice member
  refine ⟨taken ++ front, back, ?_, ?_, stop⟩
  · rw [hands.unread, split]
    simp only [List.append_assoc]
  · rw [start, hands.offset, List.length_append, Nat.add_assoc]

/-- A record in front of the others is one more slice. -/
theorem cons (sliced : Sliced limits after slices) {front : Octets} {record : FramedRecord}
    (hands : source.Hands (front ++ record.encode) idle after)
    (accepted : limits.accepts record.header.length = true)
    (length : record.body.length = record.header.length.toNat) :
    Sliced limits source
      (⟨record, after.offset - record.encode.length, after.offset⟩ :: slices) := by
  have offset := hands.offset
  rw [List.length_append] at offset
  constructor
  · intro slice member
    rcases List.mem_cons.1 member with rfl | member
    · exact ⟨length, accepted⟩
    · exact sliced.whole slice member
  · intro slice member
    rcases List.mem_cons.1 member with rfl | member
    · refine ⟨front, after.unread, hands.unread, ?_, ?_⟩
      · dsimp only
        omega
      · dsimp only
        omega
    · exact (sliced.behind hands).stands slice member
  · refine List.pairwise_cons.2 ⟨?_, sliced.apart⟩
    intro next member
    obtain ⟨between, _, _, start, _⟩ := sliced.stands next member
    dsimp only
    omega

end Sliced

namespace Framer

/-- By induction on the calls. -/
theorem slices_sliced (framer : Framer) (calls : List FramerCall) :
    Sliced framer.limits framer.source (framer.slices calls) := by
  induction calls generalizing framer with
  | nil => exact .nil
  | cons call rest ih =>
    unfold slices
    cases call with
    | next =>
      obtain ⟨taken, count, course, takes⟩ := framer.next_takes
      have others := ih framer.next.2
      rw [takes.limits] at others
      dsimp only [Framer.call]
      cases given : framer.next.1 with
      -- a call that gives no record adds no slice, and its octets stand in front of the others
      | error e => exact others.behind takes.hands
      | ok record =>
        rw [given] at course
        cases course with
        | record refusals accepted length => exact others.cons takes.hands accepted length
    | rescan =>
      have others := ih framer.rescan.2
      dsimp only [Framer.call]
      rcases framer.rescan_takes with
        ⟨_, _, after, _, done, takes⟩ | ⟨_, _, after, _, failed, takes⟩
      · rw [done] at others ⊢
        rw [takes.limits] at others
        exact others.behind takes.hands
      · rw [failed] at others ⊢
        rw [takes.limits] at others
        exact others.behind takes.hands

/-- Framing of arbitrary octets. A call that is to cut out a record ends, within one read call more
than it takes octets. If it gives a record that `count` scans were needed for, it has taken `count`
refused headers with a recovery span behind each, an accepted header and the body, and nothing else.
Whether or not it succeeds, it counts one scan for each refused header, and one record if it gives
one. The records that a run of calls cuts out are slices of the stream, each behind the one before. -/
theorem slices_cut (framer : Framer) (calls : List FramerCall) :
    (∃ taken count, CallCourse framer.limits framer.next.1 count taken ∧
        framer.Takes taken 1 count (recordCount framer.next.1) framer.next.2) ∧
      Sliced framer.limits framer.source (framer.slices calls) :=
  ⟨framer.next_takes, framer.slices_sliced calls⟩

end Framer

end CollectorFeed
