import CollectorFeed.Proofs.Stream.Slices
import CollectorFeed.Proofs.Stream.Unfailing
import Mathlib.Order.Bounds.Basic

/-!
# Recovery scans find the first marker

A recovery scan counts octets of ones and starts anew at every other octet. The octets alone tell what
it comes to: the least place at which a marker begins, the length behind that marker, and as many
octets behind it as the length counts (`FirstMessage`). However many broken runs of ones stand in front
of a marker, and however many octets a read call hands out, the count does not pass it by
(`seekMarker_isLeast`). Main statement: `Source.rescan_firstMessage`.
-/

set_option autoImplicit false

namespace CollectorFeed

/-! ## Places of markers -/

/-- A marker begins at the place. -/
def MarkerAt (octets : Octets) (place : Nat) : Prop :=
  bgpMarker <+: octets.drop place

instance (octets : Octets) (place : Nat) : Decidable (MarkerAt octets place) :=
  inferInstanceAs (Decidable (bgpMarker <+: octets.drop place))

theorem markerAt_iff {octets : Octets} {place : Nat} :
    MarkerAt octets place ↔
      ∃ front back, octets = front ++ bgpMarker ++ back ∧ front.length = place := by
  constructor
  · rintro ⟨back, behind⟩
    refine ⟨octets.take place, back, ?_, ?_⟩
    · rw [List.append_assoc, behind, List.take_append_drop]
    · -- a place behind the last octet has nothing behind it
      apply List.length_take_of_le
      apply Nat.le_of_not_lt
      intro beyond
      rw [List.drop_eq_nil_of_le (Nat.le_of_lt beyond)] at behind
      cases behind
  · rintro ⟨front, back, rfl, rfl⟩
    refine ⟨back, ?_⟩
    rw [List.append_assoc, List.drop_left]

/-- The least place of a marker is where the first marker that ends begins. -/
theorem isLeast_markerAt_iff {octets : Octets} {place : Nat} :
    IsLeast {place | MarkerAt octets place} place ↔
      ∃ sought left, octets = sought ++ left ∧ sought.length = place + bgpMarker.length ∧
        FirstMarker sought := by
  constructor
  · rintro ⟨there, least⟩
    obtain ⟨front, back, split, rfl⟩ := markerAt_iff.1 there
    refine ⟨front ++ bgpMarker, back, split, List.length_append, List.suffix_append _ _, ?_⟩
    rintro _ more same some_ ⟨earlier, rfl⟩
    -- a marker that ends before begins before
    have before : MarkerAt octets earlier.length := by
      refine markerAt_iff.2 ⟨earlier, more ++ back, ?_, rfl⟩
      rw [split, same, List.append_assoc]
    have later := least before
    have lengths := congrArg List.length same
    have behind := List.length_pos_iff.2 some_
    simp only [List.length_append] at lengths
    omega
  · rintro ⟨_, left, rfl, number, ⟨front, rfl⟩, first⟩
    rw [List.length_append, Nat.add_right_cancel_iff] at number
    refine ⟨markerAt_iff.2 ⟨front, left, rfl, number⟩, ?_⟩
    intro other there
    obtain ⟨earlier, back, split, rfl⟩ := markerAt_iff.1 there
    apply Nat.le_of_not_lt
    intro before
    -- the octets up to the end of an earlier marker are a proper part of those that were sought
    have reach : (earlier ++ bgpMarker).length ≤ (front ++ bgpMarker).length := by
      simp only [List.length_append]
      omega
    obtain ⟨more, same⟩ := List.prefix_of_prefix_length_le
      (List.prefix_append _ back) (split ▸ List.prefix_append _ left) reach
    refine first (earlier ++ bgpMarker) more same.symm ?_ (List.suffix_append _ _)
    rintro rfl
    have lengths := congrArg List.length same
    simp only [List.length_append, List.length_nil] at lengths
    omega

/-! ## What stands behind the first marker -/

/-- Behind the first marker, which begins at the place, stand two octets with the length, and as many
octets as it counts beyond itself and the marker, none if it does not count so far. -/
structure FirstMessage (octets : Octets) (place : Nat) (length : UInt16) : Prop where
  marker : IsLeast {place | MarkerAt octets place} place
  number : (octets.drop (place + bgpMarker.length)).take 2 = Octets.ofNat 2 length.toNat
  whole : length.toNat - Source.markerAndLength ≤
    (octets.drop (place + Source.markerAndLength)).length

/-- Where a recovery scan comes to that finds the first marker at the place. -/
def scanEnd (place : Nat) (length : UInt16) : Nat :=
  if length.toNat < Source.markerAndLength then place + Source.markerAndLength
  else place + length.toNat

theorem scanEnd_eq (place : Nat) (length : UInt16) :
    scanEnd place length =
      place + Source.markerAndLength + (length.toNat - Source.markerAndLength) := by
  unfold scanEnd
  split <;> omega

namespace FirstMessage

variable {octets : Octets} {place : Nat} {length : UInt16}

theorem unique (message : FirstMessage octets place length) {place' : Nat} {length' : UInt16}
    (other : FirstMessage octets place' length') : place' = place ∧ length' = length := by
  obtain rfl := other.marker.unique message.marker
  have same := congrArg Octets.toNat (other.number.symm.trans message.number)
  rw [Source.toNat_ofNat_length, Source.toNat_ofNat_length] at same
  exact ⟨rfl, UInt16.toNat_inj.1 same⟩

/-- What a recovery scan takes begins the octets. -/
theorem exists_span (message : FirstMessage octets place length) :
    ∃ span rest, RecoverySpan span length ∧ octets = span ++ rest := by
  obtain ⟨marker, number, whole⟩ := message
  obtain ⟨sought, left, rfl, placed, first⟩ := isLeast_markerAt_iff.1 marker
  rw [← placed, List.drop_left] at number
  rw [show Source.markerAndLength = bgpMarker.length + 2 from rfl, ← Nat.add_assoc, ← placed,
    List.drop_length_add_append] at whole
  refine ⟨_, (left.drop 2).drop (length.toNat - Source.markerAndLength),
    .mk first (List.length_take_of_le whole), ?_⟩
  rw [← number, List.append_assoc, List.append_assoc]
  exact congrArg (sought ++ ·)
    ((congrArg (left.take 2 ++ ·) (List.take_append_drop _ _)).trans
      (List.take_append_drop _ _)).symm

end FirstMessage

/-- Octets that begin with what a recovery scan takes hold such a message, and it ends there. -/
theorem RecoverySpan.exists_firstMessage {span : Octets} {length : UInt16}
    (recovery : RecoverySpan span length) (rest : Octets) :
    ∃ place, FirstMessage (span ++ rest) place length ∧ span.length = scanEnd place length := by
  obtain ⟨marker, counted⟩ := recovery
  rename_i sought message
  obtain ⟨front, rfl⟩ := marker.ends
  have marked : bgpMarker.length + 2 = Source.markerAndLength := rfl
  have placed : (front ++ bgpMarker).length = front.length + bgpMarker.length := List.length_append
  refine ⟨front.length, ⟨?_, ?_, ?_⟩, ?_⟩
  · refine isLeast_markerAt_iff.2 ⟨_, Octets.ofNat 2 length.toNat ++ message ++ rest, ?_, placed,
      marker⟩
    simp only [List.append_assoc]
  · rw [← placed]
    simp only [List.append_assoc]
    rw [← List.append_assoc front, List.drop_left, List.take_left' (Octets.length_ofNat _ _)]
  · rw [← marked, ← Nat.add_assoc, ← placed, marked, ← counted, List.append_assoc, List.append_assoc,
      List.drop_length_add_append, List.drop_left' (Octets.length_ofNat _ _), List.length_append]
    exact Nat.le_add_right _ _
  · rw [scanEnd_eq, List.length_append, List.length_append, placed, Octets.length_ofNat, counted,
      Nat.add_assoc front.length, marked]

namespace Source

variable {source : Source} {octets : Octets}

theorem unreadable_of_rescan {e : FeedError} {after : Source}
    (failed : source.rescan = (.error e, after)) : ∃ fault, e = .unreadable fault := by
  unfold rescan at failed
  split at failed
  · cases failed
    exact ⟨_, rfl⟩
  · split at failed
    · cases failed
      exact ⟨_, rfl⟩
    · cases failed

/-- The count of octets of ones does not pass the first marker by: the search ends right behind it. -/
theorem seekMarker_isLeast (stands : source.Stands octets) {place : Nat}
    (least : IsLeast {place | MarkerAt octets place} place) :
    ∃ after, source.seekMarker 0 = (.ok (), after) ∧
      after.Stands (octets.drop (place + bgpMarker.length)) := by
  have goes := seekMarker_stands stands 0
  obtain ⟨sought, left, rfl, placed, first⟩ := isLeast_markerAt_iff.1 least
  rw [seek_zero_eq_some_iff.2 ⟨sought, rfl, first⟩] at goes
  rwa [← placed, List.drop_left]

/-- A recovery scan is a search for the first marker: with a whole message behind it, it gives the
length that stands there and takes the octets up to the end of that message, and nothing behind the
length if it does not count so far. Whatever else the octets are, the scan fails as a read does. In
any case the count of octets of ones comes to its end right behind the first marker. -/
theorem rescan_firstMessage (stands : source.Stands octets) :
    (∀ place length, FirstMessage octets place length →
      ∃ after, source.rescan = (.ok length, after) ∧
        after.Stands (octets.drop (scanEnd place length)) ∧
        after.offset = source.offset + scanEnd place length) ∧
    ((∀ place length, ¬ FirstMessage octets place length) →
      ∃ fault after, source.rescan = (.error (.unreadable fault), after)) ∧
    ∀ place, IsLeast {place | MarkerAt octets place} place →
      ∃ after, source.seekMarker 0 = (.ok (), after) ∧
        after.Stands (octets.drop (place + bgpMarker.length)) := by
  have goes := rescan_stands stands
  refine ⟨?_, ?_, fun place least => seekMarker_isLeast stands least⟩
  · intro place length message
    obtain ⟨span, rest, recovery, split⟩ := message.exists_span
    rw [scan_eq_some_iff.2 ⟨span, length, recovery, split⟩] at goes
    obtain ⟨given, after, done, behind⟩ := goes
    rcases source.rescan_cases with
      ⟨_, taken, _, recovery, done', hands⟩ | ⟨_, _, _, _, failed, _⟩
    · cases done.symm.trans done'
      -- what was taken holds a first message too, and there is only one
      obtain ⟨place', message', ends⟩ := recovery.exists_firstMessage after.unread
      rw [← hands.unread, stands.unread] at message'
      obtain ⟨rfl, rfl⟩ := message.unique message'
      refine ⟨after, done, ⟨behind.unfailing, ?_⟩, ?_⟩
      · rw [← stands.unread, hands.unread, ← ends, List.drop_left]
      · rw [hands.offset, ends]
    · cases done.symm.trans failed
  · intro nothing
    cases found : scan octets with
    | none =>
      rw [found] at goes
      obtain ⟨e, after, failed⟩ := goes
      obtain ⟨fault, rfl⟩ := unreadable_of_rescan failed
      exact ⟨fault, after, failed⟩
    | some rest =>
      obtain ⟨span, length, recovery, rfl⟩ := scan_eq_some_iff.1 found
      obtain ⟨place, message, -⟩ := recovery.exists_firstMessage rest
      exact absurd message (nothing place length)

/-- Broken runs of ones, fifteen of them the longest, in front of a message of which one octet stands
behind the length. Read calls hand out few octets. -/
def brokenRuns : Source where
  unread := List.replicate 3 0xFF ++ 0 :: List.replicate 15 0xFF ++ 7 :: bgpMarker ++ [0, 19, 1, 9]
  offset := 0
  grant := fun call => call % 3
  calls := 0
  fault? := none
  touched := 0

theorem rescan_firstMessage_brokenRuns :
    brokenRuns.Stands brokenRuns.unread ∧ FirstMessage brokenRuns.unread 20 19 ∧
      ∃ after, brokenRuns.rescan = (.ok 19, after) ∧ after.Stands [9] ∧ after.offset = 39 := by
  have stands : brokenRuns.Stands brokenRuns.unread := ⟨rfl, rfl⟩
  have message : FirstMessage brokenRuns.unread 20 19 := by
    refine ⟨⟨by decide, ?_⟩, by decide, by decide⟩
    intro other there
    have before : ∀ earlier < 20, ¬ MarkerAt brokenRuns.unread earlier := by decide
    exact Nat.le_of_not_lt fun less => before other less there
  exact ⟨stands, message, (rescan_firstMessage stands).1 20 19 message⟩

end Source

end CollectorFeed
