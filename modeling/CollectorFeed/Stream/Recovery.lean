import CollectorFeed.Relay.Message
import CollectorFeed.Stream.Source

/-!
# Recovery scans

When a record header cannot be trusted, the stream is scanned for the next BGP message: sixteen
octets of ones, two octets with the length of the message, and the rest of it, which is passed over.
Afterwards the stream stands behind that message, where a header may begin. A length that no BGP
message can have is returned and nothing is passed over for it.
-/

set_option autoImplicit false

namespace CollectorFeed

namespace Source

/-- Octets of a marker and of the length behind it; the length counts both. -/
def markerAndLength : Nat := 18

/-- Reads octet by octet until as many octets of ones have come together as a marker has; `run` of
them came just before. -/
def seekMarker (run : Nat) (source : Source) : Except ReadFault Unit × Source :=
  if run = bgpMarker.length then (.ok (), source)
  else
    match _read : source.readExactly 1 with
    | (.error e, source) => (.error e, source)
    | (.ok octets, source) => seekMarker (if octets = [0xFF] then run + 1 else 0) source
termination_by source.unread.length
decreasing_by
  have := readExactly_unread _read
  omega

/-- Reads the length behind a marker and passes over the rest of that message. -/
def passMessage (source : Source) : Except ReadFault UInt16 × Source :=
  match source.readExactly 2 with
  | (.error e, source) => (.error e, source)
  | (.ok octets, source) =>
    let length := Octets.toNat octets
    if length < markerAndLength then (.ok (UInt16.ofNat length), source)
    else
      match source.skip (length - markerAndLength) with
      | (.error e, source) => (.error e, source)
      | (.ok (), source) => (.ok (UInt16.ofNat length), source)

/-- One recovery scan; gives the length that stood behind the marker. -/
def rescan (source : Source) : Except FeedError UInt16 × Source :=
  match source.seekMarker 0 with
  | (.error e, source) => (.error (.unreadable e), source)
  | (.ok (), source) =>
    match source.passMessage with
    | (.error e, source) => (.error (.unreadable e), source)
    | (.ok length, source) => (.ok length, source)

/-! ## Scans take from the front -/

theorem seekMarker_unread_le {run : Nat} {source after : Source}
    (found : source.seekMarker run = (.ok (), after)) :
    after.unread.length ≤ source.unread.length := by
  fun_induction seekMarker run source with
  | case1 =>
    simp only [Prod.mk.injEq] at found
    obtain ⟨_, rfl⟩ := found
    exact Nat.le_refl _
  | case2 => simp at found
  | case3 run source _ octets next read ih =>
    have taken := readExactly_unread read
    have less := ih found
    omega

theorem passMessage_unread_le {source after : Source} {length : UInt16}
    (passed : source.passMessage = (.ok length, after)) :
    after.unread.length ≤ source.unread.length := by
  unfold passMessage at passed
  split at passed
  · simp at passed
  · rename_i octets next read
    have taken := readExactly_unread read
    simp only at passed
    split at passed
    · simp only [Prod.mk.injEq] at passed
      rw [← passed.2]
      omega
    · have less := skip_unread_le (Octets.toNat octets - markerAndLength) next
      split at passed
      · simp at passed
      · rename_i left skipped
        rw [skipped] at less
        simp only [Prod.mk.injEq] at passed
        rw [← passed.2]
        simp only at less
        omega

theorem rescan_unread_le {source after : Source} {length : UInt16}
    (done : source.rescan = (.ok length, after)) :
    after.unread.length ≤ source.unread.length := by
  unfold rescan at done
  split at done
  · simp at done
  · rename_i next found
    have first := seekMarker_unread_le found
    split at done
    · simp at done
    · rename_i passed
      have second := passMessage_unread_le passed
      simp only [Prod.mk.injEq] at done
      rw [← done.2]
      omega

end Source

end CollectorFeed
