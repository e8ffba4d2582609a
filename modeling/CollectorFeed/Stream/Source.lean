import CollectorFeed.FeedError

/-!
# Byte streams

A stream hands out its octets in read calls. A call hands out at most as many octets as were asked
for; how many of them it does hand out is up to the stream, which only has to hand out one as long
as it has any. From some place on the stream may report a failure in place of octets. Octets that
were handed out are gone, whether or not the read that they were for succeeds.

Reads of a definite length are loops of read calls. Main statement: what a loop gives and what it
leaves are together what was there before (`gather_append`).
-/

set_option autoImplicit false

namespace CollectorFeed

/-- A stream of octets. -/
structure Source where
  /-- Octets that were not handed out yet. -/
  unread : Octets
  /-- Number of octets that were handed out. -/
  offset : Nat
  /-- One less than the greatest number of octets that a read call hands out, for each call by its
  number. -/
  grant : Nat → Nat
  /-- Number of read calls so far. -/
  calls : Nat
  /-- Offset from which on octets cannot be read, with the reason that is reported. -/
  fault? : Option (Nat × String)
  /-- One more than the offset at which the latest read call began; zero before the first one. -/
  touched : Nat

/-- What a loop of read calls came to. -/
structure Gathered where
  /-- The octets that were handed out. -/
  octets : Octets
  /-- The failure that ended the loop, if one did. -/
  fault? : Option ReadFault

namespace Source

/-- A stream of the given octets that hands out whatever is asked for. -/
def ofOctets (octets : Octets) : Source :=
  let whole := octets.length
  { unread := octets
    offset := 0
    grant := fun _ => whole
    calls := 0
    fault? := none
    touched := 0 }

/-! ## Read calls -/

/-- The stream after a call began. -/
def begun (source : Source) : Source :=
  { source with calls := source.calls + 1, touched := source.offset + 1 }

/-- The stream after octets were handed out. -/
def advanced (source : Source) (count : Nat) : Source :=
  { source with
    unread := source.unread.drop count
    offset := source.offset + (source.unread.take count).length }

/-- The octets that can be had before the stream fails, at most `wanted` of them. -/
def room (source : Source) (wanted : Nat) : Nat :=
  let granted := min wanted (source.grant source.calls + 1)
  match source.fault? with
  | some (place, _) => min granted (place - source.offset)
  | none => granted

/-- The reason for which no octet can be had, if there is one. -/
def failing? (source : Source) : Option String :=
  match source.fault? with
  | some (place, reason) => if place ≤ source.offset then some reason else none
  | none => none

/-- One read call. No octets mean that the stream has ended. -/
def read (wanted : Nat) (source : Source) : Except ReadFault Octets × Source :=
  match source.failing? with
  | some reason => (.error (.failure reason), source.begun)
  | none =>
    let count := source.room wanted
    (.ok (source.unread.take count), source.begun.advanced count)

/-! ## Loops of read calls -/

/-- Keeps reading until so many octets have come, the stream ends or a call fails. The pieces that
came before stand latest first. -/
def gatherFrom (wanted : Nat) (pieces : List Octets) (source : Source) : Gathered × Source :=
  if wanted = 0 then (⟨pieces.reverse.flatten, none⟩, source)
  else
    match source.read wanted with
    | (.error e, source) => (⟨pieces.reverse.flatten, some e⟩, source)
    | (.ok [], source) => (⟨pieces.reverse.flatten, none⟩, source)
    | (.ok (first :: rest), source) =>
      gatherFrom (wanted - (rest.length + 1)) ((first :: rest) :: pieces) source
termination_by wanted

/-- Keeps reading until so many octets have come, the stream ends or a call fails. -/
def gather (wanted : Nat) (source : Source) : Gathered × Source :=
  gatherFrom wanted [] source

/-- Reads exactly so many octets. -/
def readExactly (wanted : Nat) (source : Source) : Except ReadFault Octets × Source :=
  match source.gather wanted with
  | (⟨_, some e⟩, source) => (.error e, source)
  | (⟨octets, none⟩, source) =>
    if octets.length = wanted then (.ok octets, source) else (.error .unfilled, source)

/-- Passes over exactly so many octets. -/
def skip (wanted : Nat) (source : Source) : Except ReadFault Unit × Source :=
  match source.gather wanted with
  | (⟨_, some e⟩, source) => (.error e, source)
  | (⟨octets, none⟩, source) =>
    if octets.length = wanted then (.ok (), source)
    else (.error (.skipEnded octets.length wanted), source)

/-! ## What loops give and leave -/

theorem read_unread (wanted : Nat) (source : Source) :
    source.unread =
      (match (source.read wanted).1 with
        | .ok octets => octets
        | .error _ => []) ++ (source.read wanted).2.unread := by
  unfold read
  cases source.failing? <;> simp [begun, advanced]

theorem gatherFrom_append (wanted : Nat) (pieces : List Octets) (source : Source) :
    (source.gatherFrom wanted pieces).1.octets ++ (source.gatherFrom wanted pieces).2.unread =
      pieces.reverse.flatten ++ source.unread := by
  fun_induction gatherFrom wanted pieces source with
  | case1 => rfl
  | case2 wanted pieces source _ e after call =>
    have kept := read_unread wanted source
    rw [call] at kept
    simpa using kept.symm
  | case3 wanted pieces source _ after call =>
    have kept := read_unread wanted source
    rw [call] at kept
    simpa using kept.symm
  | case4 wanted pieces source _ first rest after call ih =>
    have kept := read_unread wanted source
    rw [call] at kept
    simp only at kept
    rw [ih, kept]
    simp

/-- What a loop gives and what it leaves are together what was there before. -/
theorem gather_append (wanted : Nat) (source : Source) :
    (source.gather wanted).1.octets ++ (source.gather wanted).2.unread = source.unread := by
  simpa [gather] using gatherFrom_append wanted [] source

theorem room_le (source : Source) (wanted : Nat) : source.room wanted ≤ wanted := by
  unfold room
  simp only
  split <;> omega

theorem read_length_le {wanted : Nat} {source after : Source} {octets : Octets}
    (call : source.read wanted = (.ok octets, after)) : octets.length ≤ wanted := by
  have few := source.room_le wanted
  unfold read at call
  split at call
  · simp at call
  · simp only [Prod.mk.injEq, Except.ok.injEq] at call
    rw [← call.1, List.length_take]
    omega

theorem readExactly_append {wanted : Nat} {source after : Source} {octets : Octets}
    (done : source.readExactly wanted = (.ok octets, after)) :
    octets ++ after.unread = source.unread ∧ octets.length = wanted := by
  have kept := gather_append wanted source
  unfold readExactly at done
  split at done
  · simp at done
  · rename_i found left call
    rw [call] at kept
    split at done
    · rename_i filled
      simp only [Prod.mk.injEq, Except.ok.injEq] at done
      obtain ⟨rfl, rfl⟩ := done
      exact ⟨kept, filled⟩
    · simp at done

theorem readExactly_unread {wanted : Nat} {source after : Source} {octets : Octets}
    (done : source.readExactly wanted = (.ok octets, after)) :
    after.unread.length + wanted = source.unread.length := by
  obtain ⟨kept, filled⟩ := readExactly_append done
  rw [← kept, List.length_append, filled]
  omega

theorem gather_unread_le (wanted : Nat) (source : Source) :
    (source.gather wanted).2.unread.length ≤ source.unread.length := by
  rw [← gather_append wanted source, List.length_append]
  omega

theorem skip_unread_le (wanted : Nat) (source : Source) :
    (source.skip wanted).2.unread.length ≤ source.unread.length := by
  have kept := gather_unread_le wanted source
  unfold skip
  split
  · rename_i call
    rwa [call] at kept
  · rename_i call
    rw [call] at kept
    split <;> exact kept

end Source

end CollectorFeed
