import CollectorFeed.Proofs.Stream.Unfailing

/-!
# Read sizes do not matter

How many octets a read call hands out is up to the stream. A loop of read calls does not show it:
the loop gives the octets in front of the next failure, at most as many as were asked for, and
leaves the others (`gather_eq_yield`). So two streams with the same octets left and the same failure
ahead (`SameOctets`) cannot be told apart by reads of a definite length, nor by anything that is made
of such reads. Main statement: whatever calls are made on a framer, their answers, its counters and
the offset of its stream are the same for all read sizes (`sightings_regranted`).
-/

set_option autoImplicit false

namespace CollectorFeed

/-- Two runs give the same, and leave states that cannot be told apart. -/
structure Agree {α σ : Type} (Alike : σ → σ → Prop) (one other : α × σ) : Prop where
  result : one.1 = other.1
  rest : Alike one.2 other.2

theorem Agree.split {α σ : Type} {Alike : σ → σ → Prop} {one other : α × σ}
    (agree : Agree Alike one other) :
    ∃ result left left', one = (result, left) ∧ other = (result, left') ∧ Alike left left' := by
  obtain ⟨result, left⟩ := one
  obtain ⟨result', left'⟩ := other
  obtain ⟨same, rest⟩ := agree
  obtain rfl : result = result' := same
  exact ⟨result, left, left', rfl, rfl, rest⟩

namespace Source

/-- Two streams with the same octets left, at the same offset and with the same failure ahead. The
sizes of their reads may differ. -/
structure SameOctets (one other : Source) : Prop where
  unread : one.unread = other.unread
  offset : one.offset = other.offset
  fault? : one.fault? = other.fault?

/-- The octets in front of the next failure, or all octets if there is none ahead. -/
def reachable (source : Source) : Octets :=
  match source.fault? with
  | some (place, _) => source.unread.take (place - source.offset)
  | none => source.unread

/-- What a loop of read calls comes to, told without any read call. -/
def yield (wanted : Nat) (source : Source) : Gathered where
  octets := source.reachable.take wanted
  fault? :=
    if wanted ≤ source.reachable.length then none
    else (source.advanced source.reachable.length).failing?.map .failure

namespace SameOctets

variable {one other third : Source}

theorem refl (source : Source) : source.SameOctets source :=
  ⟨rfl, rfl, rfl⟩

theorem symm (same : one.SameOctets other) : other.SameOctets one :=
  ⟨same.unread.symm, same.offset.symm, same.fault?.symm⟩

theorem trans (first : one.SameOctets other) (second : other.SameOctets third) :
    one.SameOctets third :=
  ⟨first.unread.trans second.unread, first.offset.trans second.offset,
    first.fault?.trans second.fault?⟩

theorem reachable_eq (same : one.SameOctets other) : one.reachable = other.reachable := by
  rw [reachable, reachable, same.unread, same.offset, same.fault?]

theorem failing?_eq (same : one.SameOctets other) : one.failing? = other.failing? := by
  rw [failing?, failing?, same.offset, same.fault?]

theorem advanced (same : one.SameOctets other) (count : Nat) :
    (one.advanced count).SameOctets (other.advanced count) := by
  constructor
  · simp only [Source.advanced, same.unread]
  · simp only [Source.advanced, same.unread, same.offset]
  · exact same.fault?

theorem yield_eq (same : one.SameOctets other) (wanted : Nat) :
    one.yield wanted = other.yield wanted := by
  rw [yield, yield, same.reachable_eq, (same.advanced _).failing?_eq]

end SameOctets

/-! ## Octets in front of a failure -/

theorem advanced_zero (source : Source) : source.advanced 0 = source := by
  simp [advanced]

theorem advanced_advanced (source : Source) (first second : Nat) :
    (source.advanced first).advanced second = source.advanced (first + second) := by
  simp only [advanced, List.drop_drop, List.length_take, List.length_drop, Source.mk.injEq,
    true_and, and_true]
  omega

theorem length_reachable_le (source : Source) : source.reachable.length ≤ source.unread.length := by
  unfold reachable
  split
  · exact List.length_take_le' _ _
  · exact Nat.le_refl _

theorem reachable_advanced {source : Source} {count : Nat}
    (few : count ≤ source.reachable.length) :
    (source.advanced count).reachable = source.reachable.drop count := by
  have short := Nat.le_trans few source.length_reachable_le
  unfold reachable advanced
  cases source.fault? with
  | none => rfl
  | some fault =>
    dsimp only
    rw [List.drop_take, List.length_take_of_le short, Nat.sub_add_eq]

/-- Where the stream fails, nothing can be reached. -/
theorem reachable_of_failing? {source : Source} {reason : String}
    (failing : source.failing? = some reason) : source.reachable = [] := by
  unfold failing? at failing
  unfold reachable
  cases ahead : source.fault? with
  | none =>
    rw [ahead] at failing
    cases failing
  | some fault =>
    rw [ahead] at failing
    dsimp only at failing ⊢
    split at failing
    case isTrue before => rw [Nat.sub_eq_zero_of_le before, List.take_zero]
    case isFalse => cases failing

/-- What was reached for in one go can be reached for in two. -/
theorem yield_of_le {source : Source} {count wanted : Nat} (few : count ≤ wanted)
    (there : count ≤ source.reachable.length) :
    source.yield wanted =
      ⟨source.reachable.take count ++ ((source.advanced count).yield (wanted - count)).octets,
        ((source.advanced count).yield (wanted - count)).fault?⟩ := by
  have rest := reachable_advanced there
  unfold yield
  rw [rest, advanced_advanced, List.length_drop, Nat.add_sub_cancel' there]
  congr 1
  · rw [← List.take_add, Nat.add_sub_cancel' few]
  · have both : wanted - count ≤ source.reachable.length - count ↔
        wanted ≤ source.reachable.length := by omega
    simp only [both]

/-! ## Loops of read calls -/

/-- Beyond the end a stream is left as at its end. -/
theorem advanced_length_take (source : Source) (count : Nat) :
    source.advanced (source.unread.take count).length = source.advanced count := by
  have rest : source.unread.drop (min count source.unread.length) = source.unread.drop count := by
    rcases Nat.le_total count source.unread.length with inside | beyond
    · rw [Nat.min_eq_left inside]
    · rw [Nat.min_eq_right beyond, List.drop_length, List.drop_eq_nil_of_le beyond]
  simp only [advanced, List.length_take, rest, Nat.min_assoc, Nat.min_self]

/-- A stream that does not fail hands out something, if anything can be reached, and does not hand
out what stands behind a failure. -/
theorem take_room {source : Source} {wanted : Nat} (some_ : wanted ≠ 0)
    (going : source.failing? = none) :
    0 < source.room wanted ∧
      source.unread.take (source.room wanted) = source.reachable.take (source.room wanted) := by
  unfold failing? at going
  unfold room reachable
  cases ahead : source.fault? with
  | none =>
    dsimp only
    exact ⟨by omega, rfl⟩
  | some fault =>
    rw [ahead] at going
    dsimp only at going ⊢
    split at going
    case isTrue => cases going
    case isFalse before =>
      refine ⟨by omega, ?_⟩
      rw [List.take_take, Nat.min_eq_left (Nat.min_le_right _ _)]

/-- A read call either finds nothing to hand out, and says why, or hands out some of the octets that
can be reached. -/
theorem read_cases {source : Source} {wanted : Nat} (some_ : wanted ≠ 0) :
    (source.reachable = [] ∧ ∃ after, after.SameOctets source ∧
      source.read wanted =
        ((source.failing?.map ReadFault.failure).elim (.ok []) .error, after)) ∨
    ∃ count after, 0 < count ∧ count ≤ wanted ∧ count ≤ source.reachable.length ∧
      after.SameOctets (source.advanced count) ∧
      source.read wanted = (.ok (source.reachable.take count), after) := by
  unfold read
  cases failing : source.failing? with
  | some reason =>
    exact .inl ⟨reachable_of_failing? failing, source.begun, ⟨rfl, rfl, rfl⟩, rfl⟩
  | none =>
    obtain ⟨positive, same⟩ := take_room some_ failing
    have left : (source.begun.advanced (source.room wanted)).SameOctets
        (source.advanced (source.unread.take (source.room wanted)).length) := by
      rw [advanced_length_take]
      exact ⟨rfl, rfl, rfl⟩
    dsimp only
    rw [same] at left ⊢
    by_cases nothing : source.reachable = []
    · rw [nothing, List.take_nil] at left ⊢
      rw [List.length_nil, advanced_zero] at left
      exact .inl ⟨rfl, _, left, rfl⟩
    · refine .inr ⟨_, _, ?_, ?_, List.length_take_le' _ _, left, ?_⟩
      · have long : 0 < source.reachable.length := List.length_pos_iff.2 nothing
        rw [List.length_take]
        omega
      · exact Nat.le_trans (List.length_take_le _ _) (source.room_le wanted)
      · rw [List.length_take, ← List.take_take, List.take_length]

/-- A loop of read calls gives and leaves what the octets tell, whatever the sizes of the reads.
By induction on what is still wanted. -/
theorem gatherFrom_eq_yield (wanted : Nat) (pieces : List Octets) (source : Source) :
    ∃ after, after.SameOctets (source.advanced (source.yield wanted).octets.length) ∧
      source.gatherFrom wanted pieces =
        (⟨pieces.reverse.flatten ++ (source.yield wanted).octets, (source.yield wanted).fault?⟩,
          after) := by
  fun_induction gatherFrom wanted pieces source with
  | case1 pieces source =>
    refine ⟨source, ?_, ?_⟩
    · rw [yield, List.take_zero, List.length_nil, advanced_zero]
      exact .refl source
    · simp [yield]
  | case2 wanted pieces source some_ e after call =>
    rcases read_cases some_ with ⟨nothing, left, same, read⟩ | ⟨_, _, _, _, _, _, read⟩
    · obtain ⟨result, rfl⟩ := Prod.mk.inj (call.symm.trans read)
      refine ⟨after, ?_, ?_⟩
      · rw [yield, nothing, List.take_nil, List.length_nil, advanced_zero]
        exact same
      -- a stream that does not fail would have answered without an error
      · cases failing : source.failing? with
        | none =>
          rw [failing] at result
          cases result
        | some reason =>
          rw [failing] at result
          cases result
          simp [yield, nothing, advanced_zero, failing, some_]
    · cases call.symm.trans read
  | case3 wanted pieces source some_ after call =>
    rcases read_cases some_ with ⟨nothing, left, same, read⟩ | ⟨count, left, positive, _, there, _, read⟩
    · obtain ⟨result, rfl⟩ := Prod.mk.inj (call.symm.trans read)
      refine ⟨after, ?_, ?_⟩
      · rw [yield, nothing, List.take_nil, List.length_nil, advanced_zero]
        exact same
      · cases failing : source.failing? with
        | none => simp [yield, nothing, advanced_zero, failing, some_]
        | some reason =>
          rw [failing] at result
          cases result
    -- octets that can be reached are handed out, so the call cannot have given none
    · have empty := congrArg List.length (Except.ok.inj (Prod.mk.inj (call.symm.trans read)).1)
      rw [List.length_nil, List.length_take_of_le there] at empty
      omega
  | case4 wanted pieces source some_ first rest after call ih =>
    rcases read_cases some_ with ⟨nothing, left, same, read⟩ | ⟨count, left, positive, few, there, same, read⟩
    · cases failing : source.failing? with
      | none =>
        rw [failing] at read
        cases call.symm.trans read
      | some reason =>
        rw [failing] at read
        cases call.symm.trans read
    · obtain ⟨given, rfl⟩ := Prod.mk.inj (call.symm.trans read)
      have given := Except.ok.inj given
      have number : rest.length + 1 = count := by
        rw [← List.length_cons, given, List.length_take_of_le there]
      obtain ⟨last, behind, gathered⟩ := ih
      -- the octets of this call, and what the rest of the loop comes to behind them
      rw [same.yield_eq, number] at behind gathered
      rw [yield_of_le few there, ← given]
      refine ⟨last, behind.trans ?_, ?_⟩
      · have skipped := same.advanced
          ((source.advanced count).yield (wanted - count)).octets.length
        rw [advanced_advanced] at skipped
        rw [List.length_append, List.length_cons, number]
        exact skipped
      · rw [number, gathered]
        simp

/-- What a loop of read calls gives and what it leaves, told without any read call. -/
theorem gather_eq_yield (wanted : Nat) (source : Source) :
    ∃ after, after.SameOctets (source.advanced (source.yield wanted).octets.length) ∧
      source.gather wanted = (source.yield wanted, after) :=
  gatherFrom_eq_yield wanted [] source

/-! ## Reads of a definite length -/

/-- Reads so many octets in a loop of read calls. Something is made of them if they are all there;
otherwise a call has failed, or the stream has ended behind some of them. -/
def readWhole {α ε : Type} (make : Octets → α) (failed : ReadFault → ε) (ended : Nat → ε)
    (wanted : Nat) (source : Source) : Except ε α × Source :=
  match source.gather wanted with
  | (⟨_, some fault⟩, after) => (.error (failed fault), after)
  | (⟨octets, none⟩, after) =>
    (if octets.length = wanted then .ok (make octets) else .error (ended octets.length), after)

theorem readExactly_eq (source : Source) (wanted : Nat) :
    source.readExactly wanted = source.readWhole id id (fun _ => .unfilled) wanted := by
  unfold readExactly readWhole
  rcases source.gather wanted with ⟨⟨octets, _ | fault⟩, after⟩
  · exact (apply_ite (·, after) _ _ _).symm
  · rfl

theorem skip_eq (source : Source) (wanted : Nat) :
    source.skip wanted = source.readWhole (fun _ => ()) id (.skipEnded · wanted) wanted := by
  unfold skip readWhole
  rcases source.gather wanted with ⟨⟨octets, _ | fault⟩, after⟩
  · exact (apply_ite (·, after) _ _ _).symm
  · rfl

/-- No loop gives more than was asked for, so a body that is not too short is whole. -/
theorem readBody_eq (source : Source) (length : Nat) :
    source.readBody length = source.readWhole id .unreadable (.truncatedBody length) length := by
  obtain ⟨after, -, gathered⟩ := gather_eq_yield length source
  have few : (source.yield length).octets.length ≤ length := List.length_take_le _ _
  unfold readBody readWhole
  rw [gathered]
  generalize source.yield length = given at few
  rcases given with ⟨octets, _ | fault⟩
  · show (if octets.length < length then _ else _) = ((if octets.length = length then _ else _), after)
    rcases Nat.lt_or_eq_of_le few with short | full
    · rw [if_pos short, if_neg (Nat.ne_of_lt short)]
    · rw [if_neg (Nat.not_lt_of_le (Nat.le_of_eq full.symm)), if_pos full]
      rfl
  · rfl

variable {one other : Source}

theorem gather_agree (same : one.SameOctets other) (wanted : Nat) :
    Agree SameOctets (one.gather wanted) (other.gather wanted) := by
  obtain ⟨left, rest, gathered⟩ := gather_eq_yield wanted one
  obtain ⟨left', rest', gathered'⟩ := gather_eq_yield wanted other
  have result := same.yield_eq wanted
  rw [gathered, gathered']
  refine ⟨result, rest.trans ?_⟩
  rw [result]
  exact (same.advanced _).trans rest'.symm

theorem readWhole_agree {α ε : Type} (make : Octets → α) (failed : ReadFault → ε) (ended : Nat → ε)
    (same : one.SameOctets other) (wanted : Nat) :
    Agree SameOctets (one.readWhole make failed ended wanted)
      (other.readWhole make failed ended wanted) := by
  obtain ⟨gathered, left, left', given, given', rest⟩ := (gather_agree same wanted).split
  rw [readWhole, readWhole, given, given']
  rcases gathered with ⟨octets, _ | fault⟩
  · exact ⟨rfl, rest⟩
  · exact ⟨rfl, rest⟩

theorem readExactly_agree (same : one.SameOctets other) (wanted : Nat) :
    Agree SameOctets (one.readExactly wanted) (other.readExactly wanted) := by
  rw [readExactly_eq, readExactly_eq]
  exact readWhole_agree _ _ _ same wanted

theorem skip_agree (same : one.SameOctets other) (wanted : Nat) :
    Agree SameOctets (one.skip wanted) (other.skip wanted) := by
  rw [skip_eq, skip_eq]
  exact readWhole_agree _ _ _ same wanted

theorem readHeader_agree (same : one.SameOctets other) :
    Agree SameOctets one.readHeader other.readHeader := by
  obtain ⟨given, left, left', read, read', rest⟩ :=
    (readExactly_agree same RecordHeader.octetCount).split
  rw [readHeader, readHeader, read, read']
  cases given with
  | ok octets => exact ⟨rfl, rest⟩
  | error e => cases e <;> exact ⟨rfl, rest⟩

theorem readBody_agree (same : one.SameOctets other) (length : Nat) :
    Agree SameOctets (one.readBody length) (other.readBody length) := by
  rw [readBody_eq, readBody_eq]
  exact readWhole_agree _ _ _ same length

/-! ## Recovery scans -/

/-- The marker is looked for octet by octet, and both streams are read in step. -/
theorem seekMarker_agree (same : one.SameOctets other) (run : Nat) :
    Agree SameOctets (one.seekMarker run) (other.seekMarker run) := by
  fun_induction seekMarker run one generalizing other with
  | case1 one =>
    rw [seekMarker, if_pos rfl]
    exact ⟨rfl, same⟩
  | case2 run one more e left read =>
    obtain ⟨given, _, left', read₁, read', rest⟩ := (readExactly_agree same 1).split
    cases read.symm.trans read₁
    rw [seekMarker_error more read']
    exact ⟨rfl, rest⟩
  | case3 run one more octets left read ih =>
    obtain ⟨given, _, left', read₁, read', rest⟩ := (readExactly_agree same 1).split
    cases read.symm.trans read₁
    rw [seekMarker_ok more read']
    exact ih rest

theorem passMessage_agree (same : one.SameOctets other) :
    Agree SameOctets one.passMessage other.passMessage := by
  obtain ⟨given, left, left', read, read', rest⟩ := (readExactly_agree same 2).split
  rw [passMessage, passMessage, read, read']
  cases given with
  | error e => exact ⟨rfl, rest⟩
  | ok octets =>
    dsimp only
    split
    · exact ⟨rfl, rest⟩
    · obtain ⟨skipped, behind, behind', skip, skip', rest⟩ :=
        (skip_agree rest (Octets.toNat octets - markerAndLength)).split
      rw [skip, skip']
      cases skipped <;> exact ⟨rfl, rest⟩

theorem rescan_agree (same : one.SameOctets other) : Agree SameOctets one.rescan other.rescan := by
  obtain ⟨found, left, left', sought, sought', rest⟩ := (seekMarker_agree same 0).split
  rw [rescan, rescan, sought, sought']
  cases found with
  | error e => exact ⟨rfl, rest⟩
  | ok _ =>
    obtain ⟨given, behind, behind', passed, passed', rest⟩ := (passMessage_agree rest).split
    dsimp only
    rw [passed, passed']
    cases given <;> exact ⟨rfl, rest⟩

end Source

/-! ## Framers -/

/-- A call on a framer. -/
inductive FramerCall
  /-- The next record is cut out. -/
  | next
  /-- A recovery scan is made. -/
  | rescan

/-- What a call on a framer gives. -/
inductive FramerAnswer
  | record (result : Except FeedError FramedRecord)
  | length (result : Except FeedError UInt16)

/-- What can be seen of a framer behind a call. -/
structure FramerSighting where
  /-- What the call has given. -/
  answer : FramerAnswer
  /-- Records that were cut out so far. -/
  recordsRead : Nat
  /-- Recovery scans that were begun so far. -/
  recoveries : Nat
  /-- Octets that were handed out so far. -/
  offset : Nat

namespace Framer

/-- Makes a call. -/
def call (framer : Framer) : FramerCall → FramerAnswer × Framer
  | .next => (.record framer.next.1, framer.next.2)
  | .rescan => (.length framer.rescan.1, framer.rescan.2)

/-- What is seen of a framer behind each of the given calls. -/
def sightings (framer : Framer) : List FramerCall → List FramerSighting
  | [] => []
  | call :: rest =>
    let (answer, after) := framer.call call
    ⟨answer, after.recordsRead, after.recoveries, after.source.offset⟩ :: after.sightings rest

/-- The framer on the same stream with other sizes of reads: a call gets one octet more than `grant`
tells for its number, if so many are asked for and there. As `grant` may tell another size for each
call, every way to hand out the octets is among these. -/
def regranted (framer : Framer) (grant : Nat → Nat) : Framer :=
  { framer with source := { framer.source with grant := grant } }

/-- Two framers that differ in the sizes of their reads at most. -/
structure Alike (one other : Framer) : Prop where
  source : one.source.SameOctets other.source
  limits : one.limits = other.limits
  recordsRead : one.recordsRead = other.recordsRead
  recoveries : one.recoveries = other.recoveries

theorem regranted_alike (framer : Framer) (grant grant' : Nat → Nat) :
    (framer.regranted grant).Alike (framer.regranted grant') :=
  ⟨⟨rfl, rfl, rfl⟩, rfl, rfl, rfl⟩

variable {one other : Framer}

theorem rescan_agree (alike : one.Alike other) : Agree Alike one.rescan other.rescan := by
  obtain ⟨result, rest⟩ := Source.rescan_agree alike.source
  exact ⟨result, rest, alike.limits, alike.recordsRead, congrArg (· + 1) alike.recoveries⟩

/-- Both framers refuse the same headers. By induction on the headers that the first one reads. -/
theorem acceptHeader_agree (alike : one.Alike other) (skips : Nat) :
    Agree Alike (one.acceptHeader skips) (other.acceptHeader skips) := by
  fun_induction acceptHeader skips one generalizing other with
  | case1 skips one e left read =>
    obtain ⟨given, _, left', read₁, read', rest⟩ := (Source.readHeader_agree alike.source).split
    cases read.symm.trans read₁
    rw [acceptHeader_of_error read']
    exact ⟨rfl, rest, alike.limits, alike.recordsRead, alike.recoveries⟩
  | case2 skips one header left read accepted =>
    obtain ⟨given, _, left', read₁, read', rest⟩ := (Source.readHeader_agree alike.source).split
    cases read.symm.trans read₁
    rw [acceptHeader_of_accepts read' (alike.limits ▸ accepted)]
    exact ⟨rfl, rest, alike.limits, alike.recordsRead, alike.recoveries⟩
  | case3 skips one header left read refused e behind scanned =>
    obtain ⟨given, _, left', read₁, read', rest⟩ := (Source.readHeader_agree alike.source).split
    cases read.symm.trans read₁
    have between : Alike { one with source := left } { other with source := left' } :=
      ⟨rest, alike.limits, alike.recordsRead, alike.recoveries⟩
    obtain ⟨result, _, behind', scanned₁, scanned', after⟩ := (rescan_agree between).split
    cases scanned.symm.trans scanned₁
    rw [acceptHeader_of_scan_error read' (alike.limits ▸ refused) scanned']
    exact ⟨rfl, after⟩
  | case4 skips one header left read refused length behind scanned ih =>
    obtain ⟨given, _, left', read₁, read', rest⟩ := (Source.readHeader_agree alike.source).split
    cases read.symm.trans read₁
    have between : Alike { one with source := left } { other with source := left' } :=
      ⟨rest, alike.limits, alike.recordsRead, alike.recoveries⟩
    obtain ⟨result, _, behind', scanned₁, scanned', after⟩ := (rescan_agree between).split
    cases scanned.symm.trans scanned₁
    -- both scans end alike, so the framers are in step again behind them
    rw [acceptHeader_of_scan_ok read' (alike.limits ▸ refused) scanned']
    exact ih after

theorem next_agree (alike : one.Alike other) : Agree Alike one.next other.next := by
  obtain ⟨found, left, left', headed, headed', after⟩ := (acceptHeader_agree alike 0).split
  rw [next, next, headed, headed']
  cases found with
  | error e => exact ⟨rfl, after⟩
  | ok pair =>
    obtain ⟨header, skips⟩ := pair
    obtain ⟨body, behind, behind', filled, filled', rest⟩ :=
      (Source.readBody_agree after.source header.length.toNat).split
    dsimp only
    rw [filled, filled']
    cases body with
    | error e => exact ⟨rfl, rest, after.limits, after.recordsRead, after.recoveries⟩
    | ok body =>
      exact ⟨rfl, rest, after.limits, congrArg (· + 1) after.recordsRead, after.recoveries⟩

theorem call_agree (alike : one.Alike other) (call : FramerCall) :
    Agree Alike (one.call call) (other.call call) := by
  cases call with
  | next =>
    obtain ⟨result, after⟩ := next_agree alike
    exact ⟨congrArg FramerAnswer.record result, after⟩
  | rescan =>
    obtain ⟨result, after⟩ := rescan_agree alike
    exact ⟨congrArg FramerAnswer.length result, after⟩

theorem sightings_eq (alike : one.Alike other) (calls : List FramerCall) :
    one.sightings calls = other.sightings calls := by
  induction calls generalizing one other with
  | nil => rfl
  | cons call rest ih =>
    obtain ⟨answer, after, after', called, called', same⟩ := (call_agree alike call).split
    rw [sightings, sightings, called, called']
    dsimp only
    rw [same.recordsRead, same.recoveries, same.source.offset, ih same]

/-- The sizes of the reads change nothing: whatever calls are made, each gives the same, and leaves
the same counts and the same place in the stream, for any two ways to hand out the octets. -/
theorem sightings_regranted (framer : Framer) (grant grant' : Nat → Nat)
    (calls : List FramerCall) :
    (framer.regranted grant).sightings calls = (framer.regranted grant').sightings calls := by
  apply sightings_eq
  exact regranted_alike framer grant grant'

end Framer

end CollectorFeed
