import CollectorFeed.Stream.Framer

/-!
# Streams that never fail

A stream without a failure gives its octets one after the other, however few of them a read call
hands out (`Stands`). Reads, recovery scans and the cutting out of records are then told by the
octets alone: `seek` finds what stands behind the first marker, and `scan` what stands behind the
message that a recovery scan passes over.
-/

set_option autoImplicit false

namespace CollectorFeed

namespace Source

/-- The stream never fails, and the given octets are left of it. -/
structure Stands (source : Source) (octets : Octets) : Prop where
  unfailing : source.fault? = none
  unread : source.unread = octets

/-! ## Reads -/

theorem stands_ofOctets (octets : Octets) : (ofOctets octets).Stands octets :=
  ⟨rfl, rfl⟩

/-- A read call hands out some of the octets as long as there are any. -/
theorem read_stands {source : Source} {octets : Octets} (stands : source.Stands octets)
    {wanted : Nat} (some_ : wanted ≠ 0) :
    ∃ front back after, octets = front ++ back ∧ source.read wanted = (.ok front, after) ∧
      front.length ≤ wanted ∧ (front = [] → octets = []) ∧ after.Stands back := by
  obtain ⟨unfailing, rfl⟩ := stands
  have granted : 0 < source.room wanted := by
    rw [room, unfailing]
    dsimp only
    omega
  refine ⟨_, _, source.begun.advanced (source.room wanted),
    (List.take_append_drop (source.room wanted) _).symm, ?_, ?_, ?_, unfailing, rfl⟩
  · rw [read, failing?, unfailing]
  · exact Nat.le_trans (List.length_take_le _ _) (source.room_le wanted)
  · intro nothing
    rcases List.take_eq_nil_iff.1 nothing with zero | nothing
    · exact absurd zero (Nat.ne_of_gt granted)
    · exact nothing

/-- A loop of read calls gives as many octets as were asked for, or all that there are. -/
theorem gatherFrom_stands {source : Source} {octets : Octets} (stands : source.Stands octets)
    (wanted : Nat) (pieces : List Octets) :
    ∃ after, source.gatherFrom wanted pieces =
        (⟨pieces.reverse.flatten ++ octets.take wanted, none⟩, after) ∧
      after.Stands (octets.drop wanted) := by
  fun_induction gatherFrom wanted pieces source generalizing octets with
  | case1 pieces source =>
    refine ⟨source, ?_, stands⟩
    rw [List.take_zero, List.append_nil]
  | case2 wanted pieces source some_ e after call =>
    obtain ⟨front, back, between, -, given, -⟩ := read_stands stands some_
    cases given.symm.trans call
  | case3 wanted pieces source some_ after call =>
    obtain ⟨front, back, between, split, given, -, ended, rest⟩ := read_stands stands some_
    cases given.symm.trans call
    obtain rfl := ended rfl
    obtain rfl : [] = back := split
    refine ⟨after, by rw [List.take_nil, List.append_nil], ?_⟩
    rwa [List.drop_nil]
  | case4 wanted pieces source some_ first rest after call ih =>
    obtain ⟨front, back, between, rfl, given, few, -, left⟩ := read_stands stands some_
    cases given.symm.trans call
    obtain ⟨last, gathered, behind⟩ := ih left
    refine ⟨last, ?_, ?_⟩
    · rw [gathered, List.take_append, List.take_of_length_le few]
      simp
    · rw [List.drop_append, List.drop_eq_nil_of_le few]
      exact behind

theorem gather_stands {source : Source} {octets : Octets} (stands : source.Stands octets)
    (wanted : Nat) :
    ∃ after, source.gather wanted = (⟨octets.take wanted, none⟩, after) ∧
      after.Stands (octets.drop wanted) :=
  gatherFrom_stands stands wanted []

theorem readExactly_stands {source : Source} {front back : Octets}
    (stands : source.Stands (front ++ back)) :
    ∃ after, source.readExactly front.length = (.ok front, after) ∧ after.Stands back := by
  obtain ⟨after, gathered, behind⟩ := gather_stands stands front.length
  rw [List.take_left] at gathered
  rw [List.drop_left] at behind
  refine ⟨after, ?_, behind⟩
  rw [readExactly, gathered]
  exact if_pos rfl

/-- A stream that is too short is used up. -/
theorem readExactly_short {source : Source} {octets : Octets} (stands : source.Stands octets)
    {wanted : Nat} (short : octets.length < wanted) :
    ∃ after, source.readExactly wanted = (.error .unfilled, after) ∧ after.Stands [] := by
  obtain ⟨after, gathered, behind⟩ := gather_stands stands wanted
  rw [List.take_of_length_le (Nat.le_of_lt short)] at gathered
  rw [List.drop_eq_nil_of_le (Nat.le_of_lt short)] at behind
  refine ⟨after, ?_, behind⟩
  rw [readExactly, gathered]
  exact if_neg (Nat.ne_of_lt short)

theorem skip_stands {source : Source} {octets : Octets} (stands : source.Stands octets)
    (wanted : Nat) :
    ∃ after, source.skip wanted =
        (if wanted ≤ octets.length then .ok () else .error (.skipEnded octets.length wanted),
          after) ∧
      after.Stands (octets.drop wanted) := by
  obtain ⟨after, gathered, behind⟩ := gather_stands stands wanted
  refine ⟨after, ?_, behind⟩
  rw [skip, gathered]
  by_cases long : wanted ≤ octets.length
  · simp [long]
  · have short := Nat.lt_of_not_le long
    simp [long, List.length_take, Nat.min_eq_right (Nat.le_of_lt short), Nat.ne_of_lt short]

/-! ## Recovery scans -/

/-- What stands behind the first sixteen octets of ones that come together, if there are such; `run`
of them came just before. -/
def seek (run : Nat) (octets : Octets) : Option Octets :=
  if run = bgpMarker.length then some octets
  else
    match octets with
    | [] => none
    | octet :: rest => seek (if octet = 0xFF then run + 1 else 0) rest

theorem seekMarker_error {source after : Source} {run : Nat} {e : ReadFault}
    (more : run ≠ bgpMarker.length) (read : source.readExactly 1 = (.error e, after)) :
    source.seekMarker run = (.error e, after) := by
  rw [seekMarker, if_neg more]
  split
  next failed =>
    cases read.symm.trans failed
    rfl
  next given => cases read.symm.trans given

theorem seekMarker_ok {source after : Source} {run : Nat} {octets : Octets}
    (more : run ≠ bgpMarker.length) (read : source.readExactly 1 = (.ok octets, after)) :
    source.seekMarker run = after.seekMarker (if octets = [0xFF] then run + 1 else 0) := by
  rw [seekMarker, if_neg more]
  split
  next failed => cases read.symm.trans failed
  next given =>
    obtain ⟨same, rfl⟩ := Prod.mk.inj (read.symm.trans given)
    cases same
    rfl

theorem seekMarker_stands {source : Source} {octets : Octets} (stands : source.Stands octets)
    (run : Nat) :
    match seek run octets with
    | some rest => ∃ after, source.seekMarker run = (.ok (), after) ∧ after.Stands rest
    | none => ∃ e after, source.seekMarker run = (.error e, after) := by
  induction octets generalizing source run with
  | nil =>
    unfold seek
    by_cases found : run = bgpMarker.length
    · rw [if_pos found]
      exact ⟨source, by rw [seekMarker, if_pos found], stands⟩
    · rw [if_neg found]
      obtain ⟨after, read, -⟩ := readExactly_short stands Nat.one_pos
      exact ⟨_, after, seekMarker_error found read⟩
  | cons octet rest ih =>
    unfold seek
    by_cases found : run = bgpMarker.length
    · rw [if_pos found]
      exact ⟨source, by rw [seekMarker, if_pos found], stands⟩
    · rw [if_neg found]
      have stands : source.Stands ([octet] ++ rest) := stands
      obtain ⟨after, read, behind⟩ := readExactly_stands stands
      have ones : (if [octet] = [0xFF] then run + 1 else 0) =
          if octet = 0xFF then run + 1 else 0 := by simp only [List.cons.injEq, and_true]
      have next := seekMarker_ok found read
      rw [ones] at next
      rw [next]
      exact ih behind _

/-- What stands behind a message whose marker was passed, if there is so much of it. -/
def pass : Octets → Option Octets
  | high :: low :: rest =>
    let length := Octets.toNat [high, low]
    if length < markerAndLength then some rest
    else if length - markerAndLength ≤ rest.length then
      some (rest.drop (length - markerAndLength))
    else none
  | _ => none

/-- Just the given octets behind a length are passed over exactly if that is what the length says. -/
theorem pass_append_eq_iff {high low : UInt8} {left rest : Octets} (some_ : 0 < left.length) :
    pass (high :: low :: (left ++ rest)) = some rest ↔
      Octets.toNat [high, low] = left.length + markerAndLength := by
  simp only [pass]
  generalize Octets.toNat [high, low] = length
  split
  case isTrue short =>
    constructor
    · intro same
      have number := congrArg List.length (Option.some.inj same)
      rw [List.length_append] at number
      omega
    · intro same
      omega
  case isFalse enough =>
    split
    case isTrue there =>
      rw [List.length_append] at there
      constructor
      · intro same
        have number := congrArg List.length (Option.some.inj same)
        rw [List.length_drop, List.length_append] at number
        omega
      · intro same
        rw [same, Nat.add_sub_cancel, List.drop_left]
    case isFalse short =>
      rw [List.length_append] at short
      constructor
      · intro same
        cases same
      · intro same
        omega

theorem passMessage_stands {source : Source} {octets : Octets} (stands : source.Stands octets) :
    match pass octets with
    | some rest => ∃ length after, source.passMessage = (.ok length, after) ∧ after.Stands rest
    | none => ∃ e after, source.passMessage = (.error e, after) := by
  unfold passMessage
  match octets with
  | [] =>
    obtain ⟨after, short, -⟩ := readExactly_short stands (show _ < 2 from Nat.two_pos)
    exact ⟨_, after, by rw [short]⟩
  | [one] =>
    obtain ⟨after, short, -⟩ := readExactly_short stands (show _ < 2 from Nat.one_lt_two)
    exact ⟨_, after, by rw [short]⟩
  | high :: low :: rest =>
    have stands : source.Stands ([high, low] ++ rest) := stands
    obtain ⟨between, read, left⟩ := readExactly_stands stands
    have read : source.readExactly 2 = (.ok [high, low], between) := read
    rw [read]
    dsimp only [pass]
    by_cases short : Octets.toNat [high, low] < markerAndLength
    · rw [if_pos short, if_pos short]
      exact ⟨_, between, rfl, left⟩
    · rw [if_neg short, if_neg short]
      obtain ⟨after, skipped, behind⟩ :=
        skip_stands left (Octets.toNat [high, low] - markerAndLength)
      rw [skipped]
      by_cases long : Octets.toNat [high, low] - markerAndLength ≤ rest.length
      · rw [if_pos long, if_pos long]
        exact ⟨_, after, rfl, behind⟩
      · rw [if_neg long, if_neg long]
        exact ⟨_, after, rfl⟩

/-- What stands behind the message that a recovery scan passes over, if the scan comes so far. -/
def scan (octets : Octets) : Option Octets :=
  (seek 0 octets).bind pass

theorem rescan_stands {source : Source} {octets : Octets} (stands : source.Stands octets) :
    match scan octets with
    | some rest => ∃ length after, source.rescan = (.ok length, after) ∧ after.Stands rest
    | none => ∃ e after, source.rescan = (.error e, after) := by
  have found := seekMarker_stands stands 0
  unfold scan rescan
  cases sought : seek 0 octets with
  | none =>
    rw [sought] at found
    obtain ⟨e, after, same⟩ := found
    exact ⟨_, after, by rw [same]⟩
  | some behind =>
    rw [sought] at found
    obtain ⟨between, same, left⟩ := found
    have passed := passMessage_stands left
    rw [same, Option.bind_some]
    dsimp only
    cases goes : pass behind with
    | none =>
      rw [goes] at passed
      obtain ⟨e, after, failed⟩ := passed
      exact ⟨.unreadable e, after, by rw [failed]⟩
    | some rest =>
      rw [goes] at passed
      obtain ⟨length, after, done, behind⟩ := passed
      exact ⟨length, after, by rw [done], behind⟩

/-! ## Looking for a marker -/

/-- An octet other than ones ends a run that was too short. -/
theorem seek_append_cons {front : Octets} {run : Nat} (few : run + front.length < 16)
    {octet : UInt8} (other : octet ≠ 0xFF) (back : Octets) :
    seek run (front ++ octet :: back) = seek 0 back := by
  induction front generalizing run with
  | nil =>
    have more : run ≠ bgpMarker.length := Nat.ne_of_lt few
    rw [List.nil_append, seek, if_neg more, if_neg other]
  | cons first rest ih =>
    rw [List.length_cons] at few
    have more : run ≠ bgpMarker.length := by
      show run ≠ 16
      omega
    rw [List.cons_append, seek, if_neg more]
    refine ih ?_
    split <;> omega

/-- What comes behind does not change where the first marker is found. -/
theorem seek_append {octets left : Octets} {run : Nat} (found : seek run octets = some left)
    (back : Octets) : seek run (octets ++ back) = some (left ++ back) := by
  induction octets generalizing run with
  | nil =>
    unfold seek at found
    split at found
    case isTrue full =>
      cases found
      cases back with
      | nil => rw [List.append_nil, seek, if_pos full]
      | cons octet rest => rw [List.nil_append, seek, if_pos full]
    case isFalse => cases found
  | cons octet rest ih =>
    rw [seek] at found
    split at found
    case isTrue full =>
      cases found
      rw [List.cons_append, seek, if_pos full]
    case isFalse more =>
      rw [List.cons_append, seek, if_neg more]
      exact ih found

/-- Octets without a marker that end in an octet other than ones leave nothing of a run. -/
theorem seek_of_eq_none {front : Octets} {run : Nat} {octet : UInt8}
    (nothing : seek run (front ++ [octet]) = none) (other : octet ≠ 0xFF) (back : Octets) :
    seek run (front ++ octet :: back) = seek 0 back := by
  induction front generalizing run with
  | nil =>
    rw [List.nil_append, seek] at nothing ⊢
    split at nothing
    case isTrue => cases nothing
    case isFalse more => rw [if_neg more, if_neg other]
  | cons first rest ih =>
    rw [List.cons_append, seek] at nothing ⊢
    split at nothing
    case isTrue => cases nothing
    case isFalse more =>
      rw [if_neg more]
      exact ih nothing

/-- Few octets hold no marker. -/
theorem seek_eq_none {octets : Octets} {run : Nat} (few : run + octets.length < 16) :
    seek run octets = none := by
  induction octets generalizing run with
  | nil =>
    have more : run ≠ bgpMarker.length := Nat.ne_of_lt few
    rw [seek, if_neg more]
  | cons octet rest ih =>
    rw [List.length_cons] at few
    have more : run ≠ bgpMarker.length := by
      show run ≠ 16
      omega
    rw [seek, if_neg more]
    refine ih ?_
    split <;> omega

/-- Octets of ones that complete a marker are passed over. -/
theorem seek_ones {run count : Nat} (complete : run + count = 16) (back : Octets) :
    seek run (List.replicate count 0xFF ++ back) = some back := by
  induction count generalizing run with
  | zero =>
    have full : run = bgpMarker.length := complete
    rw [List.replicate_zero, List.nil_append, seek.eq_def, if_pos full]
  | succ count ih =>
    have more : run ≠ bgpMarker.length := by
      show run ≠ 16
      omega
    rw [List.replicate_succ, List.cons_append, seek, if_neg more, if_pos rfl]
    exact ih (by omega)

/-- A marker is found where it stands, or there is one in front of it. -/
theorem seek_marker (front back : Octets) {run : Nat} (few : run ≤ 16) :
    ∃ left, seek run (front ++ bgpMarker ++ back) = some left ∧ back.length ≤ left.length := by
  induction front generalizing run with
  | nil =>
    have split : bgpMarker = List.replicate (16 - run) 0xFF ++ List.replicate run 0xFF := by
      rw [List.replicate_append_replicate, Nat.sub_add_cancel few]
      rfl
    refine ⟨List.replicate run 0xFF ++ back, ?_, ?_⟩
    · rw [List.nil_append, split, List.append_assoc]
      exact seek_ones (Nat.add_sub_of_le few) _
    · rw [List.length_append]
      exact Nat.le_add_left _ _
  | cons octet rest ih =>
    rw [List.append_assoc, List.cons_append, seek, ← List.append_assoc]
    split
    case isTrue full =>
      refine ⟨_, rfl, ?_⟩
      rw [List.length_cons, List.length_append]
      omega
    case isFalse more =>
      have more : run ≠ 16 := more
      refine ih ?_
      split <;> omega

end Source

/-! ## Records -/

theorem RecordHeader.ofOctets_encode (header : RecordHeader) :
    ofOctets header.encode = header := by
  have word (value : UInt32) :
      UInt32.ofNat (Octets.toNat (Octets.ofNat 4 value.toNat)) = value := by
    have small : value.toNat < Octets.bound 4 := value.toNat_lt
    rw [Octets.toNat_ofNat, Nat.mod_eq_of_lt small, UInt32.ofNat_toNat]
  have half (value : UInt16) :
      UInt16.ofNat (Octets.toNat (Octets.ofNat 2 value.toNat)) = value := by
    have small : value.toNat < Octets.bound 2 := value.toNat_lt
    rw [Octets.toNat_ofNat, Nat.mod_eq_of_lt small, UInt16.ofNat_toNat]
  simp [ofOctets, encode, List.drop_append, List.take_of_length_le, List.drop_eq_nil_of_le, word,
    half]

/-- The written form of a record. -/
def FramedRecord.encode (record : FramedRecord) : Octets :=
  record.header.encode ++ record.body

/-- The written forms of records, one behind the other. -/
def encodeAll (records : List FramedRecord) : Octets :=
  records.flatMap FramedRecord.encode

/-- A record that is cut out as it is: its header tells the length of its body, the length is
accepted, and there is no scan in front of it. -/
structure FramedRecord.Whole (record : FramedRecord) (limits : LengthLimits) : Prop where
  length : record.header.length.toNat = record.body.length
  accepted : limits.accepts record.header.length = true
  recoveries : record.recoveries = 0

namespace Source

theorem readHeader_stands {source : Source} {header : RecordHeader} {rest : Octets}
    (stands : source.Stands (header.encode ++ rest)) :
    ∃ after, source.readHeader = (.ok header, after) ∧ after.Stands rest := by
  obtain ⟨after, read, behind⟩ := readExactly_stands stands
  rw [header.length_encode] at read
  refine ⟨after, ?_, behind⟩
  rw [readHeader, read]
  dsimp only
  rw [RecordHeader.ofOctets_encode]

theorem readBody_stands {source : Source} {body rest : Octets}
    (stands : source.Stands (body ++ rest)) :
    ∃ after, source.readBody body.length = (.ok body, after) ∧ after.Stands rest := by
  obtain ⟨after, gathered, behind⟩ := gather_stands stands body.length
  rw [List.take_left] at gathered
  rw [List.drop_left] at behind
  refine ⟨after, ?_, behind⟩
  rw [readBody, gathered]
  exact if_neg (Nat.lt_irrefl _)

end Source

namespace Framer

/-! ### Headers that are taken or refused -/

section acceptHeader

variable {framer after : Framer} {skips : Nat} {header : RecordHeader} {between : Source}

theorem acceptHeader_of_error {e : FeedError}
    (read : framer.source.readHeader = (.error e, between)) :
    framer.acceptHeader skips = (.error e, { framer with source := between }) := by
  rw [acceptHeader]
  split
  next failed =>
    cases read.symm.trans failed
    rfl
  next given => cases read.symm.trans given

theorem acceptHeader_of_accepts (read : framer.source.readHeader = (.ok header, between))
    (accepted : framer.limits.accepts header.length = true) :
    framer.acceptHeader skips = (.ok (header, skips), { framer with source := between }) := by
  rw [acceptHeader]
  split
  next failed => cases read.symm.trans failed
  next given =>
    cases read.symm.trans given
    rw [if_pos accepted]

/-- Behind a header that is not accepted the scan tells what becomes of the reading. -/
theorem acceptHeader_of_refused (read : framer.source.readHeader = (.ok header, between))
    (refused : ¬ framer.limits.accepts header.length = true) :
    framer.acceptHeader skips =
      match Framer.rescan { framer with source := between } with
      | (.error e, after) => (.error e, after)
      | (.ok _, after) => after.acceptHeader (skips + 1) := by
  rw [acceptHeader]
  split
  next failed => cases read.symm.trans failed
  next given =>
    cases read.symm.trans given
    rw [if_neg refused]
    split
    next failed => rw [failed]
    next done => rw [done]

theorem acceptHeader_of_scan_error {e : FeedError}
    (read : framer.source.readHeader = (.ok header, between))
    (refused : ¬ framer.limits.accepts header.length = true)
    (scanned : Framer.rescan { framer with source := between } = (.error e, after)) :
    framer.acceptHeader skips = (.error e, after) := by
  rw [acceptHeader_of_refused read refused, scanned]

theorem acceptHeader_of_scan_ok {length : UInt16}
    (read : framer.source.readHeader = (.ok header, between))
    (refused : ¬ framer.limits.accepts header.length = true)
    (scanned : Framer.rescan { framer with source := between } = (.ok length, after)) :
    framer.acceptHeader skips = after.acceptHeader (skips + 1) := by
  rw [acceptHeader_of_refused read refused, scanned]

end acceptHeader

/-! ### Records that are cut out -/

/-- If the octets that are left begin with a whole record, it is cut out. -/
theorem next_stands {framer : Framer} {record : FramedRecord} {rest : Octets}
    (whole : record.Whole framer.limits) (stands : framer.source.Stands (record.encode ++ rest)) :
    ∃ after, framer.next = (.ok record, after) ∧ after.source.Stands rest ∧
      after.limits = framer.limits := by
  obtain ⟨length, accepted, recoveries⟩ := whole
  rw [FramedRecord.encode, List.append_assoc] at stands
  obtain ⟨between, headed, left⟩ := Source.readHeader_stands stands
  obtain ⟨after, filled, behind⟩ := Source.readBody_stands left
  have taken : framer.acceptHeader 0 =
      (.ok (record.header, 0), { framer with source := between }) :=
    acceptHeader_of_accepts headed accepted
  refine ⟨{ framer with source := after, recordsRead := framer.recordsRead + 1 }, ?_, behind, rfl⟩
  rw [next, taken]
  dsimp only
  rw [length, filled, ← recoveries]

/-- If fewer octets are left than a header has, the stream has ended. -/
theorem next_short {framer : Framer} {octets : Octets} (stands : framer.source.Stands octets)
    (short : octets.length < RecordHeader.octetCount) :
    ∃ after, framer.next = (.error .shortHeader, after) := by
  obtain ⟨after, missing, -⟩ := Source.readExactly_short stands short
  have headed : framer.source.readHeader = (.error .shortHeader, after) := by
    rw [Source.readHeader, missing]
  refine ⟨{ framer with source := after }, ?_⟩
  rw [next, acceptHeader_of_error headed]

/-- If nothing is left, the stream has ended. -/
theorem next_ended {framer : Framer} (stands : framer.source.Stands []) :
    ∃ after, framer.next = (.error .shortHeader, after) :=
  next_short stands (Nat.succ_pos _)

/-- A recovery scan goes as far as the octets tell. -/
theorem rescan_ok {framer : Framer} {octets rest : Octets} (stands : framer.source.Stands octets)
    (scanned : Source.scan octets = some rest) :
    ∃ length after, framer.rescan = (.ok length, after) ∧ after.source.Stands rest ∧
      after.limits = framer.limits := by
  have passed := Source.rescan_stands stands
  rw [scanned] at passed
  obtain ⟨length, after, done, behind⟩ := passed
  exact ⟨length, { framer with source := after, recoveries := framer.recoveries + 1 },
    by rw [rescan, done], behind, rfl⟩

end Framer

end CollectorFeed
