import CollectorFeed.Proofs.Stream.Slices

/-!
# Written records are cut out again

Whole records that are written one behind the other come out of a framer as they went in, one with
each call, whatever their bodies look like and whatever stands behind them: a body is not searched
for anything, since its length is known. The stream then stands in front of the tail. A tail that is
shorter than a header ends the stream; a tail that announces more octets than it has is a truncated
record. Main statement: `nextTimes_encodeAll`.
-/

set_option autoImplicit false

namespace CollectorFeed

namespace Framer

/-- Cuts out so many records, one with each call. -/
def nextTimes : Nat → Framer → List (Except FeedError FramedRecord) × Framer
  | 0, framer => ([], framer)
  | count + 1, framer =>
    let (results, after) := nextTimes count framer.next.2
    (framer.next.1 :: results, after)

/-- A whole record is cut out, and nothing else is taken for it. -/
theorem next_whole {framer : Framer} {record : FramedRecord} {rest : Octets}
    (whole : record.Whole framer.limits) (stands : framer.source.Stands (record.encode ++ rest)) :
    ∃ after, framer.next = (.ok record, after) ∧ after.source.Stands rest ∧
      framer.Takes record.encode 1 0 1 after := by
  obtain ⟨after, read, behind, -⟩ := next_stands whole stands
  obtain ⟨taken, count, course, takes⟩ := framer.next_takes
  rw [read] at course takes
  refine ⟨after, read, behind, ?_⟩
  cases course with
  | record others accepted length =>
    rename_i front
    have unread := takes.hands.unread
    rw [stands.unread, behind.unread] at unread
    -- what was taken is what stood in front of the rest
    rw [← List.append_cancel_right unread, whole.recoveries] at takes
    exact takes

/-- A header without enough octets behind it is a truncated record. -/
theorem next_truncated {framer : Framer} {header : RecordHeader} {part : Octets}
    (accepted : framer.limits.accepts header.length = true)
    (short : part.length < header.length.toNat)
    (stands : framer.source.Stands (header.encode ++ part)) :
    ∃ after,
      framer.next = (.error (.truncatedBody header.length.toNat part.length), after) := by
  obtain ⟨between, headed, left⟩ := Source.readHeader_stands stands
  obtain ⟨after, gathered, -⟩ := Source.gather_stands left header.length.toNat
  rw [List.take_of_length_le (Nat.le_of_lt short)] at gathered
  have missing : between.readBody header.length.toNat =
      (.error (.truncatedBody header.length.toNat part.length), after) := by
    rw [Source.readBody, gathered]
    exact if_pos short
  refine ⟨{ framer with source := after }, ?_⟩
  rw [next, acceptHeader_of_accepts headed accepted]
  dsimp only
  rw [missing]

/-- A call that gives no record counts none. -/
theorem next_recordsRead {framer after : Framer} {e : FeedError}
    (failed : framer.next = (.error e, after)) : after.recordsRead = framer.recordsRead := by
  obtain ⟨_, _, -, takes⟩ := framer.next_takes
  rw [failed] at takes
  exact takes.recordsRead

/-- By induction on the records. -/
theorem nextTimes_whole {framer : Framer} {records : List FramedRecord} {tail : Octets}
    (whole : ∀ record ∈ records, record.Whole framer.limits)
    (stands : framer.source.Stands (encodeAll records ++ tail)) :
    ∃ after, framer.nextTimes records.length = (records.map .ok, after) ∧
      after.source.Stands tail ∧
      framer.Takes (encodeAll records) records.length 0 records.length after := by
  induction records generalizing framer with
  | nil => exact ⟨framer, rfl, stands, .refl _, rfl, rfl, rfl⟩
  | cons record records ih =>
    have written : encodeAll (record :: records) = record.encode ++ encodeAll records :=
      List.flatMap_cons
    rw [written, List.append_assoc] at stands
    obtain ⟨between, read, behind, first⟩ := next_whole (whole record List.mem_cons_self) stands
    have others : ∀ other ∈ records, other.Whole between.limits := by
      intro other member
      rw [first.limits]
      exact whole other (List.mem_cons_of_mem _ member)
    obtain ⟨after, results, left, rest⟩ := ih others behind
    refine ⟨after, ?_, left, ?_⟩
    · rw [List.length_cons, nextTimes, read]
      dsimp only
      rw [results, List.map_cons]
    · rw [written, List.length_cons, Nat.add_comm records.length]
      exact first.trans rest

/-- Whole records that stand one behind the other are cut out as they are, one with each call. The
calls leave the stream in front of the tail and count the records and no recovery scan. Where the
tail is no whole record, the next call says so, and counts nothing. -/
theorem nextTimes_encodeAll {framer : Framer} {records : List FramedRecord} {tail : Octets}
    (whole : ∀ record ∈ records, record.Whole framer.limits)
    (stands : framer.source.Stands (encodeAll records ++ tail)) :
    ∃ after, framer.nextTimes records.length = (records.map .ok, after) ∧
      after.source.unread = tail ∧
      after.source.offset = framer.source.offset + (encodeAll records).length ∧
      after.recordsRead = framer.recordsRead + records.length ∧
      after.recoveries = framer.recoveries ∧
      (tail.length < RecordHeader.octetCount →
        after.next.1 = .error .shortHeader ∧ after.next.2.recordsRead = after.recordsRead) ∧
      (∀ (header : RecordHeader) (part : Octets), tail = header.encode ++ part →
        framer.limits.accepts header.length = true → part.length < header.length.toNat →
        after.next.1 = .error (.truncatedBody header.length.toNat part.length) ∧
          after.next.2.recordsRead = after.recordsRead) := by
  obtain ⟨after, results, left, takes⟩ := nextTimes_whole whole stands
  refine ⟨after, results, left.unread, takes.hands.offset, takes.recordsRead, takes.recoveries,
    ?_, ?_⟩
  · intro short
    obtain ⟨behind, failed⟩ := next_short left short
    rw [failed]
    exact ⟨rfl, next_recordsRead failed⟩
  · rintro header part rfl accepted short
    rw [← takes.limits] at accepted
    obtain ⟨behind, failed⟩ := next_truncated accepted short left
    rw [failed]
    exact ⟨rfl, next_recordsRead failed⟩

/-- A record the body of which could be taken for a marker and a message. -/
def markedRecord : FramedRecord :=
  ⟨⟨1700000000, 16, 4, 20⟩, bgpMarker ++ [0, 19, 4, 0], 0⟩

/-- A framer in front of two such records and the beginning of a third one. -/
def markedFramer : Framer :=
  ofSource (.ofOctets (encodeAll [markedRecord, markedRecord] ++
    (markedRecord.header.encode ++ [0xFF]))) ⟨64, 0⟩

theorem nextTimes_encodeAll_markedRecord :
    (∀ record ∈ [markedRecord, markedRecord], record.Whole markedFramer.limits) ∧
      ∃ after, markedFramer.nextTimes 2 = ([.ok markedRecord, .ok markedRecord], after) ∧
        after.next.1 = .error (.truncatedBody 20 1) := by
  have whole : ∀ record ∈ [markedRecord, markedRecord], record.Whole markedFramer.limits := by
    intro record member
    obtain rfl : record = markedRecord := by simpa using member
    exact ⟨rfl, rfl, rfl⟩
  have stands : markedFramer.source.Stands (encodeAll [markedRecord, markedRecord] ++
      (markedRecord.header.encode ++ [0xFF])) := Source.stands_ofOctets _
  obtain ⟨after, results, -, -, -, -, -, cutOff⟩ := nextTimes_encodeAll whole stands
  obtain ⟨missing, -⟩ := cutOff markedRecord.header [0xFF] rfl rfl (by decide)
  exact ⟨whole, after, results, missing⟩

end Framer

end CollectorFeed
