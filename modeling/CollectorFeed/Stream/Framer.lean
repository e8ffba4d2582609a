import CollectorFeed.Record.Header
import CollectorFeed.Stream.Recovery

/-!
# Cutting a stream into records

A framer reads a header, checks the length it announces, and reads the body. A header whose length
is out of bounds is not trusted: the stream is scanned for the next BGP message and reading goes on
behind it, until a header is accepted. The record says how many scans were needed before it.
-/

set_option autoImplicit false

namespace CollectorFeed

namespace Source

/-- Reads a header. A stream that ends before it is whole has ended in the usual way. -/
def readHeader (source : Source) : Except FeedError RecordHeader × Source :=
  match source.readExactly RecordHeader.octetCount with
  | (.ok octets, source) => (.ok (RecordHeader.ofOctets octets), source)
  | (.error .unfilled, source) => (.error .shortHeader, source)
  | (.error e, source) => (.error (.unreadable e), source)

/-- Reads a body of the given length. -/
def readBody (length : Nat) (source : Source) : Except FeedError Octets × Source :=
  match source.gather length with
  | (⟨_, some e⟩, source) => (.error (.unreadable e), source)
  | (⟨octets, none⟩, source) =>
    if octets.length < length then (.error (.truncatedBody length octets.length), source)
    else (.ok octets, source)

theorem readHeader_unread {source after : Source} {header : RecordHeader}
    (read : source.readHeader = (.ok header, after)) :
    after.unread.length + RecordHeader.octetCount = source.unread.length := by
  unfold readHeader at read
  split at read
  · rename_i octets next filled
    have taken := readExactly_unread filled
    simp only [Prod.mk.injEq] at read
    rw [← read.2]
    exact taken
  · simp at read
  · simp at read

theorem readBody_unread_le {length : Nat} {source after : Source} {body : Octets}
    (read : source.readBody length = (.ok body, after)) :
    after.unread.length ≤ source.unread.length := by
  have less := gather_unread_le length source
  unfold readBody at read
  split at read
  · simp at read
  · rename_i next gathered
    rw [gathered] at less
    split at read
    · simp at read
    · simp only [Prod.mk.injEq] at read
      rw [← read.2]
      exact less

end Source

/-- Cuts a stream into records. -/
structure Framer where
  /-- The stream. -/
  source : Source
  /-- Accepted lengths of bodies. -/
  limits : LengthLimits
  /-- Records that were cut out. -/
  recordsRead : Nat
  /-- Recovery scans that were begun. -/
  recoveries : Nat

namespace Framer

/-- A framer at the beginning of a stream. -/
def ofSource (source : Source) (limits : LengthLimits) : Framer :=
  ⟨source, limits, 0, 0⟩

/-- One recovery scan, which counts as one even if it fails. -/
def rescan (framer : Framer) : Except FeedError UInt16 × Framer :=
  let (result, source) := framer.source.rescan
  (result, { framer with source := source, recoveries := framer.recoveries + 1 })

theorem rescan_unread_le {framer after : Framer} {length : UInt16}
    (done : framer.rescan = (.ok length, after)) :
    after.source.unread.length ≤ framer.source.unread.length := by
  simp only [rescan, Prod.mk.injEq] at done
  rw [← done.2]
  exact Source.rescan_unread_le (Prod.ext done.1 rfl)

/-- Reads headers until one is accepted, with a recovery scan behind each that is not; `skips` scans
were needed so far. -/
def acceptHeader (skips : Nat) (framer : Framer) :
    Except FeedError (RecordHeader × Nat) × Framer :=
  match _read : framer.source.readHeader with
  | (.error e, source) => (.error e, { framer with source := source })
  | (.ok header, source) =>
    if framer.limits.accepts header.length then
      (.ok (header, skips), { framer with source := source })
    else
      match _scan : Framer.rescan { framer with source := source } with
      | (.error e, framer) => (.error e, framer)
      | (.ok _, framer) => acceptHeader (skips + 1) framer
termination_by framer.source.unread.length
decreasing_by
  have taken := Source.readHeader_unread _read
  have less := rescan_unread_le _scan
  simp only [RecordHeader.octetCount] at taken less
  omega

/-- Cuts out the next record. -/
def next (framer : Framer) : Except FeedError FramedRecord × Framer :=
  match framer.acceptHeader 0 with
  | (.error e, framer) => (.error e, framer)
  | (.ok (header, skips), framer) =>
    match framer.source.readBody header.length.toNat with
    | (.error e, source) => (.error e, { framer with source := source })
    | (.ok body, source) =>
      (.ok ⟨header, body, skips⟩,
        { framer with source := source, recordsRead := framer.recordsRead + 1 })

/-! ## A record takes at least its header -/

theorem acceptHeader_unread_lt {skips : Nat} {framer after : Framer} {found : RecordHeader × Nat}
    (accepted : framer.acceptHeader skips = (.ok found, after)) :
    after.source.unread.length < framer.source.unread.length := by
  fun_induction acceptHeader skips framer with
  | case1 => simp at accepted
  | case2 skips framer header source read _ =>
    have taken := Source.readHeader_unread read
    simp only [Prod.mk.injEq] at accepted
    rw [← accepted.2]
    simp only [RecordHeader.octetCount] at taken
    simp only
    omega
  | case3 => simp at accepted
  | case4 skips framer header source read _ length next scan ih =>
    have taken := Source.readHeader_unread read
    have less := rescan_unread_le scan
    have rest := ih accepted
    simp only [RecordHeader.octetCount] at taken less
    omega

theorem next_unread_lt {framer after : Framer} {record : FramedRecord}
    (read : framer.next = (.ok record, after)) :
    after.source.unread.length < framer.source.unread.length := by
  unfold next at read
  split at read
  · simp at read
  · rename_i header skips accepted found
    have first := acceptHeader_unread_lt found
    split at read
    · simp at read
    · rename_i body source taken
      have second := Source.readBody_unread_le taken
      simp only [Prod.mk.injEq] at read
      rw [← read.2]
      simp only
      omega

end Framer

end CollectorFeed
