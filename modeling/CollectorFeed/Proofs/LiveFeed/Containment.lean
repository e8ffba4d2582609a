import CollectorFeed.Proofs.LiveFeed.Conservation
import CollectorFeed.Proofs.Stream.Unfailing

/-!
# What a corrupt record costs

A recovery scan looks for sixteen octets of ones and trusts the two octets behind them. Behind a
corrupt record it finds the marker of the next message, unless octets of ones in the addresses in
front of that marker are taken for it. Nothing else that stands in front of it can be
(`seek_record`). `Aligned` says when the scan passes over exactly one record
(`scan_eq_iff_aligned`); it does whenever there is no marker in the addresses and their last octet
is not of ones (`aligned_of_clear`). Then a corrupt record costs the message in front of it and the
one behind it, and nothing else (`contained_run`). An address that ends in 255 is enough to make it
cost the rest of the feed (`not_contained_broadcast`).
-/

set_option autoImplicit false

namespace CollectorFeed

/-! ## Sound records -/

theorem Octets.exists_cons_cons {octets : Octets} (long : 4 ≤ octets.length) :
    ∃ high low left, octets = high :: low :: left ∧ 2 ≤ left.length := by
  match octets with
  | high :: low :: left =>
    rw [List.length_cons, List.length_cons] at long
    exact ⟨high, low, left, rfl, by omega⟩

/-- The subtype whose messages have AS numbers of the given width. -/
def AsnWidth.relaySubtype : AsnWidth → RelaySubtype
  | two => .message
  | four => .messageAs4

/-- A relayed message with the time at which it was recorded. -/
structure SentRelay where
  /-- Seconds since the epoch. -/
  time : UInt32
  /-- The message. -/
  relayed : RelayedMessage

namespace SentRelay

/-- The written form of the message. Its family field is the one of the router. -/
def body (sent : SentRelay) : Octets :=
  sent.relayed.encode sent.relayed.peerAddress.family.code

/-- The record of a message. -/
def record (sent : SentRelay) : FramedRecord where
  header := ⟨sent.time, RecordType.relay.code, sent.relayed.width.relaySubtype.code,
    UInt32.ofNat sent.body.length⟩
  body := sent.body
  recoveries := 0

@[simp] theorem recoveries_record (sent : SentRelay) : sent.record.recoveries = 0 := rfl

/-- What makes the record of a message sound. -/
structure Sound (sent : SentRelay) (limits : LengthLimits) : Prop where
  /-- The AS numbers fit their width, both addresses are of one family, and the message begins with
  the marker and is longer than a bare header. -/
  writable : sent.relayed.Writable sent.relayed.peerAddress.family.code
  /-- The length behind the marker is the length of the message. -/
  length : Octets.toNat ((sent.relayed.message.drop bgpMarker.length).take 2) =
    sent.relayed.message.length
  /-- The record is no longer and no shorter than what is accepted. -/
  accepted : limits.accepts (UInt32.ofNat sent.body.length) = true

variable {sent : SentRelay} {limits : LengthLimits}

/-- The message is a marker, its own length, and at least two octets more. -/
theorem Sound.message_eq (sound : sent.Sound limits) :
    ∃ high low left, sent.relayed.message = bgpMarker ++ high :: low :: left ∧
      Octets.toNat [high, low] = left.length + Source.markerAndLength ∧ 2 ≤ left.length := by
  obtain ⟨long, marked⟩ := RelayedMessage.checkMessage_eq_ok_iff.1 sound.writable.message
  have length := sound.length
  have whole := List.take_append_drop bgpMarker.length sent.relayed.message
  rw [marked] at whole
  generalize sent.relayed.message.drop bgpMarker.length = behind at whole length
  have count : sent.relayed.message.length = 16 + behind.length := by
    rw [← whole, List.length_append]
    rfl
  rw [count, bgpHeaderLength] at long
  obtain ⟨high, low, left, rfl, more⟩ := Octets.exists_cons_cons (show 4 ≤ behind.length by omega)
  refine ⟨high, low, left, whole.symm, length.trans ?_, more⟩
  rw [count, List.length_cons, List.length_cons, Source.markerAndLength]
  omega

theorem Sound.ofRecord (sound : sent.Sound limits) :
    LiveRecord.ofRecord sent.record = .message sent.relayed := by
  have subtype : (RelaySubtype.ofCode? sent.relayed.width.relaySubtype.code).bind
      RelaySubtype.forwardedWidth? = some sent.relayed.width := by
    cases sent.relayed.width <;> rfl
  have decoded : RelayRecord.decode sent.record.header.subtype sent.record.body =
      .ok (.message sent.relayed) :=
    RelayRecord.decode_eq_message_iff.2 ⟨subtype, _, sound.writable, rfl⟩
  show LiveRecord.ofDecoded _ = _
  rw [decoded, LiveRecord.ofDecoded]

theorem Sound.whole (sound : sent.Sound limits) : sent.record.Whole limits := by
  refine ⟨UInt32.toNat_ofNat_of_lt ?_, sound.accepted, rfl⟩
  have short := Octets.toNat_lt ((sent.relayed.message.drop bgpMarker.length).take 2)
  rw [sound.length] at short
  have few : Octets.bound ((sent.relayed.message.drop bgpMarker.length).take 2).length ≤ 65536 :=
    Nat.pow_le_pow_right (show 0 < 256 from by decide) (List.length_take_le 2 _)
  have width : sent.relayed.width.octetCount ≤ 4 := by cases sent.relayed.width <;> decide
  have address (family : AddressFamily) : family.octetCount ≤ 16 := by cases family <;> decide
  have peer := address sent.relayed.peerAddress.family
  have own := address sent.relayed.localAddress.family
  simp only [body, RelayedMessage.encode, List.length_append, Octets.length_ofNat,
    Address.length_octets]
  show _ < 4294967296
  omega

end SentRelay

/-! ## Where a recovery scan ends -/

namespace RelayedMessage

/-- The addresses and the message, as they stand at the end of a record. -/
def tail (relayed : RelayedMessage) : Octets :=
  relayed.peerAddress.octets ++ relayed.localAddress.octets ++ relayed.message

/-- The length behind the first octets of ones that make a marker leads to the end of the message.
-/
def Aligned (relayed : RelayedMessage) : Prop :=
  ∃ high low left, Source.seek 0 relayed.tail = some (high :: low :: left) ∧
    Octets.toNat [high, low] = left.length + Source.markerAndLength

/-- There is no marker in the addresses, and the last octet of them is not of ones. -/
def Clear (relayed : RelayedMessage) : Prop :=
  Source.seek 0 (relayed.peerAddress.octets ++ relayed.localAddress.octets) = none ∧
    relayed.localAddress.octets.getLast? ≠ some 0xFF

/-- In addresses of four octets there is no room for a marker. -/
theorem clear_of_ipv4 {relayed : RelayedMessage} (peer : relayed.peerAddress.family = .ipv4)
    (own : relayed.localAddress.family = .ipv4)
    (other : relayed.localAddress.octets.getLast? ≠ some 0xFF) : relayed.Clear := by
  refine ⟨Source.seek_eq_none ?_, other⟩
  rw [List.length_append, Address.length_octets, Address.length_octets, peer, own]
  decide

end RelayedMessage

namespace SentRelay

variable {sent : SentRelay} {limits : LengthLimits}

/-- Whatever the time, the length, the AS numbers and the interface are, there is no marker in front
of the addresses, and no beginning of one. -/
theorem seek_record (sent : SentRelay) (rest : Octets) :
    Source.seek 0 (sent.record.encode ++ rest) = Source.seek 0 (sent.relayed.tail ++ rest) := by
  have subtype : ∃ low : UInt8, low ≠ 0xFF ∧
      Octets.ofNat 2 sent.relayed.width.relaySubtype.code.toNat = [0, low] := by
    cases sent.relayed.width with
    | two => exact ⟨1, by decide, rfl⟩
    | four => exact ⟨4, by decide, rfl⟩
  have family : ∃ low : UInt8, low ≠ 0xFF ∧
      Octets.ofNat 2 sent.relayed.peerAddress.family.code.toNat = [0, low] := by
    cases sent.relayed.peerAddress.family with
    | ipv4 => exact ⟨1, by decide, rfl⟩
    | ipv6 => exact ⟨2, by decide, rfl⟩
  obtain ⟨kind, other, kind_eq⟩ := subtype
  obtain ⟨field, other', field_eq⟩ := family
  have width : sent.relayed.width.octetCount ≤ 4 := by cases sent.relayed.width <;> decide
  -- the subtype ends a run of at most seven octets, and the family one of at most fifteen
  have parts : sent.record.encode ++ rest =
      (Octets.ofNat 4 sent.time.toNat ++ Octets.ofNat 2 RecordType.relay.code.toNat ++ [0]) ++
        kind :: ((Octets.ofNat 4 (UInt32.ofNat sent.body.length).toNat ++
          Octets.ofNat sent.relayed.width.octetCount sent.relayed.peerAsn.toNat ++
          Octets.ofNat sent.relayed.width.octetCount sent.relayed.localAsn.toNat ++
          Octets.ofNat 2 sent.relayed.interface.toNat ++ [0]) ++
        field :: (sent.relayed.tail ++ rest)) := by
    simp only [FramedRecord.encode, RecordHeader.encode, record, kind_eq, body,
      RelayedMessage.encode, field_eq, RelayedMessage.tail, List.append_assoc, List.cons_append,
      List.nil_append]
  rw [parts, Source.seek_append_cons _ other, Source.seek_append_cons _ other']
  · simp only [List.length_append, Octets.length_ofNat, List.length_singleton]
    omega
  · simp only [List.length_append, Octets.length_ofNat, List.length_singleton]
    omega

theorem Sound.exists_seek_tail (sound : sent.Sound limits) :
    ∃ high low left, Source.seek 0 sent.relayed.tail = some (high :: low :: left) ∧
      2 ≤ left.length := by
  obtain ⟨high, low, left, message, -, long⟩ := sound.message_eq
  obtain ⟨found, sought, more⟩ := Source.seek_marker
    (sent.relayed.peerAddress.octets ++ sent.relayed.localAddress.octets) (high :: low :: left)
    (Nat.zero_le 16)
  rw [List.append_assoc, ← message] at sought
  simp only [List.length_cons] at more
  obtain ⟨first, second, others, rfl, long⟩ :=
    Octets.exists_cons_cons (show 4 ≤ found.length by omega)
  exact ⟨first, second, others, sought, long⟩

/-- A recovery scan in front of a sound record passes over this record and nothing else exactly if
the record is aligned. -/
theorem Sound.scan_eq_iff_aligned (sound : sent.Sound limits) (rest : Octets) :
    Source.scan (sent.record.encode ++ rest) = some rest ↔ sent.relayed.Aligned := by
  obtain ⟨high, low, left, sought, long⟩ := sound.exists_seek_tail
  have aligned : sent.relayed.Aligned ↔
      Octets.toNat [high, low] = left.length + Source.markerAndLength := by
    constructor
    · rintro ⟨high', low', left', sought', length⟩
      cases sought.symm.trans sought'
      exact length
    · exact fun length => ⟨high, low, left, sought, length⟩
  rw [aligned, Source.scan, seek_record, Source.seek_append sought, Option.bind_some]
  exact Source.pass_append_eq_iff (Nat.lt_of_lt_of_le Nat.two_pos long)

/-- Addresses without a marker whose last octet is not of ones leave the marker of the message as
the first one. -/
theorem Sound.aligned_of_clear (sound : sent.Sound limits) (clear : sent.relayed.Clear) :
    sent.relayed.Aligned := by
  obtain ⟨high, low, left, message, length, -⟩ := sound.message_eq
  have nothing := clear.1
  refine ⟨high, low, left, ?_, length⟩
  cases last : sent.relayed.localAddress.octets.getLast? with
  | none =>
    have number := sent.relayed.localAddress.length_octets
    rw [List.getLast?_eq_none_iff.1 last] at number
    cases family : sent.relayed.localAddress.family with
    | ipv4 =>
      rw [family] at number
      cases number
    | ipv6 =>
      rw [family] at number
      cases number
  | some octet =>
    have other : octet ≠ 0xFF := by
      rintro rfl
      exact absurd last clear.2
    obtain ⟨front, own⟩ := List.getLast?_eq_some_iff.1 last
    have parts : sent.relayed.tail = sent.relayed.peerAddress.octets ++ front ++
        octet :: (bgpMarker ++ high :: low :: left) := by
      simp [RelayedMessage.tail, message, own]
    rw [own, ← List.append_assoc] at nothing
    rw [parts, Source.seek_of_eq_none nothing other]
    exact Source.seek_ones (Nat.zero_add 16) _

end SentRelay

/-! ## Streams of whole records -/

/-- The given records are all that a feed can take: the first one may be given to it, and the framer
stands in front of the others on a stream without a failure. -/
structure Supplied (limits : LengthLimits) (first? : Option FramedRecord) (framer : Framer)
    (records : List FramedRecord) : Prop where
  limits_eq : framer.limits = limits
  whole : ∀ record ∈ records, record.Whole limits
  stands : ∃ rest, records = first?.toList ++ rest ∧ framer.source.Stands (encodeAll rest)

namespace Supplied

variable {limits : LengthLimits} {first? : Option FramedRecord} {framer : Framer}
  {record : FramedRecord} {records : List FramedRecord}

theorem fetch_cons (supplied : Supplied limits first? framer (record :: records)) :
    ∃ after, LiveFeed.fetch first? framer = (.ok record, after) ∧
      Supplied limits none after records := by
  obtain ⟨same, whole, rest, split, stands⟩ := supplied
  have others := (List.forall_mem_cons.1 whole).2
  cases first? with
  | some given =>
    obtain ⟨rfl, rfl⟩ := List.cons.inj split
    exact ⟨framer, rfl, same, others, _, rfl, stands⟩
  | none =>
    obtain rfl : record :: records = rest := split
    have one : record.Whole framer.limits := same ▸ (List.forall_mem_cons.1 whole).1
    obtain ⟨after, taken, left, kept⟩ := Framer.next_stands one stands
    exact ⟨after, taken, kept.trans same, others, records, rfl, left⟩

theorem fetch_nil (supplied : Supplied limits first? framer []) :
    ∃ after, LiveFeed.fetch first? framer = (.error .shortHeader, after) := by
  obtain ⟨same, whole, rest, split, stands⟩ := supplied
  obtain ⟨none_, rfl⟩ := List.append_eq_nil_iff.1 split.symm
  obtain rfl := Option.toList_eq_nil_iff.1 none_
  exact Framer.next_ended stands

/-- A recovery scan that passes over one record leaves the others. -/
theorem rescan_cons (supplied : Supplied limits none framer (record :: records))
    (scanned : Source.scan (record.encode ++ encodeAll records) = some (encodeAll records)) :
    ∃ length after, RecordSupply.rescan framer = (.ok length, after) ∧
      Supplied limits none after records := by
  obtain ⟨same, whole, rest, split, stands⟩ := supplied
  obtain rfl : record :: records = rest := split
  obtain ⟨length, after, done, left, kept⟩ := Framer.rescan_ok stands scanned
  exact ⟨length, after, done, kept.trans same, (List.forall_mem_cons.1 whole).2, records, rfl, left⟩

/-- Sound messages are taken one after the other. -/
theorem exists_reading_append {taken : List FramedRecord} {ending : FeedEnd}
    {sent : List SentRelay} (sound : ∀ one ∈ sent, one.Sound limits)
    (supplied : Supplied limits first? framer (sent.map SentRelay.record ++ records))
    (behind : ∀ {first? : Option FramedRecord} {framer : Framer},
      Supplied limits first? framer records → ∃ final, Reading first? framer taken ending final) :
    ∃ final, Reading first? framer (sent.map SentRelay.record ++ taken) ending final := by
  induction sent generalizing first? framer with
  | nil => exact behind supplied
  | cons one others ih =>
    obtain ⟨is, rest⟩ := List.forall_mem_cons.1 sound
    obtain ⟨after, fetched, left⟩ := supplied.fetch_cons
    obtain ⟨final, later⟩ := ih rest left
    refine ⟨final, .goOn fetched ?_ later⟩
    simp [is.ofRecord]

theorem exists_reading {sent : List SentRelay} (sound : ∀ one ∈ sent, one.Sound limits)
    (supplied : Supplied limits first? framer (sent.map SentRelay.record)) :
    ∃ final,
      Reading first? framer (sent.map SentRelay.record) (.readFailed .shortHeader) final := by
  rw [← List.append_nil (sent.map SentRelay.record)] at supplied ⊢
  refine exists_reading_append sound supplied fun nothing => ?_
  obtain ⟨final, fetched⟩ := nothing.fetch_nil
  exact ⟨final, .readFailed fetched⟩

end Supplied

/-- A recovery scan in front of a record passes over this record, and not over what comes behind. -/
def PassesOver (record : FramedRecord) (behind : List FramedRecord) : Prop :=
  ∀ source : Source, source.Stands (encodeAll (record :: behind)) →
    ∃ length left, source.rescan = (.ok length, left) ∧ left.Stands (encodeAll behind)

theorem passesOver_iff_scan_eq {record : FramedRecord} {behind : List FramedRecord} :
    PassesOver record behind ↔
      Source.scan (encodeAll (record :: behind)) = some (encodeAll behind) := by
  constructor
  · intro passes
    have stands := Source.stands_ofOctets (encodeAll (record :: behind))
    obtain ⟨length, left, done, rest⟩ := passes _ stands
    have scanned := Source.rescan_stands stands
    cases found : Source.scan (encodeAll (record :: behind)) with
    | none =>
      rw [found] at scanned
      obtain ⟨e, after, failed⟩ := scanned
      cases done.symm.trans failed
    | some octets =>
      rw [found] at scanned
      obtain ⟨length', after, done', rest'⟩ := scanned
      cases done.symm.trans done'
      rw [← rest.unread, rest'.unread]
  · intro scanned source stands
    have passed := Source.rescan_stands stands
    rwa [scanned] at passed

/-! ## A corrupt record among sound ones -/

/-- A feed can take sound messages with a corrupt record among them, and at least one message behind
it. -/
structure Damaged (limits : LengthLimits) (first? : Option FramedRecord) (framer : Framer)
    (before : List SentRelay) (bad : FramedRecord) (next : SentRelay) (after : List SentRelay) :
    Prop where
  supplied : Supplied limits first? framer
    (before.map SentRelay.record ++ bad :: (next :: after).map SentRelay.record)
  before_sound : ∀ sent ∈ before, sent.Sound limits
  corrupt : (LiveRecord.ofRecord bad).isCorrupt = true
  next_sound : next.Sound limits
  after_sound : ∀ sent ∈ after, sent.Sound limits

/-- All messages that stand together are submitted, except that the last one needs to be confirmed
by what comes behind. -/
theorem released_append {limits : LengthLimits} {sent : List SentRelay}
    (sound : ∀ one ∈ sent, one.Sound limits) (records : List FramedRecord) (ending : FeedEnd) :
    released (sent.map SentRelay.record ++ records) ending =
      (if confirmedBy records ending then sent else sent.dropLast).map SentRelay.relayed ++
        released records ending := by
  induction sent with
  | nil => simp
  | cons one others ih =>
    obtain ⟨is, rest⟩ := List.forall_mem_cons.1 sound
    rw [List.map_cons, List.cons_append, released, ih rest, is.ofRecord]
    cases others with
    | nil => cases confirmed : confirmedBy records ending <;> simp [confirmed]
    | cons other others =>
      have confirmed : confirmedBy ((other :: others).map SentRelay.record ++ records) ending =
          true := by
        simp [confirmedBy, (List.forall_mem_cons.1 rest).1.ofRecord]
      rw [confirmed]
      cases confirmedBy records ending <;> simp

namespace Damaged

variable {limits : LengthLimits} {first? : Option FramedRecord} {framer : Framer}
  {before after : List SentRelay} {bad : FramedRecord} {next : SentRelay}

/-- The records that are taken if the recovery scan passes over the message behind the corrupt
record. -/
theorem exists_reading (damaged : Damaged limits first? framer before bad next after)
    (passes : PassesOver next.record (after.map SentRelay.record)) :
    ∃ final, Reading first? framer
      (before.map SentRelay.record ++ bad :: after.map SentRelay.record)
      (.readFailed .shortHeader) final := by
  refine Supplied.exists_reading_append damaged.before_sound damaged.supplied ?_
  intro first? framer supplied
  obtain ⟨between, fetched, left⟩ := supplied.fetch_cons
  obtain ⟨length, behind, scanned, others⟩ :=
    left.rescan_cons (passesOver_iff_scan_eq.1 passes)
  obtain ⟨final, later⟩ := others.exists_reading damaged.after_sound
  exact ⟨final, .scanned fetched damaged.corrupt scanned later⟩

/-- The message in front of the corrupt record is not submitted. -/
theorem released_eq (damaged : Damaged limits first? framer before bad next after)
    {ending : FeedEnd} (good : ending.isGood = true) :
    released (before.map SentRelay.record ++ bad :: after.map SentRelay.record) ending =
      (before.dropLast ++ after).map SentRelay.relayed := by
  have corrupt := damaged.corrupt
  have all := released_append damaged.after_sound [] ending
  rw [List.append_nil] at all
  rw [released_append damaged.before_sound, released, all]
  cases is : LiveRecord.ofRecord bad with
  | corrupt reason => simp [confirmedBy, released, is, good]
  | _ => simp [is] at corrupt

end Damaged

/-! ## The whole feed -/

/-- Whether no session can be had. -/
def Exchange.isUnbound : Exchange → Bool
  | create _ _ _ (.error _) => true
  | _ => false

/-- Nothing stands in the way of a feed: the queue takes every message, a session can be had for
each of them, and nobody asks to stop. -/
structure Undisturbed (exchanges : List Exchange) : Prop where
  queue : QueueOpen exchanges
  sessions : ∀ exchange ∈ exchanges, exchange.isUnbound = false
  stop : NeverStopped exchanges

/-- If a session can be had for each message, all that is handed goes into the queue. -/
theorem Undisturbed.passedOn_eq {handling : Handling} {exchanges : List Exchange}
    {handed : List Handed} {ids : List SessionId} (quiet : Undisturbed exchanges)
    (calls : deeds exchanges = handedCalls handling handed ++ stopCalls ids) :
    (passedOn exchanges).map Message.octets =
      (handed.map Handed.relayed).map RelayedMessage.message := by
  have bound : ∀ one ∈ handed, (one.message?).map Message.octets = some one.relayed.message := by
    rintro ⟨relayed, submission⟩ there
    cases submission with
    | passed id isNew state? width? => rfl
    | unbound refusal =>
      have made : Exchange.create (LiveFeed.keyOf relayed) handling (some relayed.width)
          (.error refusal) ∈ deeds exchanges := by
        rw [calls]
        refine List.mem_append_left _ (List.mem_flatMap.2 ⟨_, there, ?_⟩)
        exact List.mem_cons_of_mem _ (List.mem_singleton_self _)
      cases quiet.sessions _ (List.mem_filter.1 made).1
  rw [passedOn_eq_of_deeds_eq calls, List.map_filterMap, List.filterMap_congr bound,
    List.filterMap_eq_map', List.map_map]
  rfl

/-- What a feed comes to in which a corrupt record costs no more than the message in front of it and
the one behind it. -/
structure Contained (first? : Option FramedRecord) (framer : Framer) (before : List SentRelay)
    (bad : FramedRecord) (after : List SentRelay) (outcome : Except FeedError Unit)
    (exchanges : List Exchange) (final : Framer) : Prop where
  /-- All records are taken until the end of the stream, except the one that the scan passes over.
  -/
  reading : Reading first? framer
    (before.map SentRelay.record ++ bad :: after.map SentRelay.record)
    (.readFailed .shortHeader) final
  outcome_eq : outcome = .ok ()
  /-- The messages in the queue are those of all sound records but two. -/
  messages : (passedOn exchanges).map Message.octets =
    ((before.dropLast ++ after).map SentRelay.relayed).map RelayedMessage.message

namespace LiveFeed

variable {ω : Type} [Surroundings ω]

/-- Behind a corrupt record among sound ones the recovery scan passes over exactly one record if
that record is aligned, and otherwise not; addresses that are clear are enough for that. If it does,
the messages of all other sound records go into the queue, besides the one in front of the corrupt
record, and the feed ends in good order. -/
theorem contained_run (handling : Handling) {limits : LengthLimits} {first? : Option FramedRecord}
    {framer : Framer} {before after : List SentRelay} {bad : FramedRecord} {next : SentRelay}
    (world : ω) (damaged : Damaged limits first? framer before bad next after)
    (quiet : Undisturbed (exchangesOf ((new handling).run first? framer) world)) :
    (next.relayed.Clear → next.relayed.Aligned) ∧
      (PassesOver next.record (after.map SentRelay.record) ↔ next.relayed.Aligned) ∧
      (next.relayed.Aligned →
        Contained first? framer before bad after
          (((new handling).run first? framer : StateM ω _).run world).1.2.1
          (exchangesOf ((new handling).run first? framer) world)
          (((new handling).run first? framer : StateM ω _).run world).1.2.2) := by
  have passes : PassesOver next.record (after.map SentRelay.record) ↔ next.relayed.Aligned :=
    passesOver_iff_scan_eq.trans (damaged.next_sound.scan_eq_iff_aligned _)
  refine ⟨damaged.next_sound.aligned_of_clear, passes, fun aligned => ?_⟩
  rw [(SameRun.inherited.liveFeed_run (new handling) first? framer).run_eq world]
  obtain ⟨records, ending, handed, left, comes, -, outcome, calls, stop⟩ :=
    (ensures_run (new handling) first? framer).exchangesOf world quiet.queue
  -- nobody asks to stop, so the records that were taken are those that the supply tells
  obtain ⟨final, reading⟩ := damaged.exists_reading (passes.2 aligned)
  obtain ⟨rfl, rfl, rfl⟩ := reading.unique FeedEnd.noConfusion comes.reading (stop.1 quiet.stop)
  have order := comes.order
  rw [damaged.released_eq rfl] at order
  exact ⟨reading, outcome, by rw [quiet.passedOn_eq calls, order]⟩

/-- The record of a message of a router that announces nothing but its own number, with the last
octets of the two addresses. -/
def numbered (router collector : UInt8) : SentRelay where
  time := 0x6553F100
  relayed := ⟨.two, 65001, 6447, 0, .v4 ⟨[192, 0, 2, router], rfl⟩,
    .v4 ⟨[198, 51, 100, collector], rfl⟩,
    List.replicate 16 0xFF ++ [0, 25, 2, 0, 0, 0, 0, 8, router]⟩

/-- A record of a subtype that is not known. -/
def strange : FramedRecord :=
  ⟨⟨0x6553F100, RecordType.relay.code, 9, 41⟩, List.replicate 41 0, 0⟩

theorem numbered_sound (router collector : UInt8) :
    (numbered router collector).Sound .usual where
  writable :=
    { peerAsn := show (65001 : UInt32).toNat ≤ AsnWidth.two.greatest from by decide
      localAsn := show (6447 : UInt32).toNat ≤ AsnWidth.two.greatest from by decide
      peerAddress := rfl
      localAddress := rfl
      message := RelayedMessage.checkMessage_eq_ok_iff.2
        ⟨show 19 < 25 from by decide, rfl⟩ }
  length := show Octets.toNat [0, 25] = 25 from by decide
  accepted := by
    have length : (numbered router collector).body.length = 41 := rfl
    rw [length]
    decide

/-- Five numbered messages with a strange record behind the second one. The collector has one
address for the message behind that record and another one for the others. -/
def strangeFeed (collector : UInt8) : Framer :=
  Framer.ofSource
    (Source.ofOctets (encodeAll ([numbered 1 1, numbered 2 1].map SentRelay.record ++
      strange :: [numbered 3 collector, numbered 4 1, numbered 5 1].map SentRelay.record)))
    .usual

theorem damaged_strangeFeed (collector : UInt8) :
    Damaged .usual none (strangeFeed collector) [numbered 1 1, numbered 2 1] strange
      (numbered 3 collector) [numbered 4 1, numbered 5 1] where
  supplied :=
    { limits_eq := rfl
      whole := by
        have one : strange.Whole .usual := ⟨rfl, by decide, rfl⟩
        simp [(numbered_sound _ _).whole, one]
      stands := ⟨_, rfl, Source.stands_ofOctets _⟩ }
  before_sound := by simp [numbered_sound]
  corrupt := rfl
  next_sound := numbered_sound 3 collector
  after_sound := by simp [numbered_sound]

/-- The second message and the third one are lost. -/
theorem contained_run_strangeFeed :
    Contained none (strangeFeed 1) [numbered 1 1, numbered 2 1] strange
      [numbered 4 1, numbered 5 1]
      (((new .label).run none (strangeFeed 1) : StateM Logbook _).run Logbook.blank).1.2.1
      (exchangesOf ((new .label).run none (strangeFeed 1)) Logbook.blank)
      (((new .label).run none (strangeFeed 1) : StateM Logbook _).run Logbook.blank).1.2.2 := by
  have quiet : Undisturbed (exchangesOf ((new .label).run none (strangeFeed 1)) Logbook.blank) :=
    ⟨by decide +kernel, by decide +kernel, by decide +kernel⟩
  obtain ⟨aligned, -, contained⟩ :=
    contained_run .label Logbook.blank (damaged_strangeFeed 1) quiet
  exact contained (aligned (RelayedMessage.clear_of_ipv4 rfl rfl (by decide)))

/-- If the address of the collector ends in 255, the scan takes that octet for one of the marker,
and the feed ends in an error behind the first message. -/
theorem not_contained_broadcast :
    Damaged .usual none (strangeFeed 255) [numbered 1 1, numbered 2 1] strange
        (numbered 3 255) [numbered 4 1, numbered 5 1] ∧
      Undisturbed (exchangesOf ((new .label).run none (strangeFeed 255)) Logbook.blank) ∧
      (((new .label).run none (strangeFeed 255) : StateM Logbook _).run Logbook.blank).1.2.1 ≠
        .ok () ∧
      (passedOn (exchangesOf ((new .label).run none (strangeFeed 255)) Logbook.blank)).map
          Message.octets ≠
        (([numbered 1 1, numbered 2 1].dropLast ++ [numbered 4 1, numbered 5 1]).map
          SentRelay.relayed).map RelayedMessage.message ∧
      ¬ PassesOver (numbered 3 255).record ([numbered 4 1, numbered 5 1].map SentRelay.record) := by
  refine ⟨damaged_strangeFeed 255, ⟨by decide +kernel, by decide +kernel, by decide +kernel⟩,
    by decide +kernel, by decide +kernel, ?_⟩
  rw [passesOver_iff_scan_eq]
  decide +kernel

end LiveFeed

end CollectorFeed
