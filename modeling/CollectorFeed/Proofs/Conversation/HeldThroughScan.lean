import CollectorFeed.Proofs.Conversation.Logbook
import CollectorFeed.Proofs.Conversation.Turns
import CollectorFeed.Proofs.Stream.Recoveries
import CollectorFeed.Proofs.TableDump.Intake

/-!
# What is held when a recovery scan starts

A scan means that the stream is damaged, and the damage may reach back into what is held. So what is
held when a scan starts should come to nothing. `scanRule_of_visited` says when it does: always,
unless the read that needed the scan goes on to the end of the stream. Such a read is taken for the
end of the feed, nobody is told of its scan, and what is held is submitted or committed after all
(`not_dropped_at_end`). The rule misses no scan: a turn without one begins none
(`Turn.recoveriesBehind_of_not_scans`).
-/

set_option autoImplicit false

namespace CollectorFeed

/-- Whether a record cannot be decoded. -/
def LiveRecord.isCorrupt : LiveRecord → Bool
  | corrupt _ => true
  | _ => false

/-! ## Dropping twice is dropping once -/

variable {ω : Type} [Surroundings ω]

namespace LiveFeed

theorem isEmpty_dropHeld (feed : LiveFeed) : feed.dropHeld.pending.isEmpty = true := by
  unfold dropHeld
  split <;> next dropped => rw [← (Prod.mk.inj dropped).2]; rfl

theorem dropHeld_dropHeld (feed : LiveFeed) : feed.dropHeld.dropHeld = feed.dropHeld := by
  obtain ⟨handling, ⟨held?⟩, fed, stats⟩ := feed
  cases held? <;> rfl

/-- Counting a record does not ask what is held. -/
theorem noteRecord_dropHeld (feed : LiveFeed) {record : FramedRecord}
    (scanned : 0 < record.recoveries) : feed.dropHeld.noteRecord record = feed.noteRecord record := by
  obtain ⟨handling, ⟨held?⟩, fed, stats⟩ := feed
  unfold noteRecord
  dsimp only
  rw [if_pos scanned, if_pos scanned]
  cases held? <;> rfl

theorem accept_dropHeld_of_recoveries (feed : LiveFeed) {record : FramedRecord}
    (scanned : 0 < record.recoveries) :
    (feed.dropHeld.accept record : StateM ω _) = feed.accept record := by
  unfold accept
  rw [noteRecord_dropHeld feed scanned]

/-- A corrupt record drops what is held before its scan starts. -/
theorem accept_dropHeld_of_isCorrupt (feed : LiveFeed) {record : FramedRecord}
    (corrupt : (LiveRecord.ofRecord record).isCorrupt = true) :
    (feed.dropHeld.accept record : StateM ω _) = feed.accept record := by
  by_cases scanned : 0 < record.recoveries
  · exact feed.accept_dropHeld_of_recoveries scanned
  · obtain ⟨handling, ⟨held?⟩, fed, stats⟩ := feed
    unfold accept noteRecord
    cases is : LiveRecord.ofRecord record with
    | corrupt e =>
      dsimp only
      rw [if_neg scanned, if_neg scanned]
      cases held? <;> rfl
    | message relayed => simp [is, LiveRecord.isCorrupt] at corrupt
    | ignored subtype => simp [is, LiveRecord.isCorrupt] at corrupt
    | foreign e => simp [is, LiveRecord.isCorrupt] at corrupt

/-- Holding a message needs no scan. -/
theorem hold_ne_rescan (feed : LiveFeed) (relayed : RelayedMessage) (world : ω) :
    ((feed.hold relayed).run world).1.1 ≠ .rescan := by
  unfold hold
  rcases feed.pending.confirm relayed with ⟨_ | confirmed, pending⟩
  · rintro ⟨⟩
  · rw [StateT.run_bind]
    rcases (submit { feed with pending := pending } confirmed).run world with
      ⟨⟨_ | _, next⟩, between⟩
    · rintro ⟨⟩
    · rintro ⟨⟩

/-- A scan behind a record is one behind a corrupt record. -/
theorem isCorrupt_of_rescan {feed next : LiveFeed} {record : FramedRecord} {world between : ω}
    (taken : (feed.accept record).run world = ((.rescan, next), between)) :
    (LiveRecord.ofRecord record).isCorrupt = true := by
  unfold accept at taken
  cases is : LiveRecord.ofRecord record with
  | corrupt e => rfl
  | message relayed =>
    rw [is] at taken
    have held := hold_ne_rescan (feed.noteRecord record) relayed world
    exact absurd (congrArg (fun result => result.1.1) taken) held
  | ignored subtype =>
    rw [is] at taken
    cases taken
  | foreign e =>
    rw [is] at taken
    cases taken

/-- Fetching a record takes back no scan. -/
theorem recoveries_le_fetch (first? : Option FramedRecord) (supply : Framer) :
    supply.recoveries ≤ (fetch first? supply).2.recoveries := by
  cases first? with
  | some first => exact Nat.le_refl _
  | none => exact supply.recoveries_le_next

end LiveFeed

namespace DumpTransfer

theorem isEmpty_dropHeld (dump : DumpTransfer) : dump.dropHeld.pending.isEmpty = true := by
  unfold dropHeld
  split <;> next dropped => rw [← (Prod.mk.inj dropped).2]; rfl

theorem dropHeld_dropHeld (dump : DumpTransfer) : dump.dropHeld.dropHeld = dump.dropHeld := by
  obtain ⟨phase, settings, handling, index?, tables, ⟨held?⟩, stats⟩ := dump
  cases held? <;> rfl

theorem noteRecord_dropHeld (dump : DumpTransfer) :
    dump.dropHeld.noteRecord = dump.noteRecord.dropHeld := by
  obtain ⟨phase, settings, handling, index?, tables, ⟨held?⟩, stats⟩ := dump
  cases held? <;> rfl

/-- A record that was found by a scan drops what is held before anything else. -/
theorem accept_dropHeld (dump : DumpTransfer) {record : FramedRecord}
    (taking : dump.phase = .intake) (scanned : 0 < record.recoveries) :
    (dump.dropHeld.accept record : StateM ω _) = dump.accept record := by
  have routes : dump.noteRecord.dropHeld.acceptRoutes record =
      dump.noteRecord.acceptRoutes record := by
    unfold acceptRoutes
    rw [if_pos scanned, if_pos scanned, dropHeld_dropHeld]
  unfold accept
  rw [phase_dropHeld, taking, noteRecord_dropHeld]
  dsimp only
  rw [routes]

end DumpTransfer

/-! ## Turns with a scan -/

namespace Turn

/-- Whether something is held. -/
def holds : Turn ω → Bool
  | live _ _ feed _ => !feed.pending.isEmpty
  | dump _ transfer _ => !transfer.pending.isEmpty

/-- The turn with what is held dropped. -/
def dropHeld : Turn ω → Turn ω
  | live first? supply feed world => live first? supply feed.dropHeld world
  | dump supply transfer world => dump supply transfer.dropHeld world

/-- Whether a scan starts before the next turn: one that reading the record needs, or one behind a
corrupt record. -/
def scans : Turn ω → Bool
  | live first? supply _ world =>
    !(Surroundings.looked world).1 &&
      (supply.recoveries < (LiveFeed.fetch first? supply).2.recoveries ||
        match (LiveFeed.fetch first? supply).1 with
        | .ok record => (LiveRecord.ofRecord record).isCorrupt
        | .error _ => false)
  | dump supply transfer world =>
    transfer.phase = .intake && !(Surroundings.looked world).1 &&
      supply.recoveries < (RecordSupply.next supply).2.recoveries

/-- Whether reading the record comes to the end of the stream. -/
def feedEnds : Turn ω → Bool
  | live first? supply _ _ =>
    match (LiveFeed.fetch first? supply).1 with
    | .ok _ => false
    | .error e => e.isEndOfFeed
  | dump supply _ _ =>
    match (RecordSupply.next supply).1 with
    | .ok _ => false
    | .error e => e.isEndOfFeed

omit [Surroundings ω] in
theorem holds_dropHeld (turn : Turn ω) : turn.dropHeld.holds = false := by
  cases turn with
  | live first? supply feed world =>
    exact congrArg not feed.isEmpty_dropHeld
  | dump supply transfer world =>
    exact congrArg not transfer.isEmpty_dropHeld

/-- Unless the stream ends, a turn with a scan goes on as if nothing were held. -/
theorem rest_dropHeld {turn : Turn ω} (scans : turn.scans = true) (goes : turn.feedEnds = false) :
    turn.rest = turn.dropHeld.rest := by
  cases turn with
  | live first? supply feed world =>
    rcases going : Surroundings.looked world with ⟨stopped, between⟩
    rcases fetched : LiveFeed.fetch first? supply with ⟨result, after⟩
    simp only [Turn.scans, feedEnds, going, fetched, Bool.and_eq_true, Bool.not_eq_true',
      Bool.or_eq_true, decide_eq_true_eq] at scans goes
    obtain ⟨rfl, scan⟩ := scans
    cases result with
    | error e =>
      rw [rest_live_of_error going fetched, dropHeld, rest_live_of_error going fetched,
        if_neg (ne_true_of_eq_false goes), if_neg (ne_true_of_eq_false goes),
        LiveFeed.dropHeld_dropHeld]
    | ok record =>
      rw [rest_live_of_ok going fetched, dropHeld, rest_live_of_ok going fetched]
      -- a scan in front of the record, or one behind a corrupt record
      rcases scan with needed | corrupt
      · have scanned : 0 < record.recoveries := by
          cases first? with
          | some first =>
            -- the first record was read before the conversation began
            obtain ⟨-, rfl⟩ := Prod.mk.inj fetched
            exact absurd needed (Nat.lt_irrefl _)
          | none =>
            have counted := Framer.next_recoveries fetched
            omega
        rw [LiveFeed.accept_dropHeld_of_recoveries feed scanned]
      · rw [LiveFeed.accept_dropHeld_of_isCorrupt feed corrupt]
  | dump supply transfer world =>
    rcases going : Surroundings.looked world with ⟨stopped, between⟩
    rcases read : RecordSupply.next supply with ⟨result, after⟩
    simp only [Turn.scans, feedEnds, going, read, Bool.and_eq_true, Bool.not_eq_true',
      decide_eq_true_eq] at scans goes
    obtain ⟨⟨taking, rfl⟩, needed⟩ := scans
    have still : transfer.dropHeld.phase = .intake :=
      transfer.phase_dropHeld.trans taking
    cases result with
    | error e =>
      rw [rest_dump_of_error taking going read, dropHeld, rest_dump_of_error still going read,
        if_neg (ne_true_of_eq_false goes), if_neg (ne_true_of_eq_false goes),
        DumpTransfer.dropHeld_dropHeld]
    | ok record =>
      -- a scan that was needed is told with the record
      have counted := Framer.next_recoveries read
      have scanned : 0 < record.recoveries := by omega
      rw [rest_dump_of_ok taking going read, dropHeld, rest_dump_of_ok still going read,
        transfer.accept_dropHeld taking scanned]

/-- At the end of the stream the message that is held is submitted. -/
theorem rest_live_of_feedEnds {first? : Option FramedRecord} {supply : Framer} {feed : LiveFeed}
    {world : ω} {relayed : RelayedMessage} (held : feed.pending.held? = some relayed)
    (scans : (live first? supply feed world).scans = true)
    (ends : (live first? supply feed world).feedEnds = true) :
    (live first? supply feed world).rest =
      (do
        let (_, feed) ← { feed with pending := .empty }.submit relayed
        LiveFeed.markStopped feed.fed
        return (.live { feed.stats with sessions := feed.fed.length }, .ok (),
          (LiveFeed.fetch first? supply).2) :
        StateM ω (Carried × Except FeedError Unit × Framer)).run
        (Surroundings.asked (LiveFeed.fetch first? supply).2 (Surroundings.looked world).2) := by
  rcases going : Surroundings.looked world with ⟨stopped, between⟩
  rcases fetched : LiveFeed.fetch first? supply with ⟨result, after⟩
  simp only [Turn.scans, feedEnds, going, fetched, Bool.and_eq_true, Bool.not_eq_true'] at scans ends
  obtain ⟨rfl, -⟩ := scans
  cases result with
  | ok record => cases ends
  | error e =>
    rw [rest_live_of_error going fetched, if_pos ends]
    -- the end of the stream is no error, so nothing is dropped
    obtain ⟨handling, ⟨held?⟩, fed, stats⟩ := feed
    cases held
    rfl

/-- At the end of the stream the routes that are held are committed. -/
theorem rest_dump_of_feedEnds {supply : Framer} {transfer : DumpTransfer} {world : ω}
    {batch : RouteBatch} (held : transfer.pending.held? = some batch)
    (scans : (dump supply transfer world).scans = true)
    (ends : (dump supply transfer world).feedEnds = true) :
    (dump supply transfer world).rest =
      (do
        let (_, transfer) ← ({ transfer with pending := .empty }.commit batch).stopIntake.handOver
        return (.tableDump transfer.stats, .ok (), (RecordSupply.next supply).2) :
        StateM ω (Carried × Except FeedError Unit × Framer)).run
        (Surroundings.asked (RecordSupply.next supply).2 (Surroundings.looked world).2) := by
  rcases going : Surroundings.looked world with ⟨stopped, between⟩
  rcases read : RecordSupply.next supply with ⟨result, after⟩
  simp only [Turn.scans, feedEnds, going, read, Bool.and_eq_true, Bool.not_eq_true',
    decide_eq_true_eq] at scans ends
  obtain ⟨⟨taking, rfl⟩, -⟩ := scans
  cases result with
  | ok record => cases ends
  | error e =>
    rw [rest_dump_of_error taking going read, if_pos ends]
    -- the end of the stream is no error, so nothing is dropped
    obtain ⟨phase, settings, handling, index?, tables, ⟨held?⟩, stats⟩ := transfer
    cases held
    rfl

end Turn

/-! ## No scan is missed -/

namespace Turn

/-- How many scans were begun when the turn is over. -/
def recoveriesBehind (turn : Turn ω) : Nat :=
  match turn.next? with
  | some later => later.supply.recoveries
  | none => turn.rest.1.2.2.recoveries

theorem recoveriesBehind_of_some {turn later : Turn ω} (step : turn.next? = some later) :
    turn.recoveriesBehind = later.supply.recoveries := by
  simp only [recoveriesBehind, step]

theorem recoveriesBehind_of_none {turn : Turn ω} (last : turn.next? = none) :
    turn.recoveriesBehind = turn.rest.1.2.2.recoveries := by
  simp only [recoveriesBehind, last]

theorem recoveriesBehind_live {first? : Option FramedRecord} {supply : Framer} {feed : LiveFeed}
    {world : ω} (quiet : (live first? supply feed world).scans = false) :
    (live first? supply feed world).recoveriesBehind = supply.recoveries := by
  rcases going : Surroundings.looked world with ⟨stopped, between⟩
  rcases fetched : LiveFeed.fetch first? supply with ⟨result, after⟩
  cases stopped with
  | true =>
    have last : (live first? supply feed world).next? = none := by simp only [next?, going]
    rw [recoveriesBehind_of_none last, rest_live_of_cancelled going]
    rfl
  | false =>
    simp only [Turn.scans, going, fetched, Bool.not_false, Bool.true_and, Bool.or_eq_false_iff,
      decide_eq_false_iff_not] at quiet
    obtain ⟨unneeded, sound⟩ := quiet
    have grown := LiveFeed.recoveries_le_fetch first? supply
    rw [fetched] at grown
    have same : after.recoveries = supply.recoveries := Nat.le_antisymm (Nat.not_lt.1 unneeded) grown
    cases result with
    | error e =>
      have last : (live first? supply feed world).next? = none := by
        simp only [next?, going, fetched]
      rw [recoveriesBehind_of_none last, rest_live_of_error going fetched]
      split <;> exact same
    | ok record =>
      rcases accepted : (feed.accept record).run (Surroundings.asked after between) with
        ⟨⟨step, next⟩, world'⟩
      cases step with
      | goOn =>
        have later : (live first? supply feed world).next? = some (live none after next world') := by
          simp only [next?, going, fetched, accepted]
        rw [recoveriesBehind_of_some later]
        exact same
      | rescan =>
        -- the record is not corrupt, so there is no scan behind it
        have corrupt := LiveFeed.isCorrupt_of_rescan accepted
        exact absurd (sound.symm.trans corrupt) Bool.false_ne_true
      | ended outcome =>
        have last : (live first? supply feed world).next? = none := by
          simp only [next?, going, fetched, accepted]
        rw [recoveriesBehind_of_none last, rest_live_of_ok going fetched, StateT.run_bind,
          StateT.run_bind, accepted]
        exact same

theorem recoveriesBehind_dump {supply : Framer} {transfer : DumpTransfer} {world : ω}
    (quiet : (dump supply transfer world).scans = false) :
    (dump supply transfer world).recoveriesBehind = supply.recoveries := by
  by_cases taking : transfer.phase = .intake
  · rcases going : Surroundings.looked world with ⟨stopped, between⟩
    rcases read : RecordSupply.next supply with ⟨result, after⟩
    cases stopped with
    | true =>
      have last : (dump supply transfer world).next? = none := by
        simp only [next?, going, if_pos taking]
      rw [recoveriesBehind_of_none last, rest_dump_of_cancelled taking going]
      rfl
    | false =>
      simp only [Turn.scans, going, read, taking, decide_true, Bool.not_false, Bool.true_and,
        decide_eq_false_iff_not] at quiet
      have grown := Framer.recoveries_le_next supply
      rw [show supply.next = (result, after) from read] at grown
      have same : after.recoveries = supply.recoveries := Nat.le_antisymm (Nat.not_lt.1 quiet) grown
      cases result with
      | error e =>
        have last : (dump supply transfer world).next? = none := by
          simp only [next?, going, read, if_pos taking]
        rw [recoveriesBehind_of_none last, rest_dump_of_error taking going read]
        split <;> exact same
      | ok record =>
        rcases accepted : (transfer.accept record).run (Surroundings.asked after between) with
          ⟨⟨_ | _, next⟩, world'⟩
        · have last : (dump supply transfer world).next? = none := by
            simp only [next?, going, read, accepted, if_pos taking]
          rw [recoveriesBehind_of_none last, rest_dump_of_ok taking going read, StateT.run_bind,
            StateT.run_bind, accepted]
          exact same
        · have later : (dump supply transfer world).next? = some (dump after next world') := by
            simp only [next?, going, read, accepted, if_pos taking]
          rw [recoveriesBehind_of_some later]
          exact same
  · have last : (dump supply transfer world).next? = none := by
      simp only [next?, if_neg taking]
    rw [recoveriesBehind_of_none last, rest_dump_of_handover taking]
    rfl

/-- Scans begin only at turns that have one. -/
theorem recoveriesBehind_of_not_scans {turn : Turn ω} (quiet : turn.scans = false) :
    turn.recoveriesBehind = turn.supply.recoveries := by
  cases turn with
  | live first? supply feed world => exact recoveriesBehind_live quiet
  | dump supply transfer world => exact recoveriesBehind_dump quiet

end Turn

/-! ## The rule -/

/-- What scans have to do with what is held at a turn, given what comes of the connection. -/
structure ScanRule (outcome : (Carried × Except FeedError Unit × Framer) × ω) (turn : Turn ω) :
    Prop where
  /-- If the turn is not one with a scan, none begins. -/
  counted : turn.scans = false → turn.recoveriesBehind = turn.supply.recoveries
  /-- With what is held dropped nothing is held, and nothing can be submitted or committed. -/
  gone : turn.dropHeld.holds = false
  /-- If it is one, all goes on as if what is held were dropped, unless reading comes to the end of
  the stream. -/
  dropped : turn.scans = true → turn.feedEnds = false → outcome = turn.dropHeld.rest
  /-- If reading comes to the end, the message that is held is submitted in spite of the scan. -/
  submitted : ∀ first? supply feed world relayed, turn = .live first? supply feed world →
    feed.pending.held? = some relayed → turn.scans = true → turn.feedEnds = true →
    outcome =
      (do
        let (_, feed) ← { feed with pending := .empty }.submit relayed
        LiveFeed.markStopped feed.fed
        return (.live { feed.stats with sessions := feed.fed.length }, .ok (),
          (LiveFeed.fetch first? supply).2) :
        StateM ω (Carried × Except FeedError Unit × Framer)).run
        (Surroundings.asked (LiveFeed.fetch first? supply).2 (Surroundings.looked world).2)
  /-- If reading comes to the end, the routes that are held are committed in spite of the scan. -/
  committed : ∀ supply transfer world batch, turn = .dump supply transfer world →
    transfer.pending.held? = some batch → turn.scans = true → turn.feedEnds = true →
    outcome =
      (do
        let (_, transfer) ← ({ transfer with pending := .empty }.commit batch).stopIntake.handOver
        return (.tableDump transfer.stats, .ok (), (RecordSupply.next supply).2) :
        StateM ω (Carried × Except FeedError Unit × Framer)).run
        (Surroundings.asked (RecordSupply.next supply).2 (Surroundings.looked world).2)

/-- Wherever a scan starts in a connection, over any octets and with any limits, what is held is
dropped, unless reading comes to the end of the stream right behind the scan. -/
theorem scanRule_of_visited {α : Type} {settings : FeedSettings α} {source : Source} {world : ω}
    {turn : Turn ω} (visited : Visited settings source world turn) :
    ScanRule ((Connection.carry settings (Framer.ofSource source settings.limits)).run world)
      turn := by
  rw [carry_eq_rest visited]
  constructor
  · exact Turn.recoveriesBehind_of_not_scans
  · exact turn.holds_dropHeld
  · exact Turn.rest_dropHeld
  · rintro first? supply feed world relayed rfl held scans ends
    exact Turn.rest_live_of_feedEnds held scans ends
  · rintro supply transfer world batch rfl held scans ends
    exact Turn.rest_dump_of_feedEnds held scans ends

/-! ## A stream that ends behind a scan -/

/-- A record with a BGP message, then a header with a length that is out of bounds, and a marker to
recover at with the length of nothing but itself. -/
def strandedStream : Octets :=
  [0x65, 0x53, 0xF1, 0, 0, 0x10, 0, 1, 0, 0, 0, 0x29,
    0xFD, 0xE9, 0x19, 0x2F, 0, 0, 0, 1, 192, 0, 2, 1, 198, 51, 100, 1] ++
  List.replicate 16 0xFF ++ [0, 25, 2, 0, 0, 0, 0, 8, 10] ++
  [0x65, 0x53, 0xF1, 0, 0, 0x10, 0, 1, 0xFF, 0xFF, 0xFF, 0xFF] ++
  List.replicate 16 0xFF ++ [0, 18]

/-- The second turn of a connection, behind its first record. -/
def secondTurn? (octets : Octets) : Option (Turn Logbook) :=
  (Turn.start? FeedSettings.usual (Source.ofOctets octets) Logbook.blank).bind Turn.next?

theorem visited_secondTurn? {octets : Octets} {turn : Turn Logbook}
    (second : secondTurn? octets = some turn) :
    Visited FeedSettings.usual (Source.ofOctets octets) Logbook.blank turn := by
  obtain ⟨start, first, step⟩ := Option.bind_eq_some_iff.1 second
  exact .next (.start first) step

/-- The rule at work: the message is held, a scan starts, and the stream ends. -/
theorem scanRule_strandedStream :
    ∃ turn, Visited FeedSettings.usual (Source.ofOctets strandedStream) Logbook.blank turn ∧
      turn.holds = true ∧ turn.scans = true ∧ turn.feedEnds = true ∧
      ScanRule ((Connection.carry FeedSettings.usual
        (Framer.ofSource (Source.ofOctets strandedStream) FeedSettings.usual.limits)).run
          Logbook.blank) turn := by
  have reached : (secondTurn? strandedStream).map
      (fun turn => (turn.holds, turn.scans, turn.feedEnds)) = some (true, true, true) := by
    decide +kernel
  obtain ⟨turn, second, facts⟩ := Option.map_eq_some_iff.1 reached
  obtain ⟨holds, others⟩ := Prod.mk.inj facts
  obtain ⟨scans, ends⟩ := Prod.mk.inj others
  have visited := visited_secondTurn? second
  exact ⟨turn, visited, holds, scans, ends, scanRule_of_visited visited⟩

/-- Without the exception the rule is false: the message that was held is passed on. -/
theorem not_dropped_at_end :
    ¬ ∀ turn : Turn Logbook,
      Visited FeedSettings.usual (Source.ofOctets strandedStream) Logbook.blank turn →
      turn.scans = true →
      (Connection.carry FeedSettings.usual
        (Framer.ofSource (Source.ofOctets strandedStream) FeedSettings.usual.limits)).run
          Logbook.blank = turn.dropHeld.rest := by
  intro rule
  have reached : (secondTurn? strandedStream).map
      (fun turn => (turn.scans, turn.dropHeld.rest.2.passed.length)) = some (true, 0) := by
    decide +kernel
  obtain ⟨turn, second, facts⟩ := Option.map_eq_some_iff.1 reached
  obtain ⟨scans, nothing⟩ := Prod.mk.inj facts
  have passed : ((Connection.carry FeedSettings.usual
      (Framer.ofSource (Source.ofOctets strandedStream) FeedSettings.usual.limits)).run
        Logbook.blank).2.passed.length = 1 := by
    decide +kernel
  rw [rule turn (visited_secondTurn? second) scans, nothing] at passed
  cases passed

end CollectorFeed
