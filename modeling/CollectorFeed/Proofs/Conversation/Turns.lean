import CollectorFeed.Conversation.Connection

/-!
# The turns of a connection

A conversation takes one record after the other. A `Turn` is the state of a connection right before
its conversation takes the next record, with the state of its surroundings, and `Turn.rest` is what
comes of the connection from there on. `Visited` are the turns that a connection comes to;
`carry_eq_rest` says that the rest of each of them is the rest of the connection.
-/

set_option autoImplicit false

namespace CollectorFeed

variable {ω : Type} [Surroundings ω]

/-- The surroundings after a supply was asked for a record. -/
def Surroundings.asked {φ : Type} [RecordSupply φ] (supply : φ) (world : ω) : ω :=
  ((Surroundings.watch supply).run world).2

/-- Whether a conversation was asked to stop, and the surroundings after it has looked. -/
def Surroundings.looked (world : ω) : Bool × ω :=
  (Surroundings.isCancelled : StateM ω Bool).run world

/-! ## One record of a live feed -/

namespace LiveFeed

variable {φ : Type} [RecordSupply φ]

/-- What a feed does after it has taken a record. -/
def continueFrom (supply : φ) :
    LiveStep × LiveFeed → StateM ω (Except FeedError Unit × φ × LiveFeed)
  | (.ended outcome, feed) => return (outcome, supply, feed)
  | (.goOn, feed) => takeRecords none supply feed
  | (.rescan, feed) =>
    match RecordSupply.rescan supply with
    | (.error e, supply) => do
      Surroundings.watch supply
      return (.error e, supply, feed)
    | (.ok _, supply) => do
      Surroundings.watch supply
      takeRecords none supply feed

variable {first? : Option FramedRecord} {supply after : φ} {feed : LiveFeed} {world between : ω}

theorem run_takeRecords_cancelled (stopped : Surroundings.looked world = (true, between)) :
    (takeRecords first? supply feed).run world = ((.ok (), supply, feed), between) := by
  rw [takeRecords, StateT.run_bind,
    show (Surroundings.isCancelled : StateM ω Bool).run world = (true, between) from stopped]
  rfl

theorem run_takeRecords_error {e : FeedError}
    (going : Surroundings.looked world = (false, between))
    (fetched : fetch first? supply = (.error e, after)) :
    (takeRecords first? supply feed).run world =
      (if e.isEndOfFeed then (.ok (), after, feed) else (.error e, after, feed.dropHeld),
        Surroundings.asked after between) := by
  rw [takeRecords, StateT.run_bind,
    show (Surroundings.isCancelled : StateM ω Bool).run world = (false, between) from going]
  simp only [pure, bind, Bool.false_eq_true, if_false]
  split
  · next failed =>
    obtain ⟨same, rfl⟩ := Prod.mk.inj (fetched.symm.trans failed)
    cases same
    cases e.isEndOfFeed <;> rfl
  · next given => cases fetched.symm.trans given

theorem run_takeRecords_ok {record : FramedRecord}
    (going : Surroundings.looked world = (false, between))
    (fetched : fetch first? supply = (.ok record, after)) :
    (takeRecords first? supply feed).run world =
      (feed.accept record >>= continueFrom after).run (Surroundings.asked after between) := by
  rw [takeRecords, StateT.run_bind,
    show (Surroundings.isCancelled : StateM ω Bool).run world = (false, between) from going]
  simp only [pure, bind, Bool.false_eq_true, if_false]
  split
  · next failed => cases fetched.symm.trans failed
  · next given =>
    obtain ⟨same, rfl⟩ := Prod.mk.inj (fetched.symm.trans given)
    cases same
    -- what follows the record is the same step for step, with the loop taken out
    change StateT.run (Surroundings.watch after >>= fun _ => feed.accept record >>= _) between =
      StateT.run (feed.accept record >>= _) (Surroundings.asked after between)
    rw [StateT.run_bind]
    change StateT.run (feed.accept record >>= _) (Surroundings.asked after between) = _
    rw [StateT.run_bind, StateT.run_bind]
    rcases (feed.accept record).run (Surroundings.asked after between) with ⟨⟨step, next⟩, world⟩
    cases step with
    | ended outcome => rfl
    | goOn => rfl
    | rescan =>
      simp only [continueFrom, pure, bind]
      rcases scanned : RecordSupply.rescan after with ⟨result, supply⟩
      cases result <;> rfl

/-- What becomes of a live feed that takes no more records. -/
def conclude : Except FeedError Unit × φ × LiveFeed →
    StateM ω (Carried × Except FeedError Unit × φ)
  | (outcome, supply, feed) => do
    let feed ← feed.submitLast
    markStopped feed.fed
    return (.live { feed.stats with sessions := feed.fed.length }, outcome, supply)

/-- Running a live feed is taking records, and then what becomes of it. -/
theorem run_eq_conclude (feed : LiveFeed) (first? : Option FramedRecord) (supply : φ) (world : ω) :
    (do
        let (stats, outcome, supply) ← feed.run first? supply
        return (Carried.live stats, outcome, supply) :
      StateM ω (Carried × Except FeedError Unit × φ)).run world =
      (takeRecords first? supply feed >>= conclude).run world := by
  rw [StateT.run_bind, LiveFeed.run, StateT.run_bind, StateT.run_bind]
  rcases (takeRecords first? supply feed).run world with ⟨⟨outcome, after, last⟩, between⟩
  rfl

end LiveFeed

/-! ## One record of a table dump -/

namespace DumpTransfer

variable {φ : Type} [RecordSupply φ] {supply after : φ} {dump : DumpTransfer} {world between : ω}

/-- What a table dump does after it has taken a record. -/
def continueFrom (supply : φ) :
    Except FeedError Unit × DumpTransfer → StateM ω (Intake × φ × DumpTransfer)
  | (.error e, dump) => return (.brokenOff e, supply, dump)
  | (.ok (), dump) => takeRecords supply dump

theorem run_takeRecords_handover (handing : dump.phase ≠ .intake) :
    (takeRecords supply dump).run world = ((.over (.ok ()), supply, dump), world) := by
  rw [takeRecords, if_pos handing]
  rfl

theorem run_takeRecords_cancelled (taking : dump.phase = .intake)
    (stopped : Surroundings.looked world = (true, between)) :
    (takeRecords supply dump).run world = ((.over (.ok ()), supply, dump), between) := by
  rw [takeRecords, if_neg (not_not_intro taking), StateT.run_bind,
    show (Surroundings.isCancelled : StateM ω Bool).run world = (true, between) from stopped]
  rfl

theorem run_takeRecords_error {e : FeedError} (taking : dump.phase = .intake)
    (going : Surroundings.looked world = (false, between))
    (read : RecordSupply.next supply = (.error e, after)) :
    (takeRecords supply dump).run world =
      (if e.isEndOfFeed then (.over (.ok ()), after, dump)
        else (.over (.error e), after, dump.dropHeld),
        Surroundings.asked after between) := by
  rw [takeRecords, if_neg (not_not_intro taking), StateT.run_bind,
    show (Surroundings.isCancelled : StateM ω Bool).run world = (false, between) from going]
  simp only [pure, bind, Bool.false_eq_true, if_false]
  split
  · next failed =>
    obtain ⟨same, rfl⟩ := Prod.mk.inj (read.symm.trans failed)
    cases same
    cases e.isEndOfFeed <;> rfl
  · next given => cases read.symm.trans given

theorem run_takeRecords_ok {record : FramedRecord} (taking : dump.phase = .intake)
    (going : Surroundings.looked world = (false, between))
    (read : RecordSupply.next supply = (.ok record, after)) :
    (takeRecords supply dump).run world =
      (dump.accept record >>= continueFrom after).run (Surroundings.asked after between) := by
  rw [takeRecords, if_neg (not_not_intro taking), StateT.run_bind,
    show (Surroundings.isCancelled : StateM ω Bool).run world = (false, between) from going]
  simp only [pure, bind, Bool.false_eq_true, if_false]
  split
  · next failed => cases read.symm.trans failed
  · next given =>
    obtain ⟨same, rfl⟩ := Prod.mk.inj (read.symm.trans given)
    cases same
    -- what follows the record is the same step for step, with the loop taken out
    change StateT.run (Surroundings.watch after >>= fun _ => dump.accept record >>= _) between =
      StateT.run (dump.accept record >>= _) (Surroundings.asked after between)
    rw [StateT.run_bind]
    change StateT.run (dump.accept record >>= _) (Surroundings.asked after between) = _
    rw [StateT.run_bind, StateT.run_bind]
    rcases (dump.accept record).run (Surroundings.asked after between) with ⟨⟨result, next⟩, world⟩
    cases result <;> rfl

/-- What becomes of a table dump that takes in no more records. -/
def conclude : Intake × φ × DumpTransfer → StateM ω (Carried × Except FeedError Unit × φ)
  | (.brokenOff e, supply, dump) => return (.tableDump dump.stats, .error e, supply)
  | (.over outcome, supply, dump) => do
    let (_, dump) ← dump.closeIntake.handOver
    return (.tableDump dump.stats, outcome, supply)

/-- Running a table dump is taking its first record, taking in the others, and then what becomes of
it. -/
theorem run_eq_conclude {first : FramedRecord} {next : DumpTransfer}
    (taken : (dump.accept first).run world = ((.ok (), next), between)) (supply : φ) :
    (do
        let (stats, outcome, supply) ← dump.run first supply
        return (Carried.tableDump stats, outcome, supply) :
      StateM ω (Carried × Except FeedError Unit × φ)).run world =
      (takeRecords supply next >>= conclude).run between := by
  rw [StateT.run_bind, DumpTransfer.run, StateT.run_bind, taken]
  change (next.proceed supply).run between >>= _ = _
  rw [proceed, StateT.run_bind, StateT.run_bind]
  rcases (takeRecords supply next).run between with ⟨⟨intake, after, last⟩, world'⟩
  cases intake <;> rfl

end DumpTransfer

/-! ## Turns -/

/-- A connection whose conversation is about to take a record. -/
inductive Turn (ω : Type)
  /-- A live feed; its first record has been read already. -/
  | live (first? : Option FramedRecord) (supply : Framer) (feed : LiveFeed) (world : ω)
  /-- A table dump behind its index. -/
  | dump (supply : Framer) (transfer : DumpTransfer) (world : ω)

namespace Turn

/-- What the record is read from. -/
def supply : Turn ω → Framer
  | live _ supply _ _ => supply
  | dump supply _ _ => supply

/-- What comes of the connection, and of its surroundings. -/
def rest : Turn ω → (Carried × Except FeedError Unit × Framer) × ω
  | live first? supply feed world =>
    (LiveFeed.takeRecords first? supply feed >>= LiveFeed.conclude).run world
  | dump supply transfer world =>
    (DumpTransfer.takeRecords supply transfer >>= DumpTransfer.conclude).run world

/-- The turn after a record was taken, if there is one. -/
def next? : Turn ω → Option (Turn ω)
  | live first? supply feed world =>
    match Surroundings.looked world, LiveFeed.fetch first? supply with
    | (false, between), (.ok record, after) =>
      match (feed.accept record).run (Surroundings.asked after between) with
      | ((.goOn, feed), world) => some (live none after feed world)
      | ((.rescan, feed), world) =>
        match RecordSupply.rescan after with
        | (.ok _, supply) => some (live none supply feed (Surroundings.asked supply world))
        | (.error _, _) => none
      | ((.ended _, _), _) => none
    | _, _ => none
  | dump supply transfer world =>
    if transfer.phase = .intake then
      match Surroundings.looked world, RecordSupply.next supply with
      | (false, between), (.ok record, after) =>
        match (transfer.accept record).run (Surroundings.asked after between) with
        | ((.ok (), transfer), world) => some (dump after transfer world)
        | ((.error _, _), _) => none
      | _, _ => none
    else none

theorem rest_live_of_run {first? : Option FramedRecord} {supply : Framer} {feed : LiveFeed}
    {result : Except FeedError Unit × Framer × LiveFeed} {world between : ω}
    (taken : (LiveFeed.takeRecords first? supply feed).run world = (result, between)) :
    (live first? supply feed world).rest = (LiveFeed.conclude result).run between := by
  change (LiveFeed.takeRecords first? supply feed >>= LiveFeed.conclude).run world = _
  rw [StateT.run_bind, taken]
  rfl

theorem rest_live_of_cancelled {first? : Option FramedRecord} {supply : Framer} {feed : LiveFeed}
    {world between : ω} (stopped : Surroundings.looked world = (true, between)) :
    (live first? supply feed world).rest =
      (LiveFeed.conclude (.ok (), supply, feed)).run between :=
  rest_live_of_run (LiveFeed.run_takeRecords_cancelled stopped)

theorem rest_live_of_ok {first? : Option FramedRecord} {supply after : Framer} {feed : LiveFeed}
    {record : FramedRecord} {world between : ω}
    (going : Surroundings.looked world = (false, between))
    (fetched : LiveFeed.fetch first? supply = (.ok record, after)) :
    (live first? supply feed world).rest =
      (feed.accept record >>= LiveFeed.continueFrom after >>= LiveFeed.conclude).run
        (Surroundings.asked after between) := by
  change (LiveFeed.takeRecords first? supply feed >>= LiveFeed.conclude).run world = _
  rw [StateT.run_bind, LiveFeed.run_takeRecords_ok going fetched, ← StateT.run_bind]

theorem rest_live_of_error {first? : Option FramedRecord} {supply after : Framer} {feed : LiveFeed}
    {e : FeedError} {world between : ω} (going : Surroundings.looked world = (false, between))
    (fetched : LiveFeed.fetch first? supply = (.error e, after)) :
    (live first? supply feed world).rest =
      (LiveFeed.conclude (if e.isEndOfFeed then (.ok (), after, feed)
        else (.error e, after, feed.dropHeld))).run (Surroundings.asked after between) :=
  rest_live_of_run (LiveFeed.run_takeRecords_error going fetched)

theorem rest_dump_of_run {supply : Framer} {transfer : DumpTransfer}
    {result : DumpTransfer.Intake × Framer × DumpTransfer} {world between : ω}
    (taken : (DumpTransfer.takeRecords supply transfer).run world = (result, between)) :
    (dump supply transfer world).rest = (DumpTransfer.conclude result).run between := by
  change (DumpTransfer.takeRecords supply transfer >>= DumpTransfer.conclude).run world = _
  rw [StateT.run_bind, taken]
  rfl

theorem rest_dump_of_handover {supply : Framer} {transfer : DumpTransfer} {world : ω}
    (handing : transfer.phase ≠ .intake) :
    (dump supply transfer world).rest =
      (DumpTransfer.conclude (.over (.ok ()), supply, transfer)).run world :=
  rest_dump_of_run (DumpTransfer.run_takeRecords_handover handing)

theorem rest_dump_of_cancelled {supply : Framer} {transfer : DumpTransfer} {world between : ω}
    (taking : transfer.phase = .intake) (stopped : Surroundings.looked world = (true, between)) :
    (dump supply transfer world).rest =
      (DumpTransfer.conclude (.over (.ok ()), supply, transfer)).run between :=
  rest_dump_of_run (DumpTransfer.run_takeRecords_cancelled taking stopped)

theorem rest_dump_of_ok {supply after : Framer} {transfer : DumpTransfer} {record : FramedRecord}
    {world between : ω} (taking : transfer.phase = .intake)
    (going : Surroundings.looked world = (false, between))
    (read : RecordSupply.next supply = (.ok record, after)) :
    (dump supply transfer world).rest =
      (transfer.accept record >>= DumpTransfer.continueFrom after >>= DumpTransfer.conclude).run
        (Surroundings.asked after between) := by
  change (DumpTransfer.takeRecords supply transfer >>= DumpTransfer.conclude).run world = _
  rw [StateT.run_bind, DumpTransfer.run_takeRecords_ok taking going read, ← StateT.run_bind]

theorem rest_dump_of_error {supply after : Framer} {transfer : DumpTransfer} {e : FeedError}
    {world between : ω} (taking : transfer.phase = .intake)
    (going : Surroundings.looked world = (false, between))
    (read : RecordSupply.next supply = (.error e, after)) :
    (dump supply transfer world).rest =
      (DumpTransfer.conclude (if e.isEndOfFeed then (.over (.ok ()), after, transfer)
        else (.over (.error e), after, transfer.dropHeld))).run
        (Surroundings.asked after between) :=
  rest_dump_of_run (DumpTransfer.run_takeRecords_error taking going read)

/-- Taking a record leaves what comes of the connection as it is. -/
theorem rest_of_next? {turn later : Turn ω} (step : turn.next? = some later) :
    turn.rest = later.rest := by
  cases turn with
  | live first? supply feed world =>
    unfold next? at step
    dsimp only at step
    split at step
    · next between record after going fetched =>
      -- both sides take the same record; what is left is what the feed does next
      rw [rest_live_of_ok going fetched, StateT.run_bind, StateT.run_bind]
      split at step
      · next accepted =>
        cases step
        rw [accepted]
        rfl
      · next feed' world' accepted =>
        rw [accepted]
        split at step
        · next length supply' scanned =>
          cases step
          change (LiveFeed.continueFrom after (.rescan, feed')).run world' >>= _ = _
          simp only [LiveFeed.continueFrom, scanned]
          rfl
        · cases step
      · cases step
    · cases step
  | dump supply transfer world =>
    unfold next? at step
    dsimp only at step
    split at step
    · next taking =>
      split at step
      · next between record after going read =>
        rw [rest_dump_of_ok taking going read, StateT.run_bind, StateT.run_bind]
        split at step
        · next accepted =>
          cases step
          rw [accepted]
          rfl
        · cases step
      · cases step
    · cases step

end Turn

/-! ## The turns of a connection -/

variable {α : Type}

/-- The first turn of a connection, behind the record that opens its conversation. -/
def Turn.start? (settings : FeedSettings α) (source : Source) (world : ω) : Option (Turn ω) :=
  match (Framer.ofSource source settings.limits).next with
  | (.ok first, supply) =>
    let world := Surroundings.asked supply world
    if first.header.knownType? = some .tableDumpV2 then
      match ((DumpTransfer.new settings.tableDump settings.handling).accept first).run world with
      | ((.ok (), transfer), world) => some (.dump supply transfer world)
      | ((.error _, _), _) => none
    else some (.live (some first) supply (.new settings.handling) world)
  | (.error _, _) => none

/-- The turns that a connection comes to. -/
inductive Visited (settings : FeedSettings α) (source : Source) (world : ω) : Turn ω → Prop
  | start {turn : Turn ω} (first : Turn.start? settings source world = some turn) :
      Visited settings source world turn
  | next {turn later : Turn ω} (visited : Visited settings source world turn)
      (step : turn.next? = some later) : Visited settings source world later

/-- The rest of every turn that a connection comes to is the rest of the connection. -/
theorem carry_eq_rest {settings : FeedSettings α} {source : Source} {world : ω} {turn : Turn ω}
    (visited : Visited settings source world turn) :
    (Connection.carry settings (Framer.ofSource source settings.limits)).run world = turn.rest := by
  induction visited with
  | start first =>
    unfold Turn.start? at first
    split at first
    · next record supply read =>
      have given : RecordSupply.next (Framer.ofSource source settings.limits) =
          (.ok record, supply) := read
      -- the first record says which conversation it is
      have carried : (Connection.carry settings (Framer.ofSource source settings.limits)).run world =
          (Connection.converse settings record supply).run (Surroundings.asked supply world) := by
        unfold Connection.carry
        rw [given]
        rfl
      rw [carried]
      unfold Connection.converse
      dsimp only at first
      split at first
      · next isDump =>
        rw [if_pos isDump]
        split at first
        · next accepted =>
          cases first
          exact DumpTransfer.run_eq_conclude accepted supply
        · cases first
      · next isLive =>
        rw [if_neg isLive]
        cases first
        exact LiveFeed.run_eq_conclude _ _ _ _
    · cases first
  | next visited step ih => exact ih.trans (Turn.rest_of_next? step)

end CollectorFeed
