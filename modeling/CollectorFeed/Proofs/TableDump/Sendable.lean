import CollectorFeed.Proofs.Conversation.Turns
import CollectorFeed.Proofs.Handover.Settlement
import CollectorFeed.Proofs.Path.AsNumbers
import CollectorFeed.Proofs.Stream.Slices
import CollectorFeed.Proofs.TableDump.CommitRule
import CollectorFeed.Proofs.TableDump.Grammar
import CollectorFeed.Proofs.Update.Rereading

/-!
# Routes that fit a message

A route is left out of a hand-over if its message is too long. Two things make attributes longer than
they are in the dump: networks are completed, which makes an attribute at most six times as long, and
full values are added to narrow ones, which at most doubles them. The usual limit on the length of a
record is more than twelve times smaller than the greatest length of a message, so under this limit
every route of a record fits a message (`DumpedRoute.Sendable`), and no route is left out of a
hand-over (`DumpTransfer.sendable_usual`).
-/

set_option autoImplicit false

namespace CollectorFeed

/-! ## Attributes in the dump and in a message -/

theorem Network.encodedLength_le (network : Network) : network.encodedLength ≤ 17 := by
  have fits := network.bits_le_longest
  unfold encodedLength octetsFor
  omega

/-- A completed value has at most its old length and 21 octets, and only values of two octets or more
are completed. -/
theorem Reachability.length_kept_le {value : Octets} (legible : Legible value)
    (target : RouteTarget) : (kept target value).length + 4 ≤ 6 * (value.length + 3) := by
  cases value with
  | nil => exact legible.elim
  | cons first rest =>
    rw [kept]
    split
    case isTrue => omega
    case isFalse some_ =>
      have there : first.toNat ≤ rest.length := legible.resolve_left some_
      have positive : 0 < first.toNat := Nat.pos_of_ne_zero fun zero =>
        some_ (UInt8.toNat_inj.1 zero)
      have network := target.network.encodedLength_le
      simp only [List.length_append, Octets.length_ofNat, List.length_cons, List.length_nil,
        List.length_take_of_le there, Network.length_encode]
      omega

namespace PathAttribute

theorem encodedLength_le (attr : PathAttribute) : attr.encodedLength ≤ attr.value.length + 4 := by
  unfold encodedLength
  split <;> omega

theorem encodedLength_kept_le {attr : PathAttribute} (legible : attr.Legible)
    (target : RouteTarget) : (attr.kept target).encodedLength ≤ 6 * attr.dumpForm.length := by
  have form : attr.value.length + 3 ≤ attr.dumpForm.length := by
    rw [length_dumpForm, AttributeFlags.lengthWidth]
    split <;> omega
  have value : (attr.kept target).value.length + 4 ≤ 6 * (attr.value.length + 3) := by
    unfold kept
    split
    case isTrue reach => exact Reachability.length_kept_le (legible.reach reach) target
    case isFalse => show attr.value.length + 4 ≤ _; omega
  have length := (attr.kept target).encodedLength_le
  omega

/-- An attribute is no longer than another one if its value is not. -/
theorem encodedLength_mono {one other : PathAttribute} (less : one.value.length ≤ other.value.length) :
    one.encodedLength ≤ other.encodedLength := by
  unfold encodedLength isLong
  simp only [decide_eq_true_eq]
  split <;> split <;> omega

end PathAttribute

namespace UpdateMessage

/-- If what stands for an attribute is at most so many times as long as a weight, all of it is. -/
theorem attributesLength_flatMap_le {attributes : List PathAttribute}
    {step : PathAttribute → List PathAttribute} {weight : PathAttribute → Nat} {factor : Nat}
    (each : ∀ attr ∈ attributes, attributesLength (step attr) ≤ factor * weight attr) :
    attributesLength (attributes.flatMap step) ≤ factor * (attributes.map weight).sum := by
  induction attributes with
  | nil => exact Nat.zero_le _
  | cons attr rest ih =>
    rw [List.forall_mem_cons] at each
    have others := ih each.2
    rw [attributesLength_eq_sum] at others ⊢
    rw [List.flatMap_cons, List.map_append, List.sum_append, ← attributesLength_eq_sum,
      List.map_cons, List.sum_cons, Nat.mul_add]
    exact Nat.add_le_add each.1 others

theorem attributesLength_fullValue_le (called : Bool) (kind : AttributeKind) (attr : PathAttribute) :
    attributesLength (Narrowing.fullValue called kind attr.value) ≤ attr.encodedLength := by
  unfold Narrowing.fullValue
  split
  · exact Nat.le_of_eq (Nat.add_zero _)
  · exact Nat.zero_le _

theorem attributesLength_one_le (hasFullPath hasFullAggregator : Bool) (attr : PathAttribute) :
    attributesLength (Narrowing.one hasFullPath hasFullAggregator attr) ≤
      2 * attr.encodedLength := by
  -- a narrow value is no longer than the full one, which may follow it
  have group (narrow : Octets) (called : Bool) (kind : AttributeKind)
      (less : narrow.length ≤ attr.value.length) :
      attributesLength ({ attr with value := narrow } ::
        Narrowing.fullValue called kind attr.value) ≤ 2 * attr.encodedLength := by
    have first : PathAttribute.encodedLength { attr with value := narrow } ≤ attr.encodedLength :=
      PathAttribute.encodedLength_mono less
    have full := attributesLength_fullValue_le called kind attr
    show PathAttribute.encodedLength { attr with value := narrow } + attributesLength _ ≤ _
    omega
  have alone : attributesLength [attr] ≤ 2 * attr.encodedLength := by
    show attr.encodedLength + 0 ≤ _
    omega
  unfold Narrowing.one
  split
  case isTrue =>
    unfold Narrowing.path
    cases read : AsPath.decode .four attr.value with
    | error e => exact alone
    | ok segments =>
      refine group _ _ _ ?_
      rw [(AsPath.decode_eq_ok_iff.1 read).2]
      exact AsPath.length_encode_two_le segments
  case isFalse =>
    split
    case isTrue kind =>
      unfold Narrowing.aggregator
      cases Aggregator.decode attr.value with
      | error e => exact alone
      | ok router =>
        refine group _ _ _ ?_
        rw [router.length_encode, kind.2]
        decide
    case isFalse => exact alone

theorem attributesLength_adaptAttributes_le (width : AsnWidth) (attributes : List PathAttribute) :
    attributesLength (adaptAttributes width attributes) ≤ 2 * attributesLength attributes := by
  cases width with
  | four => exact Nat.le_mul_of_pos_left _ Nat.two_pos
  | two =>
    rw [attributesLength_eq_sum attributes]
    exact attributesLength_flatMap_le fun attr _ => attributesLength_one_le _ _ attr

theorem attributesLength_map_kept_le {attributes : List PathAttribute}
    (legible : ∀ attr ∈ attributes, attr.Legible) (target : RouteTarget) :
    attributesLength (attributes.map (PathAttribute.kept target)) ≤
      6 * (attributes.flatMap PathAttribute.dumpForm).length := by
  rw [List.map_eq_flatMap, List.length_flatMap]
  refine attributesLength_flatMap_le fun attr there => ?_
  exact PathAttribute.encodedLength_kept_le (legible attr there) target

end UpdateMessage

/-! ## Routes of a record -/

/-- A route has a message for sessions of either width. -/
def DumpedRoute.Sendable (route : DumpedRoute) : Prop :=
  ∀ width : AsnWidth, ∃ octets, route.updateMessage width = .ok octets

theorem DumpedRoute.sendable_of_length {route : DumpedRoute}
    (short : 2 * UpdateMessage.attributesLength route.attributes ≤ 65495) : route.Sendable := by
  intro width
  have attributes := UpdateMessage.attributesLength_adaptAttributes_le width route.attributes
  have network : (route.trailingNetwork?.map Network.encodedLength).getD 0 ≤ 17 := by
    cases route.trailingNetwork? with
    | none => exact Nat.zero_le _
    | some network => exact network.encodedLength_le
  -- all but the attributes and a network are 23 octets
  refine ⟨_, if_neg (Nat.not_lt_of_le ?_)⟩
  unfold UpdateMessage.totalLength UpdateMessage.greatestLength bgpHeaderLength
  omega

namespace DumpedRib

variable {rib : DumpedRib} {entry : RibEntry}

theorem length_attributeForm_le (there : entry ∈ rib.entries) :
    entry.attributeForm.length ≤ rib.body.length := by
  have inside : entry.dumpForm.length ≤ (rib.entries.flatMap RibEntry.dumpForm).length := by
    rw [List.flatMap_def]
    exact (List.sublist_flatten_of_mem (List.mem_map_of_mem there)).length_le
  unfold RibEntry.dumpForm at inside
  unfold body networkForm RibEntry.dumpForm
  simp only [List.length_append] at inside ⊢
  omega

theorem sendable (legible : rib.Legible) (short : rib.body.length ≤ 4108)
    (there : entry ∈ rib.kept.entries) :
    DumpedRoute.Sendable ⟨rib.kept.target, entry.attributes⟩ := by
  obtain ⟨raw, inside, rfl⟩ := List.mem_map.1 there
  have form := length_attributeForm_le inside
  have kept := UpdateMessage.attributesLength_map_kept_le (legible.entries raw inside).attributes
    rib.target
  apply DumpedRoute.sendable_of_length
  unfold RibEntry.attributeForm at form
  unfold RibEntry.kept
  dsimp only
  omega

end DumpedRib

/-- Every route of a record under the usual limit fits a message. -/
theorem RibRecord.sendable {subtype : UInt16} {body : Octets} {record : RibRecord}
    (short : body.length ≤ 4108) (read : TableDumpRecord.decode subtype body = .ok (.rib record)) :
    ∀ entry ∈ record.entries, DumpedRoute.Sendable ⟨record.target, entry.attributes⟩ := by
  unfold TableDumpRecord.decode at read
  split at read
  case h_2 => cases read
  case h_1 known _ =>
    obtain ⟨left, taken⟩ := Reader.run_fst_eq_ok_iff.1 read
    obtain ⟨rib, ⟨legible, -⟩, form, rfl⟩ := TableDumpRecord.run_reader_eq_rib_iff.1 taken
    have less := congrArg List.length form
    rw [List.length_append] at less
    exact fun entry there => rib.sendable legible (by omega) there

/-! ## Tables of a dump -/

/-- A record that is cut out under limits on its length keeps within them. -/
theorem Framer.next_limits {framer after : Framer} {record : FramedRecord}
    (read : framer.next = (.ok record, after)) :
    record.body.length ≤ framer.limits.max.toNat ∧ after.limits = framer.limits := by
  obtain ⟨taken, count, course, takes⟩ := framer.next_takes
  rw [read] at course takes
  refine ⟨?_, takes.limits⟩
  cases course with
  | record others accepted length =>
    rw [length]
    have within := (Bool.and_eq_true_iff.1 accepted).2
    exact UInt32.le_iff_toNat_le.1 (of_decide_eq_true within)

namespace PeerTable

/-- Every route of a table fits a message. -/
def AllSendable (table : PeerTable) : Prop :=
  ∀ route ∈ table.routes.toList, route.Sendable

theorem allSendable_commitAll {table : PeerTable} {routes : List DumpedRoute}
    (before : table.AllSendable) (sendable : ∀ route ∈ routes, route.Sendable) :
    (table.commitAll routes).AllSendable := by
  unfold AllSendable
  rw [routes_commitAll, List.forall_mem_append]
  exact ⟨before, sendable⟩

/-- If all routes fit a message, there is one for each of them. -/
theorem forall₂_transfer {routes : List DumpedRoute} (session : SessionId) (width : AsnWidth)
    (sendable : ∀ route ∈ routes, route.Sendable) :
    List.Forall₂ (fun route message => route.updateMessage width = .ok message.octets) routes
      (transfer session width routes) := by
  induction routes with
  | nil => exact .nil
  | cons route rest ih =>
    rw [List.forall_mem_cons] at sendable
    obtain ⟨octets, encoded⟩ := sendable.1 width
    have first : transfer session width (route :: rest) =
        ⟨session, .tableTransfer, octets⟩ :: transfer session width rest := by
      simp [transfer, encoded, Except.toOption]
    rw [first]
    exact .cons encoded (ih sendable.2)

end PeerTable

theorem allSendable_commitTables {tables : List PeerTable} {batch : RouteBatch}
    (before : ∀ table ∈ tables, table.AllSendable) (sendable : ∀ item ∈ batch, item.2.Sendable) :
    ∀ table ∈ commitTables tables batch, table.AllSendable := by
  intro table there
  obtain ⟨place, found⟩ := List.mem_iff_getElem?.1 there
  rw [getElem?_commitTables] at found
  obtain ⟨old, was, rfl⟩ := Option.map_eq_some_iff.1 found
  refine PeerTable.allSendable_commitAll (before old (List.mem_of_getElem? was)) ?_
  intro route mem
  obtain ⟨item, inside, named⟩ := List.mem_filterMap.1 mem
  split at named
  · cases named
    exact sendable item inside
  · cases named

namespace DumpTransfer

/-- Every route that was committed or is held fits a message. -/
structure AllSendable (dump : DumpTransfer) : Prop where
  tables : ∀ table ∈ dump.tables, table.AllSendable
  held : ∀ item ∈ dump.heldBatch, item.2.Sendable

namespace AllSendable

variable {dump after : DumpTransfer}

theorem of_drops (before : dump.AllSendable) (drops : Drops dump after) : after.AllSendable := by
  constructor
  · rw [drops.tables]
    exact before.tables
  · rw [heldBatch_of_held? drops.held?]
    exact List.forall_mem_nil _

theorem clearFor (before : dump.AllSendable) (record : FramedRecord) :
    (dump.clearFor record).AllSendable := by
  unfold DumpTransfer.clearFor
  split
  · exact before.of_drops (drops_dropHeld dump)
  · exact before

theorem of_advances {batch : RouteBatch} (before : dump.AllSendable)
    (advances : Advances dump after batch) (sendable : ∀ item ∈ batch, item.2.Sendable) :
    after.AllSendable := by
  constructor
  · rw [advances.tables]
    exact allSendable_commitTables before.tables before.held
  · rw [heldBatch, advances.held?]
    exact sendable

/-- A record under the usual limit adds only routes that fit a message. -/
theorem acceptRoutes {record : FramedRecord} (before : dump.AllSendable)
    (short : record.body.length ≤ 4108) (accepted : dump.acceptRoutes record = (.ok (), after)) :
    after.AllSendable := by
  rcases acceptRoutes_cases accepted with ⟨rib, good, -, advances⟩ | ⟨-, -, -, drops⟩ |
    ⟨-, -, -, drops⟩
  · refine (before.clearFor record).of_advances advances ?_
    obtain ⟨-, decoded, -, -⟩ := goodRib?_eq_some_iff.1 good
    -- what was held before is committed, and the routes of the record are held in its place
    have fits := RibRecord.sendable short decoded
    rw [batchOf, List.forall_mem_map]
    exact fits
  · exact before.of_drops drops
  · exact before.of_drops drops

/-- At the end of the stream what is held joins what was committed. -/
theorem closeIntake (before : dump.AllSendable) :
    ∀ table ∈ dump.closeIntake.tables, table.AllSendable := by
  have tables := (outcome_closeIntake dump 0).tables
  rw [tables]
  refine allSendable_commitTables before.tables ?_
  simpa [confirms, committedRibs] using before.held

variable {ω : Type} [Surroundings ω]

/-- The index opens a dump without any routes. -/
theorem opening {settings : DumpSettings} {handling : Handling} {first : FramedRecord}
    {world between : ω}
    (taken : ((new settings handling).accept first).run world = ((.ok (), dump), between)) :
    dump.AllSendable := by
  obtain ⟨index, tables, -, -, empty, rfl⟩ := accept_opening taken
  constructor
  · intro table there
    obtain ⟨peer, session, rfl⟩ := empty table there
    exact fun route mem => nomatch mem
  · exact List.forall_mem_nil _

/-- By induction on the octets that are left: under the usual limits only such routes are taken in. -/
theorem takeRecords {supply behind : Framer} {outcome : Except FeedError Unit} {world world' : ω}
    (before : dump.AllSendable) (limits : supply.limits = .usual)
    (taken : (dump.takeRecords supply).run world = ((.over outcome, behind, after), world')) :
    after.AllSendable := by
  induction size : RecordSupply.left supply using Nat.strongRecOn generalizing supply dump world with
  | ind size ih =>
    by_cases taking : dump.phase = .intake
    case neg =>
      cases (run_takeRecords_handover taking).symm.trans taken
      exact before
    rcases looked : Surroundings.looked world with ⟨stopped, between⟩
    cases stopped with
    | true =>
      cases (run_takeRecords_cancelled taking looked).symm.trans taken
      exact before
    | false =>
      rcases read : RecordSupply.next supply with ⟨e | record, left⟩
      · rw [run_takeRecords_error taking looked read] at taken
        split at taken
        · cases taken
          exact before
        · cases taken
          exact before.of_drops (drops_dropHeld dump)
      · obtain ⟨short, same⟩ := Framer.next_limits read
        rw [limits] at short
        rw [run_takeRecords_ok taking looked read, StateT.run_bind,
          run_accept_intake taking] at taken
        -- counting the record changes neither the tables nor what is held
        have noted : dump.noteRecord.AllSendable := ⟨before.tables, before.held⟩
        rcases accepted : dump.noteRecord.acceptRoutes record with ⟨e | _, next⟩
        · rw [accepted] at taken
          cases taken
        · rw [accepted] at taken
          have smaller := RecordSupply.left_lt_of_next read
          exact ih _ (by rw [← size]; exact smaller) (noted.acceptRoutes short accepted)
            (same.trans limits) taken rfl

end AllSendable

end DumpTransfer

/-! ## Handing tables over -/

namespace PeerTable

/-- Handing a table over passes on a message for each of its routes, in order, unless the queue
refuses one of them. -/
def LeavesNoneOut (ω : Type) [Surroundings ω] (table : PeerTable) : Prop :=
  ∀ world : ω, QueueOpen (exchangesOf table.flush world) →
    (table.flush.run world).1.1 = some table.routes.size ∧
    ∃ width, List.Forall₂ (fun route message => route.updateMessage width = .ok message.octets)
      table.routes.toList (passedOn (exchangesOf table.flush world))

theorem AllSendable.leavesNoneOut {ω : Type} [Surroundings ω] {table : PeerTable}
    (sendable : table.AllSendable) : table.LeavesNoneOut ω := by
  intro world isOpen
  obtain ⟨-, width?, ⟨result, made⟩ | ⟨-, taken, message, rest, refusal, -, made⟩⟩ :=
    table.ensures_flush.exchangesOf world
  · have all := forall₂_transfer table.session (width?.getD .four) sendable
    refine ⟨?_, width?.getD .four, ?_⟩
    · rw [(SameRun.inherited.flush table).run_eq world, result, messages, ← all.length_eq, Array.length_toList]
    · have passed : passedOn (exchangesOf table.flush world) = table.messages width? := by
        rw [made]
        exact passedOn_deliver _
      rw [passed]
      exact all
  · -- a message that the queue refused is among the calls
    rw [made] at isOpen
    have refused := isOpen (.passOn message (.error refusal)) (by simp)
    cases refused

end PeerTable

/-- Under the usual limit every route of a record fits a message, for sessions of either width. So of
all routes that a dump commits under the usual limits, none is left out when it is handed over. -/
theorem DumpTransfer.sendable_usual {ω : Type} [Surroundings ω] :
    (∀ (subtype : UInt16) (body : Octets) (record : RibRecord), body.length ≤ 4108 →
      TableDumpRecord.decode subtype body = .ok (.rib record) →
      ∀ entry ∈ record.entries, ∀ width : AsnWidth, ∃ octets,
        DumpedRoute.updateMessage ⟨record.target, entry.attributes⟩ width = .ok octets) ∧
    (∀ (settings : DumpSettings) (handling : Handling) (first : FramedRecord)
      (supply behind : Framer) (outcome : Except FeedError Unit) (dump after : DumpTransfer)
      (world between world' : ω),
      supply.limits = .usual →
      ((new settings handling).accept first).run world = ((.ok (), dump), between) →
      (dump.takeRecords supply).run between = ((.over outcome, behind, after), world') →
      ∀ table ∈ after.closeIntake.tables, table.LeavesNoneOut ω) := by
  constructor
  · intro subtype body record short read entry there width
    exact RibRecord.sendable short read entry there width
  · intro settings handling first supply behind outcome dump after world between world' limits opened
      taken table there
    have all := (AllSendable.opening opened).takeRecords limits taken
    exact (all.closeIntake table there).leavesNoneOut

namespace DumpTransfer

/-- A route to an IPv6 network with a wide path and a next hop of one octet. -/
def sampleBody : Octets :=
  [0, 0, 0, 1, 32, 0x20, 1, 0xD, 0xB8, 0, 1, 0, 0, 0, 0, 0, 0, 0, 18, 0x40, 1, 1, 0, 0x80, 14, 2, 1,
    77, 0x40, 2, 6, 2, 1, 0, 1, 0, 0]

/-- A stream of one record with that route. -/
def sampleStream : Framer :=
  .ofSource (.ofOctets ((RecordHeader.mk 0 13 4 37).encode ++ sampleBody)) .usual

/-- A dump that has taken an index of one router. -/
def sampleOpened : (Except FeedError Unit × DumpTransfer) × Logbook :=
  ((new .usual .label).accept sampleOpening).run Logbook.blank

/-- What becomes of that dump over that stream. -/
def sampleTaken : (Intake × Framer × DumpTransfer) × Logbook :=
  (takeRecords sampleStream sampleOpened.1.2).run sampleOpened.2

theorem sendable_usual_sampleTaken :
    sampleBody.length ≤ 4108 ∧
    (∃ record, TableDumpRecord.decode 4 sampleBody = .ok (.rib record) ∧
      record.entries.length = 1 ∧ ∀ entry ∈ record.entries, ∀ width : AsnWidth, ∃ octets,
        DumpedRoute.updateMessage ⟨record.target, entry.attributes⟩ width = .ok octets) ∧
    sampleTaken.1.2.2.closeIntake.tables.map (fun table => table.routes.size) = [1] ∧
    ∀ table ∈ sampleTaken.1.2.2.closeIntake.tables, table.LeavesNoneOut Logbook := by
  obtain ⟨routes, tables⟩ := @sendable_usual Logbook _
  refine ⟨by decide, ⟨_, rfl, rfl, routes 4 sampleBody _ (by decide) rfl⟩, by decide +kernel, ?_⟩
  have ended : (match sampleTaken.1.1 with | .over _ => true | .brokenOff _ => false) = true := by
    decide +kernel
  rcases taken : sampleTaken with ⟨⟨e | outcome, behind, after⟩, world⟩
  · rw [taken] at ended
    cases ended
  · exact tables .usual .label sampleOpening sampleStream behind outcome sampleOpened.1.2 after
      Logbook.blank sampleOpened.2 world rfl rfl taken

end DumpTransfer

end CollectorFeed
