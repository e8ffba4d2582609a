import CollectorFeed.Proofs.Conversation.HeldThroughScan
import CollectorFeed.Proofs.LiveFeed.Course
import CollectorFeed.Proofs.Relay.Layout

/-!
# Every message is accounted for

A live feed submits its messages in the order in which they came, each one at most once. Which ones
are submitted is told by what comes behind them (`confirmedBy`): the next message, a record of a
table dump, or a good end of the feed, with nothing on the way to it that is corrupt or was found by
a recovery scan. All others are counted as dropped (`conserved_run`).
-/

set_option autoImplicit false

namespace CollectorFeed

/-! ## Which messages are submitted -/

namespace LiveRecord

/-- The message, if there is one. -/
@[simp] def message? : LiveRecord → Option RelayedMessage
  | message relayed => some relayed
  | _ => none

/-- Whether a record has nothing to pass on. -/
@[simp] def isIgnored : LiveRecord → Bool
  | ignored _ => true
  | _ => false

/-- Whether a record belongs to a table dump. -/
@[simp] def isForeign : LiveRecord → Bool
  | foreign _ => true
  | _ => false

attribute [simp] isCorrupt

end LiveRecord

/-- The messages of records, in order. -/
def relayedMessages (records : List FramedRecord) : List RelayedMessage :=
  records.flatMap fun record => (LiveRecord.ofRecord record).message?.toList

/-- Whether a feed ends in good order after its last record. -/
def FeedEnd.isGood : FeedEnd → Bool
  | stopped => true
  | readFailed reason => reason.isEndOfFeed
  | scanFailed _ | foreign _ => false

/-- Whether the message in front of the given records is confirmed by them. Records with nothing to
pass on are looked through; the first other record decides, or else the end of the feed. -/
def confirmedBy : List FramedRecord → FeedEnd → Bool
  | [], ending => ending.isGood
  | record :: rest, ending =>
    record.recoveries = 0 &&
      match LiveRecord.ofRecord record with
      | .message _ | .foreign _ => true
      | .ignored _ => confirmedBy rest ending
      | .corrupt _ => false

/-- The messages that are submitted, in order. -/
def released : List FramedRecord → FeedEnd → List RelayedMessage
  | [], _ => []
  | record :: rest, ending =>
    (if confirmedBy rest ending then (LiveRecord.ofRecord record).message?.toList else []) ++
      released rest ending

theorem released_sublist (records : List FramedRecord) (ending : FeedEnd) :
    (released records ending).Sublist (relayedMessages records) := by
  induction records with
  | nil => exact .slnil
  | cons record rest ih =>
    rw [released, relayedMessages, List.flatMap_cons]
    refine .append ?_ ih
    split
    · exact .refl _
    · exact List.nil_sublist _

/-! ## What records make of a feed -/

namespace LiveFeed

theorem held?_dropHeld (feed : LiveFeed) : feed.dropHeld.pending.held? = none :=
  Option.isNone_iff_eq_none.1 feed.isEmpty_dropHeld

/-- A record that was found by a recovery scan takes the held message with it. -/
theorem held?_noteRecord (feed : LiveFeed) (record : FramedRecord) :
    (feed.noteRecord record).pending.held? =
      if record.recoveries = 0 then feed.pending.held? else none := by
  unfold noteRecord
  by_cases whole : record.recoveries = 0
  · rw [if_neg (by omega), if_pos whole]
  · rw [if_pos (Nat.pos_of_ne_zero whole), if_neg whole, held?_dropHeld]

end LiveFeed

theorem Submission.held?_after (feed : LiveFeed) (submission : Submission) :
    (submission.after feed).pending = feed.pending := by
  cases submission <;> rfl

/-- The messages that a feed holds, and those that are submitted. -/
def heldMessages (feed : LiveFeed) : List RelayedMessage :=
  feed.pending.held?.toList

theorem heldMessages_noteRecord (feed : LiveFeed) (record : FramedRecord) :
    heldMessages (feed.noteRecord record) =
      if record.recoveries = 0 then heldMessages feed else [] := by
  rw [heldMessages, LiveFeed.held?_noteRecord]
  split <;> rfl

/-- A message of a record is held and submitted later if what comes behind confirms it, and the one
that was held before is submitted now or still held. -/
theorem Accepts.order {feed left : LiveFeed} {record : FramedRecord} {handed : List Handed}
    (accepts : Accepts feed record .goOn handed left) (rest : List FramedRecord)
    (ending : FeedEnd) :
    handed.map Handed.relayed ++ (if confirmedBy rest ending then heldMessages left else []) =
      (if confirmedBy (record :: rest) ending then heldMessages feed else []) ++
        if confirmedBy rest ending then (LiveRecord.ofRecord record).message?.toList else [] := by
  have kept := heldMessages_noteRecord feed record
  cases accepts with
  | ignored is =>
    change _ ++ (if _ then heldMessages (feed.noteRecord record) else []) = _
    rw [kept]
    by_cases whole : record.recoveries = 0 <;> simp [confirmedBy, is, whole]
  | @first relayed is free =>
    have none_ : heldMessages (feed.noteRecord record) = [] := congrArg Option.toList free
    have one : heldMessages ((feed.noteRecord record).holding relayed) = [relayed] := rfl
    rw [none_] at kept
    rw [one]
    by_cases whole : record.recoveries = 0
    · rw [if_pos whole] at kept
      simp [confirmedBy, is, whole, ← kept]
    · simp [confirmedBy, is, whole]
  | @next relayed confirmed submission is held =>
    have some_ : heldMessages (feed.noteRecord record) = [confirmed] := congrArg Option.toList held
    have one : heldMessages (submission.after ((feed.noteRecord record).holding relayed)) =
        [relayed] := congrArg (Option.toList ∘ Holdback.held?) (Submission.held?_after _ _)
    rw [some_] at kept
    rw [one]
    by_cases whole : record.recoveries = 0
    · rw [if_pos whole] at kept
      simp [confirmedBy, is, whole, ← kept]
    · rw [if_neg whole] at kept
      cases kept

/-- Messages are submitted in the order in which they came, and the one that came last is held. -/
theorem FeedCourse.order {φ : Type} [RecordSupply φ] {first? : Option FramedRecord}
    {supply final : φ} {feed last : LiveFeed} {records : List FramedRecord} {ending : FeedEnd}
    {handed : List Handed}
    (course : FeedCourse first? supply feed records ending handed final last) :
    handed.map Handed.relayed ++ heldMessages last =
      (if confirmedBy records ending then heldMessages feed else []) ++
        released records ending := by
  induction course with
  | stopped => simp [confirmedBy, FeedEnd.isGood, released]
  | @readFailed first? supply after feed reason fetched =>
    cases good : reason.isEndOfFeed with
    | true => simp [confirmedBy, FeedEnd.isGood, released, good]
    | false =>
      simp [confirmedBy, FeedEnd.isGood, released, good, heldMessages, LiveFeed.held?_dropHeld]
  | foreign fetched accepts =>
    cases accepts with
    | foreign is =>
      rw [heldMessages_noteRecord]
      simp [confirmedBy, released, is]
  | scanFailed fetched accepts scanned =>
    cases accepts with
    | corrupt is =>
      simp [confirmedBy, released, is, heldMessages, LiveFeed.held?_dropHeld]
  | scanned fetched accepts scanned others ih =>
    cases accepts with
    | corrupt is =>
      rw [List.nil_append, ih]
      simp [confirmedBy, released, is, heldMessages, LiveFeed.held?_dropHeld]
  | goOn fetched accepts others ih =>
    rw [List.map_append, List.append_assoc, ih, released, ← List.append_assoc, ← List.append_assoc]
    exact congrArg (· ++ _) (accepts.order _ _)

/-! ## Counters -/

/-- The sessions of messages that went into the queue, added to those that were fed before. -/
def fedBy (fed : List SessionId) (handed : List Handed) : List SessionId :=
  (handed.filterMap fun one => one.submission.session?).foldl
    (fun fed id => insertSession id fed) fed

/-- What records add to the counters of a feed. -/
structure Counted (feed left : LiveFeed) (records : List FramedRecord) (handed : List Handed) :
    Prop where
  taken : left.stats.records = feed.stats.records + records.length
  ignored : left.stats.ignored = feed.stats.ignored +
    records.countP fun record => (LiveRecord.ofRecord record).isIgnored
  corrupt : left.stats.corrupt = feed.stats.corrupt +
    records.countP fun record => (LiveRecord.ofRecord record).isCorrupt
  submitted : left.stats.submitted = feed.stats.submitted +
    handed.countP fun one => one.submission.isPassed
  unbound : left.stats.unbound = feed.stats.unbound +
    handed.countP fun one => !one.submission.isPassed
  /-- A message is submitted, held, or counted as dropped. -/
  discarded : left.stats.discarded + handed.length + (heldMessages left).length =
    feed.stats.discarded + (heldMessages feed).length + (relayedMessages records).length
  fed : left.fed = fedBy feed.fed handed

namespace Counted

variable {feed between left : LiveFeed} {front back records : List FramedRecord}
  {handed later : List Handed}

theorem refl (feed : LiveFeed) : Counted feed feed [] [] :=
  ⟨rfl, rfl, rfl, rfl, rfl, rfl, rfl⟩

theorem trans (first : Counted feed between front handed)
    (second : Counted between left back later) :
    Counted feed left (front ++ back) (handed ++ later) where
  taken := by rw [second.taken, first.taken, List.length_append, Nat.add_assoc]
  ignored := by rw [second.ignored, first.ignored, List.countP_append, Nat.add_assoc]
  corrupt := by rw [second.corrupt, first.corrupt, List.countP_append, Nat.add_assoc]
  submitted := by rw [second.submitted, first.submitted, List.countP_append, Nat.add_assoc]
  unbound := by rw [second.unbound, first.unbound, List.countP_append, Nat.add_assoc]
  discarded := by
    have before := first.discarded
    have behind := second.discarded
    have both : relayedMessages (front ++ back) = relayedMessages front ++ relayedMessages back :=
      List.flatMap_append
    rw [both, List.length_append, List.length_append]
    omega
  fed := by rw [second.fed, first.fed, fedBy, fedBy, fedBy, List.filterMap_append,
    List.foldl_append]

theorem dropHeld (feed : LiveFeed) : Counted feed feed.dropHeld [] [] := by
  obtain ⟨handling, ⟨held?⟩, fed, stats⟩ := feed
  cases held? with
  | none => exact refl _
  | some relayed => exact ⟨rfl, rfl, rfl, rfl, rfl, rfl, rfl⟩

end Counted

/-- A record is counted once, as what it is. -/
theorem Accepts.counted {feed left : LiveFeed} {record : FramedRecord} {step : LiveStep}
    {handed : List Handed} (accepts : Accepts feed record step handed left) :
    Counted feed left [record] handed := by
  have noted : Counted { feed with stats := { feed.stats with records := feed.stats.records + 1 } }
      (feed.noteRecord record) [] [] := by
    unfold LiveFeed.noteRecord
    dsimp only
    split
    · exact .dropHeld _
    · exact .refl _
  obtain ⟨taken, ignored, corrupt, submitted, unbound, discarded, fed⟩ := noted
  cases accepts with
  | ignored is =>
    constructor <;> simp_all [LiveFeed.noteIgnored, relayedMessages, heldMessages]
  | foreign is => constructor <;> simp_all [relayedMessages, heldMessages]
  | first is free =>
    constructor <;> simp_all [LiveFeed.holding, relayedMessages, heldMessages]
  | @next relayed confirmed submission is held =>
    cases submission with
    | unbound refusal =>
      constructor <;> simp_all [LiveFeed.holding, Submission.after, Submission.isPassed,
        Submission.session?, fedBy, relayedMessages, heldMessages]
    | passed id isNew state? width? =>
      constructor <;> simp_all [LiveFeed.holding, Submission.after, Submission.isPassed,
        Submission.session?, fedBy, relayedMessages, heldMessages]
  | corrupt is =>
    have counted : Counted feed (feed.noteRecord record).noteCorrupt [record] [] := by
      constructor <;> simp_all [LiveFeed.noteCorrupt, relayedMessages, heldMessages]
    exact counted.trans (.dropHeld _)

theorem Releases.counted {feed left : LiveFeed} {handed : List Handed}
    (releases : Releases feed handed left) : Counted feed left [] handed := by
  obtain ⟨handling, ⟨held?⟩, fed, stats⟩ := feed
  cases releases with
  | nothing free =>
    cases free
    exact .refl _
  | @last relayed submission held =>
    cases held
    cases submission with
    | unbound refusal => exact ⟨rfl, rfl, rfl, rfl, rfl, rfl, rfl⟩
    | passed id isNew state? width? => exact ⟨rfl, rfl, rfl, rfl, rfl, rfl, rfl⟩

theorem FeedCourse.counted {φ : Type} [RecordSupply φ] {first? : Option FramedRecord}
    {supply final : φ} {feed last : LiveFeed} {records : List FramedRecord} {ending : FeedEnd}
    {handed : List Handed}
    (course : FeedCourse first? supply feed records ending handed final last) :
    Counted feed last records handed := by
  induction course with
  | stopped => exact .refl _
  | readFailed fetched =>
    split
    · exact .refl _
    · exact .dropHeld _
  | foreign fetched accepts => exact accepts.counted
  | scanFailed fetched accepts scanned => exact accepts.counted
  | scanned fetched accepts scanned others ih => exact accepts.counted.trans ih
  | goOn fetched accepts others ih => exact accepts.counted.trans ih

/-! ## Which records there are -/

/-- The records that a feed takes from a supply, why it takes no more of them, and what is left of
the supply. Behind a corrupt record there is a recovery scan. -/
inductive Reading {φ : Type} [RecordSupply φ] :
    Option FramedRecord → φ → List FramedRecord → FeedEnd → φ → Prop
  | stopped {first? : Option FramedRecord} {supply : φ} : Reading first? supply [] .stopped supply
  | readFailed {first? : Option FramedRecord} {supply after : φ} {reason : FeedError}
      (fetched : LiveFeed.fetch first? supply = (.error reason, after)) :
      Reading first? supply [] (.readFailed reason) after
  | foreign {first? : Option FramedRecord} {supply after : φ} {record : FramedRecord}
      {reason : FeedError} (fetched : LiveFeed.fetch first? supply = (.ok record, after))
      (is : LiveRecord.ofRecord record = .foreign reason) :
      Reading first? supply [record] (.foreign reason) after
  | scanFailed {first? : Option FramedRecord} {supply after behind : φ} {record : FramedRecord}
      {reason : FeedError} (fetched : LiveFeed.fetch first? supply = (.ok record, after))
      (is : (LiveRecord.ofRecord record).isCorrupt = true)
      (scanned : RecordSupply.rescan after = (.error reason, behind)) :
      Reading first? supply [record] (.scanFailed reason) behind
  | scanned {first? : Option FramedRecord} {supply after behind final : φ} {record : FramedRecord}
      {length : UInt16} {records : List FramedRecord} {ending : FeedEnd}
      (fetched : LiveFeed.fetch first? supply = (.ok record, after))
      (is : (LiveRecord.ofRecord record).isCorrupt = true)
      (scanned : RecordSupply.rescan after = (.ok length, behind))
      (others : Reading none behind records ending final) :
      Reading first? supply (record :: records) ending final
  | goOn {first? : Option FramedRecord} {supply after final : φ} {record : FramedRecord}
      {records : List FramedRecord} {ending : FeedEnd}
      (fetched : LiveFeed.fetch first? supply = (.ok record, after))
      (is : (LiveRecord.ofRecord record).isForeign = false ∧
        (LiveRecord.ofRecord record).isCorrupt = false)
      (others : Reading none after records ending final) :
      Reading first? supply (record :: records) ending final

theorem FeedCourse.reading {φ : Type} [RecordSupply φ] {first? : Option FramedRecord}
    {supply final : φ} {feed last : LiveFeed} {records : List FramedRecord} {ending : FeedEnd}
    {handed : List Handed}
    (course : FeedCourse first? supply feed records ending handed final last) :
    Reading first? supply records ending final := by
  induction course with
  | stopped => exact .stopped
  | readFailed fetched => exact .readFailed fetched
  | foreign fetched accepts =>
    cases accepts with
    | foreign is => exact .foreign fetched is
  | scanFailed fetched accepts scanned =>
    cases accepts with
    | corrupt is => exact .scanFailed fetched (by rw [is]; rfl) scanned
  | scanned fetched accepts scanned others ih =>
    cases accepts with
    | corrupt is => exact .scanned fetched (by rw [is]; rfl) scanned ih
  | goOn fetched accepts others ih =>
    refine .goOn fetched ?_ ih
    cases accepts with
    | first is free => simp [is]
    | next is held => simp [is]
    | ignored is => simp [is]

/-- Unless somebody asks to stop, the supply alone tells which records are taken. -/
theorem Reading.unique {φ : Type} [RecordSupply φ] {first? : Option FramedRecord}
    {supply final final' : φ} {records records' : List FramedRecord} {ending ending' : FeedEnd}
    (reading : Reading first? supply records ending final) (going : ending ≠ .stopped)
    (reading' : Reading first? supply records' ending' final') (going' : ending' ≠ .stopped) :
    records = records' ∧ ending = ending' ∧ final = final' := by
  -- what is fetched, what the record is and how the scan goes are the same in both readings
  induction reading generalizing records' with
  | stopped => exact absurd rfl going
  | readFailed fetched => cases reading' <;> simp_all
  | foreign fetched is => cases reading' <;> simp_all
  | scanFailed fetched is scanned => cases reading' <;> simp_all
  | scanned fetched is scanned others ih =>
    cases reading' with
    | scanned fetched' is' scanned' others' =>
      cases fetched.symm.trans fetched'
      cases scanned.symm.trans scanned'
      obtain ⟨rfl, rfl, rfl⟩ := ih going others'
      exact ⟨rfl, rfl, rfl⟩
    | _ => simp_all
  | goOn fetched is others ih =>
    cases reading' with
    | goOn fetched' is' others' =>
      cases fetched.symm.trans fetched'
      obtain ⟨rfl, rfl, rfl⟩ := ih going others'
      exact ⟨rfl, rfl, rfl⟩
    | _ => simp_all

/-- Whether a feed ended at a record of a table dump. -/
def FeedEnd.isForeign : FeedEnd → Bool
  | foreign _ => true
  | _ => false

/-- A record is exactly one of four things. -/
theorem LiveRecord.kinds (record : LiveRecord) :
    record.message?.toList.length + (if record.isIgnored then 1 else 0) +
      (if record.isCorrupt then 1 else 0) + (if record.isForeign then 1 else 0) = 1 := by
  cases record <;> rfl

theorem length_eq_kinds (records : List FramedRecord) :
    records.length = (relayedMessages records).length +
      (records.countP fun record => (LiveRecord.ofRecord record).isIgnored) +
      (records.countP fun record => (LiveRecord.ofRecord record).isCorrupt) +
      records.countP fun record => (LiveRecord.ofRecord record).isForeign := by
  induction records with
  | nil => rfl
  | cons record rest ih =>
    have kinds := (LiveRecord.ofRecord record).kinds
    have messages : (relayedMessages (record :: rest)).length =
        (LiveRecord.ofRecord record).message?.toList.length + (relayedMessages rest).length :=
      List.length_append
    simp only [messages, List.length_cons, List.countP_cons]
    omega

/-- At most the last record belongs to a table dump, and then it ends the feed. -/
theorem Reading.countP_isForeign {φ : Type} [RecordSupply φ] {first? : Option FramedRecord}
    {supply final : φ} {records : List FramedRecord} {ending : FeedEnd}
    (reading : Reading first? supply records ending final) :
    (records.countP fun record => (LiveRecord.ofRecord record).isForeign) =
      ending.isForeign.toNat := by
  have other {record : FramedRecord} (corrupt : (LiveRecord.ofRecord record).isCorrupt = true) :
      ¬ (LiveRecord.ofRecord record).isForeign = true := by
    cases is : LiveRecord.ofRecord record <;> simp [is] at corrupt ⊢
  induction reading with
  | stopped => rfl
  | readFailed fetched => rfl
  | foreign fetched is =>
    rw [List.countP_cons, if_pos (by rw [is]; rfl)]
    rfl
  | scanFailed fetched is scanned =>
    rw [List.countP_cons, if_neg (other is)]
    rfl
  | scanned fetched is scanned others ih =>
    rw [List.countP_cons, if_neg (other is), ih, Nat.add_zero]
  | goOn fetched is others ih =>
    rw [List.countP_cons, if_neg (ne_true_of_eq_false is.1), ih, Nat.add_zero]

/-! ## The whole feed -/

/-- A message is decoded from its written form, behind four octets of microseconds in some
records. -/
theorem LiveRecord.body_of_message {record : FramedRecord} {relayed : RelayedMessage}
    (is : ofRecord record = .message relayed) :
    ∃ time field, relayed.Writable field ∧ record.body = time ++ relayed.encode field := by
  have inside {subtype : UInt16} {body : Octets}
      (decoded : ofDecoded (RelayRecord.decode subtype body) = .message relayed) :
      ∃ field, relayed.Writable field ∧ body = relayed.encode field := by
    cases made : RelayRecord.decode subtype body with
    | error e => rw [made] at decoded; cases decoded
    | ok found =>
      rw [made] at decoded
      cases found with
      | ignored known => cases decoded
      | message other =>
        cases decoded
        exact (RelayRecord.decode_eq_message_iff.1 made).2
  unfold ofRecord at is
  split at is
  · obtain ⟨field, writable, body⟩ := inside is
    exact ⟨[], field, writable, body⟩
  · rw [RelayRecord.decodeTimed] at is
    split at is
    next time rest read =>
      obtain ⟨field, writable, rfl⟩ := inside is
      exact ⟨_, field, writable, Reader.run_u32_eq_ok_iff.1 read⟩
    next => cases is
  · cases is
  · cases is
  · cases is

namespace Handed

/-- The message in the queue, if it came there. -/
def message? : Handed → Option Message
  | ⟨relayed, .passed id _ _ _⟩ => some (fromPeer id relayed)
  | ⟨_, .unbound _⟩ => none

theorem passedOn_calls (handling : Handling) (handed : Handed) :
    passedOn (handed.calls handling) = handed.message?.toList := by
  obtain ⟨relayed, submission⟩ := handed
  cases submission with
  | unbound refusal => rfl
  | passed id isNew state? width? =>
    have bound : passedOn (bindCalls handling relayed (.ok (id, isNew))) = [] := by
      cases isNew <;> rfl
    have established : passedOn (establishCalls id state?) = [] := by
      unfold establishCalls
      split <;> rfl
    have learnt : passedOn (widthCalls id relayed.width width?) = [] := by
      unfold widthCalls
      split <;> rfl
    rw [calls, passedOn_append, passedOn_append, passedOn_append, bound, established, learnt]
    rfl

end Handed

theorem passedOn_handedCalls (handling : Handling) (handed : List Handed) :
    passedOn (handedCalls handling handed) = handed.filterMap Handed.message? := by
  induction handed with
  | nil => rfl
  | cons one rest ih =>
    rw [handedCalls, List.flatMap_cons, passedOn_append, one.passedOn_calls]
    change _ ++ passedOn (handedCalls handling rest) = _
    rw [ih]
    cases made : one.message? with
    | none => rw [List.filterMap_cons_none made]; rfl
    | some message => rw [List.filterMap_cons_some made]; rfl

/-- Only deeds pass messages on. -/
theorem passedOn_deeds (exchanges : List Exchange) :
    passedOn (deeds exchanges) = passedOn exchanges := by
  rw [passedOn, deeds, List.filterMap_filter, passedOn]
  refine List.filterMap_congr fun exchange _ => ?_
  cases exchange <;> rfl

theorem passedOn_stopCalls (ids : List SessionId) : passedOn (stopCalls ids) = [] := by
  induction ids with
  | nil => rfl
  | cons id rest ih => exact ih

/-- What was handed and went into the queue is all that is passed on. -/
theorem passedOn_eq_of_deeds_eq {handling : Handling} {exchanges : List Exchange}
    {handed : List Handed} {ids : List SessionId}
    (calls : deeds exchanges = handedCalls handling handed ++ stopCalls ids) :
    passedOn exchanges = handed.filterMap Handed.message? := by
  rw [← passedOn_deeds, calls, passedOn_append, passedOn_handedCalls, passedOn_stopCalls,
    List.append_nil]

namespace LiveFeed.Comes

variable {φ : Type} [RecordSupply φ] {feed left : LiveFeed} {first? : Option FramedRecord}
  {supply final : φ} {records : List FramedRecord} {ending : FeedEnd} {handed : List Handed}

theorem reading (comes : feed.Comes first? supply records ending handed final left) :
    Reading first? supply records ending final := by
  obtain ⟨before, taken, last, course, releases, rfl⟩ := comes
  exact course.reading

theorem counted (comes : feed.Comes first? supply records ending handed final left) :
    Counted feed left records handed := by
  obtain ⟨before, taken, last, course, releases, rfl⟩ := comes
  have both := course.counted.trans releases.counted
  rwa [List.append_nil] at both

/-- Nothing is held in the end. -/
theorem heldMessages_eq_nil (comes : feed.Comes first? supply records ending handed final left) :
    heldMessages left = [] := by
  obtain ⟨before, taken, last, course, releases, rfl⟩ := comes
  cases releases with
  | nothing free => rfl
  | last held => exact congrArg (Option.toList ∘ Holdback.held?) (Submission.held?_after _ _)

/-- A new feed submits the messages that what comes behind them confirms. -/
theorem order {handling : Handling}
    (comes : (new handling).Comes first? supply records ending handed final left) :
    handed.map Handed.relayed = released records ending := by
  obtain ⟨before, taken, last, course, releases, rfl⟩ := comes
  have rest : last.map Handed.relayed = heldMessages taken := by
    cases releases with
    | nothing free => exact (congrArg Option.toList free).symm
    | last held => exact (congrArg Option.toList held).symm
  rw [List.map_append, rest, course.order, show heldMessages (new handling) = [] from rfl, ite_self,
    List.nil_append]

end LiveFeed.Comes

/-- What a new feed comes to that takes the given records and ends for the given reason, if the
queue takes every message. It is told by the messages that are submitted, in order, each with what
came of its submission. -/
structure Conserved (handling : Handling) (stats : LiveStats) (outcome : Except FeedError Unit)
    (exchanges : List Exchange) (records : List FramedRecord) (ending : FeedEnd)
    (handed : List Handed) : Prop where
  /-- The messages that are submitted are those that what comes behind them confirms. -/
  order : handed.map Handed.relayed = released records ending
  /-- They are messages of the records in the order in which they came, each one at most once. -/
  sublist : (released records ending).Sublist (relayedMessages records)
  /-- A message is octet by octet what the body of its record holds behind its head. -/
  unchanged : ∀ record ∈ records, ∀ relayed, LiveRecord.ofRecord record = .message relayed →
    ∃ time field, relayed.Writable field ∧ record.body = time ++ relayed.encode field
  /-- Besides looks there are the calls by which messages are submitted, and in the end those by
  which the sessions that were fed are stopped. -/
  calls : deeds exchanges = handedCalls handling handed ++ stopCalls (fedBy [] handed)
  /-- The queue takes the messages for which a session can be had. -/
  messages : passedOn exchanges = handed.filterMap Handed.message?
  /-- Somebody is seen to ask for a stop exactly if that is why the feed ends. -/
  stop : NeverStopped exchanges ↔ ending ≠ .stopped
  outcome_eq : outcome = ending.outcome
  submitted : stats.submitted = handed.countP fun one => one.submission.isPassed
  unbound : stats.unbound = handed.countP fun one => !one.submission.isPassed
  /-- All other messages are counted as dropped. -/
  discarded : stats.discarded + (released records ending).length = (relayedMessages records).length
  /-- Every message is accounted for. -/
  balance : (relayedMessages records).length = stats.submitted + stats.unbound + stats.discarded
  /-- Every record is accounted for. -/
  taken : stats.records = records.length ∧
    stats.records = (relayedMessages records).length + stats.ignored + stats.corrupt +
      ending.isForeign.toNat

namespace LiveFeed

variable {ω φ : Type} [Surroundings ω] [RecordSupply φ]

/-- If the queue takes every message, a new feed accounts for all records that it takes and for all
their messages, whatever the sessions do and whenever somebody asks to stop. -/
theorem conserved_run (handling : Handling) (first? : Option FramedRecord) (supply : φ) (world : ω)
    (taken : QueueOpen (exchangesOf ((new handling).run first? supply) world)) :
    ∃ records ending handed,
      Reading first? supply records ending
        (((new handling).run first? supply : StateM ω _).run world).1.2.2 ∧
      Conserved handling (((new handling).run first? supply : StateM ω _).run world).1.1
        (((new handling).run first? supply : StateM ω _).run world).1.2.1
        (exchangesOf ((new handling).run first? supply) world) records ending handed := by
  rw [(SameRun.inherited.liveFeed_run (new handling) first? supply).run_eq world]
  obtain ⟨records, ending, handed, left, comes, stats_eq, outcome, calls, stop⟩ :=
    (ensures_run (new handling) first? supply).exchangesOf world taken
  refine ⟨records, ending, handed, comes.reading, ?_⟩
  have counted := comes.counted
  have order := comes.order
  have number : handed.length = (released records ending).length := by
    rw [← order, List.length_map]
  have submitted := counted.submitted.trans (Nat.zero_add _)
  have unbound := counted.unbound.trans (Nat.zero_add _)
  have discarded := counted.discarded
  rw [comes.heldMessages_eq_nil, show heldMessages (new handling) = [] from rfl] at discarded
  simp only [new, LiveStats.zero, List.length_nil] at discarded
  have either := List.length_eq_countP_add_countP (fun one => one.submission.isPassed) (l := handed)
  simp only [Bool.not_eq_true, Bool.decide_eq_false] at either
  have all := length_eq_kinds records
  rw [comes.reading.countP_isForeign] at all
  have ignored := counted.ignored.trans (Nat.zero_add _)
  have corrupt := counted.corrupt.trans (Nat.zero_add _)
  have recorded := counted.taken.trans (Nat.zero_add _)
  rw [stats_eq]
  exact {
    order := order
    sublist := released_sublist records ending
    unchanged := fun record _ relayed is => LiveRecord.body_of_message is
    calls := by rw [calls, counted.fed]; rfl
    messages := passedOn_eq_of_deeds_eq calls
    stop := stop
    outcome_eq := outcome
    submitted := submitted
    unbound := unbound
    discarded := by
      show left.stats.discarded + _ = _
      omega
    balance := by
      show _ = left.stats.submitted + left.stats.unbound + left.stats.discarded
      omega
    taken := by
      show left.stats.records = _ ∧
        left.stats.records = _ + left.stats.ignored + left.stats.corrupt + _
      omega }

/-- A record with a message of a router, whose address ends in an octet. -/
def relayRecord (last : UInt8) : Octets :=
  [0x65, 0x53, 0xF1, 0, 0, 0x10, 0, 1, 0, 0, 0, 0x29,
    0xFD, 0xE9, 0x19, 0x2F, 0, 0, 0, 1, 192, 0, 2, last, 198, 51, 100, 1] ++
  List.replicate 16 0xFF ++ [0, 25, 2, 0, 0, 0, 0, 8, 10]

/-- A record of a subtype that is not known. -/
def strangeRecord : Octets :=
  [0x65, 0x53, 0xF1, 0, 0, 0x10, 0, 9, 0, 0, 0, 0x29] ++ List.replicate 41 0

/-- A stream of four messages with a strange record in the middle. -/
def brokenStream : Octets :=
  relayRecord 1 ++ relayRecord 2 ++ strangeRecord ++ relayRecord 3 ++ relayRecord 4

/-- The framer of a stream of octets, with the usual limits. -/
def framerOf (octets : Octets) : Framer :=
  Framer.ofSource (Source.ofOctets octets) LengthLimits.usual

/-- Of the messages in front of the strange record the first one is submitted and the second one is
dropped. The third one is passed over by the recovery scan, and the last one is submitted at the end
of the stream. -/
theorem conserved_run_brokenStream :
    ∃ records ending handed,
      Reading none (framerOf brokenStream) records ending
        (((new .label).run none (framerOf brokenStream) : StateM Logbook _).run
          Logbook.blank).1.2.2 ∧
      Conserved .label
        (((new .label).run none (framerOf brokenStream) : StateM Logbook _).run Logbook.blank).1.1
        (((new .label).run none (framerOf brokenStream) : StateM Logbook _).run Logbook.blank).1.2.1
        (exchangesOf ((new .label).run none (framerOf brokenStream)) Logbook.blank)
        records ending handed ∧
      (((new .label).run none (framerOf brokenStream) : StateM Logbook _).run Logbook.blank).1.1 =
        { records := 4, submitted := 2, discarded := 1, ignored := 0, corrupt := 1, unbound := 0,
          sessions := 2 } := by
  obtain ⟨records, ending, handed, reading, conserved⟩ :=
    conserved_run .label none (framerOf brokenStream) Logbook.blank (by decide +kernel)
  exact ⟨records, ending, handed, reading, conserved, by decide +kernel⟩

end LiveFeed

end CollectorFeed
