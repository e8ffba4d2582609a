import CollectorFeed.Conversation.LiveFeed
import CollectorFeed.Proofs.Conversation.Minutes

/-!
# The course of a live feed

What a live feed does is told by the records that it takes and by how the submission of each message
goes (`Submission`). `Accepts` says what a record makes of the feed, and `FeedCourse` what all
records of a supply make of it until the feed ends. The lemmas from `ensures_submit` to
`ensures_run` open the functions of the feed in these terms, for surroundings in which the queue
takes every message.
-/

set_option autoImplicit false

namespace CollectorFeed

/-! ## Submissions -/

/-- How the submission of a message goes if the queue takes it. -/
inductive Submission
  /-- No session can be had for it. -/
  | unbound (refusal : SessionRefusal)
  /-- It goes into the queue, for a session that was there before or is new. The state and the width
  are those that the session is found with. -/
  | passed (id : SessionId) (isNew : Bool) (state? : Option SessionState) (width? : Option AsnWidth)

namespace Submission

/-- Whether the message goes into the queue. -/
def isPassed : Submission → Bool
  | unbound _ => false
  | passed _ _ _ _ => true

/-- The session, if there is one. -/
def session? : Submission → Option SessionId
  | unbound _ => none
  | passed id _ _ _ => some id

/-- What a submission makes of the feed. -/
def after (feed : LiveFeed) : Submission → LiveFeed
  | unbound _ => { feed with stats := { feed.stats with unbound := feed.stats.unbound + 1 } }
  | passed id _ _ _ =>
    { feed with
      fed := insertSession id feed.fed
      stats := { feed.stats with submitted := feed.stats.submitted + 1 } }

end Submission

/-- The calls by which the session of a message is found or created. -/
def bindCalls (handling : Handling) (relayed : RelayedMessage) :
    Except SessionRefusal (SessionId × Bool) → List Exchange
  | .ok (id, false) => [.find (LiveFeed.keyOf relayed) (some id)]
  | .ok (id, true) =>
    [.find (LiveFeed.keyOf relayed) none,
      .create (LiveFeed.keyOf relayed) handling (some relayed.width) (.ok id)]
  | .error refusal =>
    [.find (LiveFeed.keyOf relayed) none,
      .create (LiveFeed.keyOf relayed) handling (some relayed.width) (.error refusal)]

/-- The calls by which a session is established that is found in a state. -/
def establishCalls (id : SessionId) (state? : Option SessionState) : List Exchange :=
  .state id state? ::
    if state? = some .established then [] else [.setState id .established .none]

/-- The calls by which the width of a session is noted that is found with one or with none. -/
def widthCalls (id : SessionId) (width : AsnWidth) (width? : Option AsnWidth) : List Exchange :=
  .width id width? :: if width?.isSome then [] else [.setWidth id width]

/-- The message of a session as it goes into the queue. -/
def fromPeer (id : SessionId) (relayed : RelayedMessage) : Message :=
  ⟨id, .fromPeer, relayed.message⟩

/-- A message that was submitted, and how its submission went. -/
structure Handed where
  /-- The message. -/
  relayed : RelayedMessage
  /-- How its submission went. -/
  submission : Submission

namespace Handed

/-- The calls by which a message is submitted. -/
def calls (handling : Handling) : Handed → List Exchange
  | ⟨relayed, .unbound refusal⟩ => bindCalls handling relayed (.error refusal)
  | ⟨relayed, .passed id isNew state? width?⟩ =>
    bindCalls handling relayed (.ok (id, isNew)) ++ establishCalls id state? ++
      widthCalls id relayed.width width? ++
      [.passOn (fromPeer id relayed) (.ok ()), .countMessage id]

end Handed

variable {ω : Type} [Surroundings ω]

theorem Ensures.watchBind {φ α : Type} [RecordSupply φ] {supply : φ}
    {next : StateM (Minutes ω) α} {property : α → List Exchange → Prop}
    (second : Ensures next fun result back =>
      property result (.observe (RecordSupply.touched supply) :: back)) :
    Ensures (Surroundings.watch supply >>= fun _ => next) property :=
  .askBind fun _ => second

theorem Surroundings.ensures_findOrCreate (handling : Handling) (relayed : RelayedMessage) :
    Ensures (findOrCreate (LiveFeed.keyOf relayed) handling (some relayed.width) :
      StateM (Minutes ω) _) fun result made => made = bindCalls handling relayed result := by
  unfold findOrCreate
  refine .askBind fun found? => ?_
  cases found? with
  | some id => exact .pure rfl
  | none =>
    refine .askBind fun created => ?_
    cases created with
    | ok id => exact .pure rfl
    | error refusal => exact .pure rfl

namespace LiveFeed

theorem ensures_establish (id : SessionId) :
    Ensures (establish id : StateM (Minutes ω) _) fun _ made =>
      ∃ state?, made = establishCalls id state? := by
  unfold establish
  refine .askBind fun state? => ?_
  split
  case isTrue other => exact .ask fun _ => ⟨state?, by rw [establishCalls, if_neg other]⟩
  case isFalse same =>
    exact .pure ⟨state?, by rw [establishCalls, if_pos (Classical.not_not.1 same)]⟩

theorem ensures_learnWidth (id : SessionId) (width : AsnWidth) :
    Ensures (learnWidth id width : StateM (Minutes ω) _) fun _ made =>
      ∃ width?, made = widthCalls id width width? := by
  unfold learnWidth
  refine .askBind fun width? => ?_
  split
  case isTrue unknown =>
    refine .ask fun _ => ⟨width?, ?_⟩
    rw [widthCalls, Option.isNone_iff_eq_none.1 unknown]
    rfl
  case isFalse known =>
    refine .pure ⟨width?, ?_⟩
    rw [widthCalls, if_pos (Option.isNone_eq_false_iff.1 (eq_false_of_ne_true known))]

/-- A submission in which the queue takes the message. -/
theorem ensures_submit (feed : LiveFeed) (relayed : RelayedMessage) :
    Ensures (feed.submit relayed : StateM (Minutes ω) _) fun result made =>
      QueueOpen made → ∃ submission : Submission,
        made = Handed.calls feed.handling ⟨relayed, submission⟩ ∧
        result = (.ok (), submission.after feed) := by
  unfold submit
  refine .bind (Surroundings.ensures_findOrCreate feed.handling relayed) ?_
  rintro (refusal | ⟨id, isNew⟩) bound rfl
  · exact .pure fun _ => ⟨.unbound refusal, List.append_nil _, rfl⟩
  · refine .bind (ensures_establish id) ?_
    rintro _ established ⟨state?, rfl⟩
    refine .bind (ensures_learnWidth id relayed.width) ?_
    rintro _ learnt ⟨width?, rfl⟩
    refine .askBind fun answer => ?_
    cases answer with
    | error refusal =>
      refine .pure fun taken => ?_
      simp [Exchange.isRefusal] at taken
    | ok _ =>
      refine .askBind fun _ => .pure fun _ => ⟨.passed id isNew state? width?, ?_, rfl⟩
      simp [Handed.calls, fromPeer]

end LiveFeed

/-! ## One record -/

/-- The calls by which messages are submitted. -/
def handedCalls (handling : Handling) (handed : List Handed) : List Exchange :=
  handed.flatMap (Handed.calls handling)

theorem handedCalls_append (handling : Handling) (front back : List Handed) :
    handedCalls handling (front ++ back) = handedCalls handling front ++ handedCalls handling back :=
  List.flatMap_append

namespace LiveFeed

/-- A feed that holds a message. -/
def holding (feed : LiveFeed) (relayed : RelayedMessage) : LiveFeed :=
  { feed with pending := ⟨some relayed⟩ }

/-- The feed with a record counted that has nothing to pass on. -/
def noteIgnored (feed : LiveFeed) : LiveFeed :=
  { feed with stats := { feed.stats with ignored := feed.stats.ignored + 1 } }

/-- The feed with a record counted that cannot be decoded. -/
def noteCorrupt (feed : LiveFeed) : LiveFeed :=
  { feed with stats := { feed.stats with corrupt := feed.stats.corrupt + 1 } }

end LiveFeed

/-- What a record makes of a feed: how the feed goes on, what is submitted, and what the feed is
afterwards. -/
inductive Accepts (feed : LiveFeed) (record : FramedRecord) :
    LiveStep → List Handed → LiveFeed → Prop
  /-- A message is held, and none was held before. -/
  | first {relayed : RelayedMessage} (is : LiveRecord.ofRecord record = .message relayed)
      (free : (feed.noteRecord record).pending.held? = none) :
      Accepts feed record .goOn [] ((feed.noteRecord record).holding relayed)
  /-- A message is held, and the one that was held is submitted. -/
  | next {relayed confirmed : RelayedMessage} {submission : Submission}
      (is : LiveRecord.ofRecord record = .message relayed)
      (held : (feed.noteRecord record).pending.held? = some confirmed) :
      Accepts feed record .goOn [⟨confirmed, submission⟩]
        (submission.after ((feed.noteRecord record).holding relayed))
  | ignored {subtype : RelaySubtype} (is : LiveRecord.ofRecord record = .ignored subtype) :
      Accepts feed record .goOn [] (feed.noteRecord record).noteIgnored
  | corrupt {reason : FeedError} (is : LiveRecord.ofRecord record = .corrupt reason) :
      Accepts feed record .rescan [] (feed.noteRecord record).noteCorrupt.dropHeld
  | foreign {reason : FeedError} (is : LiveRecord.ofRecord record = .foreign reason) :
      Accepts feed record (.ended (.error reason)) [] (feed.noteRecord record)

/-- What a feed that is given a record comes to if the queue takes every message. -/
def Accepted (feed : LiveFeed) (record : FramedRecord) (result : LiveStep × LiveFeed)
    (made : List Exchange) : Prop :=
  QueueOpen made → ∃ handed, Accepts feed record result.1 handed result.2 ∧
    made = handedCalls feed.handling handed

namespace LiveFeed

@[simp] theorem handling_dropHeld (feed : LiveFeed) : feed.dropHeld.handling = feed.handling := by
  unfold dropHeld
  split <;> rfl

@[simp] theorem handling_noteRecord (feed : LiveFeed) (record : FramedRecord) :
    (feed.noteRecord record).handling = feed.handling := by
  unfold noteRecord
  split
  · exact handling_dropHeld _
  · rfl

theorem ensures_accept (feed : LiveFeed) (record : FramedRecord) :
    Ensures (feed.accept record : StateM (Minutes ω) _) (Accepted feed record) := by
  unfold accept
  cases is : LiveRecord.ofRecord record with
  | ignored subtype => exact .pure fun _ => ⟨[], .ignored is, rfl⟩
  | corrupt reason => exact .pure fun _ => ⟨[], .corrupt is, rfl⟩
  | foreign reason => exact .pure fun _ => ⟨[], .foreign is, rfl⟩
  | message relayed =>
    dsimp only
    unfold hold
    cases held : (feed.noteRecord record).pending.held? with
    | none =>
      rw [show (feed.noteRecord record).pending.confirm relayed = (none, ⟨some relayed⟩) from
        Prod.ext held rfl]
      exact .pure fun _ => ⟨[], .first is held, rfl⟩
    | some confirmed =>
      rw [show (feed.noteRecord record).pending.confirm relayed =
        (some confirmed, ⟨some relayed⟩) from Prod.ext held rfl]
      refine .bind (ensures_submit ((feed.noteRecord record).holding relayed) confirmed) ?_
      rintro ⟨answer, left⟩ front submitted
      cases answer with
      | error refusal =>
        refine .pure fun taken => ?_
        rw [List.append_nil] at taken
        obtain ⟨submission, -, same⟩ := submitted taken
        cases (Prod.mk.inj same).1
      | ok _ =>
        refine .pure fun taken => ?_
        rw [List.append_nil] at taken ⊢
        obtain ⟨submission, made, same⟩ := submitted taken
        obtain ⟨-, rfl⟩ := Prod.mk.inj same
        refine ⟨[⟨confirmed, submission⟩], .next is held, ?_⟩
        rw [made, handedCalls, List.flatMap_singleton]
        exact congrArg (Handed.calls · _) (handling_noteRecord feed record)

end LiveFeed

theorem Submission.handling_after (feed : LiveFeed) (submission : Submission) :
    (submission.after feed).handling = feed.handling := by
  cases submission <;> rfl

theorem Accepts.handling_eq {feed left : LiveFeed} {record : FramedRecord} {step : LiveStep}
    {handed : List Handed} (accepts : Accepts feed record step handed left) :
    left.handling = feed.handling := by
  cases accepts with
  | first is free => exact feed.handling_noteRecord record
  | next is held => exact (Submission.handling_after _ _).trans (feed.handling_noteRecord record)
  | ignored is => exact feed.handling_noteRecord record
  | corrupt is => exact (LiveFeed.handling_dropHeld _).trans (feed.handling_noteRecord record)
  | foreign is => exact feed.handling_noteRecord record

/-! ## All records -/

/-- Why a feed takes no more records. -/
inductive FeedEnd
  /-- Somebody asked to stop. -/
  | stopped
  /-- There is no next record. -/
  | readFailed (reason : FeedError)
  /-- The recovery scan behind a corrupt record failed. -/
  | scanFailed (reason : FeedError)
  /-- The last record belongs to a table dump. -/
  | foreign (reason : FeedError)

namespace FeedEnd

/-- How a feed has ended. The end of the stream and a request to stop are good ends. -/
def outcome : FeedEnd → Except FeedError Unit
  | stopped => .ok ()
  | readFailed reason => if reason.isEndOfFeed then .ok () else .error reason
  | scanFailed reason | foreign reason => .error reason

end FeedEnd

/-- What the records of a supply make of a feed until it ends: the records, why it ends, what is
submitted, and what is left of the supply and of the feed. -/
inductive FeedCourse {φ : Type} [RecordSupply φ] : Option FramedRecord → φ → LiveFeed →
    List FramedRecord → FeedEnd → List Handed → φ → LiveFeed → Prop
  | stopped {first? : Option FramedRecord} {supply : φ} {feed : LiveFeed} :
      FeedCourse first? supply feed [] .stopped [] supply feed
  | readFailed {first? : Option FramedRecord} {supply after : φ} {feed : LiveFeed}
      {reason : FeedError} (fetched : LiveFeed.fetch first? supply = (.error reason, after)) :
      FeedCourse first? supply feed [] (.readFailed reason) [] after
        (if reason.isEndOfFeed then feed else feed.dropHeld)
  | foreign {first? : Option FramedRecord} {supply after : φ} {feed left : LiveFeed}
      {record : FramedRecord} {reason : FeedError} {handed : List Handed}
      (fetched : LiveFeed.fetch first? supply = (.ok record, after))
      (accepts : Accepts feed record (.ended (.error reason)) handed left) :
      FeedCourse first? supply feed [record] (.foreign reason) handed after left
  | scanFailed {first? : Option FramedRecord} {supply after behind : φ} {feed left : LiveFeed}
      {record : FramedRecord} {reason : FeedError} {handed : List Handed}
      (fetched : LiveFeed.fetch first? supply = (.ok record, after))
      (accepts : Accepts feed record .rescan handed left)
      (scanned : RecordSupply.rescan after = (.error reason, behind)) :
      FeedCourse first? supply feed [record] (.scanFailed reason) handed behind left
  | scanned {first? : Option FramedRecord} {supply after behind final : φ}
      {feed left last : LiveFeed} {record : FramedRecord} {length : UInt16}
      {records : List FramedRecord} {ending : FeedEnd} {handed later : List Handed}
      (fetched : LiveFeed.fetch first? supply = (.ok record, after))
      (accepts : Accepts feed record .rescan handed left)
      (scanned : RecordSupply.rescan after = (.ok length, behind))
      (others : FeedCourse none behind left records ending later final last) :
      FeedCourse first? supply feed (record :: records) ending (handed ++ later) final last
  | goOn {first? : Option FramedRecord} {supply after final : φ} {feed left last : LiveFeed}
      {record : FramedRecord} {records : List FramedRecord} {ending : FeedEnd}
      {handed later : List Handed}
      (fetched : LiveFeed.fetch first? supply = (.ok record, after))
      (accepts : Accepts feed record .goOn handed left)
      (others : FeedCourse none after left records ending later final last) :
      FeedCourse first? supply feed (record :: records) ending (handed ++ later) final last

theorem FeedCourse.handling_eq {φ : Type} [RecordSupply φ] {first? : Option FramedRecord}
    {supply final : φ} {feed last : LiveFeed} {records : List FramedRecord} {ending : FeedEnd}
    {handed : List Handed}
    (course : FeedCourse first? supply feed records ending handed final last) :
    last.handling = feed.handling := by
  induction course with
  | stopped => rfl
  | readFailed fetched =>
    split
    · rfl
    · exact LiveFeed.handling_dropHeld _
  | foreign fetched accepts => exact accepts.handling_eq
  | scanFailed fetched accepts scanned => exact accepts.handling_eq
  | scanned fetched accepts scanned others ih => exact ih.trans accepts.handling_eq
  | goOn fetched accepts others ih => exact ih.trans accepts.handling_eq

/-- The calls besides looks for a request to stop and remarks on how far the stream was read. -/
def deeds (exchanges : List Exchange) : List Exchange :=
  exchanges.filter fun exchange => !exchange.isLook

@[simp] theorem deeds_append (front back : List Exchange) :
    deeds (front ++ back) = deeds front ++ deeds back :=
  List.filter_append _ _

theorem isStop_of_not_isLook {exchange : Exchange} (deed : exchange.isLook = false) :
    exchange.isStop = false := by
  cases exchange with
  | isCancelled answer => cases deed
  | _ => rfl

theorem deeds_eq_self {exchanges : List Exchange}
    (deed : ∀ exchange ∈ exchanges, exchange.isLook = false) : deeds exchanges = exchanges :=
  List.filter_eq_self.2 fun exchange there => by
    rw [deed exchange there]
    rfl

theorem neverStopped_of_deeds {exchanges : List Exchange}
    (deed : ∀ exchange ∈ exchanges, exchange.isLook = false) : NeverStopped exchanges :=
  fun exchange there => isStop_of_not_isLook (deed exchange there)

/-- Submitting is no look. -/
theorem Handed.isLook_of_mem_calls (handling : Handling) (handed : Handed) :
    ∀ exchange ∈ handed.calls handling, exchange.isLook = false := by
  obtain ⟨relayed, submission⟩ := handed
  cases submission with
  | unbound refusal => exact List.forall_mem_cons.2 ⟨rfl, List.forall_mem_singleton.2 rfl⟩
  | passed id isNew state? width? =>
    have bound : ∀ exchange ∈ bindCalls handling relayed (.ok (id, isNew)),
        exchange.isLook = false := by
      cases isNew with
      | false => exact List.forall_mem_singleton.2 rfl
      | true => exact List.forall_mem_cons.2 ⟨rfl, List.forall_mem_singleton.2 rfl⟩
    have established : ∀ exchange ∈ establishCalls id state?, exchange.isLook = false := by
      unfold establishCalls
      split <;> simp [Exchange.isLook]
    have learnt : ∀ exchange ∈ widthCalls id relayed.width width?, exchange.isLook = false := by
      unfold widthCalls
      split <;> simp [Exchange.isLook]
    refine List.forall_mem_append.2 ⟨List.forall_mem_append.2 ⟨List.forall_mem_append.2
      ⟨bound, established⟩, learnt⟩, ?_⟩
    exact List.forall_mem_cons.2 ⟨rfl, List.forall_mem_singleton.2 rfl⟩

theorem isLook_of_mem_handedCalls {handling : Handling} {handed : List Handed} :
    ∀ exchange ∈ handedCalls handling handed, exchange.isLook = false := by
  intro exchange there
  obtain ⟨one, -, made⟩ := List.mem_flatMap.1 there
  exact one.isLook_of_mem_calls handling exchange made

/-- The calls of a feed that takes records: it submits what is handed, and it is seen that somebody
asked to stop exactly if that is why the feed ends. -/
structure Noted (handling : Handling) (ending : FeedEnd) (handed : List Handed)
    (made : List Exchange) : Prop where
  deeds_eq : deeds made = handedCalls handling handed
  neverStopped : NeverStopped made ↔ ending ≠ .stopped

namespace Noted

variable {handling : Handling} {ending : FeedEnd} {handed later : List Handed}
  {back : List Exchange}

theorem nothing (other : ending ≠ .stopped) : Noted handling ending [] [] :=
  ⟨rfl, fun _ => other, fun _ => neverStopped_nil⟩

theorem look (noted : Noted handling ending handed back) :
    Noted handling ending handed (.isCancelled false :: back) :=
  ⟨noted.deeds_eq, (neverStopped_cons _ _).trans ((and_iff_right rfl).trans noted.neverStopped)⟩

theorem observe (noted : Noted handling ending handed back) (touched : Nat) :
    Noted handling ending handed (.observe touched :: back) :=
  ⟨noted.deeds_eq, (neverStopped_cons _ _).trans ((and_iff_right rfl).trans noted.neverStopped)⟩

theorem hand (noted : Noted handling ending later back) (handed : List Handed) :
    Noted handling ending (handed ++ later) (handedCalls handling handed ++ back) := by
  have calm : NeverStopped (handedCalls handling handed) :=
    neverStopped_of_deeds isLook_of_mem_handedCalls
  constructor
  · rw [deeds_append, deeds_eq_self isLook_of_mem_handedCalls, noted.deeds_eq, handedCalls_append]
  · rw [neverStopped_append, and_iff_right calm, noted.neverStopped]

end Noted

/-- What a feed that takes records comes to if the queue takes every message. -/
def Takes {φ : Type} [RecordSupply φ] (first? : Option FramedRecord) (supply : φ) (feed : LiveFeed)
    (result : Except FeedError Unit × φ × LiveFeed) (made : List Exchange) : Prop :=
  QueueOpen made → ∃ records ending handed,
    FeedCourse first? supply feed records ending handed result.2.1 result.2.2 ∧
    result.1 = ending.outcome ∧ Noted feed.handling ending handed made

namespace Takes

variable {φ : Type} [RecordSupply φ] {first? : Option FramedRecord} {supply after behind : φ}
  {feed left : LiveFeed} {record : FramedRecord} {front back : List Exchange}
  {result : Except FeedError Unit × φ × LiveFeed}

theorem stopped : Takes first? supply feed (.ok (), supply, feed) [.isCancelled true] := by
  refine fun _ => ⟨[], .stopped, [], .stopped, rfl, rfl, ?_⟩
  simp [Exchange.isStop]

theorem readFailed (feed : LiveFeed) {reason : FeedError}
    (fetched : LiveFeed.fetch first? supply = (.error reason, after)) :
    Takes first? supply feed
      (if reason.isEndOfFeed then (.ok (), after, feed) else (.error reason, after, feed.dropHeld))
      [.isCancelled false, .observe (RecordSupply.touched after)] := by
  have course : FeedCourse first? supply feed [] (.readFailed reason) [] after
      (if reason.isEndOfFeed then feed else feed.dropHeld) := .readFailed fetched
  have noted : Noted feed.handling (.readFailed reason) []
      [.isCancelled false, .observe (RecordSupply.touched after)] :=
    ((Noted.nothing FeedEnd.noConfusion).observe _).look
  by_cases ended : reason.isEndOfFeed = true
  · rw [if_pos ended] at course ⊢
    exact fun _ => ⟨[], .readFailed reason, [], course, (if_pos ended).symm, noted⟩
  · rw [if_neg ended] at course ⊢
    exact fun _ => ⟨[], .readFailed reason, [], course, (if_neg ended).symm, noted⟩

theorem ended {outcome : Except FeedError Unit}
    (fetched : LiveFeed.fetch first? supply = (.ok record, after))
    (accepted : Accepted feed record (.ended outcome, left) front) :
    Takes first? supply feed (outcome, after, left)
      (.isCancelled false :: .observe (RecordSupply.touched after) :: front) := by
  intro taken
  simp only [queueOpen_cons] at taken
  obtain ⟨handed, accepts, rfl⟩ := accepted taken.2.2
  cases accepts with
  | foreign is =>
    exact ⟨[record], .foreign _, [], .foreign fetched (.foreign is), rfl,
      (((Noted.nothing FeedEnd.noConfusion).hand []).observe _).look⟩

theorem scanFailed {reason : FeedError}
    (fetched : LiveFeed.fetch first? supply = (.ok record, after))
    (accepted : Accepted feed record (.rescan, left) front)
    (scanned : RecordSupply.rescan after = (.error reason, behind)) :
    Takes first? supply feed (.error reason, behind, left)
      (.isCancelled false :: .observe (RecordSupply.touched after) ::
        (front ++ [.observe (RecordSupply.touched behind)])) := by
  intro taken
  simp only [queueOpen_cons, queueOpen_append] at taken
  obtain ⟨handed, accepts, rfl⟩ := accepted taken.2.2.1
  have noted : Noted feed.handling (.scanFailed reason) []
      [.observe (RecordSupply.touched behind)] :=
    (Noted.nothing FeedEnd.noConfusion).observe _
  have noted := ((noted.hand handed).observe (RecordSupply.touched after)).look
  rw [List.append_nil] at noted
  exact ⟨[record], .scanFailed reason, handed, .scanFailed fetched accepts scanned, rfl, noted⟩

theorem scanned {length : UInt16} (fetched : LiveFeed.fetch first? supply = (.ok record, after))
    (accepted : Accepted feed record (.rescan, left) front)
    (scanned : RecordSupply.rescan after = (.ok length, behind))
    (later : Takes none behind left result back) :
    Takes first? supply feed result
      (.isCancelled false :: .observe (RecordSupply.touched after) ::
        (front ++ .observe (RecordSupply.touched behind) :: back)) := by
  intro taken
  simp only [queueOpen_cons, queueOpen_append] at taken
  obtain ⟨handed, accepts, rfl⟩ := accepted taken.2.2.1
  obtain ⟨records, ending, others, course, outcome, noted⟩ := later taken.2.2.2.2
  rw [accepts.handling_eq] at noted
  exact ⟨record :: records, ending, handed ++ others, .scanned fetched accepts scanned course,
    outcome, (((noted.observe _).hand handed).observe _).look⟩

theorem goOn (fetched : LiveFeed.fetch first? supply = (.ok record, after))
    (accepted : Accepted feed record (.goOn, left) front)
    (later : Takes none after left result back) :
    Takes first? supply feed result
      (.isCancelled false :: .observe (RecordSupply.touched after) :: (front ++ back)) := by
  intro taken
  simp only [queueOpen_cons, queueOpen_append] at taken
  obtain ⟨handed, accepts, rfl⟩ := accepted taken.2.2.1
  obtain ⟨records, ending, others, course, outcome, noted⟩ := later taken.2.2.2
  rw [accepts.handling_eq] at noted
  exact ⟨record :: records, ending, handed ++ others, .goOn fetched accepts course, outcome,
    ((noted.hand handed).observe _).look⟩

end Takes

namespace LiveFeed

variable {φ : Type} [RecordSupply φ]

theorem ensures_takeRecords (first? : Option FramedRecord) (supply : φ) (feed : LiveFeed) :
    Ensures (takeRecords first? supply feed : StateM (Minutes ω) _)
      (Takes first? supply feed) := by
  -- every record uses up some of the supply, and so does the one that is given
  induction size : RecordSupply.left supply + first?.toList.length using Nat.strongRecOn
    generalizing first? supply feed with
  | ind size ih =>
    rw [takeRecords]
    refine .askBind fun stopped => ?_
    cases stopped with
    | true => exact .pure .stopped
    | false =>
      rw [if_neg Bool.false_ne_true]
      split
      next reason after fetched =>
        refine .watchBind ?_
        have failed := Takes.readFailed feed fetched
        split
        case isTrue ended =>
          rw [if_pos ended] at failed
          exact .pure failed
        case isFalse ended =>
          rw [if_neg ended] at failed
          exact .pure failed
      next record after fetched =>
        refine .watchBind (.bind (ensures_accept feed record) ?_)
        rintro ⟨step, left⟩ front accepted
        have smaller := left_of_fetch fetched
        cases step with
        | ended outcome =>
          refine .pure ?_
          rw [List.append_nil]
          exact .ended fetched accepted
        | goOn =>
          refine (ih _ (by simpa [size] using smaller) none after left rfl).mono ?_
          exact fun result back later => .goOn fetched accepted later
        | rescan =>
          dsimp only
          split
          next reason behind scanned =>
            exact .watchBind (.pure (.scanFailed fetched accepted scanned))
          next length behind scanned =>
            have smaller' := RecordSupply.left_le_of_rescan scanned
            refine .watchBind ((ih _ ?_ none behind left rfl).mono ?_)
            · rw [← size]
              exact Nat.lt_of_le_of_lt smaller' smaller
            · exact fun result back later => .scanned fetched accepted scanned later

end LiveFeed

/-! ## The whole feed -/

/-- What is submitted of a feed that takes no more records, and what the feed is afterwards. -/
inductive Releases (feed : LiveFeed) : List Handed → LiveFeed → Prop
  | nothing (free : feed.pending.held? = none) :
      Releases feed [] { feed with pending := .empty }
  | last {relayed : RelayedMessage} {submission : Submission}
      (held : feed.pending.held? = some relayed) :
      Releases feed [⟨relayed, submission⟩] (submission.after { feed with pending := .empty })

/-- The calls by which sessions are moved into the error state. -/
def stopCalls (ids : List SessionId) : List Exchange :=
  ids.map fun id => .setState id .error .manualStop

theorem isLook_of_mem_stopCalls {ids : List SessionId} :
    ∀ exchange ∈ stopCalls ids, exchange.isLook = false := by
  intro exchange there
  obtain ⟨id, -, rfl⟩ := List.mem_map.1 there
  rfl

namespace LiveFeed

theorem ensures_submitLast (feed : LiveFeed) :
    Ensures (feed.submitLast : StateM (Minutes ω) _) fun left made =>
      QueueOpen made → ∃ handed, Releases feed handed left ∧
        made = handedCalls feed.handling handed := by
  unfold submitLast
  cases held : feed.pending.held? with
  | none =>
    rw [show feed.pending.release = (none, .empty) from Prod.ext held rfl]
    exact .pure fun _ => ⟨[], .nothing held, rfl⟩
  | some relayed =>
    rw [show feed.pending.release = (some relayed, .empty) from Prod.ext held rfl]
    refine .bind (ensures_submit { feed with pending := .empty } relayed) ?_
    rintro ⟨answer, left⟩ front submitted
    refine .pure fun taken => ?_
    rw [List.append_nil] at taken ⊢
    obtain ⟨submission, made, same⟩ := submitted taken
    obtain ⟨-, rfl⟩ := Prod.mk.inj same
    refine ⟨[⟨relayed, submission⟩], .last held, ?_⟩
    rw [made, handedCalls, List.flatMap_singleton]

theorem ensures_markStopped (ids : List SessionId) :
    Ensures (markStopped ids : StateM (Minutes ω) _) fun _ made => made = stopCalls ids := by
  induction ids with
  | nil => exact .pure rfl
  | cons id rest ih =>
    refine .askBind fun _ => ih.mono ?_
    rintro _ made rfl
    rfl

variable {φ : Type} [RecordSupply φ]

/-- What a feed comes to that takes the records of a supply: the records, why it ends, what is
submitted, and the feed in the end. -/
def Comes (feed : LiveFeed) (first? : Option FramedRecord) (supply : φ)
    (records : List FramedRecord) (ending : FeedEnd) (handed : List Handed) (final : φ)
    (left : LiveFeed) : Prop :=
  ∃ before taken last, FeedCourse first? supply feed records ending before final taken ∧
    Releases taken last left ∧ handed = before ++ last

theorem ensures_run (feed : LiveFeed) (first? : Option FramedRecord) (supply : φ) :
    Ensures (feed.run first? supply : StateM (Minutes ω) _) fun result made =>
      QueueOpen made → ∃ records ending handed left,
        feed.Comes first? supply records ending handed result.2.2 left ∧
        result.1 = { left.stats with sessions := left.fed.length } ∧
        result.2.1 = ending.outcome ∧
        deeds made = handedCalls feed.handling handed ++ stopCalls left.fed ∧
        (NeverStopped made ↔ ending ≠ .stopped) := by
  unfold run
  refine .bind (ensures_takeRecords first? supply feed) ?_
  rintro ⟨outcome, final, taken⟩ front course
  refine .bind (ensures_submitLast taken) ?_
  intro left middle released
  refine .bind (ensures_markStopped left.fed) ?_
  rintro _ back rfl
  refine .pure fun open_ => ?_
  rw [List.append_nil] at open_ ⊢
  simp only [queueOpen_append] at open_
  obtain ⟨records, ending, before, course, rfl, noted⟩ := course open_.1
  obtain ⟨last, releases, rfl⟩ := released open_.2.1
  have same : taken.handling = feed.handling := course.handling_eq
  refine ⟨records, ending, before ++ last, left, ⟨before, taken, last, course, releases, rfl⟩, rfl,
    rfl, ?_, ?_⟩
  · rw [deeds_append, deeds_append, noted.deeds_eq, deeds_eq_self isLook_of_mem_handedCalls,
      deeds_eq_self isLook_of_mem_stopCalls, same, handedCalls_append, List.append_assoc]
  · rw [neverStopped_append, neverStopped_append, noted.neverStopped]
    refine and_iff_left ⟨?_, ?_⟩
    · exact neverStopped_of_deeds isLook_of_mem_handedCalls
    · exact neverStopped_of_deeds isLook_of_mem_stopCalls

end LiveFeed

end CollectorFeed
