import CollectorFeed.Proofs.Broadcast.Calls
import CollectorFeed.Proofs.Broadcast.Wakeups
import CollectorFeed.Proofs.Pacing.Adjustments

/-!
# Sections as adjustments

A section in which a thread has the queue for itself touches the counters of the queue by a few
adjustments. Which ones depends on two questions: does the section come as far as putting a message
(`Traffic.attempt?`), and does it look for a message (`Traffic.looker?`)? `Traffic.adjustments` lists
them, and `pace_step` says that the section does that to the counters and nothing else. So what is
true of all adjustments is true of everything that threads do.
-/

set_option autoImplicit false

namespace CollectorFeed

open PaceState

variable {α : Type} [PacingNumber α]

/-! ## What the functions of a queue adjust -/

namespace BroadcastQueue

/-- Adjustments of the first section of writing. -/
def checkAdjustments (q : BroadcastQueue α) (slot now checked : Nat) : List Adjustment :=
  if q.closed then [] else [.closeIntervals now, .pace slot checked]

/-- Adjustments of putting a message, which depend on what becomes of it. -/
def putAdjustments (q : BroadcastQueue α) (slot : Nat) (message : Message) : List Adjustment :=
  match (q.offer slot message).1 with
  | .closed => []
  | .full => []
  | .stored => [.noteWrite slot]
  | .dropped => [.noteWrite slot, .moveHead (q.pace.tail + 1)]

/-- Adjustments of looking for a message. -/
def takeAdjustments (q : BroadcastQueue α) (reader : Nat) : List Adjustment :=
  match (q.take reader).1 with
  | none => []
  | some _ => [.noteRead, .moveHead (q.take reader).2.pace.head, .noticeEmptying]

/-- Adjustments of letting a reader go. -/
def leaveAdjustments (q : BroadcastQueue α) (reader : Nat) : List Adjustment :=
  [.removeReader, .moveHead (q.detachReader reader).pace.head, .noticeEmptying]

theorem pace_beginWrite (q : BroadcastQueue α) (slot now checked : Nat) :
    (q.beginWrite slot now checked).2.pace = q.pace.adjustAll (q.checkAdjustments slot now checked) := by
  unfold beginWrite checkAdjustments
  cases q.closed with
  | true => rfl
  | false => rfl

/-- The first section of writing to an open queue: the check, and nothing else. -/
theorem beginWrite_of_open {q : BroadcastQueue α} (taking : q.closed = false)
    (slot now checked : Nat) :
    q.beginWrite slot now checked =
      (match ((q.pace.closeIntervals now).pace slot checked).1 with
        | some milliseconds => .wait milliseconds
        | none => .ready,
        { q with pace := ((q.pace.closeIntervals now).pace slot checked).2 }) := by
  unfold beginWrite
  exact if_neg (by simp [taking])

theorem ready_iff {q : BroadcastQueue α} (taking : q.closed = false) {slot now checked : Nat} :
    (q.beginWrite slot now checked).1 = .ready ↔
      ((q.pace.closeIntervals now).pace slot checked).1 = none := by
  rw [beginWrite_of_open taking]
  cases ((q.pace.closeIntervals now).pace slot checked).1 <;> simp

theorem wait_iff {q : BroadcastQueue α} (taking : q.closed = false)
    {slot now checked milliseconds : Nat} :
    (q.beginWrite slot now checked).1 = .wait milliseconds ↔
      ((q.pace.closeIntervals now).pace slot checked).1 = some milliseconds := by
  rw [beginWrite_of_open taking]
  cases ((q.pace.closeIntervals now).pace slot checked).1 <;> simp

theorem pace_offer (q : BroadcastQueue α) (slot : Nat) (message : Message) :
    (q.offer slot message).2.pace = q.pace.adjustAll (q.putAdjustments slot message) := by
  unfold putAdjustments
  rcases q.offer_cases slot message with
    ⟨-, offered⟩ | ⟨-, offered⟩ | ⟨-, -, offered⟩ | ⟨-, -, -, offered⟩
  · rw [offered]
    rfl
  · rw [offered]
    rfl
  · rw [offered]
    rfl
  · rw [offered]
    rfl

/-- Releasing messages moves the head, and looking at the filling moves nothing. -/
theorem pace_settle_release (q : BroadcastQueue α) :
    q.release.settle.pace = (q.pace.moveHead q.release.settle.pace.head).noticeEmptying := by
  have head : q.release.settle.pace.head = max q.pace.head q.slowest :=
    congrArg Extent.head (extent_noticeEmptying _)
  rw [head]
  rfl

theorem pace_detachReader (q : BroadcastQueue α) (reader : Nat) :
    (q.detachReader reader).pace = q.pace.adjustAll (q.leaveAdjustments reader) :=
  pace_settle_release (q.without reader)

/-- A reader that is given nothing leaves no trace. -/
theorem eq_of_take_eq_none {q r : BroadcastQueue α} {reader : Nat}
    (taken : q.take reader = (none, r)) : r = q := by
  unfold take at taken
  split at taken
  · exact (Prod.mk.inj taken).2.symm
  · split at taken
    · exact (Prod.mk.inj taken).2.symm
    · split at taken
      · exact (Prod.mk.inj taken).2.symm
      · cases taken

theorem pace_take (q : BroadcastQueue α) (reader : Nat) :
    (q.take reader).2.pace = q.pace.adjustAll (q.takeAdjustments reader) := by
  rcases taken : q.take reader with ⟨result, r⟩
  cases result with
  | none =>
    simp only [takeAdjustments, taken, eq_of_take_eq_none taken]
    rfl
  | some message =>
    obtain ⟨position, -, -, rfl⟩ := of_take_eq_some taken
    simp only [takeAdjustments, taken]
    exact pace_settle_release (q.stepReader reader position)

end BroadcastQueue

/-- Whether there is nothing to a section but putting a message or looking for one. -/
def Move.isTry : Move → Bool
  | resume _ _ => true
  | retryWrite _ => true
  | read _ _ => true
  | retryRead _ => true
  | giveUp _ => true
  | _ => false

namespace Traffic

/-! ## What sections come to -/

/-- A call that comes as far as putting its message, with the traffic that it finds then. -/
structure Attempt (α : Type) where
  /-- The number of the call. -/
  call : Nat
  /-- The slot of its writer. -/
  slot : Nat
  /-- The message. -/
  message : Message
  /-- The traffic, without the call. -/
  traffic : Traffic α

/-- The call that comes as far as putting its message in a section, if one does. -/
def attempt? (t : Traffic α) : Move → Option (Attempt α)
  | .write slot message now checked =>
    if t.writers.contains slot then
      match t.queue.beginWrite slot now checked with
      | (.ready, queue) =>
        some ⟨t.nextCall, slot, message,
          { t.count.note [.begun t.nextCall slot message] with queue := queue }⟩
      | _ => none
    else none
  | .resume call now =>
    match t.activity? call with
    | some (.paused slot message _) =>
      some ⟨call, slot, message, { t.unpark call with queue := t.queue.closeIntervals now }⟩
    | _ => none
  | .retryWrite call =>
    match t.activity? call with
    | some (.blocked slot message true) => some ⟨call, slot, message, t.unpark call⟩
    | _ => none
  | _ => none

/-- The reader that looks for a message in a section, if one does. -/
def looker? (t : Traffic α) : Move → Option Nat
  | .read reader _ => if t.queue.isRegistered reader then some reader else none
  | .retryRead call =>
    match t.activity? call with
    | some (.starved reader _ true) => some reader
    | _ => none
  | .giveUp call =>
    match t.activity? call with
    | some (.starved reader .timed false) => some reader
    | _ => none
  | _ => none

/-- Adjustments of a section in front of putting a message or looking for one. -/
def openingAdjustments (t : Traffic α) : Move → List Adjustment
  | .attachWriter => [.addWriter]
  | .detachWriter slot =>
    if t.writers.contains slot && !t.isWriting slot then [.removeWriter slot] else []
  | .attachReader => [.addReader]
  | .detachReader reader =>
    if t.queue.isRegistered reader && !t.isReading reader then t.queue.leaveAdjustments reader
    else []
  | .write slot _ now checked =>
    if t.writers.contains slot then t.queue.checkAdjustments slot now checked else []
  | .resume call now => if (t.attempt? (.resume call now)).isSome then [.closeIntervals now] else []
  | _ => []

/-- Adjustments of putting a message or of looking for one. -/
def closingAdjustments (t : Traffic α) (move : Move) : List Adjustment :=
  match t.attempt? move, t.looker? move with
  | some attempt, _ => attempt.traffic.queue.putAdjustments attempt.slot attempt.message
  | none, some reader => t.queue.takeAdjustments reader
  | none, none => []

/-- Adjustments of a section. -/
def adjustments (t : Traffic α) (move : Move) : List Adjustment :=
  t.openingAdjustments move ++ t.closingAdjustments move

/-! ## Sections do no more than that -/

/-- How a call comes as far as putting its message. -/
inductive Comes (t : Traffic α) : Move → Attempt α → Prop
  /-- It has begun to write and does not have to wait for the end of an interval. -/
  | begins {slot now checked : Nat} {message : Message} {queue : BroadcastQueue α}
      (attached : t.writers.contains slot = true)
      (ready : t.queue.beginWrite slot now checked = (.ready, queue)) :
      Comes t (.write slot message now checked)
        ⟨t.nextCall, slot, message,
          { t.count.note [.begun t.nextCall slot message] with queue := queue }⟩
  /-- It has slept to the end of an interval. -/
  | resumes {call now slot deadline : Nat} {message : Message}
      (paused : t.activity? call = some (.paused slot message deadline)) :
      Comes t (.resume call now)
        ⟨call, slot, message, { t.unpark call with queue := t.queue.closeIntervals now }⟩
  /-- It was woken while it waited for room. -/
  | retries {call slot : Nat} {message : Message}
      (blocked : t.activity? call = some (.blocked slot message true)) :
      Comes t (.retryWrite call) ⟨call, slot, message, t.unpark call⟩

theorem comes_of_attempt? {t : Traffic α} {move : Move} {attempt : Attempt α}
    (comes : t.attempt? move = some attempt) : Comes t move attempt := by
  cases move with
  | write slot message now checked =>
    dsimp only [attempt?] at comes
    split at comes
    · next attached =>
      split at comes
      · next queue ready =>
        obtain rfl := Option.some.inj comes
        exact .begins attached ready
      · cases comes
    · cases comes
  | resume call now =>
    dsimp only [attempt?] at comes
    split at comes
    · next slot message deadline paused =>
      obtain rfl := Option.some.inj comes
      exact .resumes paused
    · cases comes
  | retryWrite call =>
    dsimp only [attempt?] at comes
    split at comes
    · next slot message blocked =>
      obtain rfl := Option.some.inj comes
      exact .retries blocked
    · cases comes
  | _ => cases comes

/-- A section that comes as far as putting a message ends like this. -/
theorem step_of_attempt {t : Traffic α} {move : Move} {attempt : Attempt α}
    (comes : t.attempt? move = some attempt) :
    t.step move = attempt.traffic.attemptWrite attempt.call attempt.slot attempt.message := by
  cases comes_of_attempt? comes with
  | @begins slot now checked message queue attached ready =>
    have ready' : t.count.queue.beginWrite slot now checked = (.ready, queue) := ready
    simp only [step, if_pos attached, beginWrite, note, ready']
  | resumes paused => simp only [step, paused]
  | retries blocked => simp only [step, blocked]

theorem pace_attemptWrite (t : Traffic α) (call slot : Nat) (message : Message) :
    (t.attemptWrite call slot message).queue.pace =
      t.queue.pace.adjustAll (t.queue.putAdjustments slot message) := by
  rw [← BroadcastQueue.pace_offer]
  unfold attemptWrite
  rcases t.queue.offer slot message with ⟨outcome, queue⟩
  cases outcome <;> rfl

theorem pace_attemptRead (t : Traffic α) (call reader : Nat) (kind : ReadKind) (waits : Bool) :
    (t.attemptRead call reader kind waits).queue.pace =
      t.queue.pace.adjustAll (t.queue.takeAdjustments reader) := by
  rw [← BroadcastQueue.pace_take]
  unfold attemptRead
  rcases t.queue.take reader with ⟨result, queue⟩
  cases result with
  | none =>
    dsimp only
    split <;> rfl
  | some message =>
    dsimp only
    split <;> rfl

/-- A section in which a reader looks for a message ends like this. -/
theorem step_of_looker {t : Traffic α} {move : Move} {reader : Nat}
    (looks : t.looker? move = some reader) :
    ∃ u call kind waits, u.queue = t.queue ∧ u.calls ⊆ t.calls ∧
      u.journal = t.journal ∧ t.step move = attemptRead u call reader kind waits := by
  cases move with
  | read reader' kind =>
    dsimp only [looker?] at looks
    split at looks
    · next registered =>
      obtain rfl := Option.some.inj looks
      exact ⟨t.count, t.nextCall, kind, _, rfl, List.Subset.refl _, rfl, if_pos registered⟩
    · cases looks
  | retryRead call =>
    dsimp only [looker?] at looks
    split at looks
    · next reader' kind starved =>
      obtain rfl := Option.some.inj looks
      exact ⟨t.unpark call, call, kind, true, rfl, List.filter_subset_self _, rfl,
        by simp only [step, starved]⟩
    · cases looks
  | giveUp call =>
    dsimp only [looker?] at looks
    split at looks
    · next reader' starved =>
      obtain rfl := Option.some.inj looks
      exact ⟨t.unpark call, call, .timed, false, rfl, List.filter_subset_self _, rfl,
        by simp only [step, starved]⟩
    · cases looks
  | _ => cases looks

/-- What a call that comes as far as putting its message finds. -/
theorem pace_of_attempt {t : Traffic α} {move : Move} {attempt : Attempt α}
    (comes : t.attempt? move = some attempt) :
    attempt.traffic.queue.pace = t.queue.pace.adjustAll (t.openingAdjustments move) := by
  cases comes_of_attempt? comes with
  | begins attached ready =>
    dsimp only [openingAdjustments]
    rw [if_pos attached, ← BroadcastQueue.pace_beginWrite, ready]
  | resumes paused =>
    dsimp only [openingAdjustments]
    rw [comes]
    rfl
  | retries blocked => rfl

/-- A section that comes to nothing if it neither puts a message nor looks for one. -/
theorem step_eq_self {t : Traffic α} {move : Move} (tries : move.isTry = true)
    (comes : t.attempt? move = none) (looks : t.looker? move = none) : t.step move = t := by
  cases move with
  | resume call now =>
    dsimp only [step]
    split
    · next paused => simp [attempt?, paused] at comes
    · rfl
  | retryWrite call =>
    dsimp only [step]
    split
    · next blocked => simp [attempt?, blocked] at comes
    · rfl
  | read reader kind =>
    dsimp only [step]
    split
    · next registered => simp [looker?, registered] at looks
    · rfl
  | retryRead call =>
    dsimp only [step]
    split
    · next starved => simp [looker?, starved] at looks
    · rfl
  | giveUp call =>
    dsimp only [step]
    split
    · next starved => simp [looker?, starved] at looks
    · rfl
  | _ => cases tries

/-- How a call to write begins if it does not come as far as putting its message: there is no such
writer, the queue is closed, or the call has to wait for the end of an interval. -/
theorem step_write_cases {t : Traffic α} {slot now checked : Nat} {message : Message}
    (comes : t.attempt? (.write slot message now checked) = none) :
    (t.writers.contains slot = false ∧ t.step (.write slot message now checked) = t) ∨
    (t.writers.contains slot = true ∧ t.step (.write slot message now checked) =
      { t.count with queue := (t.queue.beginWrite slot now checked).2 }.note
        [.begun t.nextCall slot message,
          .returned t.nextCall (.error .closed) t.queue.positions.length]) ∨
    (t.writers.contains slot = true ∧
      ∃ milliseconds, (t.queue.beginWrite slot now checked).1 = .wait milliseconds ∧
        t.step (.write slot message now checked) =
          ({ t.count with queue := (t.queue.beginWrite slot now checked).2 }.note
            [.begun t.nextCall slot message]).park t.nextCall
              (.paused slot message (checked + milliseconds))) := by
  cases attached : t.writers.contains slot with
  | false => exact .inl ⟨rfl, if_neg (by simpa using attached)⟩
  | true =>
    have begins : t.step (.write slot message now checked) =
        t.count.beginWrite t.nextCall slot message now checked := if_pos attached
    unfold beginWrite at begins
    dsimp only [note, count] at begins
    rcases started : t.queue.beginWrite slot now checked with ⟨outcome, queue⟩
    rw [started] at begins
    cases outcome with
    | closed =>
      rw [List.append_assoc] at begins
      exact .inr (.inl ⟨rfl, begins⟩)
    | wait milliseconds => exact .inr (.inr ⟨rfl, milliseconds, rfl, begins⟩)
    | ready =>
      dsimp only [attempt?] at comes
      rw [if_pos attached, started] at comes
      cases comes

/-- A section that neither puts a message nor looks for one. -/
theorem pace_step_of_neither {t : Traffic α} {move : Move} (comes : t.attempt? move = none)
    (looks : t.looker? move = none) :
    (t.step move).queue.pace = t.queue.pace.adjustAll (t.openingAdjustments move) := by
  by_cases tries : move.isTry = true
  · rw [step_eq_self tries comes looks]
    cases move with
    | resume call now =>
      dsimp only [openingAdjustments]
      rw [comes]
      rfl
    | retryWrite _ => rfl
    | read _ _ => rfl
    | retryRead _ => rfl
    | giveUp _ => rfl
    | _ => cases tries
  · cases move with
    | attachWriter => rfl
    | detachWriter slot =>
      dsimp only [step, openingAdjustments]
      split <;> rfl
    | attachReader => rfl
    | detachReader reader =>
      dsimp only [step, openingAdjustments]
      split
      · exact t.queue.pace_detachReader reader
      · rfl
    | write slot message now checked =>
      dsimp only [openingAdjustments]
      rcases step_write_cases comes with ⟨missing, same⟩ | ⟨attached, refused⟩ |
        ⟨attached, milliseconds, -, waits⟩
      · rw [same, missing]
        rfl
      · rw [refused, if_pos attached, ← BroadcastQueue.pace_beginWrite]
        rfl
      · rw [waits, if_pos attached, ← BroadcastQueue.pace_beginWrite]
        rfl
    | close => rfl
    | wakeReaders call =>
      dsimp only [step]
      split <;> rfl
    | wakeWriters call =>
      dsimp only [step]
      split <;> rfl
    | _ => exact absurd rfl tries

/-- Nobody puts a message and looks for one in the same section. -/
theorem openingAdjustments_of_looker {t : Traffic α} {move : Move} {reader : Nat}
    (looks : t.looker? move = some reader) :
    t.openingAdjustments move = [] ∧ t.attempt? move = none := by
  cases move with
  | read _ _ => exact ⟨rfl, rfl⟩
  | retryRead _ => exact ⟨rfl, rfl⟩
  | giveUp _ => exact ⟨rfl, rfl⟩
  | _ => cases looks

/-- A section does to the counters what its adjustments say. -/
theorem pace_step (t : Traffic α) (move : Move) :
    (t.step move).queue.pace = t.queue.pace.adjustAll (t.adjustments move) := by
  unfold adjustments closingAdjustments
  cases comes : t.attempt? move with
  | some attempt =>
    rw [adjustAll_append, ← pace_of_attempt comes, step_of_attempt comes]
    exact attempt.traffic.pace_attemptWrite attempt.call attempt.slot attempt.message
  | none =>
    cases looks : t.looker? move with
    | some reader =>
      obtain ⟨u, call, kind, waits, queue, -, -, went⟩ := step_of_looker looks
      rw [(openingAdjustments_of_looker looks).1, went, pace_attemptRead, queue]
      rfl
    | none =>
      rw [pace_step_of_neither comes looks]
      exact congrArg t.queue.pace.adjustAll (List.append_nil _).symm

/-! ## Runs -/

theorem run_append (t : Traffic α) (first second : List Move) :
    t.run (first ++ second) = (t.run first).run second :=
  List.foldl_append

theorem run_concat (t : Traffic α) (moves : List Move) (move : Move) :
    t.run (moves ++ [move]) = (t.run moves).step move :=
  t.run_append moves [move]

/-- All adjustments of a run. -/
def adjustmentsAlong (t : Traffic α) : List Move → List Adjustment
  | [] => []
  | move :: moves => t.adjustments move ++ (t.step move).adjustmentsAlong moves

/-- Everything that threads do to the counters is a sequence of adjustments. -/
theorem pace_run (t : Traffic α) (moves : List Move) :
    (t.run moves).queue.pace = t.queue.pace.adjustAll (t.adjustmentsAlong moves) := by
  induction moves generalizing t with
  | nil => rfl
  | cons move moves ih =>
    show ((t.step move).run moves).queue.pace = _
    rw [ih, pace_step, adjustmentsAlong, adjustAll_append]

end Traffic

end CollectorFeed
