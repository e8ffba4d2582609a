import CollectorFeed.Proofs.Pacing.Fractions
import CollectorFeed.Proofs.Pacing.WriterSlots
import Mathlib.Algebra.Order.Floor.Semiring

/-!
# Writers keep within their budgets

A writer is checked once, when it begins to write. Then it may have to wait for the end of an
interval and for room, without the queue, and it puts its message without being checked again. In
the meantime other threads end intervals, and with that budgets and counts change.

That does no harm where each writer has a budget of its own. A call that was checked while pacing was
on either may write at once, or it sleeps to the end of the interval in which it was checked
(`PaceState.Covers`). The first stays true as long as the writer does nothing else: its count and its
budget stay as they are, or the interval ends and the count begins anew. The second turns into the
first when the writer wakes up, for then that interval has ended. `Thrifty.step` is this argument for
one section, and `allowance_run` is what it comes to in a run.
-/

set_option autoImplicit false

namespace CollectorFeed

open PacingNumber

variable {α : Type}

namespace Adjustment

/-- Whether an adjustment leaves the count of a slot and its budget alone, unless it ends the
interval or the slot changes hands. -/
def spares (slot : Nat) : Adjustment → Bool
  | noteWrite writer => writer != slot
  | recomputeLimit => false
  | _ => true

/-- Whether an adjustment looks at a clock that has not come past a time. -/
def isBy (time : Nat) : Adjustment → Bool
  | closeIntervals now => now ≤ time
  | _ => true

end Adjustment

/-! ## Counts of an interval -/

namespace PaceState

/-- A new writer has written nothing. -/
theorem written_addWriter (s : PaceState α) (slot : Nat) :
    s.addWriter.2.written slot = 0 ∨ s.addWriter.2.written slot = s.written slot := by
  unfold addWriter written
  dsimp only
  split
  · grind
  · grind

theorem written_removeWriter (s : PaceState α) (gone slot : Nat) :
    (s.removeWriter gone).written slot = 0 ∨
      (s.removeWriter gone).written slot = s.written slot := by
  simp only [written, removeWriter]
  grind

theorem written_noteWrite_of_ne (s : PaceState α) {writer slot : Nat} (apart : writer ≠ slot) :
    (s.noteWrite writer).written slot = s.written slot := by
  simp only [written, noteWrite, List.getElem?_modify_ne _ _ apart]

variable [PacingNumber α]

theorem overBudget_of_perWriter {s : PaceState α} (rule : s.policy.rule = .perWriter)
    (slot : Nat) : s.overBudget slot = atLeast (ofCount (s.written slot)) s.limit := by
  simp only [overBudget, rule]

/-- At the end of an interval all writers begin anew. -/
theorem written_closeInterval {s : PaceState α} (rule : s.policy.rule = .perWriter) (slot : Nat) :
    s.closeInterval.written slot = 0 := by
  rw [closeInterval_of_perWriter rule]
  simp only [written, List.getElem?_map]
  cases s.writes[slot]? with
  | none => rfl
  | some count => cases count <;> rfl

/-- Ending intervals leaves everything as it is, or all writers begin anew. -/
theorem closeIntervals_cases {s : PaceState α} (rule : s.policy.rule = .perWriter) (now : Nat) :
    s.closeIntervals now = s ∨ ∀ slot, (s.closeIntervals now).written slot = 0 := by
  unfold closeIntervals
  have policy : ∀ count, (Nat.repeat closeInterval count s).policy = s.policy := by
    intro count
    induction count with
    | zero => rfl
    | succ count ih => exact (policy_closeInterval _).trans ih
  cases s.endedIntervals now with
  | zero => exact .inl rfl
  | succ count => exact .inr (written_closeInterval ((congrArg _ (policy count)).trans rule))

/-- If the current interval has ended, all writers begin anew. -/
theorem written_closeIntervals_of_le {s : PaceState α} (rule : s.policy.rule = .perWriter)
    {now : Nat} (ended : s.intervalEnd ≤ now) (running : now < (s.closeIntervals now).intervalEnd)
    (slot : Nat) : (s.closeIntervals now).written slot = 0 := by
  rcases closeIntervals_cases rule now with same | anew
  · rw [same] at running
    exact absurd ended (Nat.not_le.2 running)
  · exact anew slot

/-! ## What the count of a writer depends on -/

/-- What may happen to the count of a slot while others use the queue. -/
inductive Recounted (s r : PaceState α) (slot : Nat) : Prop
  /-- It begins anew. -/
  | anew (empty : r.written slot = 0)
  /-- It stays as it is, in the same interval and with the same budget. -/
  | same (written : r.written slot = s.written slot) (limit : r.limit = s.limit)
      (intervalStart : r.intervalStart = s.intervalStart)

omit [PacingNumber α] in
theorem Recounted.trans {p s r : PaceState α} {slot : Nat} (first : Recounted p s slot)
    (second : Recounted s r slot) : Recounted p r slot := by
  cases second with
  | anew empty => exact .anew empty
  | same written limit intervalStart =>
    cases first with
    | anew empty => exact .anew (written.trans empty)
    | same written' limit' intervalStart' =>
      exact .same (written.trans written') (limit.trans limit')
        (intervalStart.trans intervalStart')

theorem recounted_adjust {s : PaceState α} (rule : s.policy.rule = .perWriter) {slot : Nat}
    {adjustment : Adjustment} (spares : adjustment.spares slot = true) :
    Recounted s (s.adjust adjustment) slot := by
  cases adjustment with
  | addWriter =>
    rcases s.written_addWriter slot with empty | same
    · exact .anew empty
    · exact .same same rfl rfl
  | removeWriter gone =>
    rcases s.written_removeWriter gone slot with empty | same
    · exact .anew empty
    · exact .same same rfl rfl
  | noteWrite writer =>
    have apart : writer ≠ slot := by simpa [Adjustment.spares] using spares
    exact .same (s.written_noteWrite_of_ne apart) rfl rfl
  | closeIntervals now =>
    rcases closeIntervals_cases rule now with same | anew
    · exact .same (congrArg (written · slot) same) (congrArg limit same)
        (congrArg intervalStart same)
    · exact .anew (anew slot)
  | pace writer now =>
    simp only [adjust, pace, noticeFilling]
    split <;> exact .same rfl rfl rfl
  | noticeEmptying =>
    simp only [adjust, noticeEmptying]
    split <;> exact .same rfl rfl rfl
  | recomputeLimit => cases spares
  | _ => exact .same rfl rfl rfl

theorem recounted_adjustAll {s : PaceState α} (rule : s.policy.rule = .perWriter) {slot : Nat}
    {adjustments : List Adjustment}
    (spares : ∀ adjustment ∈ adjustments, adjustment.spares slot = true) :
    Recounted s (s.adjustAll adjustments) slot := by
  induction adjustments generalizing s with
  | nil => exact .same rfl rfl rfl
  | cons adjustment rest ih =>
    obtain ⟨first, others⟩ := List.forall_mem_cons.1 spares
    have rule' : (s.adjust adjustment).policy.rule = .perWriter := by rwa [policy_adjust]
    exact (recounted_adjust rule first).trans (ih rule' others)

/-! ## What a writer that was checked relies on -/

/-- The writer in a slot has written nothing yet, or it has not used up its budget. -/
def MayWrite (s : PaceState α) (slot : Nat) : Prop :=
  s.written slot = 0 ∨ s.overBudget slot = false

/-- The writer in a slot has written nothing yet, or what it has written is counted for an interval
that has ended at a time. -/
def MayWriteFrom (s : PaceState α) (slot time : Nat) : Prop :=
  s.written slot = 0 ∨ s.intervalEnd ≤ time

/-- What a call can rely on that was checked while pacing was on. -/
def Covers (s : PaceState α) : Activity → Prop
  | .paused slot _ deadline => s.MayWriteFrom slot deadline
  | .blocked slot _ _ => s.MayWrite slot
  | _ => True

theorem MayWrite.recounted {s r : PaceState α} {slot : Nat} (may : s.MayWrite slot)
    (rule : s.policy.rule = .perWriter) (policy : r.policy = s.policy)
    (recounted : Recounted s r slot) : r.MayWrite slot := by
  cases recounted with
  | anew empty => exact .inl empty
  | same written limit _ =>
    have rule' : r.policy.rule = .perWriter := by rwa [policy]
    rwa [MayWrite, overBudget_of_perWriter rule', written, limit, ← overBudget_of_perWriter rule]

omit [PacingNumber α] in
theorem MayWriteFrom.recounted {s r : PaceState α} {slot time : Nat}
    (may : s.MayWriteFrom slot time) (policy : r.policy = s.policy)
    (recounted : Recounted s r slot) : r.MayWriteFrom slot time := by
  cases recounted with
  | anew empty => exact .inl empty
  | same written _ start => rwa [MayWriteFrom, written, intervalEnd, start, policy]

/-- Others do no harm to a call that waits. -/
theorem Covers.recounted {s r : PaceState α} {activity : Activity} (covers : s.Covers activity)
    (rule : s.policy.rule = .perWriter) (policy : r.policy = s.policy)
    (recounted : ∀ slot, activity.writes slot = true → Recounted s r slot) :
    r.Covers activity := by
  cases activity with
  | paused slot _ deadline =>
    exact MayWriteFrom.recounted covers policy (recounted slot (beq_self_eq_true slot))
  | blocked slot _ _ =>
    exact MayWrite.recounted covers rule policy (recounted slot (beq_self_eq_true slot))
  | _ => trivial

theorem covers_of_not_writes (s : PaceState α) {activity : Activity}
    (reads : ∀ slot, activity.writes slot = false) : s.Covers activity := by
  cases activity with
  | paused slot _ _ => exact absurd (reads slot) (by simp [Activity.writes])
  | blocked slot _ _ => exact absurd (reads slot) (by simp [Activity.writes])
  | _ => trivial

theorem covers_wakeWriter (s : PaceState α) (activity : Activity) :
    s.Covers activity.wakeWriter ↔ s.Covers activity := by
  cases activity <;> rfl

/-- Who need not wait in spite of pacing has not used up its budget. -/
theorem mayWrite_of_pace {s : PaceState α} {slot now : Nat} (running : now < s.intervalEnd)
    (on : (s.pace slot now).2.active = true) (ready : (s.pace slot now).1 = none) :
    (s.pace slot now).2.MayWrite slot := by
  have running' : now < s.noticeFilling.intervalEnd := by
    unfold noticeFilling
    split <;> exact running
  refine .inr ?_
  cases spent : s.noticeFilling.overBudget slot with
  | false => exact spent
  | true =>
    -- the clock is in the interval, so a writer that is over its budget would have to wait
    have on' : s.noticeFilling.active = true := on
    have inTime : now ≤ s.noticeFilling.intervalStart + s.noticeFilling.policy.interval :=
      Nat.le_of_lt running'
    simp [pace, on', spent, untilIntervalEnd?, inTime] at ready

/-- Who has to wait has to wait for the end of the interval. -/
theorem intervalEnd_of_pace {s : PaceState α} {slot now milliseconds : Nat}
    (waits : (s.pace slot now).1 = some milliseconds) :
    (s.pace slot now).2.intervalEnd = now + milliseconds := by
  have until_ : s.noticeFilling.untilIntervalEnd? now = some milliseconds := by
    simp only [pace] at waits
    split at waits
    · exact waits
    · cases waits
  unfold untilIntervalEnd? at until_
  split at until_
  · next inTime =>
    obtain rfl := Option.some.inj until_
    exact (Nat.add_sub_of_le inTime).symm
  · cases until_

/-! ## The clock and the current interval -/

/-- No interval is begun before a clock has come to it that a section has looked at. -/
theorem intervalStart_closeIntervals_le {s : PaceState α} {now time : Nat}
    (begun : s.intervalStart ≤ time) (past : now ≤ time) :
    (s.closeIntervals now).intervalStart ≤ time := by
  by_cases running : now < s.intervalEnd
  · rwa [closeIntervals_of_lt running]
  · rcases Nat.eq_zero_or_pos s.policy.interval with empty | positive
    · rwa [closeIntervals, endedIntervals, empty, Nat.div_zero]
    · have begun' : s.intervalStart ≤ now :=
        Nat.le_trans (Nat.le_add_right _ _) (Nat.not_lt.1 running)
      exact Nat.le_trans ((catchesUp_closeIntervals positive now).intervalStart_le begun') past

/-- If ending intervals comes to a stop, the clock is in the interval after that. -/
theorem lt_intervalEnd_closeIntervals {s : PaceState α} {now : Nat} (begun : s.intervalStart ≤ now)
    (stops : ∃ r, CatchesUp now s r) : now < (s.closeIntervals now).intervalEnd := by
  have positive : 0 < s.policy.interval :=
    (exists_catchesUp_iff.1 stops).resolve_right (Nat.not_lt.2 begun)
  exact (catchesUp_closeIntervals positive now).lt_intervalEnd

theorem intervalStart_adjust_le {s : PaceState α} {time : Nat} (begun : s.intervalStart ≤ time)
    {adjustment : Adjustment} (past : adjustment.isBy time = true) :
    (s.adjust adjustment).intervalStart ≤ time := by
  cases adjustment with
  | closeIntervals now =>
    exact intervalStart_closeIntervals_le begun (of_decide_eq_true past)
  | pace slot now =>
    simp only [adjust, pace, noticeFilling]
    split <;> exact begun
  | noticeEmptying =>
    simp only [adjust, noticeEmptying]
    split <;> exact begun
  | recomputeLimit =>
    simp only [adjust, recomputeLimit]
    split <;> exact begun
  | _ => exact begun

theorem intervalStart_adjustAll_le {s : PaceState α} {time : Nat} (begun : s.intervalStart ≤ time)
    {adjustments : List Adjustment}
    (past : ∀ adjustment ∈ adjustments, adjustment.isBy time = true) :
    (s.adjustAll adjustments).intervalStart ≤ time := by
  induction adjustments generalizing s with
  | nil => exact begun
  | cons adjustment rest ih =>
    obtain ⟨first, others⟩ := List.forall_mem_cons.1 past
    exact ih (intervalStart_adjust_le begun first) others

end PaceState

namespace Traffic

variable [PacingNumber α]

/-! ## Threads that keep to the clock -/

/-- The time that a section has read off the clock last, if that was so much before it. -/
def clockAfter (time : Nat) : Move → Nat
  | .write _ _ now _ => now
  | .resume _ now => now
  | _ => time

/-- What is asked of the clock and of the thread in a section, where the clock was last read at a
time. The clock never goes back, and it reads the same both times that it is read for a check. Each
writer is used by one thread, so it does not begin to write before its last call has come back. A
thread sleeps as long as it has to at least. Sections come to an end, those too that end intervals
one by one. -/
def KeepsTime (t : Traffic α) (time : Nat) : Move → Prop
  | .write slot _ now checked =>
    time ≤ now ∧ checked = now ∧ t.isWriting slot = false ∧
      (t.queue.closed = false → ∃ r, PaceState.CatchesUp now t.queue.pace r)
  | .resume call now =>
    time ≤ now ∧ (∃ r, PaceState.CatchesUp now t.queue.pace r) ∧
      ∀ slot message deadline, t.activity? call = some (.paused slot message deadline) →
        deadline ≤ now
  | _ => True

/-- All sections of a run keep to the clock. -/
def RunsOnTime (t : Traffic α) (time : Nat) : List Move → Prop
  | [] => True
  | move :: moves => t.KeepsTime time move ∧ (t.step move).RunsOnTime (clockAfter time move) moves

/-- The call that is checked in a section and finds pacing on, if there is one. -/
def pacedCall? (t : Traffic α) : Move → Option Nat
  | .write slot _ now checked =>
    if t.writers.contains slot && !t.queue.closed &&
        (t.queue.beginWrite slot now checked).2.pace.active then
      some t.nextCall
    else none
  | _ => none

/-- The calls that were checked in a run and found pacing on. -/
def pacedCalls (t : Traffic α) : List Move → List Nat
  | [] => []
  | move :: moves => (t.pacedCall? move).toList ++ (t.step move).pacedCalls moves

theorem KeepsTime.le_clockAfter {t : Traffic α} {time : Nat} {move : Move}
    (keeps : t.KeepsTime time move) : time ≤ clockAfter time move := by
  cases move with
  | write slot message now checked => exact keeps.1
  | resume call now => exact keeps.1
  | _ => exact Nat.le_refl time

/-! ## What sections adjust -/

/-- A section leaves all counts alone but that of the writer whose message it puts. -/
theorem spares_adjustments {t : Traffic α} {move : Move} {slot : Nat}
    (apart : ∀ attempt, t.attempt? move = some attempt → attempt.slot ≠ slot) :
    ∀ adjustment ∈ t.adjustments move, adjustment.spares slot = true := by
  intro adjustment mem
  rcases List.mem_append.1 mem with opening | closing
  · unfold openingAdjustments BroadcastQueue.leaveAdjustments BroadcastQueue.checkAdjustments
      at opening
    split at opening <;> grind [Adjustment.spares]
  · unfold closingAdjustments at closing
    split at closing
    · next attempt comes =>
      have other := apart attempt comes
      unfold BroadcastQueue.putAdjustments at closing
      split at closing <;> grind [Adjustment.spares]
    · unfold BroadcastQueue.takeAdjustments at closing
      split at closing <;> grind [Adjustment.spares]
    · cases closing

/-- A section looks at the clock once at most. -/
theorem isBy_adjustments (t : Traffic α) (time : Nat) (move : Move) :
    ∀ adjustment ∈ t.adjustments move, adjustment.isBy (clockAfter time move) = true := by
  intro adjustment mem
  rcases List.mem_append.1 mem with opening | closing
  · unfold openingAdjustments BroadcastQueue.leaveAdjustments BroadcastQueue.checkAdjustments
      at opening
    split at opening <;> grind [Adjustment.isBy, clockAfter]
  · unfold closingAdjustments BroadcastQueue.putAdjustments BroadcastQueue.takeAdjustments at closing
    split at closing <;> grind [Adjustment.isBy]

/-! ## One section -/

/-- What is true of a queue with budgets for each writer whose threads keep to the clock, where some
of the calls found pacing on when they were checked. -/
structure Thrifty (t : Traffic α) (time : Nat) (paced : List Nat) : Prop where
  /-- Each writer has a budget of its own. -/
  rule : t.queue.pace.policy.rule = .perWriter
  /-- The current interval has begun. -/
  begun : t.queue.pace.intervalStart ≤ time
  /-- No two calls use one writer. -/
  alone : ∀ first ∈ t.calls, ∀ second ∈ t.calls, ∀ slot, first.2.writes slot = true →
    second.2.writes slot = true → first.1 = second.1
  /-- Calls that were checked have begun. -/
  numbers : ∀ call ∈ paced, call < t.nextCall
  /-- Calls that were checked and wait have something to rely on. -/
  waiting : ∀ entry ∈ t.calls, entry.1 ∈ paced → t.queue.pace.Covers entry.2

variable {t : Traffic α} {time : Nat} {paced : List Nat} {move : Move}

theorem of_pacedCall?_eq_some {call : Nat} (checked : t.pacedCall? move = some call) :
    ∃ slot message now checked, move = .write slot message now checked ∧ call = t.nextCall ∧
      t.writers.contains slot = true ∧ t.queue.closed = false ∧
      (t.queue.beginWrite slot now checked).2.pace.active = true := by
  cases move with
  | write slot message now checked' =>
    dsimp only [pacedCall?] at checked
    split at checked
    · next on => exact ⟨slot, message, now, checked', rfl, by grind⟩
    · cases checked
  | _ => cases checked

/-- While a call puts its message, no other call uses its writer. -/
theorem Thrifty.number_of_attempt (thrifty : t.Thrifty time paced) (keeps : t.KeepsTime time move)
    {attempt : Attempt α} (comes : t.attempt? move = some attempt) {entry : Nat × Activity}
    (mem : entry ∈ t.calls) (writes : entry.2.writes attempt.slot = true) :
    entry.1 = attempt.call := by
  cases comes_of_attempt? comes with
  | @begins slot _ _ _ _ _ _ =>
    -- the writer was free when the call began
    have busy : t.isWriting slot = true := List.any_eq_true.2 ⟨entry, mem, writes⟩
    exact absurd busy (by simp [keeps.2.2.1])
  | @resumes _ _ slot _ _ paused =>
    exact thrifty.alone entry mem _ (mem_calls_of_activity? paused) slot writes
      (beq_self_eq_true slot)
  | @retries _ slot _ blocked =>
    exact thrifty.alone entry mem _ (mem_calls_of_activity? blocked) slot writes
      (beq_self_eq_true slot)

/-- A call that goes on at once after it was checked may write. -/
theorem Thrifty.mayWrite_of_begins (thrifty : t.Thrifty time paced) {slot now checked : Nat}
    {message : Message} (keeps : t.KeepsTime time (.write slot message now checked))
    {queue : BroadcastQueue α} (ready : t.queue.beginWrite slot now checked = (.ready, queue))
    (new : t.pacedCall? (.write slot message now checked) = some t.nextCall) :
    queue.pace.MayWrite slot := by
  obtain ⟨_, _, _, _, same, -, -, taking, on⟩ := of_pacedCall?_eq_some new
  obtain ⟨rfl, -, rfl, rfl⟩ := Move.write.inj same
  obtain ⟨past, rfl, -, stops⟩ := keeps
  have running := PaceState.lt_intervalEnd_closeIntervals (Nat.le_trans thrifty.begun past)
    (stops taking)
  have noWait := (BroadcastQueue.ready_iff taking).1 (congrArg Prod.fst ready)
  rw [BroadcastQueue.beginWrite_of_open taking] at ready on
  obtain rfl := congrArg Prod.snd ready
  exact PaceState.mayWrite_of_pace running on noWait

/-- A call that has slept as long as it had to may write: the interval in which it was checked has
ended, whoever has ended it. -/
theorem Thrifty.mayWrite_of_resumes (thrifty : t.Thrifty time paced) {call now slot deadline : Nat}
    {message : Message} (keeps : t.KeepsTime time (.resume call now))
    (paused : t.activity? call = some (.paused slot message deadline)) (checked : call ∈ paced) :
    (t.queue.closeIntervals now).pace.MayWrite slot := by
  obtain ⟨past, stops, slept⟩ := keeps
  have running := PaceState.lt_intervalEnd_closeIntervals (Nat.le_trans thrifty.begun past) stops
  have covers : t.queue.pace.MayWriteFrom slot deadline :=
    thrifty.waiting _ (mem_calls_of_activity? paused) checked
  refine .inl ?_
  rcases covers with empty | ended
  · rcases PaceState.closeIntervals_cases thrifty.rule now with same | anew
    · exact (congrArg (PaceState.written · slot) same).trans empty
    · exact anew slot
  · exact PaceState.written_closeIntervals_of_le thrifty.rule
      (Nat.le_trans ended (slept slot message deadline paused)) running slot

/-- A call that was checked and comes as far as putting its message may write. -/
theorem Thrifty.mayWrite_of_attempt (thrifty : t.Thrifty time paced)
    (keeps : t.KeepsTime time move) {attempt : Attempt α}
    (comes : t.attempt? move = some attempt)
    (checked : attempt.call ∈ (t.pacedCall? move).toList ++ paced) :
    attempt.traffic.queue.pace.MayWrite attempt.slot := by
  cases comes_of_attempt? comes with
  | begins _ ready =>
    -- it is a new call, so this is the section in which it was checked
    rcases List.mem_append.1 checked with new | old
    · exact thrifty.mayWrite_of_begins keeps ready (Option.mem_toList.1 new)
    · exact absurd (thrifty.numbers _ old) (Nat.lt_irrefl _)
  | resumes paused => exact thrifty.mayWrite_of_resumes keeps paused checked
  | retries blocked => exact thrifty.waiting _ (mem_calls_of_activity? blocked) checked

/-- A writer that begins to wait for the end of an interval sleeps until then. -/
theorem covers_of_wait {slot now checked milliseconds : Nat} {message : Message}
    (waits : (t.queue.beginWrite slot now checked).1 = .wait milliseconds) :
    (t.queue.beginWrite slot now checked).2.pace.Covers
      (.paused slot message (checked + milliseconds)) := by
  have taking : t.queue.closed = false := by
    cases closed : t.queue.closed with
    | false => rfl
    | true => simp [BroadcastQueue.beginWrite, closed] at waits
  have wait := (BroadcastQueue.wait_iff taking).1 waits
  rw [BroadcastQueue.beginWrite_of_open taking]
  exact .inr (Nat.le_of_eq (PaceState.intervalEnd_of_pace wait))

/-- A section of a call that does not find room changes no count. -/
theorem pace_step_of_full {attempt : Attempt α} (comes : t.attempt? move = some attempt)
    (full : (attempt.traffic.queue.offer attempt.slot attempt.message).1 = .full) :
    (t.step move).queue.pace = attempt.traffic.queue.pace := by
  rw [step_of_attempt comes, pace_attemptWrite, BroadcastQueue.putAdjustments, full]
  rfl

theorem attempt?_of_wait {slot now checked milliseconds : Nat} {message : Message}
    (waits : (t.queue.beginWrite slot now checked).1 = .wait milliseconds) :
    t.attempt? (.write slot message now checked) = none := by
  dsimp only [attempt?]
  split
  · split
    · next ready =>
      rw [ready] at waits
      cases waits
    · rfl
  · rfl

/-- A call that goes on waiting is the only one of its writer after the section. -/
theorem Thrifty.number_eq_of_still (thrifty : t.Thrifty time paced)
    (keeps : t.KeepsTime time move) {first second : Nat × Activity} (before : t.StillWaits first)
    (apart : ∀ attempt, t.attempt? move = some attempt → first.1 ≠ attempt.call)
    (waits : WaitingWriter t move second) {slot : Nat} (writesFirst : first.2.writes slot = true)
    (writesSecond : second.2.writes slot = true) : first.1 = second.1 := by
  obtain ⟨old, mem, writes⟩ := before.exists_writes writesFirst
  cases waits with
  | still before' _ =>
    obtain ⟨old', mem', writes'⟩ := before'.exists_writes writesSecond
    exact thrifty.alone (first.1, old) mem (second.1, old') mem' slot writes writes'
  | @paused writer now checked milliseconds message begins _ _ _ =>
    -- a writer whose call waits does not begin another one
    subst begins
    obtain rfl : writer = slot := by simpa [Activity.writes] using writesSecond
    have busy : t.isWriting writer = true := List.any_eq_true.2 ⟨_, mem, writes⟩
    exact absurd busy (by simp [keeps.2.2.1])
  | @blocked attempt comes _ =>
    obtain rfl : attempt.slot = slot := by simpa [Activity.writes] using writesSecond
    exact absurd (thrifty.number_of_attempt keeps comes mem writes) (apart attempt comes)

/-- After the section there is one call of a writer at most. -/
theorem Thrifty.number_eq (thrifty : t.Thrifty time paced) (keeps : t.KeepsTime time move)
    {first second : Nat × Activity} (waitsFirst : WaitingWriter t move first)
    (waitsSecond : WaitingWriter t move second) {slot : Nat}
    (writesFirst : first.2.writes slot = true) (writesSecond : second.2.writes slot = true) :
    first.1 = second.1 := by
  cases waitsFirst with
  | still before apart =>
    exact thrifty.number_eq_of_still keeps before apart waitsSecond writesFirst writesSecond
  | paused begins attached waits pace =>
    cases waitsSecond with
    | still before apart =>
      exact (thrifty.number_eq_of_still keeps before apart (.paused begins attached waits pace)
        writesSecond writesFirst).symm
    | paused _ _ _ _ => rfl
    | blocked comes _ =>
      rw [begins, attempt?_of_wait waits] at comes
      cases comes
  | blocked comes full =>
    cases waitsSecond with
    | still before apart =>
      exact (thrifty.number_eq_of_still keeps before apart (.blocked comes full)
        writesSecond writesFirst).symm
    | paused begins _ waits _ =>
      rw [begins, attempt?_of_wait waits] at comes
      cases comes
    | blocked comes' _ =>
      rw [comes] at comes'
      rw [Option.some.inj comes']

/-- What a call relies on that goes on waiting is left alone. -/
theorem Thrifty.covers_of_still (thrifty : t.Thrifty time paced) (wakeful : t.Wakeful)
    (keeps : t.KeepsTime time move) {entry : Nat × Activity} (before : t.StillWaits entry)
    (apart : ∀ attempt, t.attempt? move = some attempt → entry.1 ≠ attempt.call)
    (checked : entry.1 ∈ (t.pacedCall? move).toList ++ paced) :
    (t.step move).queue.pace.Covers entry.2 := by
  obtain ⟨old, mem, same⟩ := before
  -- a call that waited is not the one that is checked now
  have earlier : entry.1 ∈ paced := by
    rcases List.mem_append.1 checked with new | earlier
    · obtain ⟨_, _, _, _, -, next, -⟩ := of_pacedCall?_eq_some (Option.mem_toList.1 new)
      exact absurd (wakeful.begun _ mem) (by simp [next])
    · exact earlier
  -- being woken changes nothing in what it relies on
  rw [← PaceState.covers_wakeWriter, ← same, PaceState.covers_wakeWriter, pace_step]
  refine (thrifty.waiting _ mem earlier).recounted thrifty.rule (PaceState.policy_adjustAll _ _) ?_
  intro slot writes
  apply PaceState.recounted_adjustAll thrifty.rule
  apply spares_adjustments
  rintro attempt comes rfl
  have own := thrifty.number_of_attempt keeps comes mem writes
  exact apart attempt comes own

/-- Each section keeps writers within their budgets, whichever call it is of. -/
theorem Thrifty.step (thrifty : t.Thrifty time paced) (wakeful : t.Wakeful)
    (keeps : t.KeepsTime time move) :
    (t.step move).Thrifty (clockAfter time move) ((t.pacedCall? move).toList ++ paced) where
  rule := by
    rw [pace_step, PaceState.policy_adjustAll]
    exact thrifty.rule
  begun := by
    rw [pace_step]
    exact PaceState.intervalStart_adjustAll_le (Nat.le_trans thrifty.begun keeps.le_clockAfter)
      (t.isBy_adjustments time move)
  alone := by
    intro first memFirst second memSecond slot writesFirst writesSecond
    exact thrifty.number_eq keeps (waitingWriter_step wakeful.begun writesFirst memFirst)
      (waitingWriter_step wakeful.begun writesSecond memSecond) writesFirst writesSecond
  numbers := by
    intro call mem
    rcases List.mem_append.1 mem with new | old
    · obtain ⟨slot, message, now, checked, rfl, rfl, attached, -, -⟩ :=
        of_pacedCall?_eq_some (Option.mem_toList.1 new)
      rw [nextCall_step_write attached]
      exact Nat.lt_succ_self _
    · exact Nat.lt_of_lt_of_le (thrifty.numbers call old) (t.callers_step move).1
  waiting := by
    intro entry mem checked
    -- only calls to write rely on anything
    by_cases reads : ∀ slot, entry.2.writes slot = false
    · exact PaceState.covers_of_not_writes _ reads
    · obtain ⟨slot, writes⟩ := not_forall.1 reads
      rw [Bool.not_eq_false] at writes
      cases waitingWriter_step wakeful.begun writes mem with
      | still before apart => exact thrifty.covers_of_still wakeful keeps before apart checked
      | paused _ _ waits pace =>
        rw [pace]
        exact covers_of_wait waits
      | blocked comes full =>
        rw [pace_step_of_full comes full]
        exact thrifty.mayWrite_of_attempt keeps comes checked

/-! ## Runs -/

/-- What holds in front of the last section of a run that keeps to the clock. -/
theorem Thrifty.run {moves : List Move} (thrifty : t.Thrifty time paced) (wakeful : t.Wakeful)
    (sound : t.Sound) (onTime : t.RunsOnTime time (moves ++ [move])) :
    ∃ time' paced', (t.run moves).Thrifty time' paced' ∧ (t.run moves).KeepsTime time' move ∧
      ∀ call ∈ t.pacedCalls (moves ++ [move]) ++ paced,
        call ∈ ((t.run moves).pacedCall? move).toList ++ paced' := by
  induction moves generalizing t time paced with
  | nil => exact ⟨time, paced, thrifty, onTime.1, by simp [pacedCalls, run]⟩
  | cons next moves ih =>
    obtain ⟨keeps, rest⟩ := onTime
    obtain ⟨time', paced', thrifty', keeps', checked⟩ :=
      ih (thrifty.step wakeful keeps) (wakeful.step sound next) (sound.step next) rest
    refine ⟨time', paced', thrifty', keeps', ?_⟩
    -- what was checked in the next section counts as checked before for the rest of the run
    intro call mem
    apply checked
    simp only [List.cons_append, pacedCalls, List.mem_append] at mem ⊢
    tauto

/-- What becomes of the counts when the writer in a slot puts its message. -/
structure WithinAllowance (before after : PaceState α) (slot : Nat) : Prop where
  /-- The message is counted. -/
  counted : after.written slot = before.written slot + 1
  /-- The writer has kept within its budget, or it is its first message of the interval. The budget
  may be any fraction with which the count compares as it does with the limit, so in a reading over
  fractions it is the limit itself. -/
  own : ∀ budget : ℚ,
    (atLeast (ofCount (before.written slot)) before.limit = true ↔ budget ≤ before.written slot) →
      after.written slot ≤ max 1 ⌈budget⌉₊
  /-- The budget is still the same. -/
  limit : after.limit = before.limit
  /-- It is still the same interval. -/
  interval : after.intervalStart = before.intervalStart
  /-- The other writers have written as much as before. -/
  others : ∀ other, other ≠ slot → after.written other = before.written other

theorem withinAllowance_noteWrite {s : PaceState α}
    (rule : s.policy.rule = .perWriter) {slot : Nat} (taken : s.isTaken slot = true)
    (may : s.MayWrite slot) : WithinAllowance s (s.noteWrite slot) slot where
  counted := PaceState.written_noteWrite taken
  own := by
    intro budget exact_
    rw [PaceState.written_noteWrite taken]
    rcases may with empty | within
    · rw [empty]
      exact Nat.le_max_left _ _
    · -- a whole number below the budget is one below its ceiling
      rw [PaceState.overBudget_of_perWriter rule] at within
      have below : (s.written slot : ℚ) < budget := by
        rw [within] at exact_
        simpa using exact_
      exact Nat.le_trans (Nat.succ_le_of_lt (Nat.lt_ceil.2 below)) (Nat.le_max_right _ _)
  limit := rfl
  interval := rfl
  others := fun other apart => s.written_noteWrite_of_ne apart.symm

/-- In a queue with budgets for each writer, a call that was checked while pacing was on and that
puts its message keeps its writer within its budget, whatever happened in between. -/
theorem allowance_run (capacity : Nat) (policy : PacingPolicy α) (start : Nat)
    (rule : policy.rule = .perWriter) {moves : List Move} {move : Move}
    (onTime : (quiet capacity policy start).RunsOnTime start (moves ++ [move])) {call : Nat}
    (paced : call ∈ (quiet capacity policy start).pacedCalls (moves ++ [move]))
    (puts : ((quiet capacity policy start).run moves).Puts move call) :
    ∃ attempt, ((quiet capacity policy start).run moves).attempt? move = some attempt ∧
      attempt.call = call ∧
      WithinAllowance attempt.traffic.queue.pace
        ((quiet capacity policy start).run (moves ++ [move])).queue.pace attempt.slot := by
  have thrifty : (quiet capacity policy start).Thrifty start [] :=
    ⟨rule, Nat.le_refl start, fun _ mem => absurd mem List.not_mem_nil,
      fun _ mem => absurd mem List.not_mem_nil, fun _ mem => absurd mem List.not_mem_nil⟩
  obtain ⟨time, checked, thrifty', keeps, among⟩ := thrifty.run
    (wakeful_quiet capacity policy start) (sound_quiet capacity policy start) onTime
  obtain ⟨attempt, comes, rfl, outcome⟩ := exists_attempt_of_puts puts
  have may := thrifty'.mayWrite_of_attempt keeps comes (among _ (List.mem_append_left _ paced))
  have rule' : attempt.traffic.queue.pace.policy.rule = .perWriter := by
    rw [pace_of_attempt comes, PaceState.policy_adjustAll]
    exact thrifty'.rule
  refine ⟨attempt, comes, rfl, ?_⟩
  rw [run_concat, step_of_attempt comes, pace_attemptWrite, BroadcastQueue.putAdjustments]
  -- whether there is a reader to keep the message for makes no difference to the count
  have taken := (housed_run capacity policy start moves).isTaken_of_attempt comes
  have within := withinAllowance_noteWrite rule' taken may
  rcases outcome with stored | dropped
  · rw [stored]
    exact within
  · rw [dropped]
    exact ⟨within.counted, within.own, within.limit, within.interval, within.others⟩

/-- Some message. -/
def shortMessage : Message := ⟨⟨1⟩, .fromPeer, []⟩

/-- A queue with room for four messages, where a writer has two messages for an interval of ten
milliseconds. Pacing turns on when it is half full. -/
def smallTraffic : Traffic ℚ :=
  quiet 4 ⟨1 / 2, 1 / 4, 1 / 2, 2, 10, .perWriter⟩ 0

/-- There are a reader, who does nothing, and a writer, who writes two messages and comes with a
third one in the same interval. -/
def thirdWrite : List Move :=
  [.attachReader, .attachWriter, .write 0 shortMessage 0 0, .write 0 shortMessage 1 1,
    .write 0 shortMessage 5 5]

/-- The third message is put two milliseconds late, as the first one of the next interval. -/
theorem allowance_run_thirdWrite :
    smallTraffic.RunsOnTime 0 (thirdWrite ++ [.resume 2 12]) ∧
      2 ∈ smallTraffic.pacedCalls (thirdWrite ++ [.resume 2 12]) ∧
      (smallTraffic.run thirdWrite).Puts (.resume 2 12) 2 ∧
      ∃ attempt, (smallTraffic.run thirdWrite).attempt? (.resume 2 12) = some attempt ∧
        attempt.call = 2 ∧
        WithinAllowance attempt.traffic.queue.pace
          (smallTraffic.run (thirdWrite ++ [.resume 2 12])).queue.pace attempt.slot := by
  have stops : ∀ (s : PaceState ℚ) (now : Nat), 0 < s.policy.interval →
      ∃ r, PaceState.CatchesUp now s r :=
    fun s now positive => ⟨_, PaceState.catchesUp_closeIntervals positive now⟩
  have asleep : (smallTraffic.run thirdWrite).activity? 2 = some (.paused 0 shortMessage 10) := by
    decide +kernel
  have slept : ∀ slot message deadline,
      (smallTraffic.run thirdWrite).activity? 2 = some (.paused slot message deadline) →
        deadline ≤ 12 := by
    intro slot message deadline paused
    rw [asleep] at paused
    cases paused
    decide
  have onTime : smallTraffic.RunsOnTime 0 (thirdWrite ++ [.resume 2 12]) :=
    ⟨trivial, trivial, ⟨by decide, rfl, by decide +kernel, fun _ => stops _ _ (by decide +kernel)⟩,
      ⟨by decide, rfl, by decide +kernel, fun _ => stops _ _ (by decide +kernel)⟩,
      ⟨by decide, rfl, by decide +kernel, fun _ => stops _ _ (by decide +kernel)⟩,
      ⟨by decide, stops _ _ (by decide +kernel), slept⟩, trivial⟩
  have paced : 2 ∈ smallTraffic.pacedCalls (thirdWrite ++ [.resume 2 12]) := by
    decide +kernel
  have puts : (smallTraffic.run thirdWrite).Puts (.resume 2 12) 2 :=
    ⟨[.appended 2 shortMessage, .returned 2 (.ok ()) 1], 1, by decide +kernel, by decide⟩
  exact ⟨onTime, paced, puts,
    allowance_run 4 ⟨1 / 2, 1 / 4, 1 / 2, 2, 10, .perWriter⟩ 0 rfl onTime paced puts⟩

end Traffic

end CollectorFeed
