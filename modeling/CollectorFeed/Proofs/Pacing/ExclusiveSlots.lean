import CollectorFeed.Proofs.Pacing.Allowance
import Mathlib.Data.List.Induction

/-!
# Writers do not share slots

The row of slots never gets shorter, and a new writer is given the first slot that is free. The slot
may have been another writer's before, in the same interval. Nothing of that is left: a new writer
begins with a count of zero. And as long as it stays, its slot is given to nobody else and its count
is its own. Another writer that puts a message, comes or goes does not touch it, and only the end of
an interval does, at which all counts begin anew (`PaceState.Passes`). Main statement:
`Traffic.exclusive_run`.
-/

set_option autoImplicit false

namespace CollectorFeed

variable {α : Type}

/-- Whether an adjustment gives a slot to a writer or takes one from it. -/
def Adjustment.movesWriter : Adjustment → Bool
  | addWriter => true
  | removeWriter _ => true
  | _ => false

namespace PaceState

/-! ## Counts in slots -/

/-- Writes of the current interval of the writer in a slot, if there is one. -/
def count? (s : PaceState α) (slot : Nat) : Option Nat :=
  s.writes[slot]?.join

theorem isTaken_eq_isSome (s : PaceState α) (slot : Nat) :
    s.isTaken slot = (s.count? slot).isSome := by
  rw [isTaken, count?, List.getElem?_map]
  cases s.writes[slot]? with
  | none => rfl
  | some count => rfl

theorem count?_addWriter_self (s : PaceState α) :
    s.addWriter.2.count? s.addWriter.1 = some 0 := by
  have within := (List.takeWhile_sublist (p := Option.isSome) (l := s.writes)).length_le
  simp only [count?, addWriter]
  split <;> grind

theorem count?_addWriter {s : PaceState α} {slot : Nat} (taken : s.isTaken slot = true) :
    s.addWriter.2.count? slot = s.count? slot := by
  -- the slot that is given away was free
  have apart : s.addWriter.1 ≠ slot := by
    rintro rfl
    exact Bool.false_ne_true (s.isTaken_addWriter_fst.symm.trans taken)
  rw [isTaken_eq_isSome] at taken
  simp only [count?, addWriter] at taken apart ⊢
  split
  · rw [List.getElem?_set_ne apart]
  · grind

theorem count?_removeWriter (s : PaceState α) {gone slot : Nat} (apart : gone ≠ slot) :
    (s.removeWriter gone).count? slot = s.count? slot := by
  simp only [count?, removeWriter, List.getElem?_set_ne apart]

theorem count?_noteWrite (s : PaceState α) (slot : Nat) :
    (s.noteWrite slot).count? slot = (s.count? slot).map (· + 1) := by
  simp only [count?, noteWrite, List.getElem?_modify_eq]
  cases s.writes[slot]? with
  | none => rfl
  | some count => rfl

theorem count?_noteWrite_of_ne (s : PaceState α) {writer slot : Nat} (apart : writer ≠ slot) :
    (s.noteWrite writer).count? slot = s.count? slot := by
  simp only [count?, noteWrite, List.getElem?_modify_ne _ _ apart]

/-! ## The number of writers -/

theorem writers_eq_of_slots {s r : PaceState α}
    (slots : r.writes.map Option.isSome = s.writes.map Option.isSome) : r.writers = s.writers := by
  have told (s : PaceState α) : s.writers = ((s.writes.map Option.isSome).filter id).length := by
    rw [List.filter_map, List.length_map]
    rfl
  rw [told, told, slots]

theorem writers_addWriter (s : PaceState α) : s.addWriter.2.writers = s.writers + 1 := by
  have free := s.isTaken_addWriter_fst
  rw [isTaken_eq_isSome, count?] at free
  simp only [addWriter] at free
  simp only [writers, addWriter, ← List.countP_eq_length_filter]
  split
  case isTrue inside =>
    have none_ : s.writes[(s.writes.takeWhile Option.isSome).length].isSome = false := by grind
    rw [List.countP_set inside, none_]
    rfl
  case isFalse =>
    rw [List.countP_append]
    rfl

theorem writers_removeWriter {s : PaceState α} {slot : Nat} (taken : s.isTaken slot = true) :
    (s.removeWriter slot).writers + 1 = s.writers := by
  rw [isTaken_eq_isSome, count?] at taken
  have inside : slot < s.writes.length := by grind
  have there : s.writes[slot].isSome = true := by grind
  have positive : 0 < s.writes.countP Option.isSome :=
    List.countP_pos_iff.2 ⟨_, List.getElem_mem inside, there⟩
  simp only [writers, removeWriter, ← List.countP_eq_length_filter, List.countP_set inside, there,
    if_true, Option.isSome_none]
  exact Nat.sub_add_cancel positive

variable [PacingNumber α]

theorem slots_adjust (s : PaceState α) {adjustment : Adjustment}
    (stays : adjustment.movesWriter = false) :
    (s.adjust adjustment).writes.map Option.isSome = s.writes.map Option.isSome := by
  cases adjustment with
  | addWriter => cases stays
  | removeWriter gone => cases stays
  | noteWrite writer =>
    refine List.ext_getElem? fun slot => ?_
    simp only [adjust, noteWrite]
    grind
  | closeIntervals now => exact (samePlace_closeIntervals s now).slots
  | recomputeLimit => exact (samePlace_recomputeLimit s).slots
  | pace writer now =>
    simp only [adjust, pace, noticeFilling]
    split <;> rfl
  | noticeEmptying =>
    simp only [adjust, noticeEmptying]
    split <;> rfl
  | _ => rfl

theorem writers_adjustAll {s : PaceState α} {adjustments : List Adjustment}
    (stay : ∀ adjustment ∈ adjustments, adjustment.movesWriter = false) :
    (s.adjustAll adjustments).writers = s.writers := by
  induction adjustments generalizing s with
  | nil => rfl
  | cons adjustment rest ih =>
    obtain ⟨first, others⟩ := List.forall_mem_cons.1 stay
    exact (ih others).trans (writers_eq_of_slots (s.slots_adjust first))

/-! ## What becomes of a count -/

/-- What may become of the count in a slot whose writer stays and puts nothing. -/
inductive Passes (s r : PaceState α) (slot : Nat) : Prop
  /-- It is as it was. -/
  | kept (count : r.count? slot = s.count? slot) (start : s.intervalStart ≤ r.intervalStart)
  /-- An interval has ended, and each writer has a count of its own for the next one. -/
  | anew (count : r.count? slot = some 0) (start : s.intervalStart < r.intervalStart)
      (rule : s.policy.rule = .perWriter)

omit [PacingNumber α] in
theorem Passes.refl (s : PaceState α) (slot : Nat) : Passes s s slot :=
  .kept rfl (Nat.le_refl _)

omit [PacingNumber α] in
theorem Passes.trans {p s r : PaceState α} {slot : Nat} (first : Passes p s slot)
    (second : Passes s r slot) (policy : s.policy = p.policy) : Passes p r slot := by
  cases second with
  | anew count start rule =>
    refine .anew count ?_ (policy ▸ rule)
    cases first with
    | kept _ before => exact Nat.lt_of_le_of_lt before start
    | anew _ before _ => exact Nat.lt_trans before start
  | kept count start =>
    cases first with
    | kept count' start' => exact .kept (count.trans count') (Nat.le_trans start' start)
    | anew count' start' rule =>
      exact .anew (count.trans count') (Nat.lt_of_lt_of_le start' start) rule

theorem passes_closeInterval {s : PaceState α} {slot : Nat} (taken : s.isTaken slot = true)
    (positive : 0 < s.policy.interval) : Passes s s.closeInterval slot := by
  have later : s.intervalStart < s.closeInterval.intervalStart := by
    rw [intervalStart_closeInterval]
    exact Nat.lt_add_of_pos_right positive
  cases rule : s.policy.rule with
  | perWriter =>
    refine .anew ?_ later rule
    rw [isTaken_eq_isSome] at taken
    obtain ⟨count, there⟩ := Option.isSome_iff_exists.1 taken
    rw [count?] at there
    rw [closeInterval_of_perWriter rule, count?, List.getElem?_map, Option.join_map_eq_map_join,
      there]
    rfl
  | writeBehind =>
    refine .kept ?_ (Nat.le_of_lt later)
    rw [closeInterval_of_writeBehind rule]
    rfl

theorem passes_closeIntervals {s : PaceState α} {slot : Nat} (taken : s.isTaken slot = true)
    (now : Nat) : Passes s (s.closeIntervals now) slot := by
  rcases Nat.eq_zero_or_pos s.policy.interval with empty | positive
  · rw [closeIntervals, endedIntervals, empty, Nat.div_zero]
    exact .refl s slot
  · unfold closeIntervals
    generalize s.endedIntervals now = count
    induction count generalizing s with
    | zero => exact .refl s slot
    | succ count ih =>
      have place := samePlace_closeInterval s
      rw [repeat_succ_eq]
      refine (passes_closeInterval taken positive).trans (ih ?_ ?_) place.policy
      · rwa [isTaken_eq place.slots]
      · rwa [place.policy]

theorem passes_adjust {s : PaceState α} {slot : Nat} (taken : s.isTaken slot = true)
    {adjustment : Adjustment} (stays : adjustment ≠ .removeWriter slot)
    (apart : adjustment ≠ .noteWrite slot) : Passes s (s.adjust adjustment) slot := by
  cases adjustment with
  | addWriter => exact .kept (count?_addWriter taken) (Nat.le_refl _)
  | removeWriter gone =>
    exact .kept (s.count?_removeWriter fun same => stays (congrArg _ same)) (Nat.le_refl _)
  | noteWrite writer =>
    exact .kept (s.count?_noteWrite_of_ne fun same => apart (congrArg _ same)) (Nat.le_refl _)
  | closeIntervals now => exact passes_closeIntervals taken now
  | pace writer now =>
    simp only [adjust, pace, noticeFilling]
    split <;> exact .kept rfl (Nat.le_refl _)
  | noticeEmptying =>
    simp only [adjust, noticeEmptying]
    split <;> exact .kept rfl (Nat.le_refl _)
  | recomputeLimit =>
    simp only [adjust, recomputeLimit]
    split <;> exact .kept rfl (Nat.le_refl _)
  | _ => exact .kept rfl (Nat.le_refl _)

theorem passes_adjustAll {s : PaceState α} {slot : Nat} (taken : s.isTaken slot = true)
    {adjustments : List Adjustment}
    (spare : ∀ adjustment ∈ adjustments,
      adjustment ≠ .removeWriter slot ∧ adjustment ≠ .noteWrite slot) :
    Passes s (s.adjustAll adjustments) slot := by
  induction adjustments generalizing s with
  | nil => exact .refl s slot
  | cons adjustment rest ih =>
    obtain ⟨⟨stays, apart⟩, others⟩ := List.forall_mem_cons.1 spare
    exact (passes_adjust taken stays apart).trans (ih (isTaken_adjust taken stays) others)
      (s.policy_adjust adjustment)

end PaceState

namespace Traffic

variable [PacingNumber α] {t : Traffic α} {move : Move}

/-! ## One section -/

/-- Slots change hands only in the sections in which writers come and go. -/
theorem movesWriter_adjustments (stays : move.movesWriter = false) :
    ∀ adjustment ∈ t.adjustments move, adjustment.movesWriter = false := by
  intro adjustment mem
  rcases List.mem_append.1 mem with opening | closing
  · unfold openingAdjustments BroadcastQueue.leaveAdjustments BroadcastQueue.checkAdjustments
      at opening
    split at opening <;> grind [Adjustment.movesWriter, Move.movesWriter]
  · unfold closingAdjustments BroadcastQueue.putAdjustments BroadcastQueue.takeAdjustments at closing
    split at closing <;> grind [Adjustment.movesWriter]

/-- There are as many writers as handles of writers, if every writer has its slot. -/
theorem Housed.writers_step (housed : t.Housed) (counted : t.queue.pace.writers = t.writers.length)
    (move : Move) : (t.step move).queue.pace.writers = (t.step move).writers.length := by
  by_cases stays : move.movesWriter = false
  · rw [pace_step, PaceState.writers_adjustAll (movesWriter_adjustments stays),
      (t.callers_step move).2 stays]
    exact counted
  · cases move with
    | attachWriter => exact (t.queue.pace.writers_addWriter).trans (congrArg Nat.succ counted)
    | detachWriter slot =>
      dsimp only [Traffic.step]
      split
      · next free =>
        obtain ⟨attached, -⟩ := Bool.and_eq_true_iff.1 free
        have mem := List.contains_iff_mem.1 attached
        have fewer := PaceState.writers_removeWriter (housed.taken slot mem)
        rw [counted] at fewer
        exact (List.length_erase_of_mem mem).symm ▸ Nat.eq_sub_of_add_eq fewer
      · exact counted
    | _ => exact absurd rfl stays

/-- Nobody but its writer touches a slot, apart from the end of an interval. -/
theorem passes_step {slot : Nat} (taken : t.queue.pace.isTaken slot = true)
    (stays : move ≠ .detachWriter slot)
    (apart : ∀ attempt, t.attempt? move = some attempt → attempt.slot ≠ slot) :
    PaceState.Passes t.queue.pace (t.step move).queue.pace slot := by
  rw [pace_step]
  apply PaceState.passes_adjustAll taken
  intro adjustment mem
  refine ⟨ne_removeWriter_of_mem_adjustments ?_ adjustment mem, ?_⟩
  · rintro gone rfl same
    exact stays (congrArg _ same)
  · rintro rfl
    simpa [Adjustment.spares] using spares_adjustments apart _ mem

/-- What the last section of a call to write makes of a count, from where it comes as far as putting
its message. -/
theorem count?_of_attempt {attempt : Attempt α} (comes : t.attempt? move = some attempt)
    (slot : Nat) :
    (t.step move).queue.pace.count? slot =
      if slot = attempt.slot then
        (attempt.traffic.queue.pace.count? slot).map
          (· + ((t.step move).queue.pace.tail - attempt.traffic.queue.pace.tail))
      else attempt.traffic.queue.pace.count? slot := by
  rw [step_of_attempt comes, pace_attemptWrite, BroadcastQueue.putAdjustments]
  generalize attempt.traffic.queue.pace = s
  -- the message is counted if it is put, and it is put if the tail moves on
  have noted : (s.noteWrite attempt.slot).count? slot =
      if slot = attempt.slot then (s.count? slot).map (· + (s.tail + 1 - s.tail))
      else s.count? slot := by
    split
    case isTrue same =>
      rw [same, s.count?_noteWrite, Nat.add_sub_cancel_left]
    case isFalse other => exact s.count?_noteWrite_of_ne (Ne.symm other)
  have refused : s.count? slot =
      if slot = attempt.slot then (s.count? slot).map (· + (s.tail - s.tail))
      else s.count? slot := by
    rw [Nat.sub_self]
    simp
  cases (attempt.traffic.queue.offer attempt.slot attempt.message).1 with
  | closed => exact refused
  | full => exact refused
  | stored => exact noted
  | dropped => exact noted

/-! ## Runs -/

/-- Each writer has a slot of its own, and a count of its own in it. -/
structure Exclusive (t : Traffic α) : Prop where
  /-- No two writers have the same slot. -/
  distinct : t.writers.Nodup
  /-- The slot of each writer is in use. -/
  occupied : ∀ slot ∈ t.writers, ∃ count, t.queue.pace.count? slot = some count
  /-- The number of writers is that of the handles that have not been let go. -/
  counted : t.queue.pace.writers = t.writers.length
  /-- The next writer is given a slot that nobody has, whosever it was, and begins with nothing. -/
  fresh : (t.step .attachWriter).writers = t.queue.attachWriter.1 :: t.writers ∧
    t.queue.attachWriter.1 ∉ t.writers ∧
      (t.step .attachWriter).queue.pace.count? t.queue.attachWriter.1 = some 0
  /-- A writer that puts a message has one more in its count. No other count changes. -/
  put : ∀ move attempt, t.attempt? move = some attempt →
    attempt.slot ∈ t.writers ∧
    (t.step move).queue.pace.count? attempt.slot =
      (attempt.traffic.queue.pace.count? attempt.slot).map
        (· + ((t.step move).queue.pace.tail - attempt.traffic.queue.pace.tail)) ∧
      ∀ other, other ≠ attempt.slot →
        (t.step move).queue.pace.count? other = attempt.traffic.queue.pace.count? other
  /-- Whatever else is done in any section, the count of a writer that stays and puts nothing is as it
  was, unless an interval ends. -/
  left : ∀ move, ∀ slot ∈ t.writers, move ≠ .detachWriter slot →
    (∀ attempt, t.attempt? move = some attempt → attempt.slot ≠ slot) →
      PaceState.Passes t.queue.pace (t.step move).queue.pace slot

theorem Housed.exclusive (housed : t.Housed) (counted : t.queue.pace.writers = t.writers.length) :
    t.Exclusive where
  distinct := housed.distinct
  occupied := by
    intro slot mem
    have taken := housed.taken slot mem
    rw [PaceState.isTaken_eq_isSome] at taken
    exact Option.isSome_iff_exists.1 taken
  counted := counted
  fresh := by
    refine ⟨rfl, fun mem => ?_, t.queue.pace.count?_addWriter_self⟩
    have free := t.queue.pace.isTaken_addWriter_fst
    exact Bool.false_ne_true (free.symm.trans (housed.taken _ mem))
  put := by
    intro move attempt comes
    refine ⟨housed.mem_writers_of_attempt comes, ?_, fun other apart => ?_⟩
    · rw [count?_of_attempt comes, if_pos rfl]
    · rw [count?_of_attempt comes, if_neg apart]
  left := fun move slot mem stays apart => passes_step (housed.taken slot mem) stays apart

/-- Writers have slots and counts of their own whatever threads do, however many writers have come and
gone. -/
theorem exclusive_run (capacity : Nat) (policy : PacingPolicy α) (start : Nat) (moves : List Move) :
    ((quiet capacity policy start).run moves).Exclusive := by
  refine (housed_run capacity policy start moves).exclusive ?_
  -- the number of writers is kept by each section, and needs that every writer has its slot before it
  induction moves using List.reverseRecOn with
  | nil => rfl
  | append_singleton moves move ih =>
    rw [run_concat]
    exact (housed_run capacity policy start moves).writers_step ih move

/-- The first of two writers puts a message and goes. Another one comes in the same interval: it has
the slot, and not the count. -/
example :
    let moves := [.attachReader, .attachWriter, .attachWriter, .write 0 ⟨⟨1⟩, .fromPeer, []⟩ 0 0]
    let before := (quiet 4 ⟨4 / 5, 3 / 5, (1 / 2 : ℚ), 2, 10, .perWriter⟩ 0).run moves
    let after := before.run [.detachWriter 0, .attachWriter]
    (before.writers, before.queue.pace.writes) = ([1, 0], [some 1, some 0]) ∧
      (after.writers, after.queue.pace.writes) = ([0, 1], [some 0, some 0]) := by
  decide +kernel

end Traffic

end CollectorFeed
