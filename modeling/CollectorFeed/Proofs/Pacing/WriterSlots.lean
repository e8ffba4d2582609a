import CollectorFeed.Proofs.Pacing.WaitingWriters

/-!
# Slots of writers

The writes of an interval are counted in slots, and a slot that a writer has let go is given to the
next one. `housed_run` says that this leaves no writer without its slot, so that whatever it puts is
counted (`written_noteWrite`).
-/

set_option autoImplicit false

namespace CollectorFeed

variable {α : Type}

/-! ## Slots in use -/

namespace PaceState

/-- Whether a slot is that of a writer. -/
def isTaken (s : PaceState α) (slot : Nat) : Bool :=
  ((s.writes.map Option.isSome)[slot]?).getD false

theorem isTaken_eq {s r : PaceState α}
    (slots : r.writes.map Option.isSome = s.writes.map Option.isSome) (slot : Nat) :
    r.isTaken slot = s.isTaken slot := by
  rw [isTaken, isTaken, slots]

/-- A new writer is given a slot that was free. -/
theorem isTaken_addWriter_fst (s : PaceState α) : s.isTaken s.addWriter.1 = false := by
  simp only [isTaken, addWriter]
  induction s.writes with
  | nil => rfl
  | cons count rest ih =>
    cases count with
    | none => rfl
    | some count => simpa using ih

theorem isTaken_addWriter_self (s : PaceState α) : s.addWriter.2.isTaken s.addWriter.1 = true := by
  have within := (List.takeWhile_sublist (p := Option.isSome) (l := s.writes)).length_le
  simp only [isTaken, addWriter]
  split <;> grind

theorem isTaken_addWriter {s : PaceState α} {slot : Nat} (taken : s.isTaken slot = true) :
    s.addWriter.2.isTaken slot = true := by
  simp only [isTaken, addWriter] at taken ⊢
  split <;> grind

theorem isTaken_removeWriter (s : PaceState α) {gone slot : Nat} (apart : gone ≠ slot) :
    (s.removeWriter gone).isTaken slot = s.isTaken slot := by
  simp only [isTaken, removeWriter]
  grind

theorem isTaken_noteWrite (s : PaceState α) (writer slot : Nat) :
    (s.noteWrite writer).isTaken slot = s.isTaken slot := by
  simp only [isTaken, noteWrite]
  grind

/-- A write is counted in the slot of its writer. -/
theorem written_noteWrite {s : PaceState α} {slot : Nat} (taken : s.isTaken slot = true) :
    (s.noteWrite slot).written slot = s.written slot + 1 := by
  simp only [isTaken, written, noteWrite, List.getElem?_map, List.getElem?_modify_eq] at taken ⊢
  cases entry : s.writes[slot]? with
  | none => simp [entry] at taken
  | some count =>
    cases count with
    | none => simp [entry] at taken
    | some count => rfl

variable [PacingNumber α]

/-- A slot is free again only when its writer goes. -/
theorem isTaken_adjust {s : PaceState α} {slot : Nat} (taken : s.isTaken slot = true)
    {adjustment : Adjustment} (stays : adjustment ≠ .removeWriter slot) :
    (s.adjust adjustment).isTaken slot = true := by
  cases adjustment with
  | addWriter => exact isTaken_addWriter taken
  | removeWriter gone =>
    have apart : gone ≠ slot := fun same => stays (congrArg _ same)
    exact (s.isTaken_removeWriter apart).trans taken
  | noteWrite writer => exact (s.isTaken_noteWrite writer slot).trans taken
  | closeIntervals now =>
    exact (isTaken_eq (samePlace_closeIntervals s now).slots slot).trans taken
  | recomputeLimit => exact (isTaken_eq (samePlace_recomputeLimit s).slots slot).trans taken
  | pace writer now =>
    simp only [adjust, pace, noticeFilling]
    split <;> exact taken
  | noticeEmptying =>
    simp only [adjust, noticeEmptying]
    split <;> exact taken
  | _ => exact taken

theorem isTaken_adjustAll {s : PaceState α} {slot : Nat} (taken : s.isTaken slot = true)
    {adjustments : List Adjustment}
    (stays : ∀ adjustment ∈ adjustments, adjustment ≠ .removeWriter slot) :
    (s.adjustAll adjustments).isTaken slot = true := by
  induction adjustments generalizing s with
  | nil => exact taken
  | cons adjustment rest ih =>
    obtain ⟨first, others⟩ := List.forall_mem_cons.1 stays
    exact ih (isTaken_adjust taken first) others

end PaceState

namespace Traffic

variable [PacingNumber α]

/-- The section in which a slot becomes free is that of its writer. -/
theorem ne_removeWriter_of_mem_adjustments {t : Traffic α} {move : Move} {slot : Nat}
    (stays : ∀ gone, move = .detachWriter gone → gone ≠ slot) :
    ∀ adjustment ∈ t.adjustments move, adjustment ≠ .removeWriter slot := by
  intro adjustment mem
  rcases List.mem_append.1 mem with opening | closing
  · unfold openingAdjustments BroadcastQueue.leaveAdjustments BroadcastQueue.checkAdjustments
      at opening
    split at opening <;> grind
  · unfold closingAdjustments BroadcastQueue.putAdjustments BroadcastQueue.takeAdjustments at closing
    split at closing <;> grind

/-! ## Writers and their slots -/

/-- Every writer has its slot. -/
structure Housed (t : Traffic α) : Prop where
  /-- No two writers have the same one. -/
  distinct : t.writers.Nodup
  /-- Slots of writers are in use. -/
  taken : ∀ slot ∈ t.writers, t.queue.pace.isTaken slot = true
  /-- Calls that wait are calls of writers. -/
  callers : ∀ entry ∈ t.calls, ∀ slot, entry.2.writes slot = true → slot ∈ t.writers

theorem housed_quiet (capacity : Nat) (policy : PacingPolicy α) (start : Nat) :
    (quiet capacity policy start).Housed where
  distinct := List.nodup_nil
  taken := fun _ mem => absurd mem List.not_mem_nil
  callers := fun _ mem => absurd mem List.not_mem_nil

variable {t : Traffic α} {move : Move}

/-- A call that comes as far as putting its message is a call of a writer. -/
theorem Housed.mem_writers_of_attempt (housed : t.Housed) {attempt : Attempt α}
    (comes : t.attempt? move = some attempt) : attempt.slot ∈ t.writers := by
  cases comes_of_attempt? comes with
  | begins attached _ => exact List.contains_iff_mem.1 attached
  | @resumes _ _ slot _ _ paused =>
    exact housed.callers _ (mem_calls_of_activity? paused) slot (beq_self_eq_true slot)
  | @retries _ slot _ blocked =>
    exact housed.callers _ (mem_calls_of_activity? blocked) slot (beq_self_eq_true slot)

/-- What is put then is counted. -/
theorem Housed.isTaken_of_attempt (housed : t.Housed) {attempt : Attempt α}
    (comes : t.attempt? move = some attempt) :
    attempt.traffic.queue.pace.isTaken attempt.slot = true := by
  rw [pace_of_attempt comes]
  apply PaceState.isTaken_adjustAll (housed.taken _ (housed.mem_writers_of_attempt comes))
  intro adjustment mem
  refine ne_removeWriter_of_mem_adjustments ?_ adjustment (List.mem_append_left _ mem)
  rintro gone rfl
  cases comes

/-- Writers that wait after a section were writers before. -/
theorem Housed.mem_writers_of_waiting (housed : t.Housed) {entry : Nat × Activity}
    (waits : WaitingWriter t move entry) {slot : Nat} (writes : entry.2.writes slot = true) :
    slot ∈ t.writers := by
  cases waits with
  | still before apart =>
    obtain ⟨old, mem, writes'⟩ := before.exists_writes writes
    exact housed.callers _ mem slot writes'
  | @paused writer now checked milliseconds message _ attached _ _ =>
    obtain rfl : writer = slot := by simpa [Activity.writes] using writes
    exact List.contains_iff_mem.1 attached
  | @blocked attempt comes _ =>
    obtain rfl : attempt.slot = slot := by simpa [Activity.writes] using writes
    exact housed.mem_writers_of_attempt comes

theorem Housed.attachWriter (housed : t.Housed) : (t.step .attachWriter).Housed where
  distinct := by
    refine List.nodup_cons.2 ⟨?_, housed.distinct⟩
    intro mem
    have free := t.queue.pace.isTaken_addWriter_fst
    exact Bool.false_ne_true (free.symm.trans (housed.taken _ mem))
  taken := by
    intro slot mem
    rcases List.mem_cons.1 mem with rfl | old
    · exact t.queue.pace.isTaken_addWriter_self
    · exact PaceState.isTaken_addWriter (housed.taken slot old)
  callers := fun entry mem slot writes => List.mem_cons_of_mem _ (housed.callers entry mem slot writes)

theorem Housed.detachWriter (housed : t.Housed) (slot : Nat) :
    (t.step (.detachWriter slot)).Housed := by
  dsimp only [Traffic.step]
  split
  · next free =>
    obtain ⟨-, idle⟩ := Bool.and_eq_true_iff.1 free
    refine ⟨housed.distinct.erase slot, ?_, ?_⟩
    · intro other mem
      obtain ⟨apart, old⟩ := housed.distinct.mem_erase_iff.1 mem
      exact (t.queue.pace.isTaken_removeWriter apart.symm).trans (housed.taken other old)
    · intro entry mem other writes
      refine (List.mem_erase_of_ne ?_).2 (housed.callers entry mem other writes)
      -- nobody writes in the slot that becomes free
      rintro rfl
      have busy : t.isWriting other = true := List.any_eq_true.2 ⟨entry, mem, writes⟩
      simp [busy] at idle
  · exact housed

theorem Housed.step (housed : t.Housed) (wakeful : t.Wakeful) (move : Move) :
    (t.step move).Housed := by
  by_cases stays : move.movesWriter = false
  · have same := (t.callers_step move).2 stays
    refine ⟨?_, ?_, ?_⟩
    · rw [same]
      exact housed.distinct
    · intro slot mem
      rw [same] at mem
      rw [pace_step]
      apply PaceState.isTaken_adjustAll (housed.taken slot mem)
      apply ne_removeWriter_of_mem_adjustments
      rintro gone rfl
      cases stays
    · intro entry mem slot writes
      rw [same]
      exact housed.mem_writers_of_waiting (waitingWriter_step wakeful.begun writes mem) writes
  · cases move with
    | attachWriter => exact housed.attachWriter
    | detachWriter slot => exact housed.detachWriter slot
    | _ => exact absurd rfl stays

/-- Writers have their slots whatever threads do. -/
theorem housed_run (capacity : Nat) (policy : PacingPolicy α) (start : Nat) (moves : List Move) :
    ((quiet capacity policy start).run moves).Housed := by
  have all : ∀ t : Traffic α, t.Housed → t.Wakeful → t.Sound → (t.run moves).Housed := by
    induction moves with
    | nil => exact fun t housed _ _ => housed
    | cons move moves ih =>
      intro t housed wakeful sound
      exact ih _ (housed.step wakeful move) (wakeful.step sound move) (sound.step move)
  exact all _ (housed_quiet capacity policy start) (wakeful_quiet capacity policy start)
    (sound_quiet capacity policy start)

end Traffic

end CollectorFeed
