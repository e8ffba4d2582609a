import CollectorFeed.Proofs.Pacing.Sections

/-!
# Pacing on and off

Pacing turns on when a writer finds the queue filled far enough, and off when a reader leaves it
filled little enough. In between the filling may go up and down as it likes. `Hysteresis` says so of
any run of threads, for any two conditions on the filling: `high` for turning pacing on and `low`
for turning it off.

`pacingTurn` sorts the sections by what they do to pacing: one may check whether a writer has to
wait, serve a reader, or leave pacing alone. What is true of whole runs follows from that, and
`hysteresis_run` is the main statement. It holds for any two thresholds.
-/

set_option autoImplicit false

namespace CollectorFeed

open PacingNumber

variable {α : Type} [PacingNumber α]

/-! ## The two conditions on the filling -/

namespace PacingPolicy

/-- Whether a queue that keeps so many messages is filled to the share at which pacing turns on. -/
def isHigh (policy : PacingPolicy α) (capacity occupancy : Nat) : Bool :=
  atLeast (div (ofCount occupancy) (ofCount capacity)) policy.onThreshold

/-- Whether a queue that keeps so many messages is filled below the share at which pacing turns
off. -/
def isLow (policy : PacingPolicy α) (capacity occupancy : Nat) : Bool :=
  below (div (ofCount occupancy) (ofCount capacity)) policy.offThreshold

end PacingPolicy

/-! ## What adjustments do to pacing -/

namespace PaceState

theorem pace_of_high {s : PaceState α} (high : s.policy.isHigh s.capacity s.occupancy = true)
    (slot now : Nat) :
    (s.pace slot now).2 =
      { s with
        active := true
        activations := if s.active then s.activations else s.activations + 1 } :=
  if_pos high

theorem pace_of_not_high {s : PaceState α} (high : s.policy.isHigh s.capacity s.occupancy = false)
    (slot now : Nat) : (s.pace slot now).2 = s :=
  if_neg fun is => Bool.false_ne_true (high.symm.trans is)

/-- A check turns pacing on if the queue is filled far enough, and never off. -/
theorem active_pace (s : PaceState α) (slot now : Nat) :
    (s.pace slot now).2.active = (s.active || s.policy.isHigh s.capacity s.occupancy) := by
  cases high : s.policy.isHigh s.capacity s.occupancy with
  | true => rw [pace_of_high high, Bool.or_true]
  | false => rw [pace_of_not_high high, Bool.or_false]

/-- A check counts when it turns pacing on. -/
theorem activations_pace (s : PaceState α) (slot now : Nat) :
    (s.pace slot now).2.activations =
      s.activations + (!s.active && (s.pace slot now).2.active).toNat := by
  cases high : s.policy.isHigh s.capacity s.occupancy with
  | true =>
    rw [pace_of_high high]
    cases s.active <;> rfl
  | false =>
    rw [pace_of_not_high high]
    cases s.active <;> rfl

/-- A check that leaves pacing off makes nobody wait. -/
theorem pace_of_inactive {s : PaceState α} {slot now : Nat}
    (inactive : (s.pace slot now).2.active = false) : (s.pace slot now).1 = none := by
  have off : s.noticeFilling.active = false := inactive
  simp [pace, off]

omit [PacingNumber α] in
theorem occupancy_of_extent {s r : PaceState α} (same : r.extent = s.extent) :
    r.occupancy = s.occupancy :=
  congrArg (fun extent : Extent => extent.tail - extent.head) same

/-- Looking at the filling turns pacing off if the queue is filled little enough, and never on. -/
theorem active_noticeEmptying (s : PaceState α) :
    s.noticeEmptying.active =
      (s.active && !s.policy.isLow s.capacity s.noticeEmptying.occupancy) := by
  have occupancy := occupancy_of_extent (extent_noticeEmptying s)
  have low : below s.filling s.policy.offThreshold = s.policy.isLow s.capacity s.occupancy := rfl
  rw [occupancy, noticeEmptying, low]
  cases on : s.active <;> cases s.policy.isLow s.capacity s.occupancy <;> simp [on]

theorem activations_noticeEmptying (s : PaceState α) :
    s.noticeEmptying.activations = s.activations := by
  unfold noticeEmptying
  split <;> rfl

end PaceState

/-- Whether an adjustment may turn pacing on or off. -/
def Adjustment.turns : Adjustment → Bool
  | pace _ _ => true
  | noticeEmptying => true
  | _ => false

namespace PaceState

/-- Two states in which pacing is the same, and has been turned on as often. -/
def SamePacing (s r : PaceState α) : Prop :=
  r.active = s.active ∧ r.activations = s.activations

theorem samePacing_adjust {s : PaceState α} {adjustment : Adjustment}
    (quiet : adjustment.turns = false) : SamePacing s (s.adjust adjustment) := by
  cases adjustment with
  | closeIntervals now =>
    have place := samePlace_closeIntervals s now
    exact ⟨place.active, place.activations⟩
  | recomputeLimit =>
    have place := samePlace_recomputeLimit s
    exact ⟨place.active, place.activations⟩
  | pace slot now => cases quiet
  | noticeEmptying => cases quiet
  | _ => exact ⟨rfl, rfl⟩

theorem samePacing_adjustAll {s : PaceState α} {adjustments : List Adjustment}
    (quiet : ∀ adjustment ∈ adjustments, adjustment.turns = false) :
    SamePacing s (s.adjustAll adjustments) := by
  induction adjustments generalizing s with
  | nil => exact ⟨rfl, rfl⟩
  | cons adjustment rest ih =>
    obtain ⟨first, others⟩ := List.forall_mem_cons.1 quiet
    have before := samePacing_adjust (s := s) first
    have after := ih (s := s.adjust adjustment) others
    exact ⟨after.1.trans before.1, after.2.trans before.2⟩

end PaceState

namespace BroadcastQueue

/-! ## What the check of a writer does to pacing -/

theorem occupancy_beginWrite (q : BroadcastQueue α) (slot now checked : Nat) :
    (q.beginWrite slot now checked).2.pace.occupancy = q.pace.occupancy :=
  PaceState.occupancy_of_extent (q.alike_beginWrite slot now checked).extent

theorem active_beginWrite {q : BroadcastQueue α} (taking : q.closed = false)
    (slot now checked : Nat) :
    (q.beginWrite slot now checked).2.pace.active =
      (q.pace.active || q.pace.policy.isHigh q.pace.capacity q.pace.occupancy) := by
  have place := PaceState.samePlace_closeIntervals q.pace now
  have capacity : (q.pace.closeIntervals now).capacity = q.pace.capacity :=
    congrArg PaceState.Extent.capacity place.extent
  rw [beginWrite_of_open taking, PaceState.active_pace, place.active, place.policy,
    PaceState.occupancy_of_extent place.extent, capacity]

theorem activations_beginWrite {q : BroadcastQueue α} (taking : q.closed = false)
    (slot now checked : Nat) :
    (q.beginWrite slot now checked).2.pace.activations = q.pace.activations +
      (!q.pace.active && (q.beginWrite slot now checked).2.pace.active).toNat := by
  have place := PaceState.samePlace_closeIntervals q.pace now
  rw [beginWrite_of_open taking, PaceState.activations_pace, place.active, place.activations]

/-- A check that leaves pacing off makes nobody wait. -/
theorem ready_of_inactive {q : BroadcastQueue α} (taking : q.closed = false)
    {slot now checked : Nat} (off : (q.beginWrite slot now checked).2.pace.active = false) :
    (q.beginWrite slot now checked).1 = .ready := by
  rw [beginWrite_of_open taking] at off
  exact (ready_iff taking).2 (PaceState.pace_of_inactive off)

end BroadcastQueue

namespace Traffic

/-! ## Sections, sorted by what they do to pacing -/

/-- The section checks whether a writer has to wait. -/
def ChecksPacing (t : Traffic α) (move : Move) : Prop :=
  ∃ slot message now checked, move = .write slot message now checked ∧
    t.writers.contains slot = true ∧ t.queue.closed = false

/-- In the section a reader takes a message, or a reader is let go. -/
def ServesReader (t : Traffic α) (move : Move) : Prop :=
  (∃ reader, t.looker? move = some reader ∧ (t.queue.take reader).1.isSome = true) ∨
    ∃ reader, move = .detachReader reader ∧
      (t.queue.isRegistered reader && !t.isReading reader) = true

/-- What a section does to pacing. -/
inductive PacingTurn (t : Traffic α) (move : Move) : Prop
  /-- It checks whether a writer has to wait. -/
  | check (checks : t.ChecksPacing move) (unserved : ¬ t.ServesReader move)
      (active : (t.step move).queue.pace.active = (t.queue.pace.active ||
        t.queue.pace.policy.isHigh t.queue.pace.capacity t.queue.pace.occupancy))
      (activations : (t.step move).queue.pace.activations = t.queue.pace.activations +
        (!t.queue.pace.active && (t.step move).queue.pace.active).toNat)
  /-- It serves a reader. -/
  | serve (serves : t.ServesReader move)
      (active : (t.step move).queue.pace.active = (t.queue.pace.active &&
        !t.queue.pace.policy.isLow t.queue.pace.capacity (t.step move).queue.pace.occupancy))
      (activations : (t.step move).queue.pace.activations = t.queue.pace.activations)
  /-- It does neither. -/
  | quiet (unserved : ¬ t.ServesReader move)
      (same : PaceState.SamePacing t.queue.pace (t.step move).queue.pace)

omit [PacingNumber α] in
theorem turns_putAdjustments {q : BroadcastQueue α} {slot : Nat} {message : Message} :
    ∀ adjustment ∈ q.putAdjustments slot message, adjustment.turns = false := by
  unfold BroadcastQueue.putAdjustments
  cases (q.offer slot message).1 <;> simp [Adjustment.turns]

/-- Unless a reader looks for a message, pacing is turned on or off at the beginning of a section. -/
theorem turns_closingAdjustments {t : Traffic α} {move : Move} (looks : t.looker? move = none) :
    ∀ adjustment ∈ t.closingAdjustments move, adjustment.turns = false := by
  unfold closingAdjustments
  rw [looks]
  cases t.attempt? move with
  | none => simp
  | some attempt => exact turns_putAdjustments

/-- Only readers are served. -/
theorem not_servesReader {t : Traffic α} {move : Move} (looks : t.looker? move = none)
    (other : ∀ reader, move ≠ .detachReader reader) : ¬ t.ServesReader move := by
  rintro (⟨reader, looks', -⟩ | ⟨reader, leaves, -⟩)
  · rw [looks] at looks'
    cases looks'
  · exact other reader leaves

/-- A reader is served if the filling is looked at last and nothing before that has to do with
pacing. -/
theorem serve_of_pace_eq {t : Traffic α} {move : Move} (serves : t.ServesReader move)
    {s : PaceState α} (same : PaceState.SamePacing t.queue.pace s)
    (policy : s.policy = t.queue.pace.policy) (capacity : s.capacity = t.queue.pace.capacity)
    (pace : (t.step move).queue.pace = s.noticeEmptying) : PacingTurn t move := by
  refine .serve serves ?_ ?_
  · rw [pace, s.active_noticeEmptying, same.1, policy, capacity]
  · rw [pace, s.activations_noticeEmptying, same.2]

theorem pacingTurn_of_looker {t : Traffic α} {move : Move} {reader : Nat}
    (looks : t.looker? move = some reader) : PacingTurn t move := by
  have pace := t.pace_step move
  obtain ⟨opening, comes⟩ := openingAdjustments_of_looker looks
  simp only [adjustments, closingAdjustments, opening, comes, looks, List.nil_append,
    BroadcastQueue.takeAdjustments] at pace
  cases taken : (t.queue.take reader).1 with
  | none =>
    -- a reader that finds nothing has not been served, and nothing was adjusted
    rw [taken] at pace
    refine .quiet ?_ (by rw [pace]; exact ⟨rfl, rfl⟩)
    rintro (⟨other, looks', given⟩ | ⟨other, rfl, -⟩)
    · rw [looks] at looks'
      rw [← Option.some.inj looks', taken] at given
      cases given
    · cases looks
  | some message =>
    rw [taken] at pace
    have serves : t.ServesReader move := .inl ⟨reader, looks, by rw [taken]; rfl⟩
    exact serve_of_pace_eq (s := t.queue.pace.noteRead.moveHead _) serves ⟨rfl, rfl⟩ rfl rfl pace

/-- A section that begins with nothing that turns pacing on or off, and in which nobody looks for a
message, leaves pacing alone. -/
theorem samePacing_step {t : Traffic α} {move : Move} (looks : t.looker? move = none)
    (opening : ∀ adjustment ∈ t.openingAdjustments move, adjustment.turns = false) :
    PaceState.SamePacing t.queue.pace (t.step move).queue.pace := by
  rw [pace_step]
  apply PaceState.samePacing_adjustAll
  intro adjustment mem
  rcases List.mem_append.1 mem with first | last
  · exact opening adjustment first
  · exact turns_closingAdjustments looks adjustment last

/-- A call to write begins with the check, and what follows in the same section leaves pacing
alone. -/
theorem samePacing_write {t : Traffic α} {slot : Nat} (attached : t.writers.contains slot = true)
    (message : Message) (now checked : Nat) :
    PaceState.SamePacing (t.queue.beginWrite slot now checked).2.pace
      (t.step (.write slot message now checked)).queue.pace := by
  rw [pace_step, adjustments, PaceState.adjustAll_append, openingAdjustments, if_pos attached,
    ← BroadcastQueue.pace_beginWrite]
  exact PaceState.samePacing_adjustAll (turns_closingAdjustments rfl)

theorem pacingTurn_write (t : Traffic α) (slot : Nat) (message : Message) (now checked : Nat) :
    PacingTurn t (.write slot message now checked) := by
  have unserved : ¬ t.ServesReader (.write slot message now checked) :=
    not_servesReader rfl nofun
  by_cases checks : t.ChecksPacing (.write slot message now checked)
  · have ⟨slot', message', now', checked', this, attached, taking⟩ := checks
    obtain ⟨rfl, rfl, rfl, rfl⟩ := Move.write.inj this
    have same := samePacing_write attached message now checked
    refine .check checks unserved ?_ ?_
    · rw [same.1, BroadcastQueue.active_beginWrite taking]
    · rw [same.2, same.1, BroadcastQueue.activations_beginWrite taking]
  · -- without a check there are no adjustments to begin with
    refine .quiet unserved (samePacing_step rfl ?_)
    intro adjustment mem
    dsimp only [openingAdjustments] at mem
    split at mem
    · next attached =>
      unfold BroadcastQueue.checkAdjustments at mem
      split at mem
      · cases mem
      · next taking =>
        exact absurd ⟨slot, message, now, checked, rfl, attached, by simpa using taking⟩ checks
    · cases mem

theorem pacingTurn_detachReader (t : Traffic α) (reader : Nat) :
    PacingTurn t (.detachReader reader) := by
  have pace := t.pace_step (.detachReader reader)
  simp only [adjustments, openingAdjustments] at pace
  cases free : t.queue.isRegistered reader && !t.isReading reader with
  | true =>
    rw [if_pos free] at pace
    exact serve_of_pace_eq (s := t.queue.pace.removeReader.moveHead _) (.inr ⟨reader, rfl, free⟩)
      ⟨rfl, rfl⟩ rfl rfl pace
  | false =>
    rw [if_neg (by rw [free]; exact Bool.false_ne_true)] at pace
    refine .quiet ?_ (by rw [pace]; exact ⟨rfl, rfl⟩)
    rintro (⟨other, looks, -⟩ | ⟨other, same, free'⟩)
    · cases looks
    · obtain rfl := Move.detachReader.inj same
      exact Bool.false_ne_true (free.symm.trans free')

/-- A section is of one of the three kinds. -/
theorem pacingTurn (t : Traffic α) (move : Move) : PacingTurn t move := by
  cases looks : t.looker? move with
  | some reader => exact pacingTurn_of_looker looks
  | none =>
    cases move with
    | write slot message now checked => exact t.pacingTurn_write slot message now checked
    | detachReader reader => exact t.pacingTurn_detachReader reader
    | _ =>
      refine .quiet (not_servesReader looks nofun) (samePacing_step looks ?_)
      intro adjustment mem
      unfold openingAdjustments at mem
      split at mem <;> grind [Adjustment.turns]

/-! ## What one section may do -/

/-- Whether pacing turns on in a section. -/
def turnsOn (t : Traffic α) (move : Move) : Bool :=
  !t.queue.pace.active && (t.step move).queue.pace.active

/-- Whether pacing turns off in a section. -/
def turnsOff (t : Traffic α) (move : Move) : Bool :=
  t.queue.pace.active && !(t.step move).queue.pace.active

/-- What a section may do to pacing, where two conditions on the number of messages that are kept
say when pacing turns on and off. -/
structure SectionLaw (high low : Nat → Bool) (t : Traffic α) (move : Move) : Prop where
  /-- Pacing turns on only where it is checked whether a writer has to wait, with the queue filled
  far enough. -/
  on_of_check : t.turnsOn move = true → t.ChecksPacing move ∧ high t.queue.pace.occupancy = true
  /-- Pacing turns off only where a reader is served, which leaves the queue filled little
  enough. -/
  off_of_serve : t.turnsOff move = true →
    t.ServesReader move ∧ low (t.step move).queue.pace.occupancy = true
  /-- After a check, pacing is on if the queue is filled far enough. -/
  checked : ∀ slot message now checked, move = .write slot message now checked →
    t.ChecksPacing move →
      high (t.queue.beginWrite slot now checked).2.pace.occupancy = true →
        (t.queue.beginWrite slot now checked).2.pace.active = true
  /-- Pacing is left as the check leaves it. -/
  lasts : ∀ slot message now checked, move = .write slot message now checked →
    t.ChecksPacing move → (t.step move).queue.pace.active =
      (t.queue.beginWrite slot now checked).2.pace.active
  /-- After a reader was served, pacing is off if the queue is filled little enough. -/
  served : t.ServesReader move → (t.step move).queue.pace.active = true →
    low (t.step move).queue.pace.occupancy = false
  /-- A check that leaves pacing off makes nobody wait. -/
  waits : ∀ slot message now checked, move = .write slot message now checked →
    t.ChecksPacing move → (t.queue.beginWrite slot now checked).2.pace.active = false →
      (t.queue.beginWrite slot now checked).1 = .ready

/-- A section obeys the law for the thresholds and the capacity of its queue. -/
theorem sectionLaw (t : Traffic α) (move : Move) :
    SectionLaw (t.queue.pace.policy.isHigh t.queue.pace.capacity)
      (t.queue.pace.policy.isLow t.queue.pace.capacity) t move := by
  have taking : t.ChecksPacing move → t.queue.closed = false := by
    rintro ⟨_, _, _, _, _, _, taking⟩
    exact taking
  refine ⟨?_, ?_, ?_, ?_, ?_, ?_⟩
  · intro turns
    obtain ⟨off, on⟩ := Bool.and_eq_true_iff.1 turns
    rw [Bool.not_eq_true'] at off
    cases t.pacingTurn move with
    | check checks _ active _ => exact ⟨checks, by simpa [off] using active.symm.trans on⟩
    | serve _ active _ => simp [off, on] at active
    | quiet _ same => exact absurd (same.1.symm.trans on) (by simp [off])
  · intro turns
    obtain ⟨on, off⟩ := Bool.and_eq_true_iff.1 turns
    rw [Bool.not_eq_true'] at off
    cases t.pacingTurn move with
    | check _ _ active _ => simp [on, off] at active
    | serve serves active _ => exact ⟨serves, by simpa [on] using active.symm.trans off⟩
    | quiet _ same => exact absurd (same.1.symm.trans off) (by simp [on])
  · intro slot _ now checked _ checks high
    rw [BroadcastQueue.occupancy_beginWrite] at high
    rw [BroadcastQueue.active_beginWrite (taking checks), high, Bool.or_true]
  · rintro slot message now checked rfl ⟨_, _, _, _, same, attached, -⟩
    obtain ⟨rfl, rfl, rfl, rfl⟩ := Move.write.inj same
    exact (samePacing_write attached message now checked).1
  · intro serves on
    cases t.pacingTurn move with
    | check _ unserved _ _ => exact absurd serves unserved
    | serve _ active _ => simpa using (Bool.and_eq_true_iff.1 (active.symm.trans on)).2
    | quiet unserved _ => exact absurd serves unserved
  · intro slot _ now checked _ checks off
    exact BroadcastQueue.ready_of_inactive (taking checks) off

/-- A section counts when it turns pacing on. -/
theorem activations_step (t : Traffic α) (move : Move) :
    (t.step move).queue.pace.activations =
      t.queue.pace.activations + (t.turnsOn move).toNat := by
  unfold turnsOn
  cases t.pacingTurn move with
  | check _ _ _ activations => exact activations
  | serve _ active activations =>
    rw [activations, active]
    cases t.queue.pace.active <;> rfl
  | quiet _ same =>
    rw [same.2, same.1]
    cases t.queue.pace.active <;> rfl

/-! ## What runs do -/

/-- How often pacing turns on in a run. -/
def turningsOn (t : Traffic α) : List Move → Nat
  | [] => 0
  | move :: moves => (t.turnsOn move).toNat + (t.step move).turningsOn moves

theorem activations_run (t : Traffic α) (moves : List Move) :
    (t.run moves).queue.pace.activations = t.queue.pace.activations + t.turningsOn moves := by
  induction moves generalizing t with
  | nil => rfl
  | cons move moves ih =>
    calc ((t.step move).run moves).queue.pace.activations
        = (t.step move).queue.pace.activations + (t.step move).turningsOn moves := ih _
      _ = t.queue.pace.activations + t.turningsOn (move :: moves) := by
        rw [activations_step, turningsOn, Nat.add_assoc]

/-- Between a state with pacing on and one with pacing off some section turns it off. -/
theorem exists_turnsOff {t : Traffic α} {moves : List Move} (on : t.queue.pace.active = true)
    (off : (t.run moves).queue.pace.active = false) :
    ∃ before move after, moves = before ++ move :: after ∧
      (t.run before).turnsOff move = true := by
  -- the first section that leaves pacing off
  induction moves generalizing t with
  | nil => exact absurd (on.symm.trans off) nofun
  | cons move moves ih =>
    cases next : (t.step move).queue.pace.active with
    | true =>
      obtain ⟨before, later, after, rfl, turns⟩ := ih next off
      exact ⟨move :: before, later, after, rfl, turns⟩
    | false => exact ⟨[], move, moves, rfl, by simp [turnsOff, run, on, next]⟩

/-- How pacing behaves in a run, where two conditions on the number of messages that are kept say
when it turns on and off. -/
structure Hysteresis (high low : Nat → Bool) (t : Traffic α) (moves : List Move) : Prop where
  /-- Each section obeys the law. -/
  sections : ∀ before move after, moves = before ++ move :: after →
    SectionLaw high low (t.run before) move
  /-- It is counted how often pacing turns on. -/
  activations : (t.run moves).queue.pace.activations = t.turningsOn moves
  /-- Before pacing turns on once more, serving a reader has left the queue filled little enough. -/
  between : ∀ before first middle second after,
    moves = before ++ first :: (middle ++ second :: after) →
      (t.run before).turnsOn first = true →
        (t.run (before ++ first :: middle)).turnsOn second = true →
          ∃ start move rest, middle = start ++ move :: rest ∧
            (t.run (before ++ first :: start)).ServesReader move ∧
              low ((t.run (before ++ first :: start)).step move).queue.pace.occupancy = true

/-- The thresholds and the capacity of a queue stay what they were. -/
theorem sectionLaw_run (capacity : Nat) (policy : PacingPolicy α) (start : Nat)
    (before : List Move) (move : Move) :
    SectionLaw (policy.isHigh (max capacity 1)) (policy.isLow (max capacity 1))
      ((quiet capacity policy start).run before) move := by
  have law := ((quiet capacity policy start).run before).sectionLaw move
  rw [pace_run, PaceState.policy_adjustAll, PaceState.capacity_adjustAll] at law
  exact law

/-- Pacing turns on and off by hysteresis, whatever threads do and in whatever order. -/
theorem hysteresis_run (capacity : Nat) (policy : PacingPolicy α) (start : Nat)
    (moves : List Move) :
    Hysteresis (policy.isHigh (max capacity 1)) (policy.isLow (max capacity 1))
      (quiet capacity policy start) moves := by
  have law := sectionLaw_run capacity policy start
  refine ⟨fun before move _ _ => law before move, ?_, ?_⟩
  · rw [activations_run]
    exact Nat.zero_add _
  · intro before first middle second after _ turnsFirst turnsSecond
    -- pacing is on behind the first section and off in front of the second one
    have on := (Bool.and_eq_true_iff.1 turnsFirst).2
    have off := (Bool.and_eq_true_iff.1 turnsSecond).1
    rw [run_append, Bool.not_eq_true'] at off
    obtain ⟨start', move, rest, rfl, turns⟩ := exists_turnsOff on off
    refine ⟨start', move, rest, rfl, (law _ move).off_of_serve ?_⟩
    rw [run_append]
    exact turns

end Traffic

end CollectorFeed
