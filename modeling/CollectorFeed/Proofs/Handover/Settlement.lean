import CollectorFeed.Proofs.Handover.Course
import CollectorFeed.Proofs.TableDump.CommitRule

/-!
# Every router is settled once

If the queue takes every message and nobody asks to stop, a hand-over settles each table exactly
once, whatever the sessions do meanwhile. A table with routes is handed over in the first round that
finds its session established, with the width that the session has then, and is given up in the
sweep if no round does (`PeerStory`). The calls of the hand-over are those of its turns and of the
sweep, one table behind the other, and nothing else (`Settlement`). Afterwards nothing is left to
do: handing over once more only looks for requests to stop (`settledOnce_handOver`).
-/

set_option autoImplicit false

namespace CollectorFeed

/-! ## What becomes of one table -/

/-- A turn that a table can have in a round that is not broken off. -/
def Handover.Turned (table : PeerTable) (turn : PeerTurn) : Prop :=
  turn.Fits table ∧ turn.isOpen = true

/-- The turns of one table over all rounds, and what the sweep does with it. -/
inductive PeerCourse : PeerTable → List PeerTurn → Option (Except SessionRefusal Unit) → Prop
  | swept {table : PeerTable} {answer? : Option (Except SessionRefusal Unit)}
      (fits : Handover.SweepFits table answer?) : PeerCourse table [] answer?
  | turn {table : PeerTable} {turn : PeerTurn} {turns : List PeerTurn}
      {answer? : Option (Except SessionRefusal Unit)} (turned : Handover.Turned table turn)
      (others : PeerCourse (turn.after table) turns answer?) :
      PeerCourse table (turn :: turns) answer?

/-- How a table is settled: by exactly one turn, or by the sweep. -/
inductive PeerStory (table : PeerTable) :
    List PeerTurn → Option (Except SessionRefusal Unit) → Prop
  /-- It has routes, and they are handed over in the first round that finds its session
  established. -/
  | handedOver (states : List (Option SessionState)) (width? : Option AsnWidth) (later : Nat)
      (routes : table.isEmpty = false) (early : ∀ state? ∈ states, state? ≠ some .established) :
      PeerStory table
        (states.map .waiting ++ .flushed width? :: List.replicate later .passed) none
  /-- It never had routes, and its session's routes are deleted in the first such round. -/
  | foundEmpty (states : List (Option SessionState)) (answer : Except SessionRefusal Unit)
      (later : Nat) (none_ : table.isEmpty = true) (never : table.hasData = false)
      (early : ∀ state? ∈ states, state? ≠ some .established) :
      PeerStory table
        (states.map .waiting ++ .cleaned answer :: List.replicate later .passed) none
  /-- No round could do anything for it, and the sweep gives it up. -/
  | leftOver (turns : List PeerTurn) (answer : Except SessionRefusal Unit)
      (unready : ∀ turn ∈ turns,
        (∃ state?, turn = .waiting state? ∧ state? ≠ some .established) ∨
          (turn = .idle ∧ table.isEmpty = true ∧ table.hasData = true)) :
      PeerStory table turns (some answer)

/-- A table for which nothing is left to do is passed over. -/
theorem PeerTurn.eq_passed {table : PeerTable} {turn : PeerTurn} (fits : turn.Fits table)
    (resolved : table.resolved = true) : turn = .passed := by
  cases turn with
  | passed => rfl
  | waiting state? => simp [Fits, resolved] at fits
  | idle => simp [Fits, resolved] at fits
  | cleaned answer => simp [Fits, resolved] at fits
  | flushed width? => simp [Fits, resolved] at fits
  | refused width? taken message refusal => simp [Fits, resolved] at fits

/-- Nothing more is done for a table that is settled. -/
theorem PeerCourse.of_resolved {table : PeerTable} {turns : List PeerTurn}
    {answer? : Option (Except SessionRefusal Unit)} (course : PeerCourse table turns answer?)
    (resolved : table.resolved = true) :
    turns = List.replicate turns.length .passed ∧ answer? = none := by
  induction course with
  | swept fits =>
    refine ⟨rfl, ?_⟩
    rw [Handover.SweepFits, resolved] at fits
    exact Option.not_isSome_iff_eq_none.1 (ne_true_of_eq_false fits)
  | turn turned others ih =>
    obtain rfl := PeerTurn.eq_passed turned.1 resolved
    obtain ⟨same, none_⟩ := ih resolved
    refine ⟨?_, none_⟩
    rw [List.length_cons, List.replicate_succ, ← same]

/-- A table for which something is left to do has a story. -/
theorem PeerCourse.story {table : PeerTable} {turns : List PeerTurn}
    {answer? : Option (Except SessionRefusal Unit)} (course : PeerCourse table turns answer?)
    (unresolved : table.resolved = false) : PeerStory table turns answer? := by
  induction course with
  | swept fits =>
    rw [Handover.SweepFits, unresolved] at fits
    obtain ⟨answer, rfl⟩ := Option.isSome_iff_exists.1 fits
    exact .leftOver [] answer (List.forall_mem_nil _)
  | turn turned others ih =>
    rename_i turn _ _
    obtain ⟨fits, takes⟩ := turned
    cases turn with
    | passed => exact absurd (fits.symm.trans unresolved) Bool.noConfusion
    | refused width? taken message refusal => cases takes
    | waiting state? =>
      -- the table stays as it is, and its story begins one round earlier
      cases ih unresolved with
      | handedOver states width? later routes early =>
        exact .handedOver (state? :: states) width? later routes
          (List.forall_mem_cons.2 ⟨fits.2, early⟩)
      | foundEmpty states answer later none_ never early =>
        exact .foundEmpty (state? :: states) answer later none_ never
          (List.forall_mem_cons.2 ⟨fits.2, early⟩)
      | leftOver turns answer unready =>
        exact .leftOver _ answer (List.forall_mem_cons.2 ⟨.inl ⟨state?, rfl, fits.2⟩, unready⟩)
    | idle =>
      obtain ⟨-, none_, had⟩ := fits
      cases ih unresolved with
      | handedOver states width? later routes early =>
        exact absurd (none_.symm.trans routes) Bool.noConfusion
      | foundEmpty states answer later _ never early =>
        exact absurd (had.symm.trans never) Bool.noConfusion
      | leftOver turns answer unready =>
        exact .leftOver _ answer (List.forall_mem_cons.2 ⟨.inr ⟨rfl, none_, had⟩, unready⟩)
    | cleaned answer =>
      obtain ⟨same, rfl⟩ := others.of_resolved rfl
      rw [same]
      exact .foundEmpty [] answer _ fits.2.1 fits.2.2 (List.forall_mem_nil _)
    | flushed width? =>
      obtain ⟨same, rfl⟩ := others.of_resolved rfl
      rw [same]
      exact .handedOver [] width? _ fits.2 (List.forall_mem_nil _)

/-! ## Tables on their way -/

/-- A table is as it was in the beginning, with something left to do, or nothing is left to do. -/
def Settles (origin table : PeerTable) : Prop :=
  origin.resolved = false ∧ (table = origin ∨ table = origin.resolve)

namespace Settles

variable {origin table : PeerTable} {turn : PeerTurn}

theorem session_eq (settles : Settles origin table) : table.session = origin.session := by
  obtain ⟨-, rfl | rfl⟩ := settles <;> rfl

theorem sweepOne_eq (settles : Settles origin table) :
    Handover.sweepOne table = origin.resolve := by
  obtain ⟨unresolved, rfl | rfl⟩ := settles
  · rw [Handover.sweepOne, unresolved]
    rfl
  · rfl

/-- A turn makes the calls that it makes for the table of the beginning. -/
theorem calls_eq (settles : Settles origin table) (fits : turn.Fits table) :
    turn.calls table = turn.calls origin := by
  obtain ⟨-, rfl | rfl⟩ := settles
  · rfl
  · obtain rfl := PeerTurn.eq_passed fits rfl
    rfl

theorem after (settles : Settles origin table) (fits : turn.Fits table) :
    Settles origin (turn.after table) := by
  obtain ⟨unresolved, rfl | rfl⟩ := settles
  · refine ⟨unresolved, ?_⟩
    cases turn with
    | passed => exact .inl rfl
    | waiting state? => exact .inl rfl
    | idle => exact .inl rfl
    | cleaned answer => exact .inr rfl
    | flushed width? => exact .inr rfl
    | refused width? taken message refusal => exact .inr rfl
  · obtain rfl := PeerTurn.eq_passed fits rfl
    exact ⟨unresolved, .inr rfl⟩

end Settles

namespace PeerTurn

/-- Whether routes are handed over. -/
def isFlushed : PeerTurn → Bool
  | flushed _ => true
  | _ => false

/-- The messages that the queue takes. -/
def messages (table : PeerTable) : PeerTurn → List Message
  | flushed width? => table.messages width?
  | refused _ taken _ _ => taken
  | _ => []

theorem isOpen_of_queueOpen {table : PeerTable} {turn : PeerTurn}
    (taken : QueueOpen (turn.calls table)) : turn.isOpen = true := by
  cases turn with
  | refused width? front message refusal => simp [calls, Exchange.isRefusal] at taken
  | passed => rfl
  | waiting state? => rfl
  | idle => rfl
  | cleaned answer => rfl
  | flushed width? => rfl

/-- A turn settles a table exactly if it counts it. -/
theorem tally_unsettled {table : PeerTable} {turn : PeerTurn} (turned : Handover.Turned table turn)
    (report : HandoverReport) :
    (turn.tally table report).flushedPeers + (turn.tally table report).cleanedPeers +
        (if !(turn.after table).resolved then 1 else 0) =
      report.flushedPeers + report.cleanedPeers + if !table.resolved then 1 else 0 := by
  obtain ⟨fits, takes⟩ := turned
  cases turn with
  | passed => rfl
  | waiting state? => rfl
  | idle => rfl
  | refused width? taken message refusal => cases takes
  | cleaned answer =>
    simp [tally, after, HandoverReport.addCleaned, PeerTable.resolve, fits.1, Nat.add_assoc]
  | flushed width? =>
    simp [tally, after, HandoverReport.addFlushed, PeerTable.resolve, fits.1]
    omega

theorem tally_flushedPeers {table : PeerTable} {turn : PeerTurn} (takes : turn.isOpen = true)
    (report : HandoverReport) :
    (turn.tally table report).flushedPeers =
      report.flushedPeers + if turn.isFlushed then 1 else 0 := by
  cases turn with
  | refused width? taken message refusal => cases takes
  | passed => rfl
  | waiting state? => rfl
  | idle => rfl
  | cleaned answer => rfl
  | flushed width? => rfl

/-- A turn touches neither the rounds that were counted nor the requests to stop. -/
theorem tally_fixed (table : PeerTable) (turn : PeerTurn) (report : HandoverReport) :
    (turn.tally table report).rounds = report.rounds ∧
      (turn.tally table report).sleeps = report.sleeps ∧
      (turn.tally table report).cancelled = report.cancelled := by
  cases turn <;> exact ⟨rfl, rfl, rfl⟩

end PeerTurn

@[simp] theorem passedOn_deliver (messages : List Message) :
    passedOn (deliver messages) = messages := by
  induction messages with
  | nil => rfl
  | cons message rest ih => exact congrArg (message :: ·) ih

/-- The queue takes the messages of a turn, and no others. -/
theorem PeerTurn.passedOn_calls (table : PeerTable) (turn : PeerTurn) :
    passedOn (turn.calls table) = turn.messages table := by
  cases turn with
  | passed => rfl
  | waiting state? => rfl
  | idle => rfl
  | cleaned answer => rfl
  | flushed width? => exact passedOn_deliver _
  | refused width? taken message refusal =>
    exact (passedOn_append _ _).trans (by rw [passedOn_deliver]; exact List.append_nil _)

/-- What is at a place of one list has its partner at that place of the other. -/
theorem exists_getElem?_of_forall₂ {α β : Type} {related : α → β → Prop} {left : List α}
    {right : List β} (pairs : List.Forall₂ related left right) {place : Nat} {one : α}
    (there : left[place]? = some one) :
    ∃ other, right[place]? = some other ∧ related one other := by
  induction pairs generalizing place with
  | nil => cases there
  | cons first others ih =>
    cases place with
    | zero =>
      cases there
      exact ⟨_, rfl, first⟩
    | succ place => exact ih there

/-! ## Rounds that are not broken off -/

namespace Handover

variable {interval attempts : Nat} {tables origins last : List PeerTable}
  {turns : List PeerTurn} {rounds : List (List PeerTurn)} {report whole : HandoverReport}
  {made : List Exchange}

/-- Every table has a turn in a round in which the queue takes every message. -/
theorem Fit.turned {isOpen : Bool} (fit : Fit tables turns isOpen)
    (taken : QueueOpen (roundCalls tables turns)) :
    isOpen = true ∧ List.Forall₂ Turned tables turns := by
  induction fit with
  | ended => exact ⟨rfl, .nil⟩
  | goOn fits takes others ih =>
    rw [roundCalls, queueOpen_append] at taken
    obtain ⟨whole, turned⟩ := ih taken.2
    exact ⟨whole, .cons ⟨fits, takes⟩ turned⟩
  | brokenOff fits refuses =>
    rw [roundCalls, queueOpen_append] at taken
    exact absurd (PeerTurn.isOpen_of_queueOpen taken.1) (ne_true_of_eq_false refuses)

/-- Rounds of which none is broken off, and the looks for a request to stop before the one that
does not come. -/
inductive Unbroken (interval : Nat) : Nat → List PeerTable → HandoverReport →
    List (List PeerTurn) → List PeerTable → HandoverReport → List Exchange → Prop
  | ended {attempts : Nat} {tables : List PeerTable} {report : HandoverReport}
      {looks : List Exchange} (needless : attempts = 0 ∨ tables.all PeerTable.isEmpty = true)
      (looked : ∀ look ∈ looks, look = .isCancelled false) :
      Unbroken interval attempts tables report [] tables report looks
  | goOn {attempts : Nat} {tables last : List PeerTable} {report whole : HandoverReport}
      {turns : List PeerTurn} {later : List (List PeerTurn)} {made : List Exchange}
      (something : tables.all PeerTable.isEmpty = false)
      (turned : List.Forall₂ Turned tables turns)
      (others : Unbroken interval attempts (afterRound tables turns)
        (tallyRound tables turns report).addRound later last whole made) :
      Unbroken interval (attempts + 1) tables report (turns :: later) last whole
        (.isCancelled false :: (roundCalls tables turns ++ .sleep interval :: made))

theorem Rounds.unbroken
    (course : Rounds interval attempts tables report rounds last whole made)
    (taken : QueueOpen made) (unstopped : NeverStopped made) :
    Unbroken interval attempts tables report rounds last whole made := by
  induction course with
  | usedUp => exact .ended (.inl rfl) (List.forall_mem_nil _)
  | stopped => simp [Exchange.isStop] at unstopped
  | nothingLeft nothing => exact .ended (.inr nothing) (List.forall_mem_singleton.2 rfl)
  | brokenOff something fit =>
    exact absurd (fit.turned (queueOpen_cons _ _ |>.1 taken).2).1 Bool.noConfusion
  | goOn something fit others ih =>
    simp only [queueOpen_cons, queueOpen_append, neverStopped_cons, neverStopped_append]
      at taken unstopped
    exact .goOn something (fit.turned taken.2.1).2 (ih taken.2.2.2 unstopped.2.2.2)

/-! ### One round -/

theorem roundCalls_eq (settles : List.Forall₂ Settles origins tables)
    (turned : List.Forall₂ Turned tables turns) :
    roundCalls tables turns = roundCalls origins turns := by
  induction settles generalizing turns with
  | nil => rfl
  | cons one others ih =>
    cases turned with
    | cons fits rest => rw [roundCalls, roundCalls, one.calls_eq fits.1, ih rest]

theorem settles_afterRound (settles : List.Forall₂ Settles origins tables)
    (turned : List.Forall₂ Turned tables turns) :
    List.Forall₂ Settles origins (afterRound tables turns) := by
  induction settles generalizing turns with
  | nil => exact .nil
  | cons one others ih =>
    cases turned with
    | cons fits rest => exact .cons (one.after fits.1) (ih rest)

theorem tallyRound_unsettled (turned : List.Forall₂ Turned tables turns)
    (report : HandoverReport) :
    (tallyRound tables turns report).flushedPeers + (tallyRound tables turns report).cleanedPeers +
        (afterRound tables turns).countP (fun table => !table.resolved) =
      report.flushedPeers + report.cleanedPeers +
        tables.countP fun table => !table.resolved := by
  induction turned generalizing report with
  | nil => rfl
  | @cons table turn tables turns one others ih =>
    have counted := PeerTurn.tally_unsettled one report
    have counted' := ih (turn.tally table report)
    simp only [tallyRound, afterRound, List.countP_cons]
    omega

theorem tallyRound_flushedPeers (turned : List.Forall₂ Turned tables turns)
    (report : HandoverReport) :
    (tallyRound tables turns report).flushedPeers =
      report.flushedPeers + turns.countP PeerTurn.isFlushed := by
  induction turned generalizing report with
  | nil => rfl
  | @cons table turn tables turns one others ih =>
    rw [tallyRound, ih, PeerTurn.tally_flushedPeers one.2, List.countP_cons]
    omega

theorem tallyRound_fixed (tables : List PeerTable) (turns : List PeerTurn)
    (report : HandoverReport) :
    (tallyRound tables turns report).rounds = report.rounds ∧
      (tallyRound tables turns report).sleeps = report.sleeps ∧
      (tallyRound tables turns report).cancelled = report.cancelled := by
  induction tables generalizing turns report with
  | nil => exact ⟨rfl, rfl, rfl⟩
  | cons table rest ih =>
    cases turns with
    | nil => exact ⟨rfl, rfl, rfl⟩
    | cons turn turns =>
      obtain ⟨rounds, sleeps, cancelled⟩ := turn.tally_fixed table report
      rw [tallyRound, ← rounds, ← sleeps, ← cancelled]
      exact ih turns _

theorem getElem?_afterRound {tables : List PeerTable} {turns : List PeerTurn} {place : Nat}
    {table : PeerTable} {turn : PeerTurn} (there : tables[place]? = some table)
    (there' : turns[place]? = some turn) :
    (afterRound tables turns)[place]? = some (turn.after table) := by
  induction tables generalizing turns place with
  | nil => cases there
  | cons first rest ih =>
    cases turns with
    | nil => cases there'
    | cons turn turns =>
      cases place with
      | zero =>
        cases there
        cases there'
        rfl
      | succ place => exact ih there there'

theorem length_afterRound (tables : List PeerTable) (turns : List PeerTurn) :
    (afterRound tables turns).length = tables.length := by
  induction tables generalizing turns with
  | nil => rfl
  | cons table rest ih =>
    cases turns with
    | nil => rfl
    | cons turn turns => exact congrArg Nat.succ (ih turns)

/-- The messages of a round. -/
def roundMessages (tables : List PeerTable) (turns : List PeerTurn) : List Message :=
  (List.zipWith (fun table turn => turn.messages table) tables turns).flatten

theorem passedOn_roundCalls (tables : List PeerTable) (turns : List PeerTurn) :
    passedOn (roundCalls tables turns) = roundMessages tables turns := by
  induction tables generalizing turns with
  | nil => rfl
  | cons table rest ih =>
    cases turns with
    | nil => rfl
    | cons turn turns =>
      rw [roundCalls, passedOn_append, turn.passedOn_calls, ih]
      rfl

/-! ### All rounds -/

/-- The calls of rounds, with the tables as they were in the beginning. -/
def roundsCalls (interval : Nat) (origins : List PeerTable) (rounds : List (List PeerTurn)) :
    List Exchange :=
  rounds.flatMap fun turns =>
    .isCancelled false :: (roundCalls origins turns ++ [.sleep interval])

namespace Unbroken

theorem calls_eq (course : Unbroken interval attempts tables report rounds last whole made)
    (settles : List.Forall₂ Settles origins tables) :
    ∃ looks, (∀ look ∈ looks, look = .isCancelled false) ∧
      made = roundsCalls interval origins rounds ++ looks := by
  induction course with
  | ended needless looked => exact ⟨_, looked, rfl⟩
  | goOn something turned others ih =>
    obtain ⟨looks, looked, same⟩ := ih (settles_afterRound settles turned)
    refine ⟨looks, looked, ?_⟩
    rw [roundCalls_eq settles turned, same]
    simp [roundsCalls]

theorem settles (course : Unbroken interval attempts tables report rounds last whole made)
    (settles : List.Forall₂ Settles origins tables) : List.Forall₂ Settles origins last := by
  induction course with
  | ended needless looked => exact settles
  | goOn something turned others ih => exact ih (settles_afterRound settles turned)

theorem length_le (course : Unbroken interval attempts tables report rounds last whole made) :
    rounds.length ≤ attempts := by
  induction course with
  | ended needless looked => exact Nat.zero_le _
  | goOn something turned others ih => exact Nat.succ_le_succ ih

theorem length_eq (course : Unbroken interval attempts tables report rounds last whole made) :
    ∀ turns ∈ rounds, turns.length = tables.length := by
  induction course with
  | ended needless looked => exact List.forall_mem_nil _
  | goOn something turned others ih =>
    refine List.forall_mem_cons.2 ⟨turned.length_eq.symm, fun turns there => ?_⟩
    rw [ih turns there, length_afterRound]

/-- No round is made only if none is allowed or there is nothing to hand over. -/
theorem needless_of_nil (course : Unbroken interval attempts tables report rounds last whole made)
    (none_ : rounds = []) : attempts = 0 ∨ tables.all PeerTable.isEmpty = true := by
  cases course with
  | ended needless looked => exact needless
  | goOn something turned others => cases none_

theorem whole_fixed (course : Unbroken interval attempts tables report rounds last whole made) :
    whole.rounds = report.rounds + rounds.length ∧
      whole.sleeps = report.sleeps + rounds.length ∧ whole.cancelled = report.cancelled := by
  induction course with
  | ended needless looked => exact ⟨rfl, rfl, rfl⟩
  | @goOn attempts tables last report whole turns later made something turned others ih =>
    obtain ⟨counted, slept, cancelled⟩ := tallyRound_fixed tables turns report
    obtain ⟨counted', slept', cancelled'⟩ := ih
    refine ⟨?_, ?_, cancelled'.trans cancelled⟩
    · simp only [counted', HandoverReport.addRound, counted, List.length_cons]
      omega
    · simp only [slept', HandoverReport.addRound, slept, List.length_cons]
      omega

theorem unsettled (course : Unbroken interval attempts tables report rounds last whole made) :
    whole.flushedPeers + whole.cleanedPeers + last.countP (fun table => !table.resolved) =
      report.flushedPeers + report.cleanedPeers +
        tables.countP fun table => !table.resolved := by
  induction course with
  | ended needless looked => rfl
  | goOn something turned others ih => exact ih.trans (tallyRound_unsettled turned _)

theorem flushedPeers (course : Unbroken interval attempts tables report rounds last whole made) :
    whole.flushedPeers = report.flushedPeers + rounds.flatten.countP PeerTurn.isFlushed := by
  induction course with
  | ended needless looked => rfl
  | goOn something turned others ih =>
    rw [ih, HandoverReport.addRound, tallyRound_flushedPeers turned, List.flatten_cons,
      List.countP_append, Nat.add_assoc]

/-- The turns of one table over all rounds are its course. -/
theorem course_at (course : Unbroken interval attempts tables report rounds last whole made)
    {answers : List (Option (Except SessionRefusal Unit))}
    (sweep : List.Forall₂ SweepFits last answers) {place : Nat} {table : PeerTable}
    (there : tables[place]? = some table) :
    ∃ column answer?, rounds.map (·[place]?) = column.map some ∧
      answers[place]? = some answer? ∧ PeerCourse table column answer? := by
  induction course generalizing table with
  | ended needless looked =>
    obtain ⟨answer?, there', fits⟩ := exists_getElem?_of_forall₂ sweep there
    exact ⟨[], answer?, rfl, there', .swept fits⟩
  | goOn something turned others ih =>
    obtain ⟨turn, there', one⟩ := exists_getElem?_of_forall₂ turned there
    obtain ⟨column, answer?, columns, answered, later⟩ :=
      ih sweep (getElem?_afterRound there there')
    refine ⟨turn :: column, answer?, ?_, answered, .turn one later⟩
    rw [List.map_cons, List.map_cons, there', columns]

end Unbroken

theorem passedOn_roundsCalls (interval : Nat) (origins : List PeerTable)
    (rounds : List (List PeerTurn)) :
    passedOn (roundsCalls interval origins rounds) = rounds.flatMap (roundMessages origins) := by
  induction rounds with
  | nil => rfl
  | cons turns later ih =>
    rw [roundsCalls, List.flatMap_cons, passedOn_append, List.flatMap_cons]
    refine congrArg₂ _ ?_ ih
    rw [← passedOn_roundCalls]
    exact (passedOn_append _ _).trans (List.append_nil _)

/-- Looks for a request to stop pass nothing on. -/
theorem passedOn_looks {looks : List Exchange}
    (looked : ∀ look ∈ looks, look = .isCancelled false) : passedOn looks = [] := by
  rw [passedOn, List.filterMap_eq_nil_iff]
  intro look there
  rw [looked look there]
  rfl

theorem passedOn_sweepCalls (tables : List PeerTable)
    (answers : List (Option (Except SessionRefusal Unit))) :
    passedOn (sweepCalls tables answers) = [] := by
  induction tables generalizing answers with
  | nil => rfl
  | cons table rest ih =>
    cases answers with
    | nil => rfl
    | cons answer? answers =>
      refine (passedOn_append _ _).trans ?_
      cases answer? with
      | none => exact ih answers
      | some answer => exact ih answers

/-! ### The sweep behind them -/

/-- Behind the rounds there is a sweep if nobody asks to stop. -/
theorem Sweep.swept_of_neverStopped {answers? : Option (List (Option (Except SessionRefusal Unit)))}
    (course : Sweep tables report answers? last whole made) (unstopped : NeverStopped made)
    (going : report.cancelled = false) :
    ∃ answers, List.Forall₂ SweepFits tables answers ∧ last = tables.map sweepOne ∧
      whole = { report with
        cleanedPeers := report.cleanedPeers + tables.countP fun table => !table.resolved } ∧
      made = .isCancelled false :: sweepCalls tables answers := by
  cases course with
  | brokenOff cancelled => exact absurd (cancelled.symm.trans going) Bool.noConfusion
  | stopped _ => simp [Exchange.isStop] at unstopped
  | swept _ fit => exact ⟨_, fit, rfl, rfl, rfl⟩

theorem map_sweepOne (settles : List.Forall₂ Settles origins tables) :
    tables.map sweepOne = origins.map PeerTable.resolve := by
  induction settles with
  | nil => rfl
  | cons one others ih => rw [List.map_cons, List.map_cons, one.sweepOne_eq, ih]

theorem sweepCalls_eq (settles : List.Forall₂ Settles origins tables)
    (answers : List (Option (Except SessionRefusal Unit))) :
    sweepCalls tables answers = sweepCalls origins answers := by
  have sessions : tables.map PeerTable.session = origins.map PeerTable.session := by
    induction settles with
    | nil => rfl
    | cons one others ih => rw [List.map_cons, List.map_cons, one.session_eq, ih]
  have told (tables : List PeerTable) : sweepCalls tables answers =
      (List.zipWith (fun session answer? => (answer?.map (cleanCalls session)).getD [])
        (tables.map PeerTable.session) answers).flatten := by
    rw [sweepCalls, List.zipWith_map_left]
  rw [told, sessions, told]

/-! ### Nothing left to do -/

theorem Rounds.looksOnly
    (course : Rounds interval attempts tables report rounds last whole made)
    (nothing : tables.all PeerTable.isEmpty = true) :
    last = tables ∧ ∀ exchange ∈ made, ∃ answer, exchange = .isCancelled answer := by
  cases course with
  | usedUp => exact ⟨rfl, List.forall_mem_nil _⟩
  | stopped => exact ⟨rfl, List.forall_mem_singleton.2 ⟨true, rfl⟩⟩
  | nothingLeft _ => exact ⟨rfl, List.forall_mem_singleton.2 ⟨false, rfl⟩⟩
  | brokenOff something _ => exact absurd (nothing.symm.trans something) Bool.noConfusion
  | goOn something _ _ => exact absurd (nothing.symm.trans something) Bool.noConfusion

theorem sweepCalls_of_resolved {answers : List (Option (Except SessionRefusal Unit))}
    (fit : List.Forall₂ SweepFits tables answers)
    (resolved : ∀ table ∈ tables, table.resolved = true) : sweepCalls tables answers = [] := by
  induction fit with
  | nil => rfl
  | @cons table answer? tables answers one others ih =>
    rw [List.forall_mem_cons] at resolved
    rw [SweepFits, resolved.1] at one
    obtain rfl := Option.not_isSome_iff_eq_none.1 (ne_true_of_eq_false one)
    exact ih resolved.2

theorem Sweep.looksOnly {answers? : Option (List (Option (Except SessionRefusal Unit)))}
    (course : Sweep tables report answers? last whole made)
    (resolved : ∀ table ∈ tables, table.resolved = true) :
    last = tables ∧ ∀ exchange ∈ made, ∃ answer, exchange = .isCancelled answer := by
  cases course with
  | brokenOff _ => exact ⟨rfl, List.forall_mem_nil _⟩
  | stopped _ => exact ⟨rfl, List.forall_mem_singleton.2 ⟨true, rfl⟩⟩
  | swept _ fit =>
    have same : tables.map sweepOne = tables.map id := List.map_congr_left fun table there => by
      rw [sweepOne, resolved table there]
      rfl
    rw [sweepCalls_of_resolved fit resolved]
    exact ⟨same.trans (List.map_id _), List.forall_mem_singleton.2 ⟨false, rfl⟩⟩

end Handover

/-! ## The whole hand-over -/

/-- What a hand-over comes to if the queue takes every message and nobody asks to stop, told by the
turns of its rounds and the answers that its sweep had. -/
structure Settlement (dump : DumpTransfer) (report : HandoverReport) (done : DumpTransfer)
    (exchanges : List Exchange) (rounds : List (List PeerTurn))
    (answers : List (Option (Except SessionRefusal Unit))) : Prop where
  /-- No table has routes any more, and nothing is left to do for it. -/
  tables : done.tables = dump.tables.map PeerTable.resolve
  /-- Every router is counted once. -/
  counted : report.flushedPeers + report.cleanedPeers = dump.tables.length
  /-- Those whose routes were handed over are counted as such. -/
  flushed : report.flushedPeers = rounds.flatten.countP PeerTurn.isFlushed
  /-- The rounds are counted, and so are the waits behind them. -/
  paced : report.rounds = rounds.length ∧ report.sleeps = rounds.length
  /-- There are no more rounds than attempts. -/
  bounded : rounds.length ≤ dump.settings.pollAttempts
  /-- There is a round if there is an attempt and something to hand over. -/
  begun : rounds = [] →
    dump.settings.pollAttempts = 0 ∨ dump.tables.all PeerTable.isEmpty = true
  /-- A round has one turn for every table. -/
  full : ∀ turns ∈ rounds, turns.length = dump.tables.length
  /-- The turns of one table and what the sweep does with it settle it. -/
  stories : ∀ (place : Nat) (table : PeerTable), dump.tables[place]? = some table →
    ∃ column answer?, rounds.map (·[place]?) = column.map some ∧
      answers[place]? = some answer? ∧ PeerStory table column answer?
  /-- The calls are those of the rounds, of the last looks for a request to stop, and of the
  sweep. -/
  calls : ∃ looks, (∀ look ∈ looks, look = .isCancelled false) ∧
    exchanges = Handover.roundsCalls dump.settings.pollInterval dump.tables rounds ++ looks ++
      Handover.sweepCalls dump.tables answers
  /-- The queue takes the messages of the tables that are handed over, one table behind the
  other. -/
  messages : passedOn exchanges = rounds.flatMap (Handover.roundMessages dump.tables)

namespace DumpTransfer

variable {ω : Type} [Surroundings ω]

/-- The course of a hand-over in which the queue takes every message and nobody asks to stop. -/
theorem exists_course (dump : DumpTransfer) (world : ω)
    (taken : QueueOpen (exchangesOf dump.handOver world))
    (unstopped : NeverStopped (exchangesOf dump.handOver world)) :
    ∃ rounds last whole answers front,
      Handover.Unbroken dump.settings.pollInterval dump.settings.pollAttempts dump.tables .zero
        rounds last whole front ∧
      List.Forall₂ Handover.SweepFits last answers ∧
      exchangesOf dump.handOver world =
        front ++ .isCancelled false :: Handover.sweepCalls last answers ∧
      ((dump.handOver : StateM ω _).run world).1.2.tables = last.map Handover.sweepOne ∧
      ((dump.handOver : StateM ω _).run world).1.1 = { whole with
        cleanedPeers := whole.cleanedPeers + last.countP fun table => !table.resolved } := by
  rw [(SameRun.inherited.handOver dump).run_eq world]
  obtain ⟨rounds, last, whole, answers?, front, back, course, sweep, noted, -⟩ :=
    dump.ensures_handOver.exchangesOf world
  rw [noted] at taken unstopped ⊢
  rw [queueOpen_append] at taken
  rw [neverStopped_append] at unstopped
  have course := course.unbroken taken.1 unstopped.1
  obtain ⟨-, -, going⟩ := course.whole_fixed
  obtain ⟨answers, fit, swept, reported, rfl⟩ := sweep.swept_of_neverStopped unstopped.2 going
  exact ⟨rounds, last, whole, answers, front, course, fit, rfl, swept, reported⟩

theorem exists_settlement (dump : DumpTransfer) (world : ω)
    (unresolved : ∀ table ∈ dump.tables, table.resolved = false)
    (taken : QueueOpen (exchangesOf dump.handOver world))
    (unstopped : NeverStopped (exchangesOf dump.handOver world)) :
    ∃ rounds answers, Settlement dump ((dump.handOver : StateM ω _).run world).1.1
      ((dump.handOver : StateM ω _).run world).1.2 (exchangesOf dump.handOver world)
      rounds answers := by
  obtain ⟨rounds, last, whole, answers, front, course, fit, noted, swept, reported⟩ :=
    dump.exists_course world taken unstopped
  rw [noted, reported]
  obtain ⟨counted, slept, -⟩ := course.whole_fixed
  -- all tables set out with something left to do
  have origins : List.Forall₂ Settles dump.tables dump.tables :=
    List.forall₂_same.2 fun table there => ⟨unresolved table there, .inl rfl⟩
  have settles := course.settles origins
  obtain ⟨looks, looked, called⟩ := course.calls_eq origins
  have looked : ∀ look ∈ looks ++ [.isCancelled false], look = .isCancelled false :=
    List.forall_mem_append.2 ⟨looked, List.forall_mem_singleton.2 rfl⟩
  have calls : front ++ .isCancelled false :: Handover.sweepCalls last answers =
      Handover.roundsCalls dump.settings.pollInterval dump.tables rounds ++
        (looks ++ [.isCancelled false]) ++ Handover.sweepCalls dump.tables answers := by
    rw [called, Handover.sweepCalls_eq settles]
    simp
  refine ⟨rounds, answers, {
    tables := swept.trans (Handover.map_sweepOne settles)
    counted := ?_
    flushed := ?_
    paced := ?_
    bounded := course.length_le
    begun := course.needless_of_nil
    full := course.length_eq
    stories := fun place table there => ?_
    calls := ⟨_, looked, calls⟩
    messages := ?_ }⟩
  · have all : dump.tables.countP (fun table => !table.resolved) = dump.tables.length :=
      List.countP_eq_length.2 fun table there => by rw [unresolved table there]; rfl
    have balance := course.unsettled
    simp only [HandoverReport.zero, all] at balance
    show whole.flushedPeers + (whole.cleanedPeers + _) = _
    omega
  · exact course.flushedPeers.trans (Nat.zero_add _)
  · exact ⟨counted.trans (Nat.zero_add _), slept.trans (Nat.zero_add _)⟩
  · obtain ⟨column, answer?, columns, answered, turned⟩ := course.course_at fit there
    exact ⟨column, answer?, columns, answered,
      turned.story (unresolved table (List.mem_of_getElem? there))⟩
  · rw [calls, passedOn_append, passedOn_append, Handover.passedOn_roundsCalls,
      Handover.passedOn_looks looked, Handover.passedOn_sweepCalls, List.append_nil,
      List.append_nil]

/-- With nothing left to do a hand-over only looks for requests to stop. -/
theorem looksOnly_handOver (dump : DumpTransfer) (world : ω)
    (settled : ∀ table ∈ dump.tables, table.resolved = true ∧ table.isEmpty = true) :
    (∀ exchange ∈ exchangesOf dump.handOver world, ∃ answer, exchange = .isCancelled answer) ∧
      ((dump.handOver : StateM ω _).run world).1.2.tables = dump.tables := by
  rw [(SameRun.inherited.handOver dump).run_eq world]
  obtain ⟨rounds, last, whole, answers?, front, back, course, sweep, noted, left⟩ :=
    dump.ensures_handOver.exchangesOf world
  have nothing : dump.tables.all PeerTable.isEmpty = true :=
    List.all_eq_true.2 fun table there => (settled table there).2
  obtain ⟨rfl, looked⟩ := course.looksOnly nothing
  obtain ⟨same, looked'⟩ := sweep.looksOnly fun table there => (settled table there).1
  rw [noted]
  exact ⟨List.forall_mem_append.2 ⟨looked, looked'⟩, same⟩

/-- If the queue takes every message and nobody asks to stop, a hand-over settles every table
exactly once, whatever the sessions do between its calls. Handing over again, at any later time,
only looks for requests to stop. -/
theorem settledOnce_handOver (dump : DumpTransfer) (world : ω)
    (unresolved : ∀ table ∈ dump.tables, table.resolved = false)
    (taken : QueueOpen (exchangesOf dump.handOver world))
    (unstopped : NeverStopped (exchangesOf dump.handOver world)) :
    (∃ rounds answers, Settlement dump ((dump.handOver : StateM ω _).run world).1.1
      ((dump.handOver : StateM ω _).run world).1.2 (exchangesOf dump.handOver world)
      rounds answers) ∧
    ∀ later : ω,
      (∀ exchange ∈ exchangesOf ((dump.handOver : StateM ω _).run world).1.2.handOver later,
        ∃ answer, exchange = .isCancelled answer) ∧
      ((((dump.handOver : StateM ω _).run world).1.2.handOver : StateM ω _).run later).1.2.tables =
        ((dump.handOver : StateM ω _).run world).1.2.tables := by
  obtain ⟨rounds, answers, settlement⟩ := dump.exists_settlement world unresolved taken unstopped
  refine ⟨⟨rounds, answers, settlement⟩, fun later => looksOnly_handOver _ later ?_⟩
  rw [settlement.tables]
  intro table there
  obtain ⟨origin, -, rfl⟩ := List.mem_map.1 there
  exact ⟨rfl, rfl⟩

/-- An index of two routers. -/
def pairOpening : FramedRecord where
  header := ⟨0, 13, 1, 31⟩
  body := [10, 0, 0, 1, 0, 0, 0, 2, 0, 10, 0, 0, 2, 192, 0, 2, 1, 0xFD, 0xE8,
    0, 10, 0, 0, 3, 192, 0, 2, 2, 0xFD, 0xE9]
  recoveries := 0

/-- What was taken in of records, and the sessions that this has created. -/
def takenIn (records : List FramedRecord) : DumpTransfer × Logbook :=
  let ((_, dump), book) := ((new .usual .label).feed records).run Logbook.blank
  (dump.closeIntake, book)

/-- Of two routers the first one has routes and an established session, the second one neither. -/
def pairTransfer : DumpTransfer × Logbook :=
  let (dump, book) := takenIn [pairOpening, sampleRoute 0 1 0, sampleRoute 0 2 0]
  (dump, { book with sessions := book.sessions.setState ⟨1⟩ .established .none })

/-- The first router is handed over in the only round, and the second one is left to the sweep. -/
theorem settledOnce_handOver_pairTransfer :
    (∃ rounds answers, Settlement pairTransfer.1
      ((pairTransfer.1.handOver : StateM Logbook _).run pairTransfer.2).1.1
      ((pairTransfer.1.handOver : StateM Logbook _).run pairTransfer.2).1.2
      (exchangesOf pairTransfer.1.handOver pairTransfer.2) rounds answers) ∧
    ((pairTransfer.1.handOver : StateM Logbook _).run pairTransfer.2).1.1 =
      { rounds := 1, sleeps := 1, flushedPeers := 1, flushedRoutes := 2, cleanedPeers := 1,
        cancelled := false } :=
  ⟨(settledOnce_handOver pairTransfer.1 pairTransfer.2 (by decide +kernel) (by decide +kernel)
    (by decide +kernel)).1, by decide +kernel⟩

end DumpTransfer

end CollectorFeed
