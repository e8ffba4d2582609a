import CollectorFeed.Proofs.Pacing.Sections

/-!
# Writers that wait

A call to write that has not come back waits for the end of an interval or for room. What holds of
all such calls is proved section by section, and so it has to be known which of them there are after
a section: those that there were before, and one more if the section made its own call wait
(`waitingWriter_step`). And what comes back with its message put has come as far as putting it in
the same section (`exists_attempt_of_puts`).
-/

set_option autoImplicit false

namespace CollectorFeed

variable {α : Type}

/-! ## Waking -/

namespace Activity

theorem writes_wakeWriter (activity : Activity) (slot : Nat) :
    activity.wakeWriter.writes slot = activity.writes slot := by
  cases activity <;> rfl

theorem wakeWriter_wakeWriter (activity : Activity) :
    activity.wakeWriter.wakeWriter = activity.wakeWriter := by
  cases activity <;> rfl

/-- Waking readers does nothing to a call to write. -/
theorem eq_of_wakeReader_writes {activity : Activity} {slot : Nat}
    (writes : activity.wakeReader.writes slot = true) : activity.wakeReader = activity := by
  cases activity with
  | starved => cases writes
  | _ => rfl

end Activity

/-- Whether a writer comes or goes in a section. -/
def Move.movesWriter : Move → Bool
  | attachWriter => true
  | detachWriter _ => true
  | _ => false

namespace Traffic

/-- Some call with the number of an entry waits for the same, whether it was woken or not. -/
def StillWaits (t : Traffic α) (entry : Nat × Activity) : Prop :=
  ∃ old, (entry.1, old) ∈ t.calls ∧ old.wakeWriter = entry.2.wakeWriter

theorem StillWaits.of_mem {t : Traffic α} {entry : Nat × Activity} (mem : entry ∈ t.calls) :
    t.StillWaits entry :=
  ⟨entry.2, mem, rfl⟩

theorem StillWaits.of_wakeAllWriters {t : Traffic α} {entry : Nat × Activity}
    (mem : entry ∈ t.wakeAllWriters.calls) : t.StillWaits entry := by
  obtain ⟨old, before, rfl⟩ := List.mem_map.1 mem
  exact ⟨old.2, before, old.2.wakeWriter_wakeWriter.symm⟩

theorem mem_calls_of_wakeAllReaders {t : Traffic α} {entry : Nat × Activity} {slot : Nat}
    (writes : entry.2.writes slot = true) (mem : entry ∈ t.wakeAllReaders.calls) :
    entry ∈ t.calls := by
  obtain ⟨old, before, rfl⟩ := List.mem_map.1 mem
  dsimp only at writes ⊢
  rwa [Activity.eq_of_wakeReader_writes writes]

/-- It uses the same writer. -/
theorem StillWaits.exists_writes {t : Traffic α} {entry : Nat × Activity}
    (before : t.StillWaits entry) {slot : Nat} (writes : entry.2.writes slot = true) :
    ∃ old, (entry.1, old) ∈ t.calls ∧ old.writes slot = true := by
  obtain ⟨old, mem, same⟩ := before
  refine ⟨old, mem, ?_⟩
  rwa [← Activity.writes_wakeWriter, same, Activity.writes_wakeWriter]

theorem mem_calls_of_unpark {t : Traffic α} {call : Nat} {entry : Nat × Activity}
    (mem : entry ∈ (t.unpark call).calls) : entry ∈ t.calls ∧ entry.1 ≠ call := by
  simpa [unpark] using mem

variable [PacingNumber α]

/-! ## Sections that put a message or look for one -/

/-- The other calls wait on while a call puts its message. -/
theorem mem_calls_of_attempt {t : Traffic α} (begun : ∀ entry ∈ t.calls, entry.1 < t.nextCall)
    {move : Move} {attempt : Attempt α} (comes : t.attempt? move = some attempt)
    {entry : Nat × Activity} (mem : entry ∈ attempt.traffic.calls) :
    entry ∈ t.calls ∧ entry.1 ≠ attempt.call := by
  cases comes_of_attempt? comes with
  | begins _ _ => exact ⟨mem, Nat.ne_of_lt (begun entry mem)⟩
  | resumes _ => exact mem_calls_of_unpark mem
  | retries _ => exact mem_calls_of_unpark mem

omit [PacingNumber α] in
/-- Putting a message makes its own call wait at most. -/
theorem mem_calls_of_attemptWrite {t : Traffic α} {call slot : Nat} {message : Message}
    {entry : Nat × Activity} {other : Nat} (writes : entry.2.writes other = true)
    (mem : entry ∈ (t.attemptWrite call slot message).calls) :
    entry ∈ t.calls ∨
      (t.queue.offer slot message).1 = .full ∧ entry = (call, .blocked slot message false) := by
  unfold attemptWrite at mem
  rcases offered : t.queue.offer slot message with ⟨outcome, queue⟩
  rw [offered] at mem
  cases outcome with
  | closed => exact .inl mem
  | full =>
    rcases List.mem_cons.1 mem with rfl | before
    · exact .inr ⟨rfl, rfl⟩
    · exact .inl before
  | stored => exact .inl (mem_calls_of_wakeAllReaders writes mem)
  | dropped => exact .inl mem

/-- Looking for a message makes no writer wait. -/
theorem stillWaits_of_attemptRead {t : Traffic α} {call reader : Nat} {kind : ReadKind}
    {waits : Bool} {entry : Nat × Activity} {slot : Nat} (writes : entry.2.writes slot = true)
    (mem : entry ∈ (t.attemptRead call reader kind waits).calls) : t.StillWaits entry := by
  unfold attemptRead at mem
  rcases taken : t.queue.take reader with ⟨result, queue⟩
  rw [taken] at mem
  cases result with
  | none =>
    dsimp only at mem
    split at mem
    · rcases List.mem_cons.1 mem with rfl | before
      · cases writes
      · exact .of_mem before
    · exact .of_mem mem
  | some message =>
    dsimp only at mem
    split at mem
    · exact .of_wakeAllWriters mem
    · exact .of_mem mem

/-! ## Any section -/

/-- Where a writer that waits after a section comes from. -/
inductive WaitingWriter (t : Traffic α) (move : Move) : Nat × Activity → Prop
  /-- It has waited before, and the section was that of another call. -/
  | still {entry : Nat × Activity} (before : t.StillWaits entry)
      (apart : ∀ attempt, t.attempt? move = some attempt → entry.1 ≠ attempt.call) :
      WaitingWriter t move entry
  /-- It has begun to write and has to wait for the end of an interval. -/
  | paused {slot now checked milliseconds : Nat} {message : Message}
      (begins : move = .write slot message now checked)
      (attached : t.writers.contains slot = true)
      (waits : (t.queue.beginWrite slot now checked).1 = .wait milliseconds)
      (pace : (t.step move).queue.pace = (t.queue.beginWrite slot now checked).2.pace) :
      WaitingWriter t move (t.nextCall, .paused slot message (checked + milliseconds))
  /-- It has come as far as putting its message and found no room. -/
  | blocked {attempt : Attempt α} (comes : t.attempt? move = some attempt)
      (full : (attempt.traffic.queue.offer attempt.slot attempt.message).1 = .full) :
      WaitingWriter t move (attempt.call, .blocked attempt.slot attempt.message false)

/-- A section that neither puts a message nor looks for one. -/
theorem waitingWriter_of_neither {t : Traffic α} {move : Move} (comes : t.attempt? move = none)
    (looks : t.looker? move = none) {entry : Nat × Activity} {slot : Nat}
    (writes : entry.2.writes slot = true) (mem : entry ∈ (t.step move).calls) :
    WaitingWriter t move entry := by
  have still : t.StillWaits entry → WaitingWriter t move entry := by
    intro before
    refine .still before ?_
    intro attempt other
    rw [comes] at other
    cases other
  by_cases tries : move.isTry = true
  · rw [step_eq_self tries comes looks] at mem
    exact still (.of_mem mem)
  · cases move with
    | attachWriter => exact still (.of_mem mem)
    | detachWriter slot =>
      dsimp only [step] at mem
      split at mem <;> exact still (.of_mem mem)
    | attachReader => exact still (.of_mem mem)
    | detachReader reader =>
      dsimp only [step] at mem
      split at mem
      · exact still (.of_wakeAllWriters mem)
      · exact still (.of_mem mem)
    | write slot message now checked =>
      rcases step_write_cases comes with ⟨-, same⟩ | ⟨-, refused⟩ |
        ⟨attached, milliseconds, wait, waits⟩
      · rw [same] at mem
        exact still (.of_mem mem)
      · rw [refused] at mem
        exact still (.of_mem mem)
      · -- the only section of this sort that makes a writer wait
        rw [waits] at mem
        rcases List.mem_cons.1 mem with rfl | before
        · exact .paused rfl attached wait (by rw [waits]; rfl)
        · exact still (.of_mem before)
    | close =>
      -- the call that is added waits to wake others, and is not one to write
      rcases List.mem_cons.1 mem with rfl | before
      · cases writes
      · exact still (.of_mem before)
    | wakeReaders call =>
      dsimp only [step] at mem
      split at mem
      · rcases List.mem_cons.1 mem with rfl | before
        · cases writes
        · have woken := mem_calls_of_wakeAllReaders writes before
          exact still (.of_mem (mem_calls_of_unpark woken).1)
      · exact still (.of_mem mem)
    | wakeWriters call =>
      dsimp only [step] at mem
      split at mem
      · obtain ⟨old, before, same⟩ := StillWaits.of_wakeAllWriters mem
        exact still ⟨old, (mem_calls_of_unpark before).1, same⟩
      · exact still (.of_mem mem)
    | _ => exact absurd rfl tries

/-- Every writer that waits after a section comes from somewhere. -/
theorem waitingWriter_step {t : Traffic α} (begun : ∀ entry ∈ t.calls, entry.1 < t.nextCall)
    {move : Move} {entry : Nat × Activity} {slot : Nat} (writes : entry.2.writes slot = true)
    (mem : entry ∈ (t.step move).calls) : WaitingWriter t move entry := by
  cases comes : t.attempt? move with
  | some attempt =>
    rw [step_of_attempt comes] at mem
    rcases mem_calls_of_attemptWrite writes mem with before | ⟨full, rfl⟩
    · obtain ⟨before, apart⟩ := mem_calls_of_attempt begun comes before
      refine .still (.of_mem before) ?_
      intro other comes'
      rw [comes] at comes'
      rwa [← Option.some.inj comes']
    · exact .blocked comes full
  | none =>
    cases looks : t.looker? move with
    | some reader =>
      obtain ⟨u, call, kind, waits, -, calls, -, went⟩ := step_of_looker looks
      rw [went] at mem
      obtain ⟨old, before, same⟩ := stillWaits_of_attemptRead writes mem
      refine .still ⟨old, calls before, same⟩ ?_
      intro attempt other
      rw [comes] at other
      cases other
    | none => exact waitingWriter_of_neither comes looks writes mem

/-! ## Numbers of calls and handles of writers -/

/-- No call begins, and no writer comes or goes. -/
def SameCallers (t u : Traffic α) : Prop :=
  u.nextCall = t.nextCall ∧ u.writers = t.writers

omit [PacingNumber α] in
theorem sameCallers_attemptWrite (t : Traffic α) (call slot : Nat) (message : Message) :
    SameCallers t (t.attemptWrite call slot message) := by
  unfold attemptWrite
  rcases t.queue.offer slot message with ⟨outcome, queue⟩
  cases outcome <;> exact ⟨rfl, rfl⟩

theorem sameCallers_beginWrite (t : Traffic α) (call slot : Nat) (message : Message)
    (now checked : Nat) : SameCallers t (t.beginWrite call slot message now checked) := by
  unfold beginWrite
  dsimp only [note]
  rcases t.queue.beginWrite slot now checked with ⟨outcome, queue⟩
  cases outcome with
  | ready => exact sameCallers_attemptWrite _ call slot message
  | _ => exact ⟨rfl, rfl⟩

theorem sameCallers_attemptRead (t : Traffic α) (call reader : Nat) (kind : ReadKind)
    (waits : Bool) : SameCallers t (t.attemptRead call reader kind waits) := by
  unfold attemptRead
  rcases t.queue.take reader with ⟨result, queue⟩
  cases result with
  | none =>
    dsimp only
    split <;> exact ⟨rfl, rfl⟩
  | some message =>
    dsimp only
    split <;> exact ⟨rfl, rfl⟩

theorem nextCall_step_write {t : Traffic α} {slot : Nat} (attached : t.writers.contains slot = true)
    (message : Message) (now checked : Nat) :
    (t.step (.write slot message now checked)).nextCall = t.nextCall + 1 := by
  rw [step, if_pos attached, (sameCallers_beginWrite _ _ _ _ _ _).1]
  rfl

/-- Numbers of calls are not given twice, and only two sections have to do with handles of writers. -/
theorem callers_step (t : Traffic α) (move : Move) :
    t.nextCall ≤ (t.step move).nextCall ∧
      (move.movesWriter = false → (t.step move).writers = t.writers) := by
  have still : ∀ {u : Traffic α}, SameCallers t u →
      t.nextCall ≤ u.nextCall ∧ (move.movesWriter = false → u.writers = t.writers) :=
    fun same => ⟨Nat.le_of_eq same.1.symm, fun _ => same.2⟩
  have next : ∀ {u : Traffic α}, SameCallers t.count u →
      t.nextCall ≤ u.nextCall ∧ (move.movesWriter = false → u.writers = t.writers) :=
    fun same => ⟨Nat.le_trans (Nat.le_succ _) (Nat.le_of_eq same.1.symm), fun _ => same.2⟩
  cases move with
  | attachWriter => exact ⟨Nat.le_refl _, fun other => by cases other⟩
  | detachWriter slot =>
    refine ⟨?_, fun other => by cases other⟩
    dsimp only [step]
    split <;> exact Nat.le_refl _
  | attachReader => exact still ⟨rfl, rfl⟩
  | detachReader reader =>
    dsimp only [step]
    split <;> exact still ⟨rfl, rfl⟩
  | write slot message now checked =>
    dsimp only [step]
    split
    · exact next (sameCallers_beginWrite _ _ _ _ _ _)
    · exact still ⟨rfl, rfl⟩
  | resume call now =>
    dsimp only [step]
    split
    · exact still (sameCallers_attemptWrite _ _ _ _)
    · exact still ⟨rfl, rfl⟩
  | retryWrite call =>
    dsimp only [step]
    split
    · exact still (sameCallers_attemptWrite _ _ _ _)
    · exact still ⟨rfl, rfl⟩
  | read reader kind =>
    dsimp only [step]
    split
    · exact next (sameCallers_attemptRead _ _ _ _ _)
    · exact still ⟨rfl, rfl⟩
  | retryRead call =>
    dsimp only [step]
    split
    · exact still (sameCallers_attemptRead _ _ _ _ _)
    · exact still ⟨rfl, rfl⟩
  | giveUp call =>
    dsimp only [step]
    split
    · exact still (sameCallers_attemptRead _ _ _ _ _)
    · exact still ⟨rfl, rfl⟩
  | close => exact next ⟨rfl, rfl⟩
  | wakeReaders call =>
    dsimp only [step]
    split <;> exact still ⟨rfl, rfl⟩
  | wakeWriters call =>
    dsimp only [step]
    split <;> exact still ⟨rfl, rfl⟩

/-! ## Calls that come back -/

/-- A call to write comes back in a section with its message put. -/
def Puts (t : Traffic α) (move : Move) (call : Nat) : Prop :=
  ∃ entries readers, (t.step move).journal = t.journal ++ entries ∧
    .returned call (.ok ()) readers ∈ entries

/-- No call comes back with its message put where nothing of the sort is added to the journal. -/
theorem not_puts_of_journal {t : Traffic α} {move : Move} {added : List Entry}
    (journal : (t.step move).journal = t.journal ++ added) {call : Nat}
    (others : ∀ readers, .returned call (.ok ()) readers ∉ added) : ¬ t.Puts move call := by
  rintro ⟨entries, readers, grown, mem⟩
  rw [journal] at grown
  rw [← List.append_cancel_left grown] at mem
  exact others readers mem

theorem not_puts_of_same {t : Traffic α} {move : Move}
    (journal : (t.step move).journal = t.journal) (call : Nat) : ¬ t.Puts move call :=
  not_puts_of_journal (journal.trans (List.append_nil _).symm) fun _ => List.not_mem_nil

/-- Looking for a message makes no call to write come back. -/
theorem journal_attemptRead (t : Traffic α) (call reader : Nat) (kind : ReadKind) (waits : Bool) :
    ∃ added, (t.attemptRead call reader kind waits).journal = t.journal ++ added ∧
      ∀ other readers, .returned other (.ok ()) readers ∉ added := by
  unfold attemptRead
  rcases t.queue.take reader with ⟨result, queue⟩
  cases result with
  | none =>
    dsimp only
    split
    · exact ⟨[], (List.append_nil _).symm, by simp⟩
    · exact ⟨_, rfl, by simp⟩
  | some message =>
    dsimp only
    split <;> exact ⟨_, rfl, by simp⟩

/-- Nothing is put in a section that does not come as far. -/
theorem not_puts_of_neither {t : Traffic α} {move : Move} (comes : t.attempt? move = none)
    (looks : t.looker? move = none) (call : Nat) : ¬ t.Puts move call := by
  by_cases tries : move.isTry = true
  · exact not_puts_of_same (by rw [step_eq_self tries comes looks]) call
  · cases move with
    | attachWriter => exact not_puts_of_same rfl call
    | detachWriter slot =>
      apply not_puts_of_same
      dsimp only [step]
      split <;> rfl
    | attachReader => exact not_puts_of_journal rfl (by simp)
    | detachReader reader =>
      by_cases free : (t.queue.isRegistered reader && !t.isReading reader) = true
      · have left : (t.step (.detachReader reader)).journal = t.journal ++ [.left reader] := by
          simp only [step, if_pos free]
          rfl
        exact not_puts_of_journal left (by simp)
      · apply not_puts_of_same
        simp only [step, if_neg free]
    | write slot message now checked =>
      rcases step_write_cases comes with ⟨-, same⟩ | ⟨-, refused⟩ | ⟨-, milliseconds, -, waits⟩
      · exact not_puts_of_same (by rw [same]) call
      · exact not_puts_of_journal (by rw [refused]; rfl) (by simp)
      · exact not_puts_of_journal (by rw [waits]; rfl) (by simp)
    | close => exact not_puts_of_journal rfl (by simp)
    | wakeReaders call' =>
      apply not_puts_of_same
      dsimp only [step]
      split <;> rfl
    | wakeWriters call' =>
      apply not_puts_of_same
      dsimp only [step]
      split <;> rfl
    | _ => exact absurd rfl tries

/-- What a call that comes as far as putting its message has told so far. -/
theorem journal_of_attempt {t : Traffic α} {move : Move} {attempt : Attempt α}
    (comes : t.attempt? move = some attempt) :
    attempt.traffic.journal = t.journal ∨
      attempt.traffic.journal = t.journal ++ [.begun attempt.call attempt.slot attempt.message] := by
  cases comes_of_attempt? comes with
  | begins _ _ => exact .inr rfl
  | resumes _ => exact .inl rfl
  | retries _ => exact .inl rfl

omit [PacingNumber α] in
/-- Putting a message makes no other call come back, and its own one only if that succeeds. -/
theorem journal_attemptWrite (t : Traffic α) (call slot : Nat) (message : Message) :
    ∃ added, (t.attemptWrite call slot message).journal = t.journal ++ added ∧
      ∀ other readers, .returned other (.ok ()) readers ∈ added → call = other ∧
        ((t.queue.offer slot message).1 = .stored ∨ (t.queue.offer slot message).1 = .dropped) := by
  unfold attemptWrite
  rcases t.queue.offer slot message with ⟨outcome, queue⟩
  cases outcome with
  | closed => exact ⟨_, rfl, by simp⟩
  | full => exact ⟨[], (List.append_nil _).symm, by simp⟩
  | stored => exact ⟨_, rfl, by simp [eq_comm]⟩
  | dropped => exact ⟨_, rfl, by simp [eq_comm]⟩

theorem of_puts_of_attempt {t : Traffic α} {move : Move} {attempt : Attempt α}
    (comes : t.attempt? move = some attempt) {call : Nat} (puts : t.Puts move call) :
    attempt.call = call ∧ ((attempt.traffic.queue.offer attempt.slot attempt.message).1 = .stored ∨
      (attempt.traffic.queue.offer attempt.slot attempt.message).1 = .dropped) := by
  obtain ⟨added, last, own⟩ :=
    attempt.traffic.journal_attemptWrite attempt.call attempt.slot attempt.message
  rw [← step_of_attempt comes] at last
  obtain ⟨entries, readers, grown, mem⟩ := puts
  rcases journal_of_attempt comes with same | begun
  · rw [same, grown] at last
    rw [List.append_cancel_left last] at mem
    exact own call readers mem
  · rw [begun, grown, List.append_assoc] at last
    rw [List.append_cancel_left last] at mem
    exact own call readers (by simpa using mem)

/-- What comes back with its message put has come as far as putting it. -/
theorem exists_attempt_of_puts {t : Traffic α} {move : Move} {call : Nat}
    (puts : t.Puts move call) :
    ∃ attempt, t.attempt? move = some attempt ∧ attempt.call = call ∧
      ((attempt.traffic.queue.offer attempt.slot attempt.message).1 = .stored ∨
        (attempt.traffic.queue.offer attempt.slot attempt.message).1 = .dropped) := by
  cases comes : t.attempt? move with
  | some attempt => exact ⟨attempt, rfl, of_puts_of_attempt comes puts⟩
  | none =>
    cases looks : t.looker? move with
    | some reader =>
      obtain ⟨u, call', kind, waits, -, -, journal, went⟩ := step_of_looker looks
      obtain ⟨added, grown, others⟩ := u.journal_attemptRead call' reader kind waits
      rw [← went, journal] at grown
      exact absurd puts (not_puts_of_journal grown (others call))
    | none => exact absurd puts (not_puts_of_neither comes looks call)

end Traffic

end CollectorFeed
