import CollectorFeed.Proofs.Broadcast.Interleaving

/-!
# Calls to write

What the journal says about one call to write is its story. It begins once, and once it has come
back the story is one of three: it was refused, its message was dropped since nobody was there, or
its message was put once (`Concluded`). A call that waits has only begun. `told_run` says so of
every state that threads can reach.
-/

set_option autoImplicit false

namespace CollectorFeed

/-- Whether an entry tells about a call to write. -/
def Entry.isOf (call : Nat) : Entry → Bool
  | begun other _ _ => other == call
  | appended other _ => other == call
  | returned other _ _ => other == call
  | _ => false

/-- The entries about a call to write. -/
def storyOf (call : Nat) (journal : List Entry) : List Entry :=
  journal.filter (Entry.isOf call)

/-- The story of a call that waits. -/
def Activity.opening (call : Nat) : Activity → List Entry
  | paused slot message _ => [.begun call slot message]
  | blocked slot message _ => [.begun call slot message]
  | _ => []

/-- The stories of calls that have come back, or that do not write. -/
inductive Concluded (call : Nat) : List Entry → Prop
  | silent : Concluded call []
  | refused (slot : Nat) (message : Message) (readers : Nat) :
      Concluded call [.begun call slot message, .returned call (.error .closed) readers]
  | dropped (slot : Nat) (message : Message) :
      Concluded call [.begun call slot message, .returned call (.ok ()) 0]
  | stored (slot : Nat) (message : Message) {readers : Nat} (occupied : 0 < readers) :
      Concluded call
        [.begun call slot message, .appended call message, .returned call (.ok ()) readers]

theorem storyOf_append (call : Nat) (first second : List Entry) :
    storyOf call (first ++ second) = storyOf call first ++ storyOf call second :=
  List.filter_append first second

theorem storyOf_eq_nil {call : Nat} {entries : List Entry}
    (foreign : ∀ entry ∈ entries, entry.isOf call = false) : storyOf call entries = [] :=
  List.filter_eq_nil_iff.2 fun entry mem is => by simp [foreign entry mem] at is

theorem storyOf_eq_self {call : Nat} {entries : List Entry}
    (own : ∀ entry ∈ entries, entry.isOf call = true) : storyOf call entries = entries :=
  List.filter_eq_self.2 own

namespace Traffic

variable {α : Type}

/-! ## What calls wait for -/

theorem activity?_park (t : Traffic α) (call : Nat) (activity : Activity) :
    (t.park call activity).activity? call = some activity := by
  simp [activity?, park]

theorem activity?_park_of_ne (t : Traffic α) {call other : Nat} (activity : Activity)
    (apart : other ≠ call) : (t.park call activity).activity? other = t.activity? other := by
  simp [activity?, park, apart.symm]

theorem activity?_unpark (t : Traffic α) (call : Nat) :
    (t.unpark call).activity? call = none := by
  simp [activity?, unpark, List.find?_filter]

theorem activity?_unpark_of_ne (t : Traffic α) {call other : Nat} (apart : other ≠ call) :
    (t.unpark call).activity? other = t.activity? other := by
  simp only [activity?, unpark, List.find?_filter]
  congr 2
  funext entry
  by_cases same : entry.1 = other
  · simp [same, apart]
  · simp [same]

theorem activity?_wake (t : Traffic α) (wake : Activity → Activity) (call : Nat) :
    activity? { t with calls := t.calls.map fun entry => (entry.1, wake entry.2) } call =
      (t.activity? call).map wake := by
  simp [activity?, List.find?_map, Function.comp_def]

/-! ## Stories that are told -/

/-- The journal tells of every call but one what it should. -/
structure ToldBut (t : Traffic α) (skipped : Option Nat) : Prop where
  /-- Calls that have not begun have no story. -/
  fresh : ∀ call, t.nextCall ≤ call → t.activity? call = none ∧ storyOf call t.journal = []
  /-- Calls that wait have only begun. -/
  waiting : ∀ call activity, skipped ≠ some call → t.activity? call = some activity →
    storyOf call t.journal = activity.opening call
  /-- Calls that do not wait have come back. -/
  concluded : ∀ call, skipped ≠ some call → t.activity? call = none →
    Concluded call (storyOf call t.journal)

/-- The journal tells of every call what it should. -/
def Told (t : Traffic α) : Prop :=
  ToldBut t none

namespace ToldBut

variable {t : Traffic α} {skipped : Option Nat} {call : Nat}

/-- What the queue does is not part of any story. -/
theorem withQueue (told : t.ToldBut skipped) (queue : BroadcastQueue α) :
    ToldBut { t with queue := queue } skipped :=
  ⟨told.fresh, told.waiting, told.concluded⟩

theorem lt_of_activity? (told : t.ToldBut skipped) {activity : Activity}
    (waits : t.activity? call = some activity) : call < t.nextCall := by
  by_contra unborn
  rw [(told.fresh call (Nat.le_of_not_lt unborn)).1] at waits
  cases waits

/-- A call that goes on is left out until it waits again or comes back. -/
theorem unpark (told : t.Told) (call : Nat) : (t.unpark call).ToldBut (some call) where
  fresh := by
    intro other unborn
    refine ⟨?_, (told.fresh other unborn).2⟩
    by_cases same : other = call
    · rw [same, activity?_unpark]
    · rw [activity?_unpark_of_ne t same]
      exact (told.fresh other unborn).1
  waiting := by
    intro other activity apart waits
    rw [activity?_unpark_of_ne t fun same => apart (congrArg some same.symm)] at waits
    exact told.waiting other activity (by simp) waits
  concluded := by
    intro other apart free
    rw [activity?_unpark_of_ne t fun same => apart (congrArg some same.symm)] at free
    exact told.concluded other (by simp) free

/-- A call that begins is left out. -/
theorem count (told : t.Told) : t.count.ToldBut (some t.nextCall) where
  fresh := fun other unborn => told.fresh other (Nat.le_of_succ_le unborn)
  waiting := fun other activity _ waits => told.waiting other activity (by simp) waits
  concluded := fun other _ free => told.concluded other (by simp) free

/-- Waking threads does not change what they wait for. -/
theorem wake (told : t.ToldBut skipped) {wake : Activity → Activity}
    (opening : ∀ call activity, (wake activity).opening call = activity.opening call) :
    ToldBut { t with calls := t.calls.map fun entry => (entry.1, wake entry.2) } skipped where
  fresh := by
    intro other unborn
    rw [activity?_wake, (told.fresh other unborn).1]
    exact ⟨rfl, (told.fresh other unborn).2⟩
  waiting := by
    intro other activity apart waits
    rw [activity?_wake] at waits
    obtain ⟨before, slept, same⟩ := Option.map_eq_some_iff.1 waits
    rw [← same, opening]
    exact told.waiting other before apart slept
  concluded := by
    intro other apart free
    rw [activity?_wake, Option.map_eq_none_iff] at free
    exact told.concluded other apart free

theorem wakeAllWriters (told : t.ToldBut skipped) : t.wakeAllWriters.ToldBut skipped := by
  apply told.wake
  intro call activity
  cases activity <;> rfl

theorem wakeAllReaders (told : t.ToldBut skipped) : t.wakeAllReaders.ToldBut skipped := by
  apply told.wake
  intro call activity
  cases activity <;> rfl

/-- Entries that tell about no call, or about the call that is left out, change no other story. -/
theorem note (told : t.ToldBut skipped) {entries : List Entry}
    (foreign : ∀ entry ∈ entries, ∀ other, skipped ≠ some other → entry.isOf other = false)
    (started : ∀ other, skipped = some other → other < t.nextCall) :
    (t.note entries).ToldBut skipped := by
  have same : ∀ other, skipped ≠ some other →
      storyOf other (t.note entries).journal = storyOf other t.journal := by
    intro other apart
    show storyOf other (t.journal ++ entries) = storyOf other t.journal
    rw [storyOf_append, storyOf_eq_nil fun entry mem => foreign entry mem other apart,
      List.append_nil]
  constructor
  · intro other unborn
    rw [same other fun skips => Nat.not_lt.2 unborn (started other skips)]
    exact told.fresh other unborn
  · intro other activity apart waits
    rw [same other apart]
    exact told.waiting other activity apart waits
  · intro other apart free
    rw [same other apart]
    exact told.concluded other apart free

/-- An entry that tells about no call to write changes no story. -/
theorem noteForeign (told : t.ToldBut skipped) {entry : Entry}
    (foreign : ∀ other, entry.isOf other = false)
    (started : ∀ other, skipped = some other → other < t.nextCall) :
    (t.note [entry]).ToldBut skipped := by
  refine told.note ?_ started
  intro entry' mem other _
  rw [List.mem_singleton.1 mem]
  exact foreign other

/-- The call that was left out comes back. -/
theorem conclude (told : t.ToldBut (some call)) (free : t.activity? call = none)
    (concluded : Concluded call (storyOf call t.journal)) : t.Told where
  fresh := told.fresh
  waiting := by
    intro other activity _ waits
    by_cases same : call = other
    · rw [← same, free] at waits
      cases waits
    · exact told.waiting other activity (by simp [same]) waits
  concluded := by
    intro other _ idle
    by_cases same : call = other
    · exact same ▸ concluded
    · exact told.concluded other (by simp [same]) idle

/-- The call that was left out waits. -/
theorem park (told : t.ToldBut (some call)) (started : call < t.nextCall) {activity : Activity}
    (begun : storyOf call t.journal = activity.opening call) : (t.park call activity).Told where
  fresh := by
    intro other unborn
    -- calls that have not begun have greater numbers
    have later : other ≠ call := Nat.ne_of_gt (Nat.lt_of_lt_of_le started unborn)
    rw [activity?_park_of_ne t activity later]
    exact told.fresh other unborn
  waiting := by
    intro other activity' _ waits
    by_cases same : other = call
    · rw [same, activity?_park] at waits
      rw [same, ← Option.some.inj waits]
      exact begun
    · rw [activity?_park_of_ne t activity same] at waits
      exact told.waiting other activity' (fun skips => same (Option.some.inj skips).symm) waits
  concluded := by
    intro other _ idle
    by_cases same : other = call
    · rw [same, activity?_park] at idle
      cases idle
    · rw [activity?_park_of_ne t activity same] at idle
      exact told.concluded other (fun skips => same (Option.some.inj skips).symm) idle

/-- The call that was left out comes back, and the journal says so. -/
theorem finish (told : t.ToldBut (some call)) (started : call < t.nextCall)
    (free : t.activity? call = none) {entries : List Entry}
    (own : ∀ entry ∈ entries, ∀ other, entry.isOf other = (call == other))
    (concluded : Concluded call (storyOf call t.journal ++ entries)) :
    (t.note entries).Told := by
  have noted : (t.note entries).ToldBut (some call) := by
    refine told.note ?_ fun other skips => Option.some.inj skips ▸ started
    intro entry mem other apart
    rw [own entry mem, beq_eq_false_iff_ne]
    exact fun same => apart (congrArg some same)
  refine noted.conclude free ?_
  show Concluded call (storyOf call (t.journal ++ entries))
  rw [storyOf_append, storyOf_eq_self fun entry mem => (own entry mem call).trans (beq_self_eq_true _)]
  exact concluded

end ToldBut

/-! ## Sections -/

theorem ToldBut.attemptWrite {t : Traffic α} {call slot : Nat} {message : Message}
    (told : t.ToldBut (some call)) (started : call < t.nextCall) (free : t.activity? call = none)
    (begun : storyOf call t.journal = [.begun call slot message]) :
    (t.attemptWrite call slot message).Told := by
  unfold Traffic.attemptWrite
  rcases t.queue.offer_cases slot message with
    ⟨-, offered⟩ | ⟨-, offered⟩ | ⟨-, empty, offered⟩ | ⟨-, -, occupied, offered⟩
  · rw [offered]
    refine (told.withQueue t.queue).finish started free ?_ ?_
    · simp [Entry.isOf]
    · show Concluded call (storyOf call t.journal ++ _)
      rw [begun]
      exact .refused slot message _
  · rw [offered]
    exact (told.withQueue t.queue).park started begun
  · rw [offered]
    refine (told.withQueue (t.queue.drop slot)).finish started free ?_ ?_
    · simp [Entry.isOf]
    · show Concluded call (storyOf call t.journal ++ _)
      rw [begun, empty]
      exact .dropped slot message
  · rw [offered]
    apply ToldBut.wakeAllReaders
    refine (told.withQueue (t.queue.store slot message)).finish started free ?_ ?_
    · simp [Entry.isOf]
    · show Concluded call (storyOf call t.journal ++ _)
      rw [begun]
      exact .stored slot message (List.length_pos_iff.2 occupied)

theorem Told.beginWrite {t : Traffic α} [PacingNumber α] (told : t.Told) (slot : Nat)
    (message : Message) (now checked : Nat) :
    (t.count.beginWrite t.nextCall slot message now checked).Told := by
  -- the new call has no story yet, so the first entry is all of it
  have silent := told.fresh t.nextCall (Nat.le_refl _)
  have started : t.nextCall < t.count.nextCall := Nat.lt_succ_self _
  have noted : (t.count.note [.begun t.nextCall slot message]).ToldBut (some t.nextCall) := by
    refine (ToldBut.count told).note ?_ fun other skips => Option.some.inj skips ▸ started
    intro entry mem other apart
    rw [List.mem_singleton.1 mem]
    exact beq_eq_false_iff_ne.2 fun same => apart (congrArg some same)
  have begun : storyOf t.nextCall (t.count.note [.begun t.nextCall slot message]).journal =
      [.begun t.nextCall slot message] := by
    show storyOf t.nextCall (t.journal ++ [.begun t.nextCall slot message]) = _
    rw [storyOf_append, silent.2]
    exact storyOf_eq_self (by simp [Entry.isOf])
  unfold Traffic.beginWrite
  dsimp only
  rcases (t.count.note [.begun t.nextCall slot message]).queue.beginWrite slot now checked with
    ⟨first, queue⟩
  cases first with
  | closed =>
    refine (noted.withQueue queue).finish started silent.1 (by simp [Entry.isOf]) ?_
    rw [begun]
    exact .refused slot message _
  | wait milliseconds => exact (noted.withQueue queue).park started begun
  | ready => exact (noted.withQueue queue).attemptWrite started silent.1 begun

theorem ToldBut.attemptRead {t : Traffic α} [PacingNumber α] {call : Nat}
    (told : t.ToldBut (some call)) (started : call < t.nextCall) (free : t.activity? call = none)
    (silent : storyOf call t.journal = []) (reader : Nat) (kind : ReadKind) (waits : Bool) :
    (t.attemptRead call reader kind waits).Told := by
  have foreign : ∀ (queue : BroadcastQueue α) (entry : Entry),
      (∀ other, entry.isOf other = false) → ({ t with queue := queue }.note [entry]).Told := by
    intro queue entry apart
    have noted : ({ t with queue := queue }.note [entry]).ToldBut (some call) :=
      (told.withQueue queue).noteForeign apart fun other skips => Option.some.inj skips ▸ started
    refine noted.conclude free ?_
    show Concluded call (storyOf call (t.journal ++ [entry]))
    rw [storyOf_append, silent, storyOf_eq_nil (by simpa using apart call)]
    exact .silent
  unfold Traffic.attemptRead
  rcases t.queue.take reader with ⟨result, queue⟩
  cases result with
  | none =>
    dsimp only
    split
    · exact (told.withQueue queue).park started silent
    · exact foreign queue _ fun _ => rfl
  | some message =>
    dsimp only
    split
    · exact (foreign queue _ fun _ => rfl).wakeAllWriters
    · exact foreign queue _ fun _ => rfl

theorem Told.step {t : Traffic α} [PacingNumber α] (told : t.Told) (move : Move) :
    (t.step move).Told := by
  -- a call that waited goes on with the story that it has so far
  have resumed : ∀ {call : Nat} {activity : Activity}, t.activity? call = some activity →
      call < t.nextCall ∧ storyOf call t.journal = activity.opening call :=
    fun waits => ⟨told.lt_of_activity? waits, told.waiting _ _ (by simp) waits⟩
  cases move with
  | attachWriter => exact ⟨told.fresh, told.waiting, told.concluded⟩
  | detachWriter slot =>
    dsimp only [Traffic.step]
    split
    · exact ⟨told.fresh, told.waiting, told.concluded⟩
    · exact told
  | attachReader =>
    apply (ToldBut.withQueue told _).noteForeign
    · exact fun _ => rfl
    · rintro _ ⟨⟩
  | detachReader reader =>
    dsimp only [Traffic.step]
    split
    · apply ToldBut.wakeAllWriters
      apply (ToldBut.withQueue told _).noteForeign
      · exact fun _ => rfl
      · rintro _ ⟨⟩
    · exact told
  | write slot message now checked =>
    dsimp only [Traffic.step]
    split
    · exact told.beginWrite slot message now checked
    · exact told
  | resume call now =>
    dsimp only [Traffic.step]
    split
    · next slot message deadline paused =>
      obtain ⟨started, begun⟩ := resumed paused
      exact ((ToldBut.unpark told call).withQueue _).attemptWrite started
        (activity?_unpark t call) begun
    · exact told
  | retryWrite call =>
    dsimp only [Traffic.step]
    split
    · next slot message blocked =>
      obtain ⟨started, begun⟩ := resumed blocked
      exact (ToldBut.unpark told call).attemptWrite started (activity?_unpark t call) begun
    · exact told
  | read reader kind =>
    dsimp only [Traffic.step]
    split
    · have silent := told.fresh t.nextCall (Nat.le_refl _)
      exact (ToldBut.count told).attemptRead (Nat.lt_succ_self _) silent.1 silent.2 reader kind _
    · exact told
  | retryRead call =>
    dsimp only [Traffic.step]
    split
    · next reader kind starved =>
      obtain ⟨started, silent⟩ := resumed starved
      exact (ToldBut.unpark told call).attemptRead started (activity?_unpark t call) silent
        reader kind true
    · exact told
  | giveUp call =>
    dsimp only [Traffic.step]
    split
    · next reader starved =>
      obtain ⟨started, silent⟩ := resumed starved
      exact (ToldBut.unpark told call).attemptRead started (activity?_unpark t call) silent
        reader .timed false
    · exact told
  | close =>
    have silent := told.fresh t.nextCall (Nat.le_refl _)
    have noted : ({ t.count with queue := t.queue.close }.note [.closed]).ToldBut
        (some t.nextCall) := by
      apply ((ToldBut.count told).withQueue _).noteForeign
      · exact fun _ => rfl
      · rintro other ⟨⟩
        exact Nat.lt_succ_self _
    refine noted.park (Nat.lt_succ_self _) ?_
    show storyOf t.nextCall (t.journal ++ [.closed]) = []
    rw [storyOf_append, silent.2]
    rfl
  | wakeReaders call =>
    dsimp only [Traffic.step]
    split
    · next closing =>
      obtain ⟨started, silent⟩ := resumed closing
      exact ((ToldBut.unpark told call).wakeAllReaders).park started silent
    · exact told
  | wakeWriters call =>
    dsimp only [Traffic.step]
    split
    · next closing =>
      obtain ⟨started, silent⟩ := resumed closing
      apply ToldBut.wakeAllWriters
      refine (ToldBut.unpark told call).conclude (activity?_unpark t call) ?_
      show Concluded call (storyOf call t.journal)
      rw [silent]
      exact .silent
    · exact told

end Traffic

end CollectorFeed
