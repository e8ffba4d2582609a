import CollectorFeed.Proofs.LiveFeed.OwnTable

/-!
# What submissions make of a table

When a message is submitted, its session is found or created, established, taught its width and
counted. `Effect` says what this makes of a table that nobody else uses, and `Effects` what the
submissions of a whole feed make of it. The calls by which messages are submitted are opened once
(`Effect.of_answers`, `Effects.of_answers`); all else is told by the effects, one case per
constructor.

Main statements: a key leads in the end to the session through which its messages went
(`Effects.session?_eq`), which sessions there are follows from the keys of the messages
(`Effects.keys_eq`), and what is known of a session from the messages through it
(`Effects.get?_eq`).
-/

set_option autoImplicit false

namespace CollectorFeed

/-! ## Changes to a table -/

namespace SessionTable

variable {table : SessionTable} {id : SessionId}

/-- Only what is known of the session matters to a change. -/
theorem update_congr {alter alter' : SessionFacts → SessionFacts}
    (same : ∀ facts, table.get? id = some facts → alter facts = alter' facts) :
    table.update id alter = table.update id alter' := by
  unfold update
  unfold get? at same
  cases itsPlace : placeOf? id with
  | none => rfl
  | some place =>
    rw [itsPlace] at same
    have known : table.known.modify place alter = table.known.modify place alter' := by
      apply List.ext_getElem?
      intro other
      rw [List.getElem?_modify, List.getElem?_modify]
      by_cases there : place = other
      · subst there
        cases found : table.known[place]? with
        | none => rfl
        | some facts => simp [same facts found]
      · simp [there]
    exact congrArg (fun known => { table with known := known }) known

theorem update_id (table : SessionTable) (id : SessionId) :
    table.update id (fun facts => facts) = table := by
  unfold update
  cases placeOf? id with
  | none => rfl
  | some place =>
    have known : table.known.modify place (fun facts => facts) = table.known :=
      List.modify_id place table.known
    exact congrArg (fun known => { table with known := known }) known

theorem update_update (table : SessionTable) (id : SessionId)
    (first second : SessionFacts → SessionFacts) :
    (table.update id first).update id second =
      table.update id fun facts => second (first facts) := by
  unfold update
  cases placeOf? id with
  | none => rfl
  | some place =>
    have known : (table.known.modify place first).modify place second =
        table.known.modify place (second ∘ first) := List.modify_modify_eq first second place _
    exact congrArg (fun known => { table with known := known }) known

/-- A session is created for a new key if there is room. -/
theorem create_of_absent {key : SessionKey} (absent : table.find? key = none) (handling : Handling)
    (width? : Option AsnWidth) :
    table.create key handling width? =
      if table.isFull then (.error (.tableFull (table.limit?.getD 0)), table)
      else (.ok (idAt table.size), table.add (newFacts key handling width?)) := by
  rw [create, absent]
  rfl

theorem get?_nextId (table : SessionTable) : table.get? (idAt table.size) = none :=
  List.getElem?_eq_none (Nat.le_refl _)

/-- A key leads to a session with that key. -/
theorem key_of_find? {key : SessionKey} (found : table.find? key = some id) :
    ∃ facts, table.get? id = some facts ∧ facts.key = key := by
  obtain ⟨place, there, rfl⟩ := Option.map_eq_some_iff.1 found
  obtain ⟨inside, same, -⟩ := List.findIdx?_eq_some_iff_getElem.1 there
  exact ⟨table.known[place], List.getElem?_eq_getElem inside, beq_iff_eq.1 same⟩

/-- The keys of the sessions, in the order of their numbers. -/
def keys (table : SessionTable) : List SessionKey :=
  table.known.map SessionFacts.key

theorem find?_eq_none_iff {key : SessionKey} : table.find? key = none ↔ key ∉ table.keys := by
  simp [find?, keys, List.findIdx?_eq_none_iff]

theorem isFull_eq (table : SessionTable) :
    table.isFull = table.limit?.any (· ≤ table.keys.length) := by
  rw [isFull, size, keys, List.length_map]
  cases table.limit? with
  | none => rfl
  | some limit => rfl

theorem isFull_congr {table' : SessionTable} (limit : table'.limit? = table.limit?)
    (keys : table'.keys = table.keys) : table'.isFull = table.isFull := by
  rw [isFull_eq, isFull_eq, limit, keys]

theorem keys_update (table : SessionTable) (id : SessionId) {alter : SessionFacts → SessionFacts}
    (keepsKey : ∀ facts, (alter facts).key = facts.key) :
    (table.update id alter).keys = table.keys :=
  table.map_known_update id keepsKey

theorem keys_add (facts : SessionFacts) : (table.add facts).keys = table.keys ++ [facts.key] := by
  simp [keys, add]

/-- Messages of all sessions. -/
def messageTotal (table : SessionTable) : Nat :=
  (table.known.map SessionFacts.messages).sum

theorem messageTotal_add (table : SessionTable) (facts : SessionFacts) :
    (table.add facts).messageTotal = table.messageTotal + facts.messages := by
  simp [messageTotal, add]

/-- By induction on the place. -/
theorem sum_messages_modify {known : List SessionFacts} {place : Nat} {facts : SessionFacts}
    (found : known[place]? = some facts) {alter : SessionFacts → SessionFacts} {more : Nat}
    (adds : (alter facts).messages = facts.messages + more) :
    ((known.modify place alter).map SessionFacts.messages).sum =
      (known.map SessionFacts.messages).sum + more := by
  induction known generalizing place with
  | nil => cases found
  | cons first rest ih =>
    cases place with
    | zero =>
      cases found
      simp only [List.modify_zero_cons, List.map_cons, List.sum_cons, adds]
      omega
    | succ place =>
      have others := ih found
      simp only [List.modify_succ_cons, List.map_cons, List.sum_cons]
      omega

/-- A change that adds messages to one session adds them to the total. -/
theorem messageTotal_update {facts : SessionFacts} (there : table.get? id = some facts)
    {alter : SessionFacts → SessionFacts} {more : Nat}
    (adds : (alter facts).messages = facts.messages + more) :
    (table.update id alter).messageTotal = table.messageTotal + more := by
  obtain ⟨place, itsPlace, found⟩ := Option.bind_eq_some_iff.1 there
  rw [update, itsPlace]
  exact sum_messages_modify found adds

end SessionTable

/-! ## One submission -/

namespace SessionFacts

/-- The session in the established state. One that is in it keeps what brought it there. -/
def established (facts : SessionFacts) : SessionFacts :=
  { facts with
    state := .established
    lastCause := if facts.state = .established then facts.lastCause else .none }

/-- The session with a width of its AS numbers, which is the given one if none is known. -/
def learnt (width : AsnWidth) (facts : SessionFacts) : SessionFacts :=
  { facts with width? := some (facts.width?.getD width) }

/-- The session after a message that went through it. -/
def served (width : AsnWidth) (facts : SessionFacts) : SessionFacts :=
  { facts.established.learnt width with messages := facts.messages + 1 }

theorem key_served (width : AsnWidth) (facts : SessionFacts) :
    (facts.served width).key = facts.key :=
  rfl

/-- The session when its feed has ended. -/
def stopped (facts : SessionFacts) : SessionFacts :=
  { facts with state := .error, lastCause := .manualStop }

end SessionFacts

open LiveFeed (keyOf)

/-- A session when it has just been created for a message. -/
def createdFor (handling : Handling) (relayed : RelayedMessage) : SessionFacts :=
  SessionTable.newFacts (keyOf relayed) handling (some relayed.width)

/-- What the submission of a message makes of a table. -/
inductive Effect (handling : Handling) (table : SessionTable) : Handed → SessionTable → Prop
  /-- There is no session of the key, and no room for one. -/
  | refused {relayed : RelayedMessage} {refusal : SessionRefusal}
      (absent : table.find? (keyOf relayed) = none) (full : table.isFull = true) :
      Effect handling table ⟨relayed, .unbound refusal⟩ table
  /-- The message goes through the session of its key. -/
  | found {relayed : RelayedMessage} {id : SessionId} {state? : Option SessionState}
      {width? : Option AsnWidth} (found : table.find? (keyOf relayed) = some id) :
      Effect handling table ⟨relayed, .passed id false state? width?⟩
        (table.update id (SessionFacts.served relayed.width))
  /-- The message goes through a session that is created for it. -/
  | created {relayed : RelayedMessage} {state? : Option SessionState} {width? : Option AsnWidth}
      (absent : table.find? (keyOf relayed) = none) (room : table.isFull = false) :
      Effect handling table ⟨relayed, .passed (SessionTable.idAt table.size) true state? width?⟩
        ((table.add (createdFor handling relayed)).update (SessionTable.idAt table.size)
          (SessionFacts.served relayed.width))

namespace Answers

variable {table after : SessionTable} {id : SessionId}

theorem establish {state? : Option SessionState}
    (answers : Answers table (establishCalls id state?) after) :
    after = table.update id SessionFacts.established := by
  obtain ⟨fits, others⟩ := cons_iff.1 answers
  obtain rfl : table.state? id = state? := SessionAnswer.state.inj (of_decide_eq_true fits)
  change Answers table _ after at others
  split at others
  case isTrue same =>
    -- whatever is known of the session, it is in the state
    rw [nil_iff.1 others]
    refine ((SessionTable.update_congr fun facts there => ?_).trans (table.update_id id)).symm
    simp only [SessionTable.state?, there, Option.map_some, Option.some.injEq] at same
    simp [SessionFacts.established, ← same]
  case isFalse other =>
    obtain ⟨-, nothing⟩ := cons_iff.1 others
    rw [nil_iff.1 nothing]
    refine SessionTable.update_congr fun facts there => ?_
    simp only [SessionTable.state?, there, Option.map_some, Option.some.injEq] at other
    simp [SessionFacts.established, other]

theorem learnWidth {width : AsnWidth} {width? : Option AsnWidth}
    (answers : Answers table (widthCalls id width width?) after) :
    after = table.update id (SessionFacts.learnt width) := by
  obtain ⟨fits, others⟩ := cons_iff.1 answers
  obtain rfl : table.width? id = width? := SessionAnswer.width.inj (of_decide_eq_true fits)
  change Answers table _ after at others
  split at others
  case isTrue known =>
    rw [nil_iff.1 others]
    refine ((SessionTable.update_congr fun facts there => ?_).trans (table.update_id id)).symm
    simp only [SessionTable.width?, there, Option.bind_some] at known
    obtain ⟨old, known⟩ := Option.isSome_iff_exists.1 known
    rw [SessionFacts.learnt, known, Option.getD_some, ← known]
  case isFalse unknown =>
    obtain ⟨-, nothing⟩ := cons_iff.1 others
    rw [nil_iff.1 nothing]
    refine SessionTable.update_congr fun facts there => ?_
    simp only [SessionTable.width?, there, Option.bind_some, Option.isSome_iff_ne_none, ne_eq,
      not_not] at unknown
    simp [SessionFacts.learnt, unknown]

/-- The calls behind those by which the session is found. -/
theorem serve {relayed : RelayedMessage} {state? : Option SessionState} {width? : Option AsnWidth}
    (answers : Answers table (establishCalls id state? ++ widthCalls id relayed.width width? ++
      [.passOn (fromPeer id relayed) (.ok ()), .countMessage id]) after) :
    after = table.update id (SessionFacts.served relayed.width) := by
  rw [append_iff] at answers
  obtain ⟨between, answers, counted⟩ := answers
  obtain ⟨first, established, learnt⟩ := append_iff.1 answers
  obtain rfl := establish established
  obtain rfl := learnWidth learnt
  rw [cons_iff, cons_iff, nil_iff] at counted
  rw [counted.2.2]
  change ((table.update id _).update id _).update id _ = _
  rw [SessionTable.update_update, SessionTable.update_update]
  rfl

end Answers

namespace Exchange

variable {table : SessionTable}

theorem call_eq {exchange : Exchange} {call : SessionCall} {answer : SessionAnswer}
    (is : exchange.call? = some (call, answer)) (fits : exchange.fits table = true) :
    table.call call = (answer, exchange.leaves table) := by
  rw [Exchange.fits, is] at fits
  rw [leaves, is]
  exact Prod.ext (of_decide_eq_true fits) rfl

/-- A table that answers a creation has made it. -/
theorem create_eq {key : SessionKey} {handling : Handling} {width? : Option AsnWidth}
    {answer : Except SessionRefusal SessionId}
    (fits : (Exchange.create key handling width? answer).fits table = true) :
    table.create key handling width? =
      (answer, (Exchange.create key handling width? answer).leaves table) := by
  cases answer with
  | ok id =>
    have told := call_eq rfl fits
    rw [SessionTable.call] at told
    split at told
    next id' after made =>
      obtain ⟨same, rest⟩ := Prod.mk.inj told
      cases same
      rw [made, rest]
    next => cases congrArg Prod.fst told
  | error refusal =>
    have told := call_eq rfl fits
    rw [SessionTable.call] at told
    split at told
    next => cases congrArg Prod.fst told
    next refusal' after made =>
      obtain ⟨same, rest⟩ := Prod.mk.inj told
      cases same
      rw [made, rest]

end Exchange

/-- The calls by which a message is submitted have their effect on the table that answers them. -/
theorem Effect.of_answers {handling : Handling} {table after : SessionTable} {handed : Handed}
    (answers : Answers table (handed.calls handling) after) :
    Effect handling table handed after := by
  obtain ⟨relayed, submission⟩ := handed
  cases submission with
  | unbound refusal =>
    obtain ⟨fits, others⟩ := Answers.cons_iff.1 answers
    have absent : table.find? (keyOf relayed) = none :=
      SessionAnswer.id.inj (of_decide_eq_true fits)
    obtain ⟨fits', nothing⟩ := Answers.cons_iff.1 others
    have made := Exchange.create_eq fits'
    rw [← Answers.nil_iff.1 nothing] at made
    change table.create (keyOf relayed) handling (some relayed.width) =
      (.error refusal, after) at made
    rw [SessionTable.create_of_absent absent] at made
    split at made
    case isTrue full =>
      cases made
      exact .refused absent full
    case isFalse => cases made
  | passed id isNew state? width? =>
    -- the first calls bind the session, and all others serve it whether it is new or not
    rw [Handed.calls, List.append_assoc, List.append_assoc,
      ← List.append_assoc (establishCalls _ _), Answers.append_iff] at answers
    obtain ⟨bound, first, served⟩ := answers
    obtain rfl := served.serve
    cases isNew with
    | false =>
      obtain ⟨fits, nothing⟩ := Answers.cons_iff.1 first
      rw [Answers.nil_iff.1 nothing]
      exact .found (SessionAnswer.id.inj (of_decide_eq_true fits))
    | true =>
      obtain ⟨fits, others⟩ := Answers.cons_iff.1 first
      have absent : table.find? (keyOf relayed) = none :=
        SessionAnswer.id.inj (of_decide_eq_true fits)
      obtain ⟨fits', nothing⟩ := Answers.cons_iff.1 others
      have made := Exchange.create_eq fits'
      rw [← Answers.nil_iff.1 nothing] at made
      change table.create (keyOf relayed) handling (some relayed.width) = (.ok id, bound) at made
      rw [SessionTable.create_of_absent absent] at made
      split at made
      case isTrue => cases made
      case isFalse room =>
        cases made
        exact .created absent (Bool.not_eq_true _ ▸ room)

/-- The keys of a table that is asked for the session of one more message: a new key is taken up if
there is room. -/
def keysWith (limit? : Option Nat) (keys : List SessionKey) (relayed : RelayedMessage) :
    List SessionKey :=
  if keyOf relayed ∈ keys ∨ limit?.any (· ≤ keys.length) then keys else keys ++ [keyOf relayed]

/-- A session, which may be new, after one more message. -/
def serve (handling : Handling) (facts? : Option SessionFacts) (relayed : RelayedMessage) :
    Option SessionFacts :=
  some ((facts?.getD (createdFor handling relayed)).served relayed.width)

namespace Effect

variable {handling : Handling} {table after : SessionTable} {handed : Handed}

theorem limit?_eq (effect : Effect handling table handed after) : after.limit? = table.limit? := by
  cases effect with
  | refused absent full => rfl
  | found found => exact table.limit?_update _ _
  | created absent room => exact SessionTable.limit?_update _ _ _

theorem keys_eq (effect : Effect handling table handed after) :
    after.keys = keysWith table.limit? table.keys handed.relayed := by
  unfold keysWith
  cases effect with
  | refused absent full =>
    rw [SessionTable.isFull_eq] at full
    rw [if_pos (Or.inr full)]
  | @found relayed id state? width? found =>
    have known : keyOf relayed ∈ table.keys := by
      by_contra unknown
      rw [SessionTable.find?_eq_none_iff.2 unknown] at found
      cases found
    rw [if_pos (Or.inl known)]
    exact table.keys_update id (SessionFacts.key_served relayed.width)
  | @created relayed state? width? absent room =>
    have unknown := SessionTable.find?_eq_none_iff.1 absent
    rw [SessionTable.isFull_eq] at room
    rw [if_neg (by simp [unknown, room]), SessionTable.keys_update _ _ (SessionFacts.key_served _),
      SessionTable.keys_add]
    rfl

/-- A key leads on to the session to which it leads. -/
theorem find?_of_some (effect : Effect handling table handed after) {key : SessionKey}
    {id : SessionId} (found : table.find? key = some id) : after.find? key = some id := by
  cases effect with
  | refused absent full => exact found
  | found there =>
    rw [SessionTable.find?_update _ _ (SessionFacts.key_served _)]
    exact found
  | @created relayed state? width? absent room =>
    have other : key ≠ keyOf relayed := by
      rintro rfl
      rw [absent] at found
      cases found
    rw [SessionTable.find?_update _ _ (SessionFacts.key_served _),
      SessionTable.find?_add_of_ne other]
    exact found

/-- A message goes through the session of its key, and only one without such a session is
refused. -/
theorem session?_eq (effect : Effect handling table handed after) :
    handed.submission.session? = after.find? (keyOf handed.relayed) := by
  cases effect with
  | refused absent full => exact absent.symm
  | found found =>
    rw [SessionTable.find?_update _ _ (SessionFacts.key_served _)]
    exact found.symm
  | @created relayed state? width? absent room =>
    rw [SessionTable.find?_update _ _ (SessionFacts.key_served _)]
    have there : (table.add (createdFor handling relayed)).find? (createdFor handling relayed).key =
        some (SessionTable.idAt table.size) := SessionTable.find?_add absent
    exact there.symm

/-- A message is refused only if there is no room. -/
theorem isFull_of_unbound (effect : Effect handling table handed after)
    (unbound : handed.submission.session? = none) : after.isFull = true := by
  cases effect with
  | refused absent full => exact full
  | found found => cases unbound
  | created absent room => cases unbound

/-- What is known of the session of the message, and of all others. -/
theorem get?_eq (effect : Effect handling table handed after) (id : SessionId) :
    after.get? id =
      if handed.submission.session? = some id then serve handling (table.get? id) handed.relayed
      else table.get? id := by
  cases effect with
  | refused absent full => rfl
  | @found relayed own state? width? found =>
    simp only [Submission.session?, Option.some.injEq]
    split
    case isTrue same =>
      obtain ⟨facts, there, -⟩ := SessionTable.key_of_find? found
      subst same
      rw [SessionTable.get?_update, there]
      rfl
    case isFalse other => exact table.get?_update_of_ne (Ne.symm other) _
  | @created relayed state? width? absent room =>
    simp only [Submission.session?, Option.some.injEq]
    split
    case isTrue same =>
      subst same
      rw [SessionTable.get?_update, SessionTable.get?_add, table.get?_nextId]
      rfl
    case isFalse other =>
      rw [SessionTable.get?_update_of_ne _ (Ne.symm other),
        SessionTable.get?_add_of_ne _ (Ne.symm other)]

/-- A message that is passed on is counted once. -/
theorem messageTotal_eq (effect : Effect handling table handed after) :
    after.messageTotal = table.messageTotal + handed.submission.isPassed.toNat := by
  cases effect with
  | refused absent full => rfl
  | found found =>
    obtain ⟨facts, there, -⟩ := SessionTable.key_of_find? found
    exact SessionTable.messageTotal_update there rfl
  | @created relayed state? width? absent room =>
    have added := table.messageTotal_add (createdFor handling relayed)
    exact (SessionTable.messageTotal_update (SessionTable.get?_add _) rfl).trans
      (congrArg (· + 1) added)

end Effect

/-! ## All submissions -/

/-- What the submissions of messages make of a table, one after the other. -/
inductive Effects (handling : Handling) : SessionTable → List Handed → SessionTable → Prop
  | nil {table : SessionTable} : Effects handling table [] table
  | cons {table between after : SessionTable} {one : Handed} {rest : List Handed}
      (first : Effect handling table one between) (others : Effects handling between rest after) :
      Effects handling table (one :: rest) after

/-- The messages that go through a session. -/
def through (id : SessionId) (handed : List Handed) : List RelayedMessage :=
  (handed.filter fun one => one.submission.session? = some id).map Handed.relayed

namespace Effects

variable {handling : Handling} {table after : SessionTable} {handed : List Handed}

theorem of_answers (answers : Answers table (handedCalls handling handed) after) :
    Effects handling table handed after := by
  induction handed generalizing table with
  | nil =>
    rw [Answers.nil_iff.1 answers]
    exact .nil
  | cons one rest ih =>
    obtain ⟨between, first, others⟩ := Answers.append_iff.1 answers
    exact .cons (.of_answers first) (ih others)

theorem limit?_eq (effects : Effects handling table handed after) :
    after.limit? = table.limit? := by
  induction effects with
  | nil => rfl
  | cons first others ih => exact ih.trans first.limit?_eq

theorem keys_eq (effects : Effects handling table handed after) :
    after.keys = (handed.map Handed.relayed).foldl (keysWith table.limit?) table.keys := by
  induction effects with
  | nil => rfl
  | cons first others ih => rw [ih, first.limit?_eq, first.keys_eq, List.map_cons, List.foldl_cons]

theorem find?_of_some (effects : Effects handling table handed after) {key : SessionKey}
    {id : SessionId} (found : table.find? key = some id) : after.find? key = some id := by
  induction effects with
  | nil => exact found
  | cons first others ih => exact ih (first.find?_of_some found)

/-- A full table takes up no key. -/
theorem keys_of_isFull (effects : Effects handling table handed after)
    (full : table.isFull = true) : after.keys = table.keys := by
  induction effects with
  | nil => rfl
  | cons first others ih =>
    have same := first.keys_eq
    rw [SessionTable.isFull_eq] at full
    rw [keysWith, if_pos (Or.inr full)] at same
    rw [← same]
    apply ih
    rw [SessionTable.isFull_congr first.limit?_eq same, SessionTable.isFull_eq]
    exact full

/-- In the end a key leads to the session through which its messages went. A message that was
refused has no such session: once there is no room, there is none later. -/
theorem session?_eq (effects : Effects handling table handed after) {one : Handed}
    (there : one ∈ handed) : one.submission.session? = after.find? (keyOf one.relayed) := by
  induction effects with
  | nil => cases there
  | cons first others ih =>
    rcases List.mem_cons.1 there with rfl | later
    · have now := first.session?_eq
      cases bound : one.submission.session? with
      | some id =>
        rw [bound] at now
        exact (others.find?_of_some now.symm).symm
      | none =>
        -- there is no room, so no later message brings a session of the key
        rw [bound] at now
        have same := others.keys_of_isFull (first.isFull_of_unbound bound)
        exact now.trans (SessionTable.find?_eq_of_keys same _).symm
    · exact ih later

theorem isFull_of_unbound (effects : Effects handling table handed after) {one : Handed}
    (there : one ∈ handed) (unbound : one.submission.session? = none) : after.isFull = true := by
  induction effects with
  | nil => cases there
  | cons first others ih =>
    rcases List.mem_cons.1 there with rfl | later
    · have full := first.isFull_of_unbound unbound
      rwa [SessionTable.isFull_congr others.limit?_eq (others.keys_of_isFull full)]
    · exact ih later

/-- What is known of a session follows from the messages that go through it. -/
theorem get?_eq (effects : Effects handling table handed after) (id : SessionId) :
    after.get? id = (through id handed).foldl (serve handling) (table.get? id) := by
  induction effects with
  | nil => rfl
  | @cons table between after one rest first others ih =>
    have now := first.get?_eq id
    rw [ih, now, through, through]
    by_cases its : one.submission.session? = some id
    · simp [its]
    · simp [its]

theorem messageTotal_eq (effects : Effects handling table handed after) :
    after.messageTotal =
      table.messageTotal + handed.countP fun one => one.submission.isPassed := by
  induction effects with
  | nil => rfl
  | @cons table between after one rest first others ih =>
    rw [ih, first.messageTotal_eq, List.countP_cons]
    cases one.submission.isPassed with
    | false => simp
    | true => simp; omega

end Effects

end CollectorFeed
