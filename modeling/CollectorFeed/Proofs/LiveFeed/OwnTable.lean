import CollectorFeed.Proofs.Session.Sharing

/-!
# A live feed with sessions of its own

`OwnTable` puts a table of sessions in front of any surroundings: calls about sessions go to the
table, and all others to the surroundings. A feed in such surroundings is the only one that uses the
table, so what becomes of the table is told by the minutes of the feed alone: the table gave each
answer, and it is left as the calls leave it (`LiveFeed.answers_run`).

The proof goes by what a live feed is made of: each call is answered by the table, or is none of the
table's business, and so the feed is answered (`Answered.inherited`).
-/

set_option autoImplicit false

namespace CollectorFeed

/-! ## A table in front of surroundings -/

/-- Surroundings with a table of sessions that nobody else uses. -/
structure OwnTable (ω : Type) where
  sessions : SessionTable
  rest : ω

namespace OwnTable

variable {ω α : Type}

/-- Makes a call on the table. -/
def onTable (call : SessionTable → α × SessionTable) : StateM (OwnTable ω) α := fun own =>
  ((call own.sessions).1, { own with sessions := (call own.sessions).2 })

/-- Makes a call on the surroundings behind it. -/
def onRest (call : StateM ω α) : StateM (OwnTable ω) α := fun own =>
  ((call.run own.rest).1, { own with rest := (call.run own.rest).2 })

instance [Surroundings ω] : Surroundings (OwnTable ω) where
  find key := onTable fun table => (table.find? key, table)
  create key handling width? := onTable fun table => table.create key handling width?
  setState id state cause := onTable fun table => ((), table.setState id state cause)
  state id := onTable fun table => (table.state? id, table)
  width id := onTable fun table => (table.width? id, table)
  setWidth id width := onTable fun table => ((), table.setWidth id width)
  countMessage id := onTable fun table => ((), table.countMessage id)
  deleteRoutes id := onTable fun table => table.deleteRoutes id
  passOn message := onRest (Surroundings.passOn message)
  isCancelled := onRest Surroundings.isCancelled
  sleep milliseconds := onRest (Surroundings.sleep milliseconds)
  observe touched := onRest (Surroundings.observe touched)

end OwnTable

/-! ## The table told by the minutes -/

/-- One table gives the answers to exchanges that are made one after the other, and is left as they
leave it. -/
inductive Answers : SessionTable → List Exchange → SessionTable → Prop
  | nil {table : SessionTable} : Answers table [] table
  | cons {table final : SessionTable} {exchange : Exchange} {later : List Exchange}
      (fits : exchange.fits table = true) (others : Answers (exchange.leaves table) later final) :
      Answers table (exchange :: later) final

namespace Answers

variable {table final : SessionTable} {front back : List Exchange}

theorem cons_iff {exchange : Exchange} {later : List Exchange} :
    Answers table (exchange :: later) final ↔
      exchange.fits table = true ∧ Answers (exchange.leaves table) later final := by
  constructor
  · rintro ⟨⟩
    exact ⟨‹_›, ‹_›⟩
  · rintro ⟨fits, others⟩
    exact .cons fits others

theorem nil_iff : Answers table [] final ↔ final = table := by
  constructor
  · rintro ⟨⟩
    rfl
  · rintro rfl
    exact .nil

theorem append_iff :
    Answers table (front ++ back) final ↔
      ∃ mid, Answers table front mid ∧ Answers mid back final := by
  induction front generalizing table with
  | nil => simp [nil_iff]
  | cons exchange front ih =>
    rw [List.cons_append, cons_iff, ih]
    simp only [cons_iff, and_assoc, exists_and_left]

/-- Looks are none of the table's business. -/
theorem deeds_iff : Answers table (deeds front) final ↔ Answers table front final := by
  induction front generalizing table with
  | nil => rfl
  | cons exchange front ih =>
    cases look : exchange.isLook with
    | false =>
      rw [deeds, List.filter_cons_of_pos (by simp [look]), cons_iff, cons_iff]
      exact and_congr_right fun _ => ih
    | true =>
      have apart : exchange.call? = none := by
        cases exchange with
        | isCancelled answer => rfl
        | observe touched => rfl
        | _ => cases look
      have fits : exchange.fits table = true := by rw [Exchange.fits, apart]
      have leaves : exchange.leaves table = table := by rw [Exchange.leaves, apart]
      rw [deeds, List.filter_cons_of_neg (by simp [look]), cons_iff, leaves]
      exact ih.trans (and_iff_right fits).symm

end Answers

/-- A program makes exchanges to which its own table gives the answers. -/
def Answered {ω : Type} (α : Type) (program : StateM (Minutes (OwnTable ω)) α) : Prop :=
  ∀ minutes, ∃ made, (program.run minutes).2.exchanges = minutes.exchanges ++ made ∧
    Answers minutes.world.sessions made (program.run minutes).2.world.sessions

namespace Answered

variable {ω α : Type}

theorem ask {call : StateM (OwnTable ω) α} {line : α → Exchange}
    (fits : ∀ own, (line (call.run own).1).fits own.sessions = true)
    (leaves : ∀ own, (line (call.run own).1).leaves own.sessions = (call.run own).2.sessions) :
    Answered α (Minutes.ask call line) := by
  intro minutes
  refine ⟨_, rfl, .cons (fits minutes.world) ?_⟩
  exact Answers.nil_iff.2 (leaves minutes.world).symm

/-- A call on the table is written down with the answer that the table gave. -/
theorem askTable {call : SessionTable → α × SessionTable} {line : α → Exchange}
    (told : ∀ table, ∃ request answer, (line (call table).1).call? = some (request, answer) ∧
      table.call request = (answer, (call table).2)) :
    Answered α (Minutes.ask (OwnTable.onTable call : StateM (OwnTable ω) α) line) := by
  refine ask (fun own => ?_) fun own => ?_
  · obtain ⟨request, answer, is, made⟩ := told own.sessions
    change (line (call own.sessions).1).fits own.sessions = true
    rw [Exchange.fits, is]
    exact decide_eq_true (congrArg Prod.fst made)
  · obtain ⟨request, answer, is, made⟩ := told own.sessions
    change (line (call own.sessions).1).leaves own.sessions = (call own.sessions).2
    rw [Exchange.leaves, is]
    exact congrArg Prod.snd made

/-- Calls on the surroundings behind the table leave the table alone. -/
theorem askRest {call : StateM ω α} {line : α → Exchange}
    (apart : ∀ answer, (line answer).call? = none) :
    Answered α (Minutes.ask (OwnTable.onRest call) line) := by
  refine ask (fun own => ?_) fun own => ?_
  · rw [Exchange.fits, apart]
  · rw [Exchange.leaves, apart]
    rfl

theorem inherited [Surroundings ω] :
    Inherited ω (Minutes (OwnTable ω)) fun α _ program => Answered α program where
  pure value minutes := ⟨[], (List.append_nil _).symm, .nil⟩
  bind first second := by
    intro minutes
    obtain ⟨front, noted, answers⟩ := first minutes
    obtain ⟨back, noted', answers'⟩ := second _ (_ : Minutes (OwnTable ω))
    refine ⟨front ++ back, ?_, Answers.append_iff.2 ⟨_, answers, answers'⟩⟩
    rw [StateT.run_bind, ← List.append_assoc, ← noted]
    exact noted'
  find key := askTable fun _ => ⟨_, _, rfl, rfl⟩
  create key handling width? := by
    refine askTable fun table => ?_
    rcases made : table.create key handling width? with ⟨refusal | id, after⟩
    · exact ⟨_, _, rfl, by rw [SessionTable.call, made]⟩
    · exact ⟨_, _, rfl, by rw [SessionTable.call, made]⟩
  setState id state cause := askTable fun _ => ⟨_, _, rfl, rfl⟩
  state id := askTable fun _ => ⟨_, _, rfl, rfl⟩
  width id := askTable fun _ => ⟨_, _, rfl, rfl⟩
  setWidth id width := askTable fun _ => ⟨_, _, rfl, rfl⟩
  countMessage id := askTable fun _ => ⟨_, _, rfl, rfl⟩
  deleteRoutes id := by
    refine askTable fun table => ?_
    rcases made : table.deleteRoutes id with ⟨refusal | _, after⟩
    · exact ⟨_, _, rfl, by rw [SessionTable.call, made]⟩
    · exact ⟨_, _, rfl, by rw [SessionTable.call, made]⟩
  transfer id octets := askRest fun _ => rfl
  relay id octets := askRest fun _ => rfl
  isCancelled := askRest fun _ => rfl
  sleep milliseconds := askRest fun _ => rfl
  observe touched := askRest fun _ => rfl

end Answered

/-- The table of a live feed that nobody else uses is left as the calls of the feed leave it. -/
theorem LiveFeed.answers_run {ω φ : Type} [Surroundings ω] [RecordSupply φ] (feed : LiveFeed)
    (first? : Option FramedRecord) (supply : φ) (own : OwnTable ω) :
    Answers own.sessions (exchangesOf (feed.run first? supply) own)
      ((feed.run first? supply : StateM (OwnTable ω) _).run own).2.sessions := by
  obtain ⟨made, noted, answers⟩ := Answered.inherited.liveFeed_run feed first? supply ⟨own, []⟩
  rw [List.nil_append] at noted
  rw [exchangesOf, noted, ← (SameRun.inherited.liveFeed_run feed first? supply ⟨own, []⟩).2]
  exact answers

end CollectorFeed
