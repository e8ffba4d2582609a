import CollectorFeed.Proofs.Conversation.Inheritance

/-!
# Minutes of a conversation

What a conversation does to the rest of the world are the calls that it makes on its surroundings.
Any surroundings can have minutes taken: `Minutes` forwards every call and writes it down with its
answer. Taking minutes changes neither a result nor what becomes of the world (`SameRun`), so what
is proved about the minutes holds of the conversation in the surroundings themselves.

`Ensures` says what a program makes of its calls: its result and the exchanges that it adds to the
minutes have a property, whatever the surroundings answer.
-/

set_option autoImplicit false

namespace CollectorFeed

/-- A call on the surroundings with its answer. -/
inductive Exchange
  | find (key : SessionKey) (answer : Option SessionId)
  | create (key : SessionKey) (handling : Handling) (width? : Option AsnWidth)
      (answer : Except SessionRefusal SessionId)
  | setState (id : SessionId) (state : SessionState) (cause : SessionCause)
  | state (id : SessionId) (answer : Option SessionState)
  | width (id : SessionId) (answer : Option AsnWidth)
  | setWidth (id : SessionId) (width : AsnWidth)
  | countMessage (id : SessionId)
  | deleteRoutes (id : SessionId) (answer : Except SessionRefusal Unit)
  | passOn (message : Message) (answer : Except QueueRefusal Unit)
  | isCancelled (answer : Bool)
  | sleep (milliseconds : Nat)
  | observe (touched : Nat)

namespace Exchange

/-- Whether the queue did not take a message. -/
def isRefusal : Exchange → Bool
  | passOn _ (.error _) => true
  | _ => false

/-- Whether a request to stop was seen. -/
def isStop : Exchange → Bool
  | isCancelled true => true
  | _ => false

/-- Whether it only looks for a request to stop, or lets others see how far the stream was read. -/
def isLook : Exchange → Bool
  | isCancelled _ | observe _ => true
  | _ => false

/-- The message, if one was passed on and the queue took it. -/
def message? : Exchange → Option Message
  | passOn message (.ok ()) => some message
  | _ => none

end Exchange

/-- The queue took every message. -/
def QueueOpen (exchanges : List Exchange) : Prop :=
  ∀ exchange ∈ exchanges, exchange.isRefusal = false

/-- Nobody asked to stop. -/
def NeverStopped (exchanges : List Exchange) : Prop :=
  ∀ exchange ∈ exchanges, exchange.isStop = false

/-- The messages that the queue took, in order. -/
def passedOn (exchanges : List Exchange) : List Message :=
  exchanges.filterMap Exchange.message?

instance (exchanges : List Exchange) : Decidable (QueueOpen exchanges) :=
  inferInstanceAs (Decidable (∀ exchange ∈ exchanges, exchange.isRefusal = false))

instance (exchanges : List Exchange) : Decidable (NeverStopped exchanges) :=
  inferInstanceAs (Decidable (∀ exchange ∈ exchanges, exchange.isStop = false))

@[simp] theorem queueOpen_append (front back : List Exchange) :
    QueueOpen (front ++ back) ↔ QueueOpen front ∧ QueueOpen back :=
  List.forall_mem_append

@[simp] theorem queueOpen_cons (first : Exchange) (rest : List Exchange) :
    QueueOpen (first :: rest) ↔ first.isRefusal = false ∧ QueueOpen rest :=
  List.forall_mem_cons

@[simp] theorem queueOpen_nil : QueueOpen [] :=
  List.forall_mem_nil _

@[simp] theorem neverStopped_append (front back : List Exchange) :
    NeverStopped (front ++ back) ↔ NeverStopped front ∧ NeverStopped back :=
  List.forall_mem_append

@[simp] theorem neverStopped_cons (first : Exchange) (rest : List Exchange) :
    NeverStopped (first :: rest) ↔ first.isStop = false ∧ NeverStopped rest :=
  List.forall_mem_cons

@[simp] theorem neverStopped_nil : NeverStopped [] :=
  List.forall_mem_nil _

@[simp] theorem passedOn_append (front back : List Exchange) :
    passedOn (front ++ back) = passedOn front ++ passedOn back :=
  List.filterMap_append

/-! ## Taking minutes -/

/-- Surroundings of which minutes are taken. -/
structure Minutes (ω : Type) where
  /-- The surroundings themselves. -/
  world : ω
  /-- The calls so far, oldest first. -/
  exchanges : List Exchange

namespace Minutes

variable {ω α : Type}

/-- Makes a call and writes it down. -/
def ask (call : StateM ω α) (line : α → Exchange) : StateM (Minutes ω) α := fun minutes =>
  let (answer, world) := call.run minutes.world
  (answer, ⟨world, minutes.exchanges ++ [line answer]⟩)

instance [Surroundings ω] : Surroundings (Minutes ω) where
  find key := ask (Surroundings.find key) (.find key)
  create key handling width? :=
    ask (Surroundings.create key handling width?) (.create key handling width?)
  setState id state cause :=
    ask (Surroundings.setState id state cause) fun _ => .setState id state cause
  state id := ask (Surroundings.state id) (.state id)
  width id := ask (Surroundings.width id) (.width id)
  setWidth id width := ask (Surroundings.setWidth id width) fun _ => .setWidth id width
  countMessage id := ask (Surroundings.countMessage id) fun _ => .countMessage id
  deleteRoutes id := ask (Surroundings.deleteRoutes id) (.deleteRoutes id)
  passOn message := ask (Surroundings.passOn message) (.passOn message)
  isCancelled := ask Surroundings.isCancelled .isCancelled
  sleep milliseconds := ask (Surroundings.sleep milliseconds) fun _ => .sleep milliseconds
  observe touched := ask (Surroundings.observe touched) fun _ => .observe touched

end Minutes

/-- The calls of a program in given surroundings. -/
def exchangesOf {ω α : Type} (program : StateM (Minutes ω) α) (world : ω) : List Exchange :=
  (program.run ⟨world, []⟩).2.exchanges

/-! ## What a program makes of its calls -/

/-- Whatever the surroundings answer, the result of a program and the exchanges that it adds to the
minutes have a property. -/
def Ensures {ω α : Type} (program : StateM (Minutes ω) α)
    (property : α → List Exchange → Prop) : Prop :=
  ∀ minutes, ∃ made, (program.run minutes).2.exchanges = minutes.exchanges ++ made ∧
    property (program.run minutes).1 made

namespace Ensures

variable {ω α β : Type} {property : α → List Exchange → Prop}
  {property' : β → List Exchange → Prop}

theorem ask {call : StateM ω α} {line : α → Exchange}
    (answered : ∀ answer, property answer [line answer]) :
    Ensures (Minutes.ask call line) property :=
  fun _ => ⟨_, rfl, answered _⟩

theorem pure {value : α} (given : property value []) :
    Ensures (pure value : StateM (Minutes ω) α) property :=
  fun _ => ⟨[], (List.append_nil _).symm, given⟩

theorem bind {program : StateM (Minutes ω) α} {next : α → StateM (Minutes ω) β}
    (first : Ensures program property)
    (second : ∀ value front, property value front →
      Ensures (next value) fun result back => property' result (front ++ back)) :
    Ensures (program >>= next) property' := by
  intro minutes
  obtain ⟨front, noted, holds⟩ := first minutes
  obtain ⟨back, noted', holds'⟩ := second _ _ holds (program.run minutes).2
  refine ⟨front ++ back, ?_, holds'⟩
  rw [StateT.run_bind, ← List.append_assoc, ← noted]
  exact noted'

/-- A call, and a program that goes on with its answer. -/
theorem askBind {call : StateM ω α} {line : α → Exchange} {next : α → StateM (Minutes ω) β}
    (second : ∀ answer, Ensures (next answer) fun result back =>
      property' result (line answer :: back)) :
    Ensures (Minutes.ask call line >>= next) property' := by
  have first : Ensures (Minutes.ask call line) fun answer made => made = [line answer] :=
    ask fun _ => rfl
  refine bind first ?_
  rintro answer front rfl
  exact second answer

theorem mono {program : StateM (Minutes ω) α} {weaker : α → List Exchange → Prop}
    (ensures : Ensures program property)
    (follows : ∀ result made, property result made → weaker result made) :
    Ensures program weaker := by
  intro minutes
  obtain ⟨made, noted, holds⟩ := ensures minutes
  exact ⟨made, noted, follows _ _ holds⟩

/-- What a program ensures holds of its calls in given surroundings. -/
theorem exchangesOf {program : StateM (Minutes ω) α} (ensures : Ensures program property)
    (world : ω) :
    property (program.run ⟨world, []⟩).1 (CollectorFeed.exchangesOf program world) := by
  obtain ⟨made, noted, holds⟩ := ensures ⟨world, []⟩
  rw [List.nil_append] at noted
  rw [CollectorFeed.exchangesOf, noted]
  exact holds

end Ensures

/-! ## Minutes change nothing -/

/-- A program gives the same result and leaves the same world whether or not minutes are taken. -/
def SameRun {ω α : Type} (plain : StateM ω α) (noted : StateM (Minutes ω) α) : Prop :=
  ∀ minutes, (noted.run minutes).1 = (plain.run minutes.world).1 ∧
    (noted.run minutes).2.world = (plain.run minutes.world).2

namespace SameRun

variable {ω α β : Type}

theorem ask (call : StateM ω α) (line : α → Exchange) : SameRun call (Minutes.ask call line) :=
  fun _ => ⟨rfl, rfl⟩

theorem pure (value : α) :
    SameRun (pure value : StateM ω α) (pure value : StateM (Minutes ω) α) :=
  fun _ => ⟨rfl, rfl⟩

theorem bind {plain : StateM ω α} {noted : StateM (Minutes ω) α} {next : α → StateM ω β}
    {next' : α → StateM (Minutes ω) β} (first : SameRun plain noted)
    (second : ∀ value, SameRun (next value) (next' value)) :
    SameRun (plain >>= next) (noted >>= next') := by
  intro minutes
  have agree := first minutes
  rw [StateT.run_bind, StateT.run_bind]
  generalize noted.run minutes = left at agree ⊢
  generalize plain.run minutes.world = right at agree ⊢
  obtain ⟨value, world⟩ := right
  obtain ⟨rfl, rfl⟩ := agree
  exact second left.1 left.2

theorem inherited [Surroundings ω] : Inherited ω (Minutes ω) (@SameRun ω) where
  pure := pure
  bind := bind
  find _ := ask _ _
  create _ _ _ := ask _ _
  setState _ _ _ := ask _ _
  state _ := ask _ _
  width _ := ask _ _
  setWidth _ _ := ask _ _
  countMessage _ := ask _ _
  deleteRoutes _ := ask _ _
  transfer _ _ := ask _ _
  relay _ _ := ask _ _
  isCancelled := ask _ _
  sleep _ := ask _ _
  observe _ := ask _ _

/-- A result in given surroundings is the one that the minutes go with. -/
theorem run_eq {plain : StateM ω α} {noted : StateM (Minutes ω) α} (same : SameRun plain noted)
    (world : ω) : (plain.run world).1 = (noted.run ⟨world, []⟩).1 :=
  (same ⟨world, []⟩).1.symm

end SameRun

end CollectorFeed
