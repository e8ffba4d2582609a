import CollectorFeed.Session.Table
import Mathlib.Data.List.AList

/-!
# The sessions in two maps and a counter

`SessionTable` keeps the sessions in one list, so that their numbers need no keeping.
`SessionRegistry` keeps them as a lookup does that must be fast: one map leads from a key to the
number of its session, another from the number to what is known of the session, and a counter of 32
bits holds the last number that was given out. This module shows that the two maps and the counter
stay in step through any calls, as long as the counter has a number left for every creation:

* `SessionRegistry.Intact`: the maps lead back to each other, and the numbers are those from one to
  the counter;
* `SessionRegistry.CallRule`: what one call leaves alone;
* `SessionRegistry.InStep`: the registry gives the answers of `SessionTable`.

`SessionRegistry.integrity_run` says all of this of the calls of any run.
-/

set_option autoImplicit false

namespace CollectorFeed

/-! ## Runs of calls -/

/-- The answers to calls that are made one after another, and the state that they leave. -/
def answerAll {σ : Type} (answer : σ → SessionCall → SessionAnswer × σ) (state : σ) :
    List SessionCall → List SessionAnswer × σ
  | [] => ([], state)
  | call :: calls =>
    let later := answerAll answer (answer state call).2 calls
    ((answer state call).1 :: later.1, later.2)

namespace SessionCall

/-- Whether a call creates a session, if it is given an answer. -/
def isCreation : SessionCall → SessionAnswer → Bool
  | create _ _ _, .id (some _) => true
  | _, _ => false

/-- The session that a call is about, if it names one. -/
def session? : SessionCall → Option SessionId
  | find _ | create _ _ _ => none
  | setState id _ _ | state id | width id | setWidth id _ | countMessage id | deleteRoutes id
  | get id => some id

/-- The key that a call may add. -/
def newKey? : SessionCall → Option SessionKey
  | create key _ _ => some key
  | _ => none

end SessionCall

/-- How many of the calls that were given answers created a session. -/
def creations (calls : List SessionCall) (answers : List SessionAnswer) : Nat :=
  (List.zipWith SessionCall.isCreation calls answers).count true

theorem creations_cons (call : SessionCall) (calls : List SessionCall) (answer : SessionAnswer)
    (answers : List SessionAnswer) :
    creations (call :: calls) (answer :: answers) =
      creations calls answers + (call.isCreation answer).toNat := by
  rw [creations, List.zipWith_cons_cons, List.count_cons, creations]
  cases call.isCreation answer <;> rfl

/-! ## The registry -/

/-- The sessions in two maps. -/
structure SessionRegistry where
  /-- The session of each key. -/
  byKey : AList fun _ : SessionKey => SessionId
  /-- What is known of each session. -/
  records : AList fun _ : SessionId => SessionFacts
  /-- The number that was given out last. -/
  lastNumber : UInt32
  /-- Greatest number of sessions, if there is one. -/
  limit? : Option Nat

namespace SessionRegistry

/-- A registry without sessions. -/
def empty (limit? : Option Nat) : SessionRegistry :=
  ⟨∅, ∅, 0, limit?⟩

/-- Number of sessions. -/
def size (registry : SessionRegistry) : Nat :=
  registry.records.keys.length

/-- The session of a key. -/
def find? (registry : SessionRegistry) (key : SessionKey) : Option SessionId :=
  registry.byKey.lookup key

/-- What is known of a session, if there is one. -/
def get? (registry : SessionRegistry) (id : SessionId) : Option SessionFacts :=
  registry.records.lookup id

/-- Whether no session can be created. -/
def isFull (registry : SessionRegistry) : Bool :=
  match registry.limit? with
  | some limit => limit ≤ registry.size
  | none => false

/-- The number of the session that is created next. The counter wraps around. -/
def nextId (registry : SessionRegistry) : SessionId :=
  ⟨(registry.lastNumber + 1).toNat⟩

/-- Counts on and enters a session into both maps. -/
def add (registry : SessionRegistry) (facts : SessionFacts) : SessionRegistry :=
  { registry with
    lastNumber := registry.lastNumber + 1
    byKey := registry.byKey.insert facts.key registry.nextId
    records := registry.records.insert registry.nextId facts }

/-- Creates a session; refused if there is one of the key, or if the registry is full. -/
def create (registry : SessionRegistry) (key : SessionKey) (handling : Handling)
    (width? : Option AsnWidth) : Except SessionRefusal SessionId × SessionRegistry :=
  match registry.find? key with
  | some id => (.error (.alreadyExists id key), registry)
  | none =>
    if registry.isFull then (.error (.tableFull (registry.limit?.getD 0)), registry)
    else (.ok registry.nextId, registry.add (SessionTable.newFacts key handling width?))

/-- Changes what is known of one session, if there is one of the number. -/
def change (registry : SessionRegistry) (id : SessionId) (alter : SessionFacts → SessionFacts) :
    SessionRegistry :=
  match registry.get? id with
  | some facts => { registry with records := registry.records.insert id (alter facts) }
  | none => registry

/-- Makes a call on the registry. -/
def call (registry : SessionRegistry) : SessionCall → SessionAnswer × SessionRegistry
  | .find key => (.id (registry.find? key), registry)
  | .create key handling width? =>
    match registry.create key handling width? with
    | (.ok id, registry) => (.id (some id), registry)
    | (.error e, registry) => (.refused e, registry)
  | .setState id state cause =>
    (.done, registry.change id fun facts => { facts with state := state, lastCause := cause })
  | .state id => (.state ((registry.get? id).map SessionFacts.state), registry)
  | .width id => (.width ((registry.get? id).bind SessionFacts.width?), registry)
  | .setWidth id width =>
    (.done, registry.change id fun facts => { facts with width? := some width })
  | .countMessage id =>
    (.done, registry.change id fun facts => { facts with messages := facts.messages + 1 })
  | .deleteRoutes id =>
    match registry.get? id with
    | some _ =>
      (.done, registry.change id fun facts => { facts with cleanings := facts.cleanings + 1 })
    | none => (.refused (.unknownSession id), registry)
  | .get id => (.facts ((registry.get? id).map fun facts => (id, facts)), registry)

variable {registry : SessionRegistry}

/-! ### Creating and changing -/

theorem isFull_eq_false_iff :
    registry.isFull = false ↔ ∀ limit, registry.limit? = some limit → registry.size < limit := by
  unfold isFull
  cases registry.limit? with
  | none => simp
  | some limit => simp

theorem find?_add (facts : SessionFacts) :
    (registry.add facts).find? facts.key = some registry.nextId :=
  AList.lookup_insert _

theorem find?_add_of_ne {facts : SessionFacts} {key : SessionKey} (other : key ≠ facts.key) :
    (registry.add facts).find? key = registry.find? key :=
  AList.lookup_insert_ne other

theorem get?_add (facts : SessionFacts) :
    (registry.add facts).get? registry.nextId = some facts :=
  AList.lookup_insert _

theorem get?_add_of_ne (facts : SessionFacts) {id : SessionId} (other : id ≠ registry.nextId) :
    (registry.add facts).get? id = registry.get? id :=
  AList.lookup_insert_ne other

theorem size_add (facts : SessionFacts) (free : registry.get? registry.nextId = none) :
    (registry.add facts).size = registry.size + 1 := by
  have absent : registry.nextId ∉ registry.records.keys := AList.lookup_eq_none.1 free
  have keys : (registry.add facts).records.keys =
      registry.nextId :: registry.records.keys.erase registry.nextId := AList.keys_insert _
  rw [size, keys, List.erase_of_not_mem absent, List.length_cons, size]

/-- As long as the counter has a number left, it counts by one. -/
theorem number_nextId (room : registry.lastNumber.toNat + 1 < UInt32.size) :
    registry.nextId.number = registry.lastNumber.toNat + 1 := by
  rw [nextId, UInt32.toNat_add, UInt32.toNat_one, Nat.mod_eq_of_lt room]

theorem lastNumber_add (facts : SessionFacts) (room : registry.lastNumber.toNat + 1 < UInt32.size) :
    (registry.add facts).lastNumber.toNat = registry.lastNumber.toNat + 1 :=
  number_nextId room

/-- A creation is refused for its key, refused for the limit, or made. -/
theorem create_cases (registry : SessionRegistry) (key : SessionKey) (handling : Handling)
    (width? : Option AsnWidth) :
    (∃ id, registry.find? key = some id ∧
        registry.create key handling width? = (.error (.alreadyExists id key), registry)) ∨
      (registry.find? key = none ∧ registry.isFull = true ∧
        registry.create key handling width? =
          (.error (.tableFull (registry.limit?.getD 0)), registry)) ∨
      (registry.find? key = none ∧ registry.isFull = false ∧
        registry.create key handling width? =
          (.ok registry.nextId, registry.add (SessionTable.newFacts key handling width?))) := by
  unfold create
  cases registry.find? key with
  | some id => exact .inl ⟨id, rfl, rfl⟩
  | none =>
    cases registry.isFull with
    | true => exact .inr (.inl ⟨rfl, rfl, rfl⟩)
    | false => exact .inr (.inr ⟨rfl, rfl, rfl⟩)

theorem change_eq_of_get?_eq_none {id : SessionId} (unknown : registry.get? id = none)
    (alter : SessionFacts → SessionFacts) : registry.change id alter = registry := by
  rw [change, unknown]

/-- A change keeps the first map and the counter. -/
theorem find?_change (registry : SessionRegistry) (id : SessionId)
    (alter : SessionFacts → SessionFacts) (key : SessionKey) :
    (registry.change id alter).find? key = registry.find? key := by
  unfold change
  split
  · rfl
  · rfl

theorem lastNumber_change (registry : SessionRegistry) (id : SessionId)
    (alter : SessionFacts → SessionFacts) :
    (registry.change id alter).lastNumber = registry.lastNumber := by
  unfold change
  split
  · rfl
  · rfl

theorem limit?_change (registry : SessionRegistry) (id : SessionId)
    (alter : SessionFacts → SessionFacts) :
    (registry.change id alter).limit? = registry.limit? := by
  unfold change
  split
  · rfl
  · rfl

theorem get?_change (registry : SessionRegistry) (id : SessionId)
    (alter : SessionFacts → SessionFacts) :
    (registry.change id alter).get? id = (registry.get? id).map alter := by
  unfold change
  split
  case h_1 facts known =>
    rw [known]
    exact AList.lookup_insert _
  case h_2 unknown =>
    rw [unknown]
    rfl

theorem get?_change_of_ne (registry : SessionRegistry) {id other : SessionId}
    (apart : other ≠ id) (alter : SessionFacts → SessionFacts) :
    (registry.change id alter).get? other = registry.get? other := by
  unfold change
  split
  · exact AList.lookup_insert_ne apart
  · rfl

theorem size_change (registry : SessionRegistry) (id : SessionId)
    (alter : SessionFacts → SessionFacts) : (registry.change id alter).size = registry.size := by
  unfold change
  split
  case h_1 facts known =>
    have there : id ∈ registry.records.keys :=
      AList.lookup_isSome.1 (Option.isSome_of_eq_some known)
    have keys : (registry.records.insert id (alter facts)).keys =
      id :: registry.records.keys.erase id := AList.keys_insert _
    rw [size, keys, List.length_cons, List.length_erase_of_mem there,
      Nat.sub_add_cancel (List.length_pos_of_mem there), size]
  case h_2 => rfl

/-- What a call makes of a registry: it changes nothing, or what is known of one session, or it
enters a new session. -/
inductive Course (registry : SessionRegistry) : SessionCall → SessionAnswer → SessionRegistry → Prop
  | same {call : SessionCall} {answer : SessionAnswer} (made : call.isCreation answer = false) :
      Course registry call answer registry
  | changed {call : SessionCall} {id : SessionId} (alter : SessionFacts → SessionFacts)
      (about : call.session? = some id) (keepsKey : ∀ facts, (alter facts).key = facts.key) :
      Course registry call .done (registry.change id alter)
  | created {key : SessionKey} {handling : Handling} {width? : Option AsnWidth}
      (absent : registry.find? key = none) (room : registry.isFull = false) :
      Course registry (.create key handling width?) (.id (some registry.nextId))
        (registry.add (SessionTable.newFacts key handling width?))

theorem course (registry : SessionRegistry) (call : SessionCall) :
    registry.Course call (registry.call call).1 (registry.call call).2 := by
  cases call with
  | find key => exact .same rfl
  | create key handling width? =>
    rcases registry.create_cases key handling width? with
      ⟨id, -, refused⟩ | ⟨-, -, refused⟩ | ⟨absent, room, created⟩
    · rw [SessionRegistry.call, refused]
      exact .same rfl
    · rw [SessionRegistry.call, refused]
      exact .same rfl
    · rw [SessionRegistry.call, created]
      exact .created absent room
  | setState id state cause => exact .changed _ rfl fun _ => rfl
  | state id => exact .same rfl
  | width id => exact .same rfl
  | setWidth id width => exact .changed _ rfl fun _ => rfl
  | countMessage id => exact .changed _ rfl fun _ => rfl
  | deleteRoutes id =>
    rw [SessionRegistry.call]
    split
    · exact .changed _ rfl fun _ => rfl
    · exact .same rfl
  | get id => exact .same rfl

/-! ## The two maps and the counter stay in step -/

/-- The maps lead back to each other, and the numbers are those that were counted. -/
structure Intact (registry : SessionRegistry) : Prop where
  /-- A key leads to the session that is known by it, and to no other. -/
  find?_iff : ∀ key id,
    registry.find? key = some id ↔ ∃ facts, registry.get? id = some facts ∧ facts.key = key
  /-- The sessions are numbered from one to the counter. -/
  get?_iff : ∀ id, (registry.get? id).isSome = true ↔
    1 ≤ id.number ∧ id.number ≤ registry.lastNumber.toNat
  /-- There are as many sessions as were counted. -/
  size_eq : registry.size = registry.lastNumber.toNat
  /-- There are no more sessions than there may be. -/
  size_le : ∀ limit, registry.limit? = some limit → registry.size ≤ limit

namespace Intact

theorem empty (limit? : Option Nat) : (empty limit?).Intact where
  find?_iff key id := by
    constructor
    · intro found
      cases found
    · rintro ⟨facts, known, -⟩
      cases known
  get?_iff id := by
    constructor
    · intro known
      cases known
    · rintro ⟨positive, counted⟩
      exact absurd (Nat.le_trans positive counted) (Nat.not_succ_le_zero 0)
  size_eq := rfl
  size_le := fun limit _ => Nat.zero_le limit

/-- Two keys never share a session. -/
theorem key_unique (intact : registry.Intact) {key key' : SessionKey} {id : SessionId}
    (found : registry.find? key = some id) (found' : registry.find? key' = some id) :
    key = key' := by
  obtain ⟨facts, known, rfl⟩ := (intact.find?_iff key id).1 found
  obtain ⟨facts', known', rfl⟩ := (intact.find?_iff key' id).1 found'
  rw [known] at known'
  exact congrArg SessionFacts.key (Option.some.inj known')

/-- The next number is free. -/
theorem get?_nextId (intact : registry.Intact)
    (room : registry.lastNumber.toNat + 1 < UInt32.size) :
    registry.get? registry.nextId = none := by
  by_contra taken
  have some_ := Option.ne_none_iff_isSome.1 taken
  have counted := ((intact.get?_iff _).1 some_).2
  rw [number_nextId room] at counted
  exact Nat.not_succ_le_self _ counted

theorem change (intact : registry.Intact) (id : SessionId) {alter : SessionFacts → SessionFacts}
    (keepsKey : ∀ facts, (alter facts).key = facts.key) : (registry.change id alter).Intact where
  find?_iff key other := by
    rw [find?_change, intact.find?_iff]
    by_cases same : other = id
    · subst same
      rw [get?_change]
      cases registry.get? other with
      | none => simp
      | some facts => simp [keepsKey]
    · rw [get?_change_of_ne _ same]
  get?_iff other := by
    rw [lastNumber_change, ← intact.get?_iff]
    by_cases same : other = id
    · rw [same, get?_change, Option.isSome_map]
    · rw [get?_change_of_ne _ same]
  size_eq := by rw [size_change, lastNumber_change, intact.size_eq]
  size_le limit limited := by
    rw [limit?_change] at limited
    rw [size_change]
    exact intact.size_le limit limited

theorem add (intact : registry.Intact) {facts : SessionFacts}
    (absent : registry.find? facts.key = none) (free : registry.isFull = false)
    (room : registry.lastNumber.toNat + 1 < UInt32.size) : (registry.add facts).Intact where
  find?_iff key id := by
    have new := intact.get?_nextId room
    by_cases sameKey : key = facts.key
    · subst sameKey
      rw [find?_add]
      constructor
      · rintro ⟨⟩
        exact ⟨facts, get?_add facts, rfl⟩
      · rintro ⟨other, known, itsKey⟩
        by_cases sameId : id = registry.nextId
        · rw [sameId]
        · -- the key would have been found before
          rw [get?_add_of_ne facts sameId] at known
          have found := (intact.find?_iff _ id).2 ⟨other, known, itsKey⟩
          rw [absent] at found
          cases found
    · rw [find?_add_of_ne sameKey, intact.find?_iff]
      by_cases sameId : id = registry.nextId
      · subst sameId
        rw [new, get?_add]
        constructor
        · rintro ⟨other, known, -⟩
          cases known
        · rintro ⟨other, ⟨⟩, itsKey⟩
          exact absurd itsKey.symm sameKey
      · rw [get?_add_of_ne facts sameId]
  get?_iff id := by
    rw [lastNumber_add facts room]
    by_cases sameId : id = registry.nextId
    · subst sameId
      rw [get?_add, number_nextId room]
      exact ⟨fun _ => ⟨Nat.succ_pos _, Nat.le_refl _⟩, fun _ => rfl⟩
    · have apart : id.number ≠ registry.lastNumber.toNat + 1 := by
        intro same
        rw [← number_nextId room] at same
        exact sameId (congrArg SessionId.mk same)
      rw [get?_add_of_ne facts sameId, intact.get?_iff]
      omega
  size_eq := by
    rw [size_add facts (intact.get?_nextId room), lastNumber_add facts room, intact.size_eq]
  size_le limit limited := by
    rw [size_add facts (intact.get?_nextId room)]
    exact isFull_eq_false_iff.1 free limit limited

end Intact

/-! ## What a call leaves alone -/

/-- What a call does to the registry, and what it leaves alone. -/
structure CallRule (registry : SessionRegistry) (call : SessionCall) : Prop where
  /-- A refused call changes nothing. -/
  refused : ∀ reason, (registry.call call).1 = .refused reason → (registry.call call).2 = registry
  /-- A call about a session that there is not changes nothing. -/
  unknown : ∀ id, call.session? = some id → registry.get? id = none →
    (registry.call call).2 = registry
  /-- Only what is known of the session changes that the call is about, or that it creates. -/
  others : ∀ id, call.session? ≠ some id →
    (call.isCreation (registry.call call).1 = true → (registry.call call).1 ≠ .id (some id)) →
    (registry.call call).2.get? id = registry.get? id
  /-- Only a creation adds a key, and no other than its own. -/
  otherKeys : ∀ key, call.newKey? ≠ some key → (registry.call call).2.find? key = registry.find? key
  /-- A key keeps its session. -/
  find?_kept : ∀ key id, registry.find? key = some id → (registry.call call).2.find? key = some id
  /-- A session keeps its key. -/
  get?_kept : ∀ id facts, registry.get? id = some facts →
    ∃ facts', (registry.call call).2.get? id = some facts' ∧ facts'.key = facts.key
  /-- A session is created if there is none of the key and one more may be there. -/
  create_iff : ∀ key handling width?, call = .create key handling width? →
    ((∃ id, (registry.call call).1 = .id (some id)) ↔ registry.find? key = none ∧
      ∀ limit, registry.limit? = some limit → registry.size < limit)
  /-- A created session has the next number, and it is known by its key. -/
  created : ∀ key handling width? id, call = .create key handling width? →
    (registry.call call).1 = .id (some id) →
    id.number = registry.lastNumber.toNat + 1 ∧ (registry.call call).2.find? key = some id ∧
      (registry.call call).2.get? id = some (SessionTable.newFacts key handling width?)

namespace Course

variable {call : SessionCall} {answer : SessionAnswer} {after : SessionRegistry}

theorem eq_of_refused {reason : SessionRefusal}
    (course : registry.Course call (.refused reason) after) : after = registry := by
  cases course with
  | same made => rfl

theorem eq_of_unknown (course : registry.Course call answer after) {id : SessionId}
    (about : call.session? = some id) (unknown : registry.get? id = none) : after = registry := by
  cases course with
  | same made => rfl
  | changed alter about' keepsKey =>
    obtain rfl : _ = id := Option.some.inj (about'.symm.trans about)
    exact change_eq_of_get?_eq_none unknown alter
  | created absent free => cases about

theorem get?_eq_of_other (course : registry.Course call answer after) {id : SessionId}
    (about : call.session? ≠ some id)
    (notCreated : call.isCreation answer = true → answer ≠ .id (some id)) :
    after.get? id = registry.get? id := by
  cases course with
  | same made => rfl
  | changed alter about' keepsKey =>
    exact get?_change_of_ne _ (fun same => about (about'.trans (congrArg some same.symm))) alter
  | created absent free => exact get?_add_of_ne _ fun same => notCreated rfl (by rw [same])

theorem find?_eq_of_other (course : registry.Course call answer after) {key : SessionKey}
    (other : call.newKey? ≠ some key) : after.find? key = registry.find? key := by
  cases course with
  | same made => rfl
  | changed alter about keepsKey => exact find?_change _ _ _ _
  | created absent free => exact find?_add_of_ne fun same => other (congrArg some same.symm)

/-- A key keeps its session, also if the counter should wrap around. -/
theorem find?_of_some (course : registry.Course call answer after) {key : SessionKey}
    {id : SessionId} (found : registry.find? key = some id) : after.find? key = some id := by
  cases course with
  | same made => exact found
  | changed alter about keepsKey => exact (find?_change _ _ _ _).trans found
  | @created key' handling width? absent free =>
    have apart : key ≠ key' := by
      rintro rfl
      rw [absent] at found
      cases found
    exact (find?_add_of_ne apart).trans found

/-- A session keeps its key, unless its number is given out a second time. -/
theorem get?_of_some (course : registry.Course call answer after) {id : SessionId}
    {facts : SessionFacts} (known : registry.get? id = some facts)
    (free : call.isCreation answer = true → registry.get? registry.nextId = none) :
    ∃ facts', after.get? id = some facts' ∧ facts'.key = facts.key := by
  cases course with
  | same made => exact ⟨facts, known, rfl⟩
  | @changed _ id' alter about keepsKey =>
    by_cases same : id = id'
    · subst same
      exact ⟨alter facts, by rw [get?_change, known]; rfl, keepsKey facts⟩
    · exact ⟨facts, (get?_change_of_ne _ same alter).trans known, rfl⟩
  | created absent room =>
    have apart : id ≠ registry.nextId := by
      rintro rfl
      rw [free rfl] at known
      cases known
    exact ⟨facts, (get?_add_of_ne _ apart).trans known, rfl⟩

theorem limit?_eq (course : registry.Course call answer after) :
    after.limit? = registry.limit? := by
  cases course with
  | same made => rfl
  | changed alter about keepsKey => exact limit?_change _ _ _
  | created absent free => rfl

/-- The counter counts the creations. -/
theorem lastNumber_eq (course : registry.Course call answer after)
    (room : registry.lastNumber.toNat + (call.isCreation answer).toNat < UInt32.size) :
    after.lastNumber.toNat = registry.lastNumber.toNat + (call.isCreation answer).toNat := by
  cases course with
  | same made => rw [made]; rfl
  | changed alter about keepsKey =>
    have made : call.isCreation .done = false := by
      cases call <;> rfl
    rw [made, lastNumber_change]
    rfl
  | created absent free => exact lastNumber_add _ room

/-- The maps and the counter stay in step. -/
theorem intact (course : registry.Course call answer after) (intact : registry.Intact)
    (room : registry.lastNumber.toNat + (call.isCreation answer).toNat < UInt32.size) :
    after.Intact := by
  cases course with
  | same made => exact intact
  | changed alter about keepsKey => exact intact.change _ keepsKey
  | created absent free => exact intact.add absent free room

end Course

theorem create_iff (key : SessionKey) (handling : Handling) (width? : Option AsnWidth) :
    (∃ id, (registry.call (.create key handling width?)).1 = .id (some id)) ↔
      registry.find? key = none ∧ registry.isFull = false := by
  rw [call]
  rcases registry.create_cases key handling width? with
    ⟨id, found, refused⟩ | ⟨absent, full, refused⟩ | ⟨absent, free, created⟩
  · simp [refused, found]
  · simp [refused, full]
  · simp [created, absent, free]

/-- While the counter has numbers left, every call keeps to the rule. -/
theorem Intact.callRule (intact : registry.Intact) (call : SessionCall)
    (room : registry.lastNumber.toNat + (call.isCreation (registry.call call).1).toNat < UInt32.size) :
    registry.CallRule call where
  refused reason refused := by
    have course := registry.course call
    rw [refused] at course
    exact course.eq_of_refused
  unknown _ := (registry.course call).eq_of_unknown
  others _ := (registry.course call).get?_eq_of_other
  otherKeys _ := (registry.course call).find?_eq_of_other
  find?_kept _ _ := (registry.course call).find?_of_some
  get?_kept id facts known := by
    apply (registry.course call).get?_of_some known
    intro made
    rw [made] at room
    exact intact.get?_nextId room
  create_iff key handling width? is := by
    rw [is, SessionRegistry.create_iff, isFull_eq_false_iff]
  created key handling width? id is answered := by
    have course := registry.course call
    rw [answered] at course room
    subst is
    generalize (registry.call (.create key handling width?)).2 = after at course
    cases course with
    | same made => cases made
    | created absent free => exact ⟨number_nextId room, find?_add _, get?_add _⟩

end SessionRegistry

/-! ## The table -/

namespace SessionTable

variable {table : SessionTable}

/-- The table with one more session. -/
def add (table : SessionTable) (facts : SessionFacts) : SessionTable :=
  { table with known := table.known ++ [facts] }

/-- Sessions are found by the keys alone. -/
theorem find?_eq_of_keys {table' : SessionTable}
    (same : table'.known.map SessionFacts.key = table.known.map SessionFacts.key)
    (key : SessionKey) : table'.find? key = table.find? key := by
  have byKeys (t : SessionTable) : t.find? key =
      ((t.known.map SessionFacts.key).findIdx? fun other => other == key).map idAt := by
    rw [List.findIdx?_map]
    rfl
  rw [byKeys, byKeys, same]

theorem get?_update (table : SessionTable) (id : SessionId) (alter : SessionFacts → SessionFacts) :
    (table.update id alter).get? id = (table.get? id).map alter := by
  unfold update get?
  cases placeOf? id with
  | none => rfl
  | some place => exact List.getElem?_modify_eq alter place table.known

theorem placeOf?_idAt (place : Nat) : placeOf? (idAt place) = some place :=
  rfl

theorem placeOf?_eq_some_iff {id : SessionId} {place : Nat} :
    placeOf? id = some place ↔ id = idAt place := by
  obtain ⟨number⟩ := id
  cases number with
  | zero => simp [placeOf?, idAt]
  | succ number => simp [placeOf?, idAt]

theorem get?_update_of_ne (table : SessionTable) {id other : SessionId} (apart : other ≠ id)
    (alter : SessionFacts → SessionFacts) :
    (table.update id alter).get? other = table.get? other := by
  unfold update
  cases itsPlace : placeOf? id with
  | none => rfl
  | some place =>
    unfold get?
    cases otherPlace : placeOf? other with
    | none => rfl
    | some place' =>
      have different : place ≠ place' := by
        rintro rfl
        have samePlace := (placeOf?_eq_some_iff.1 otherPlace).trans
          (placeOf?_eq_some_iff.1 itsPlace).symm
        exact apart samePlace
      exact List.getElem?_modify_ne alter table.known different

/-- Whatever a change leaves alone in the session, it leaves alone in the whole table. -/
theorem map_known_update {β : Type} (table : SessionTable) (id : SessionId)
    {alter : SessionFacts → SessionFacts} {read : SessionFacts → β}
    (keeps : ∀ facts, read (alter facts) = read facts) :
    (table.update id alter).known.map read = table.known.map read := by
  unfold update
  cases placeOf? id with
  | none => rfl
  | some place =>
    apply List.ext_getElem?
    intro place'
    simp only [List.getElem?_map, List.getElem?_modify]
    cases table.known[place']? with
    | none => rfl
    | some facts =>
      by_cases same : place = place'
      · simp [same, keeps]
      · simp [same]

theorem find?_update (table : SessionTable) (id : SessionId) {alter : SessionFacts → SessionFacts}
    (keepsKey : ∀ facts, (alter facts).key = facts.key) (key : SessionKey) :
    (table.update id alter).find? key = table.find? key :=
  find?_eq_of_keys (table.map_known_update id keepsKey) key

theorem size_update (table : SessionTable) (id : SessionId) (alter : SessionFacts → SessionFacts) :
    (table.update id alter).size = table.size := by
  unfold update size
  cases placeOf? id with
  | none => rfl
  | some place => exact List.length_modify alter table.known place

theorem limit?_update (table : SessionTable) (id : SessionId)
    (alter : SessionFacts → SessionFacts) : (table.update id alter).limit? = table.limit? := by
  unfold update
  cases placeOf? id with
  | none => rfl
  | some place => rfl

theorem find?_add {facts : SessionFacts} (absent : table.find? facts.key = none) :
    (table.add facts).find? facts.key = some (idAt table.size) := by
  have before : table.known.findIdx? (fun other => other.key == facts.key) = none := by
    simpa [find?] using absent
  simp [find?, add, List.findIdx?_append, before, size, idAt]

theorem find?_add_of_ne {facts : SessionFacts} {key : SessionKey} (other : key ≠ facts.key) :
    (table.add facts).find? key = table.find? key := by
  have apart : (facts.key == key) = false := beq_false_of_ne (Ne.symm other)
  simp [find?, add, List.findIdx?_append, List.findIdx?_cons, apart]

theorem get?_add (facts : SessionFacts) :
    (table.add facts).get? (idAt table.size) = some facts := by
  simp [get?, placeOf?_idAt, add, size]

theorem get?_add_of_ne (facts : SessionFacts) {id : SessionId} (other : id ≠ idAt table.size) :
    (table.add facts).get? id = table.get? id := by
  unfold get?
  cases itsPlace : placeOf? id with
  | none => rfl
  | some place =>
    have apart : place ≠ table.known.length := by
      rintro rfl
      exact other (placeOf?_eq_some_iff.1 itsPlace)
    rcases Nat.lt_or_gt_of_ne apart with inside | beyond
    · exact List.getElem?_append_left inside
    · have outside : (table.known ++ [facts]).length ≤ place := by
        rw [List.length_append]
        exact beyond
      exact (List.getElem?_eq_none outside).trans (List.getElem?_eq_none (Nat.le_of_lt beyond)).symm

theorem size_add (facts : SessionFacts) : (table.add facts).size = table.size + 1 := by
  simp [add, size]

end SessionTable

/-! ## The registry answers as the table does -/

namespace SessionRegistry

variable {registry : SessionRegistry} {table : SessionTable}

/-- A registry and a table know the same sessions. -/
structure InStep (registry : SessionRegistry) (table : SessionTable) : Prop where
  find?_eq : ∀ key, registry.find? key = table.find? key
  get?_eq : ∀ id, registry.get? id = table.get? id
  size_eq : registry.size = table.size
  lastNumber_eq : registry.lastNumber.toNat = table.size
  limit?_eq : registry.limit? = table.limit?

namespace InStep

theorem empty (limit? : Option Nat) : (empty limit?).InStep (.empty limit?) where
  find?_eq _ := rfl
  get?_eq id := by
    unfold SessionTable.get?
    cases SessionTable.placeOf? id with
    | none => rfl
    | some place => rfl
  size_eq := rfl
  lastNumber_eq := rfl
  limit?_eq := rfl

theorem isFull_eq (inStep : registry.InStep table) : registry.isFull = table.isFull := by
  unfold isFull SessionTable.isFull
  rw [inStep.limit?_eq]
  cases table.limit? with
  | none => rfl
  | some limit =>
    show decide (limit ≤ registry.size) = decide (limit ≤ table.size)
    rw [inStep.size_eq]

theorem change (inStep : registry.InStep table) (id : SessionId)
    {alter : SessionFacts → SessionFacts} (keepsKey : ∀ facts, (alter facts).key = facts.key) :
    (registry.change id alter).InStep (table.update id alter) where
  find?_eq key := by rw [find?_change, table.find?_update id keepsKey, inStep.find?_eq]
  get?_eq other := by
    by_cases same : other = id
    · rw [same, get?_change, table.get?_update, inStep.get?_eq]
    · rw [get?_change_of_ne _ same, table.get?_update_of_ne same, inStep.get?_eq]
  size_eq := by rw [size_change, table.size_update, inStep.size_eq]
  lastNumber_eq := by rw [lastNumber_change, table.size_update, inStep.lastNumber_eq]
  limit?_eq := by rw [limit?_change, table.limit?_update, inStep.limit?_eq]

/-- Both give out the same number, as long as the counter has one left. -/
theorem nextId_eq (inStep : registry.InStep table)
    (room : registry.lastNumber.toNat + 1 < UInt32.size) :
    registry.nextId = SessionTable.idAt table.size := by
  have number := number_nextId room
  rw [inStep.lastNumber_eq] at number
  exact congrArg SessionId.mk number

theorem add (inStep : registry.InStep table) (intact : registry.Intact) {facts : SessionFacts}
    (absent : registry.find? facts.key = none) (room : registry.lastNumber.toNat + 1 < UInt32.size) :
    (registry.add facts).InStep (table.add facts) where
  find?_eq key := by
    by_cases same : key = facts.key
    · subst same
      rw [SessionRegistry.find?_add, inStep.nextId_eq room,
        SessionTable.find?_add ((inStep.find?_eq _).symm.trans absent)]
    · rw [find?_add_of_ne same, SessionTable.find?_add_of_ne same, inStep.find?_eq]
  get?_eq id := by
    by_cases same : id = registry.nextId
    · subst same
      rw [SessionRegistry.get?_add, inStep.nextId_eq room, SessionTable.get?_add]
    · rw [get?_add_of_ne facts same, SessionTable.get?_add_of_ne facts, inStep.get?_eq]
      rwa [← inStep.nextId_eq room]
  size_eq := by
    rw [SessionRegistry.size_add facts (intact.get?_nextId room), SessionTable.size_add,
      inStep.size_eq]
  lastNumber_eq := by
    rw [lastNumber_add facts room, SessionTable.size_add, inStep.lastNumber_eq]
  limit?_eq := inStep.limit?_eq

theorem create (inStep : registry.InStep table) (intact : registry.Intact) (key : SessionKey)
    (handling : Handling) (width? : Option AsnWidth)
    (room : registry.find? key = none → registry.isFull = false →
      registry.lastNumber.toNat + 1 < UInt32.size) :
    (registry.create key handling width?).1 = (table.create key handling width?).1 ∧
      (registry.create key handling width?).2.InStep (table.create key handling width?).2 := by
  rw [SessionTable.create, ← inStep.find?_eq, ← inStep.isFull_eq]
  rcases registry.create_cases key handling width? with
    ⟨id, found, made⟩ | ⟨absent, full, made⟩ | ⟨absent, free, made⟩
  · rw [made, found]
    exact ⟨rfl, inStep⟩
  · rw [made, absent, full, inStep.limit?_eq]
    exact ⟨rfl, inStep⟩
  · rw [made, absent, free]
    exact ⟨congrArg Except.ok (inStep.nextId_eq (room absent free)),
      inStep.add intact absent (room absent free)⟩

/-- A call has the same answer, and the registry and the table stay in step. -/
theorem call (inStep : registry.InStep table) (intact : registry.Intact) (call : SessionCall)
    (room : registry.lastNumber.toNat + (call.isCreation (registry.call call).1).toNat < UInt32.size) :
    (registry.call call).1 = (table.call call).1 ∧
      (registry.call call).2.InStep (table.call call).2 := by
  cases call with
  | find key => exact ⟨congrArg SessionAnswer.id (inStep.find?_eq key), inStep⟩
  | create key handling width? =>
    have counted : registry.find? key = none → registry.isFull = false →
        registry.lastNumber.toNat + 1 < UInt32.size := by
      intro absent free
      obtain ⟨id, answered⟩ := (create_iff key handling width?).2 ⟨absent, free⟩
      rw [answered] at room
      exact room
    have created := inStep.create intact key handling width? counted
    rw [SessionRegistry.call, SessionTable.call]
    generalize registry.create key handling width? = left at created ⊢
    generalize table.create key handling width? = right at created ⊢
    obtain ⟨answer, after⟩ := left
    obtain ⟨answer', after'⟩ := right
    obtain ⟨rfl, still⟩ := created
    cases answer with
    | ok id => exact ⟨rfl, still⟩
    | error reason => exact ⟨rfl, still⟩
  | setState id state cause => exact ⟨rfl, inStep.change id fun _ => rfl⟩
  | state id =>
    rw [SessionRegistry.call, inStep.get?_eq]
    exact ⟨rfl, inStep⟩
  | width id =>
    rw [SessionRegistry.call, inStep.get?_eq]
    exact ⟨rfl, inStep⟩
  | setWidth id width => exact ⟨rfl, inStep.change id fun _ => rfl⟩
  | countMessage id => exact ⟨rfl, inStep.change id fun _ => rfl⟩
  | deleteRoutes id =>
    rw [SessionRegistry.call, SessionTable.call, SessionTable.deleteRoutes, inStep.get?_eq]
    cases table.get? id with
    | none => exact ⟨rfl, inStep⟩
    | some facts => exact ⟨rfl, inStep.change id fun _ => rfl⟩
  | get id =>
    rw [SessionRegistry.call, inStep.get?_eq]
    exact ⟨rfl, inStep⟩

end InStep

/-! ## Runs -/

/-- The registry that calls leave, from the beginning. -/
def after (limit? : Option Nat) (calls : List SessionCall) : SessionRegistry :=
  (answerAll call (empty limit?) calls).2

/-- What holds of a registry that is used for calls, and of every call. -/
structure Integrity (limit? : Option Nat) (calls : List SessionCall) : Prop where
  /-- The two maps lead back to each other, and the numbers are those from one to the counter. -/
  intact : (after limit? calls).Intact
  /-- Two keys never share a session. -/
  key_unique : ∀ key key' id, (after limit? calls).find? key = some id →
    (after limit? calls).find? key' = some id → key = key'
  /-- The limit is the one that was set. -/
  limited : (after limit? calls).limit? = limit?
  /-- Every call keeps to the rule. -/
  rule : ∀ earlier call later, calls = earlier ++ call :: later →
    (after limit? earlier).CallRule call
  /-- A key that has a session keeps it to the end. -/
  find?_kept : ∀ earlier later, calls = earlier ++ later → ∀ key id,
    (after limit? earlier).find? key = some id → (after limit? calls).find? key = some id
  /-- The table gives the same answers. -/
  answers_eq : (answerAll call (empty limit?) calls).1 =
    (answerAll SessionTable.call (.empty limit?) calls).1
  /-- The table knows the same sessions. -/
  inStep : (after limit? calls).InStep (answerAll SessionTable.call (.empty limit?) calls).2

theorem answerAll_append {σ : Type} (answer : σ → SessionCall → SessionAnswer × σ) (state : σ)
    (earlier later : List SessionCall) :
    (answerAll answer state (earlier ++ later)).2 =
      (answerAll answer (answerAll answer state earlier).2 later).2 := by
  induction earlier generalizing state with
  | nil => rfl
  | cons call earlier ih => exact ih _

theorem find?_answerAll_of_some {key : SessionKey} {id : SessionId}
    (found : registry.find? key = some id) (calls : List SessionCall) :
    (answerAll call registry calls).2.find? key = some id := by
  induction calls generalizing registry with
  | nil => exact found
  | cons call calls ih => exact ih ((registry.course call).find?_of_some found)

theorem limit?_answerAll (registry : SessionRegistry) (calls : List SessionCall) :
    (answerAll call registry calls).2.limit? = registry.limit? := by
  induction calls generalizing registry with
  | nil => rfl
  | cons call calls ih => exact (ih _).trans (registry.course call).limit?_eq

section Run

variable {calls : List SessionCall}
  (few : registry.lastNumber.toNat + creations calls (answerAll call registry calls).1 < UInt32.size)

include few

/-- While the counter has numbers left for all creations, it has them for the first call, and then
for the others. -/
theorem room_of_few {first : SessionCall} {rest : List SessionCall} (is : calls = first :: rest) :
    registry.lastNumber.toNat + (first.isCreation (registry.call first).1).toNat < UInt32.size ∧
      (registry.call first).2.lastNumber.toNat +
        creations rest (answerAll call (registry.call first).2 rest).1 < UInt32.size := by
  subst is
  rw [answerAll, creations_cons] at few
  have room : registry.lastNumber.toNat + (first.isCreation (registry.call first).1).toNat <
    UInt32.size := by omega
  refine ⟨room, ?_⟩
  rw [(registry.course first).lastNumber_eq room]
  omega

theorem intact_answerAll (intact : registry.Intact) :
    (answerAll call registry calls).2.Intact := by
  induction calls generalizing registry with
  | nil => exact intact
  | cons first rest ih =>
    obtain ⟨room, others⟩ := room_of_few few rfl
    exact ih others ((registry.course first).intact intact room)

theorem callRule_answerAll (intact : registry.Intact) {earlier later : List SessionCall}
    {next : SessionCall} (is : calls = earlier ++ next :: later) :
    (answerAll call registry earlier).2.CallRule next := by
  induction earlier generalizing registry calls with
  | nil => exact intact.callRule next (room_of_few few is).1
  | cons first rest ih =>
    obtain ⟨room, others⟩ := room_of_few few is
    exact ih others ((registry.course first).intact intact room) rfl

theorem inStep_answerAll (inStep : registry.InStep table) (intact : registry.Intact) :
    (answerAll call registry calls).1 = (answerAll SessionTable.call table calls).1 ∧
      (answerAll call registry calls).2.InStep (answerAll SessionTable.call table calls).2 := by
  induction calls generalizing registry table with
  | nil => exact ⟨rfl, inStep⟩
  | cons first rest ih =>
    obtain ⟨room, others⟩ := room_of_few few rfl
    obtain ⟨answered, next⟩ := inStep.call intact first room
    obtain ⟨later, last⟩ := ih others next ((registry.course first).intact intact room)
    exact ⟨List.cons_eq_cons.2 ⟨answered, later⟩, last⟩

end Run

/-- Through any calls the two maps and the counter stay in step, with or without a limit, as long as
the counter has a number for every session that is created. -/
theorem integrity_run (limit? : Option Nat) (calls : List SessionCall)
    (few : creations calls (answerAll call (empty limit?) calls).1 < UInt32.size) :
    Integrity limit? calls := by
  have few' : (empty limit?).lastNumber.toNat +
      creations calls (answerAll call (empty limit?) calls).1 < UInt32.size := by
    rw [show (empty limit?).lastNumber.toNat = 0 from rfl, Nat.zero_add]
    exact few
  have intact := intact_answerAll few' (Intact.empty limit?)
  have inStep := inStep_answerAll few' (InStep.empty limit?) (Intact.empty limit?)
  constructor
  · exact intact
  · intro key key' id
    exact intact.key_unique
  · exact limit?_answerAll _ calls
  · intro earlier next later is
    exact callRule_answerAll few' (Intact.empty limit?) is
  · rintro earlier later rfl key id found
    rw [after, answerAll_append]
    exact find?_answerAll_of_some found later
  · exact inStep.1
  · exact inStep.2

/-- A session is created, refused for its key, and used; another one is refused for the limit, and
the routes of one are deleted that there is not. -/
def sampleCalls : List SessionCall :=
  let key (octet : UInt8) : SessionKey :=
    .onBgpPort 65001 6447 (.v4 (.padded 4 [192, 0, 2, octet])) (.v4 (.padded 4 []))
  [.create (key 1) .label none, .create (key 1) .label none, .countMessage ⟨1⟩,
    .create (key 2) .label none, .deleteRoutes ⟨2⟩]

theorem integrity_run_sampleCalls :
    creations sampleCalls (answerAll call (empty (some 1)) sampleCalls).1 = 1 ∧
      Integrity (some 1) sampleCalls := by
  have one : creations sampleCalls (answerAll call (empty (some 1)) sampleCalls).1 = 1 := by
    decide +kernel
  exact ⟨one, integrity_run (some 1) sampleCalls (by rw [one]; decide)⟩

end SessionRegistry

end CollectorFeed
