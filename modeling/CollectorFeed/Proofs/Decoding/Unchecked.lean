import CollectorFeed.Rib.TableDump

/-!
# Programs that take octets without a check

The readers of this library cannot take octets that are not there: each primitive reader checks and
takes in one step. A program on a buffer keeps the two apart. It checks lengths where it sees fit,
and then it takes octets, cuts off fronts and looks up places with no check at all; where there are
too few octets it breaks down. Its loops run as long as their condition holds, so that it may also
run for ever, and it has branches for cases that should not come up.

Such a program follows a reader (`Unchecked.Follows`) if on every buffer it comes to what the reader
comes to. Since a reader gives a value or an error and nothing else, a program that follows one
ends, stays inside of its buffer and never enters a dead branch. Following is shown step by step
(`Follows.bind`); for a loop that runs as long as octets are left it is enough that every turn takes
an octet (`Follows.whileLeft`).
-/

set_option autoImplicit false

namespace CollectorFeed

/-! ## Outcomes -/

/-- An access to octets that are not there. -/
inductive Breach
  /-- More octets were taken than are left, so that their number would fall below zero. -/
  | taken (count left : Nat)
  /-- A front was cut off that is longer than the whole. -/
  | cut (count length : Nat)
  /-- A place was looked up behind the end. -/
  | lookedUp (place length : Nat)
deriving DecidableEq, Repr

/-- A branch that a program has for a case which its own checks rule out. -/
inductive DeadBranch
  /-- The length of a network was accepted before, and now it is too great for the address. -/
  | networkLength (bits : Nat)
  /-- Routes of one family are asked for from a record of another kind. -/
  | ribKind (subtype : TableDumpSubtype)
  /-- A registered subtype is neither read nor passed over. -/
  | subtype (subtype : TableDumpSubtype)
  /-- What was read from a record with the subtype of the index is no index. -/
  | opening (record : TableDumpRecord)
deriving DecidableEq

/-- What ends a program without a value. -/
inductive Halt
  /-- The program refuses what it was given. -/
  | refused (e : FeedError)
  /-- The program breaks down. -/
  | breach (breach : Breach)
  /-- The program is in a branch that should not be entered. -/
  | dead (branch : DeadBranch)
deriving DecidableEq

/-- What a program comes to; nothing if it runs for ever. -/
abbrev Outcome (α : Type) : Type :=
  ExceptT Halt Option α

namespace Outcome

variable {α β : Type}

/-- The outcome of a program that ends with a value or refuses what it was given. -/
def settle : Except FeedError α → Outcome α
  | .ok value => pure value
  | .error e => throw (.refused e)

@[simp] theorem settle_ok (value : α) : settle (.ok value) = pure value := rfl

/-- A program comes to a result: it ends, stays inside of its buffers and out of dead branches, and
gives what the result says. -/
structure Settles (outcome : Outcome α) (result : Except FeedError α) : Prop where
  /-- The program does not run for ever. -/
  ends : outcome ≠ none
  /-- It takes, cuts off and looks up no octets that are not there. -/
  inside : ∀ breach, outcome ≠ throw (.breach breach)
  /-- It is in no branch that its checks rule out. -/
  alive : ∀ branch, outcome ≠ throw (.dead branch)
  /-- It gives the value of the result, or refuses with its error. -/
  comesTo : outcome = settle result

theorem Settles.of_eq {outcome : Outcome α} {result : Except FeedError α}
    (same : outcome = settle result) : outcome.Settles result := by
  subst same
  cases result with
  | ok value =>
    exact ⟨nofun, fun _ => nofun, fun _ => nofun, rfl⟩
  | error e =>
    exact ⟨nofun, fun _ => nofun, fun _ => nofun, rfl⟩

/-- The first octets of some that are at hand; the program breaks down if there are too few. -/
def cut (octets : Octets) (count : Nat) : Outcome Octets :=
  if count ≤ octets.length then return octets.take count
  else throw (.breach (.cut count octets.length))

/-- The octet at a place; the program breaks down if there is none. -/
def lookUp (octets : Octets) (place : Nat) : Outcome UInt8 :=
  match octets[place]? with
  | some octet => return octet
  | none => throw (.breach (.lookedUp place octets.length))

theorem cut_eq {octets : Octets} {count : Nat} (enough : count ≤ octets.length) :
    cut octets count = pure (octets.take count) :=
  if_pos enough

theorem lookUp_eq {octets : Octets} {place : Nat} (inside : place < octets.length) :
    lookUp octets place = pure octets[place] := by
  rw [lookUp, List.getElem?_eq_getElem inside]

/-- Goes on with a refusal as a result; a program that breaks down is not caught. -/
def attempt : Outcome α → Outcome (Except FeedError α)
  | some (.ok value) => pure (.ok value)
  | some (.error (.refused e)) => pure (.error e)
  | some (.error halt) => throw halt
  | none => none

@[simp] theorem attempt_settle (result : Except FeedError α) :
    attempt (settle result) = pure result := by
  cases result <;> rfl

end Outcome

/-- A program on a buffer. -/
abbrev Unchecked (α : Type) : Type :=
  StateT Octets Outcome α

namespace Reader

variable {α β : Type}

/-- What a reader comes to on a buffer, as the outcome of a program. -/
def outcome (reader : Reader α) (buffer : Octets) : Outcome (α × Octets) :=
  match reader.run buffer with
  | (.ok value, rest) => pure (value, rest)
  | (.error e, _) => throw (.refused e)

theorem outcome_ne_none (reader : Reader α) (buffer : Octets) : reader.outcome buffer ≠ none := by
  rw [outcome]
  split
  · nofun
  · nofun

/-- Every value that the reader gives has taken at least so many octets. -/
def TakesAtLeast (count : Nat) (reader : Reader α) : Prop :=
  ∀ buffer value rest, reader.run buffer = (.ok value, rest) → rest.length + count ≤ buffer.length

namespace TakesAtLeast

theorem pure (value : α) : TakesAtLeast 0 (Pure.pure value : Reader α) := by
  intro buffer value' rest read
  cases read
  exact Nat.le_refl _

theorem fail (count : Nat) (e : FeedError) : TakesAtLeast count (Reader.fail e : Reader α) := by
  intro buffer value rest read
  cases read

theorem bind {reader : Reader α} {next : α → Reader β} {count more : Nat}
    (first : TakesAtLeast count reader) (second : ∀ value, TakesAtLeast more (next value)) :
    TakesAtLeast (count + more) (reader >>= next) := by
  intro buffer value rest read
  rw [run_bind] at read
  rcases taken : reader.run buffer with ⟨e | found, left⟩
  · rw [taken] at read
    cases read
  · rw [taken] at read
    have front := first buffer found left taken
    have behind := second found left value rest read
    omega

theorem take (count : Nat) : TakesAtLeast count (Reader.take count) := by
  intro buffer value rest read
  rw [run_take] at read
  split at read
  next enough =>
    cases read
    simp [List.length_drop, Nat.sub_add_cancel enough]
  next => cases read

theorem need (count : Nat) : TakesAtLeast 0 (Reader.need count) := by
  intro buffer value rest read
  rw [run_need] at read
  split at read
  · cases read
    exact Nat.le_refl _
  · cases read

/-- What is read behind some octets can be disregarded. -/
theorem front {reader : Reader α} {next : α → Reader β} {count : Nat}
    (first : TakesAtLeast count reader) (second : ∀ value, TakesAtLeast 0 (next value)) :
    TakesAtLeast count (reader >>= next) :=
  bind first second

theorem mono {reader : Reader α} {count less : Nat} (takes : TakesAtLeast count reader)
    (smaller : less ≤ count) : TakesAtLeast less reader := by
  intro buffer value rest read
  have := takes buffer value rest read
  omega

theorem times {item : Reader α} (each : TakesAtLeast 0 item) (count : Nat) :
    TakesAtLeast 0 (Reader.times item count) := by
  have repeated (done : List α) : TakesAtLeast 0 (Reader.repeated item count done) := by
    induction count generalizing done with
    | zero => exact pure _
    | succ count ih => exact front each fun value => ih (value :: done)
  exact repeated []

theorem u8 : TakesAtLeast 1 Reader.u8 :=
  bind (take 1) fun _ => pure _

theorem u16 : TakesAtLeast 2 Reader.u16 :=
  bind (take 2) fun _ => pure _

theorem asn (width : AsnWidth) : TakesAtLeast width.octetCount (Reader.asn width) :=
  bind (take _) fun _ => pure _

end TakesAtLeast

end Reader

namespace Unchecked

variable {α β : Type}

/-! ## Steps of programs -/

/-- Number of octets that are left. -/
def left : Unchecked Nat :=
  return (← get).length

/-- Takes octets from the front. There is no check: the program breaks down if there are too few. -/
def pull (count : Nat) : Unchecked Octets := fun buffer =>
  if count ≤ buffer.length then pure (buffer.take count, buffer.drop count)
  else throw (.breach (.taken count buffer.length))

/-- Refuses what is read. -/
def refuse (e : FeedError) : Unchecked α :=
  StateT.lift (throw (.refused e))

/-- Refuses what is read if fewer octets are left. -/
def check (count : Nat) (e : Nat → FeedError) : Unchecked Unit := do
  let room ← left
  if room < count then refuse (e room) else return ()

/-- Takes octets behind a check that there are so many. -/
def checked (count : Nat) (e : Nat → FeedError) : Unchecked Octets := do
  check count e
  pull count

/-- The check of the primitive readers. -/
def ensure (count : Nat) : Unchecked Unit :=
  check count fun _ => .bufferExhausted

/-- Takes octets behind the check of the primitive readers. -/
def ensured (count : Nat) : Unchecked Octets :=
  checked count fun _ => .bufferExhausted

/-- Enters a branch that should not be entered. -/
def enterDead (branch : DeadBranch) : Unchecked α :=
  StateT.lift (throw (.dead branch))

/-- Runs a program and names another error where it refuses. -/
def relabel (e : FeedError) (program : Unchecked α) : Unchecked α := fun buffer =>
  match program buffer with
  | some (.error (.refused _)) => throw (.refused e)
  | outcome => outcome

/-- Runs a program for each of so many turns. -/
def repeated (item : Unchecked α) : Nat → List α → Unchecked (List α)
  | 0, done => return done.reverse
  | turns + 1, done => do
    let value ← item
    repeated item turns (value :: done)

/-- Runs a program as long as so many octets are left, for a given number of turns; nothing comes of a
loop that would go on. -/
def whileLeftFor (floor : Nat) (item : Unchecked α) : Nat → List α → Unchecked (List α)
  | 0, _ => fun _ => none
  | turns + 1, done => do
    if floor ≤ (← left) then
      let value ← item
      whileLeftFor floor item turns (value :: done)
    else
      return done.reverse

open Classical in
/-- Runs a program as long as so many octets are left. The loop comes to what it comes to in some
number of turns; it runs for ever if no number is enough. -/
noncomputable def whileLeft (floor : Nat) (item : Unchecked α) : Unchecked (List α) := fun buffer =>
  if ends : ∃ turns, whileLeftFor floor item turns [] buffer ≠ none then
    whileLeftFor floor item ends.choose [] buffer
  else none

/-- Runs a program on octets of its own; what it leaves of them is dropped. -/
def on (program : Unchecked α) (octets : Octets) : Outcome α :=
  StateT.run' program octets

/-! ## Programs that follow a reader -/

/-- A program comes to what a reader comes to, on every buffer. -/
def Follows (program : Unchecked α) (reader : Reader α) : Prop :=
  ∀ buffer, program buffer = reader.outcome buffer

namespace Follows

theorem pure (value : α) : Follows (Pure.pure value) (Pure.pure value) := fun _ => rfl

theorem refuse (e : FeedError) : Follows (Unchecked.refuse e : Unchecked α) (Reader.fail e) :=
  fun _ => rfl

theorem peek : Follows get Reader.peek := fun _ => rfl

theorem bind {program : Unchecked α} {reader : Reader α} {next : α → Unchecked β}
    {then_ : α → Reader β} (first : Follows program reader)
    (second : ∀ value, Follows (next value) (then_ value)) :
    Follows (program >>= next) (reader >>= then_) := by
  intro buffer
  show (program buffer >>= fun found => next found.1 found.2) = _
  rw [first buffer, Reader.outcome, Reader.outcome, Reader.run_bind]
  rcases reader.run buffer with ⟨e | value, rest⟩
  · rfl
  · exact second value rest

/-- A result that was settled on its own, and what is done with it. -/
theorem settled {result : Except FeedError α} {next : α → Unchecked β} {reader : Reader β}
    (refused : ∀ e, result = .error e → reader = Reader.fail e)
    (given : ∀ value, result = .ok value → Follows (next value) reader) :
    Follows (StateT.lift (.settle result) >>= next) reader := by
  cases result with
  | error e =>
    rw [refused e rfl]
    exact fun _ => rfl
  | ok value => exact given value rfl

theorem repeated {item : Unchecked α} {reader : Reader α} (each : Follows item reader)
    (turns : Nat) (done : List α) :
    Follows (Unchecked.repeated item turns done) (Reader.repeated reader turns done) := by
  induction turns generalizing done with
  | zero => exact pure _
  | succ turns ih => exact bind each fun value => ih (value :: done)

theorem times {item : Unchecked α} {reader : Reader α} (each : Follows item reader)
    (count : Nat) : Follows (Unchecked.repeated item count []) (Reader.times reader count) :=
  repeated each count []

/-! ## Loops without a bound -/

theorem whileLeftFor_succ (floor : Nat) (item : Unchecked α) (turns : Nat) (done : List α)
    (buffer : Octets) :
    whileLeftFor floor item (turns + 1) done buffer =
      if floor ≤ buffer.length then
        item buffer >>= fun found => whileLeftFor floor item turns (found.1 :: done) found.2
      else Pure.pure (done.reverse, buffer) := by
  show (if floor ≤ buffer.length then _ else _ : Unchecked (List α)) buffer = _
  split
  · rfl
  · rfl

/-- A loop that has ended goes no further if it is given more turns. -/
theorem whileLeftFor_of_le {floor : Nat} {item : Unchecked α} {turns more : Nat} {done : List α}
    {buffer : Octets} (ended : whileLeftFor floor item turns done buffer ≠ none)
    (enough : turns ≤ more) :
    whileLeftFor floor item more done buffer = whileLeftFor floor item turns done buffer := by
  induction turns generalizing more done buffer with
  | zero => exact absurd rfl ended
  | succ turns ih =>
    obtain ⟨more, rfl⟩ := Nat.exists_eq_succ_of_ne_zero (Nat.ne_zero_of_lt enough)
    rw [whileLeftFor_succ] at ended
    rw [whileLeftFor_succ, whileLeftFor_succ]
    by_cases there : floor ≤ buffer.length
    · rw [if_pos there] at ended
      rw [if_pos there, if_pos there]
      -- a turn that never ends, or halts, does so whatever number of turns is allowed behind it
      rcases took : item buffer with _ | halt | ⟨value, rest⟩
      · rfl
      · rfl
      · rw [took] at ended
        exact ih ended (Nat.le_of_succ_le_succ enough)
    · rw [if_neg there, if_neg there]

/-- Any number of turns that is enough tells what a loop comes to. -/
theorem whileLeft_eq {floor : Nat} {item : Unchecked α} {turns : Nat} {buffer : Octets}
    (ended : whileLeftFor floor item turns [] buffer ≠ none) :
    Unchecked.whileLeft floor item buffer = whileLeftFor floor item turns [] buffer := by
  have ends : ∃ turns, whileLeftFor floor item turns [] buffer ≠ none := ⟨turns, ended⟩
  rw [Unchecked.whileLeft, dif_pos ends]
  rcases Nat.le_total ends.choose turns with fewer | more
  · exact (whileLeftFor_of_le ends.choose_spec fewer).symm
  · exact whileLeftFor_of_le ended more

/-- Each turn takes an octet, so as many turns as there are octets are enough, and one more to see
that none is left. The reader of the same loop is given that many turns and does not use them up. -/
theorem whileLeftFor_eq {floor : Nat} {item : Unchecked α} {reader : Reader α}
    (each : Follows item reader) (takes : reader.TakesAtLeast 1) (some_ : 0 < floor)
    (turns : Nat) (done : List α) (buffer : Octets) (enough : buffer.length ≤ turns) :
    whileLeftFor floor item (turns + 1) done buffer
      = (Reader.repeatedWhile floor reader turns done).outcome buffer := by
  induction turns generalizing done buffer with
  | zero =>
    -- the buffer is empty, and the only turn that is allowed is the one that sees this
    rw [whileLeftFor_succ, if_neg (by omega)]
    rfl
  | succ turns ih =>
    rw [whileLeftFor_succ, Reader.repeatedWhile, Reader.outcome,
      Reader.run_bind_ok (Reader.run_peek buffer)]
    by_cases there : floor ≤ buffer.length
    · rw [if_pos there, if_pos ((holds_iff _ _).mpr there), each buffer, Reader.outcome,
        Reader.run_bind]
      rcases read : reader.run buffer with ⟨e | value, rest⟩
      · rfl
      · have shorter := takes buffer value rest read
        exact ih (value :: done) rest (by omega)
    · rw [if_neg there, if_neg (mt (holds_iff _ _).mp there)]
      rfl

/-- A loop that runs as long as octets are left ends, and it follows the reader of all values, if a
turn that comes to a value has taken an octet. -/
theorem whileLeft {floor : Nat} {item : Unchecked α} {reader : Reader α}
    (each : Follows item reader) (takes : reader.TakesAtLeast 1) (some_ : 0 < floor) :
    Follows (Unchecked.whileLeft floor item) (Reader.many floor reader) := by
  intro buffer
  have same := whileLeftFor_eq each takes some_ buffer.length [] buffer (Nat.le_refl _)
  rw [whileLeft_eq (by rw [same]; exact Reader.outcome_ne_none _ _), same]
  rfl

/-! ## Errors and whole buffers -/

/-- Naming another error is what a reader does that names it itself. -/
theorem relabel (e : FeedError) {program : Unchecked α} {reader : Reader α}
    (same : Follows program reader) (buffer : Octets) :
    Unchecked.relabel e program buffer =
      match reader.run buffer with
      | (.ok value, rest) => Pure.pure (value, rest)
      | (.error _, _) => throw (.refused e) := by
  rw [Unchecked.relabel, same buffer, Reader.outcome]
  rcases reader.run buffer with ⟨e' | value, rest⟩
  · rfl
  · rfl

/-- On a whole buffer a program settles what the reader gives. -/
theorem on {program : Unchecked α} {reader : Reader α} (same : Follows program reader)
    (octets : Octets) : program.on octets = .settle (reader.run octets).1 := by
  show (fun found => found.1) <$> program octets = _
  rw [same octets, Reader.outcome]
  rcases reader.run octets with ⟨e | value, rest⟩
  · rfl
  · rfl

end Follows

/-! ## Checks in front of steps -/

theorem pull_apply {count : Nat} {buffer : Octets} (enough : count ≤ buffer.length) :
    pull count buffer = pure (buffer.take count, buffer.drop count) :=
  if_pos enough

example : pull 2 [7] = throw (.breach (.taken 2 1)) := rfl

theorem check_apply (count : Nat) (e : Nat → FeedError) (buffer : Octets) :
    check count e buffer =
      if count ≤ buffer.length then pure ((), buffer)
      else throw (.refused (e buffer.length)) := by
  show (if buffer.length < count then refuse (e buffer.length) else pure () : Unchecked Unit)
    buffer = _
  by_cases enough : count ≤ buffer.length
  · rw [if_neg (Nat.not_lt.mpr enough), if_pos enough]
    rfl
  · rw [if_pos (Nat.lt_of_not_le enough), if_neg enough]
    rfl

/-- Octets that are taken behind a check are there. -/
theorem checked_apply (count : Nat) (e : Nat → FeedError) (buffer : Octets) :
    checked count e buffer =
      if count ≤ buffer.length then pure (buffer.take count, buffer.drop count)
      else throw (.refused (e buffer.length)) := by
  show (check count e buffer >>= fun found => pull count found.2) = _
  rw [check_apply]
  by_cases enough : count ≤ buffer.length
  · rw [if_pos enough, if_pos enough]
    exact if_pos enough
  · rw [if_neg enough, if_neg enough]
    rfl

namespace Follows

theorem ensure (count : Nat) : Follows (Unchecked.ensure count) (Reader.need count) := by
  intro buffer
  rw [Unchecked.ensure, check_apply, Reader.outcome, Reader.run_need]
  split
  · rfl
  · rfl

theorem ensured (count : Nat) : Follows (Unchecked.ensured count) (Reader.take count) := by
  intro buffer
  rw [Unchecked.ensured, checked_apply, Reader.outcome, Reader.run_take]
  split
  · rfl
  · rfl

/-- A check whose refusal says how many octets are left, and what is done behind it. -/
theorem check {count : Nat} {e : Nat → FeedError} {within : Unchecked α} {inside : Reader α}
    (same : Follows within inside) :
    Follows (do Unchecked.check count e; within)
      (do
        let rest ← Reader.peek
        if holds count rest then inside else Reader.fail (e rest.length)) := by
  intro buffer
  show (Unchecked.check count e buffer >>= fun found => within found.2)
    = Reader.outcome (if holds count buffer then inside else Reader.fail (e buffer.length)) buffer
  rw [check_apply]
  by_cases there : count ≤ buffer.length
  · rw [if_pos there, if_pos ((holds_iff _ _).mpr there)]
    exact same buffer
  · rw [if_neg there, if_neg (mt (holds_iff _ _).mp there)]
    rfl

/-- A check whose refusal says how many octets are left, and the octets that it asked for. -/
theorem checked (count : Nat) (e : Nat → FeedError) :
    Follows (Unchecked.checked count e) fun buffer =>
      if holds count buffer then (.ok (buffer.take count), buffer.drop count)
      else (.error (e buffer.length), buffer) := by
  intro buffer
  rw [checked_apply]
  by_cases there : count ≤ buffer.length
  · simp [Reader.outcome, Reader.run, there, (holds_iff count buffer).mpr there]
  · simp [Reader.outcome, Reader.run, there, mt (holds_iff count buffer).mp there]

end Follows

end Unchecked

end CollectorFeed
