import CollectorFeed.Proofs.Relay.Layout

/-!
# Written forms

Wherever a written form stands in front of a buffer, a reader takes it and nothing else (`Consumes`).
A reader that takes forms in this way, and nothing that is not the form of a legible item, tells by its
success what the buffer begins with (`Reads`). Both notions go from one item to counted items and to
items that are taken as long as there is room for one.
-/

set_option autoImplicit false

namespace CollectorFeed

namespace Reader

variable {α β ι : Type}

/-! ## Forms that are taken -/

/-- Wherever a written form stands in front of a buffer, a reader takes it and nothing else, and
gives a value for it. -/
def Consumes (reader : Reader α) (form : Octets) (value : α) : Prop :=
  ∀ rest, reader.run (form ++ rest) = (.ok value, rest)

theorem Consumes.bind {reader : Reader α} {next : α → Reader β} {front back : Octets} {value : α}
    {result : β} (first : Consumes reader front value)
    (second : Consumes (next value) back result) :
    Consumes (reader >>= next) (front ++ back) result := by
  intro rest
  rw [List.append_assoc, run_bind_ok (first _)]
  exact second rest

/-- Behind what is read first, nothing else is read. -/
theorem Consumes.map {reader : Reader α} {next : α → Reader β} {form : Octets} {value : α}
    {result : β} (first : Consumes reader form value) (second : next value = pure result) :
    Consumes (reader >>= next) form result := by
  intro rest
  rw [run_bind_ok (first rest), second, run_pure]

theorem consumes_take {form : Octets} {count : Nat} (length : form.length = count) :
    Consumes (take count) form form :=
  fun _ => run_take_append length

theorem consumes_u8 (octet : UInt8) : Consumes u8 [octet] octet := by
  have one : Consumes (take 1) [octet] [octet] := consumes_take rfl
  refine one.map ?_
  rw [Octets.toNat_cons, Octets.toNat_nil]
  simp

theorem consumes_u16 (value : UInt16) : Consumes u16 (Octets.ofNat 2 value.toNat) value :=
  fun _ => run_u16_eq_ok_iff.2 rfl

theorem consumes_u32 (value : UInt32) : Consumes u32 (Octets.ofNat 4 value.toNat) value :=
  fun _ => run_u32_eq_ok_iff.2 rfl

/-- Items that stand one behind the other are read one behind the other. -/
theorem consumes_repeated {reader : Reader α} {form : ι → Octets} {value : ι → α} {items : List ι}
    (each : ∀ item ∈ items, Consumes reader (form item) (value item)) (done : List α) :
    Consumes (repeated reader items.length done) (items.flatMap form)
      (done.reverse ++ items.map value) := by
  induction items generalizing done with
  | nil =>
    intro rest
    rw [List.map_nil, List.append_nil]
    rfl
  | cons item items ih =>
    have others := ih (fun other there => each other (List.mem_cons_of_mem _ there))
      (value item :: done)
    rw [List.reverse_cons, List.append_assoc] at others
    exact (each item List.mem_cons_self).bind others

theorem consumes_times {reader : Reader α} {form : ι → Octets} {value : ι → α} {items : List ι}
    (each : ∀ item ∈ items, Consumes reader (form item) (value item)) :
    Consumes (times reader items.length) (items.flatMap form) (items.map value) :=
  consumes_repeated each []

/-- Items one behind the other are all read, if each of them is long enough to be looked for and
what stands behind them is not. -/
theorem run_repeatedWhile {floor : Nat} {reader : Reader α} {form : ι → Octets} {value : ι → α}
    {items : List ι} {turns : Nat} {rest : Octets} (short : rest.length < floor)
    (each : ∀ item ∈ items, Consumes reader (form item) (value item) ∧ floor ≤ (form item).length)
    (enough : items.length ≤ turns) (done : List α) :
    (repeatedWhile floor reader turns done).run (items.flatMap form ++ rest) =
      (.ok (done.reverse ++ items.map value), rest) := by
  induction items generalizing turns done with
  | nil =>
    have nothing : holds floor rest = false := by
      rw [← Bool.not_eq_true, holds_iff]
      exact Nat.not_le_of_lt short
    rw [List.map_nil, List.append_nil, List.flatMap_nil, List.nil_append]
    cases turns with
    | zero => rfl
    | succ turns =>
      rw [repeatedWhile, run_bind_ok (run_peek _), nothing]
      rfl
  | cons item items ih =>
    obtain ⟨turns, rfl⟩ : ∃ more, turns = more + 1 :=
      Nat.exists_eq_succ_of_ne_zero (Nat.ne_of_gt (Nat.lt_of_lt_of_le (Nat.succ_pos _) enough))
    -- the loop looks for so many octets first, and the form has them
    obtain ⟨takes, long⟩ := each item List.mem_cons_self
    have there : holds floor (form item ++ (items.flatMap form ++ rest)) = true := by
      rw [holds_iff, List.length_append]
      exact Nat.le_trans long (Nat.le_add_right _ _)
    rw [List.flatMap_cons, List.append_assoc, repeatedWhile, run_bind_ok (run_peek _), there,
      if_pos rfl, run_bind_ok (takes _),
      ih (fun other inside => each other (List.mem_cons_of_mem _ inside))
        (Nat.le_of_succ_le_succ enough), List.reverse_cons, List.append_assoc]
    rfl

theorem run_many_append {floor : Nat} {reader : Reader α} {form : ι → Octets} {value : ι → α}
    {items : List ι} {rest : Octets} (short : rest.length < floor)
    (each : ∀ item ∈ items, Consumes reader (form item) (value item) ∧ floor ≤ (form item).length) :
    (many floor reader).run (items.flatMap form ++ rest) = (.ok (items.map value), rest) := by
  have enough : items.length ≤ (items.flatMap form ++ rest).length := by
    rw [List.length_append]
    refine Nat.le_add_right_of_le ?_
    induction items with
    | nil => exact Nat.le_refl _
    | cons item items ih =>
      have long := (each item List.mem_cons_self).2
      have others := ih fun other inside => each other (List.mem_cons_of_mem _ inside)
      rw [List.flatMap_cons, List.length_append, List.length_cons]
      omega
  rw [many, run_bind_ok (run_peek _)]
  exact run_repeatedWhile short each enough []

/-- Items that fill a buffer are all read if each of them is long enough to be looked for. -/
theorem run_many {floor : Nat} {reader : Reader α} {form : ι → Octets} {value : ι → α}
    (some_ : 0 < floor) {items : List ι}
    (each : ∀ item ∈ items, Consumes reader (form item) (value item) ∧ floor ≤ (form item).length) :
    (many floor reader).run (items.flatMap form) = (.ok (items.map value), []) := by
  have nothing : ([] : Octets).length < floor := some_
  have all := run_many_append nothing each
  rwa [List.append_nil] at all

/-! ## Forms and nothing else -/

/-- A reader takes the forms of legible items and nothing else, and gives a value for each. -/
def Reads (reader : Reader α) (legible : ι → Prop) (form : ι → Octets) (value : ι → α) : Prop :=
  ∀ buffer result rest, reader.run buffer = (.ok result, rest) ↔
    ∃ item, legible item ∧ buffer = form item ++ rest ∧ value item = result

namespace Reads

variable {reader : Reader α} {legible : ι → Prop} {form : ι → Octets} {value : ι → α}

theorem consumes (reads : Reads reader legible form value) {item : ι} (fine : legible item) :
    Consumes reader (form item) (value item) :=
  fun _ => (reads _ _ _).2 ⟨item, fine, rfl, rfl⟩

/-- Counted items are taken if so many legible ones stand one behind the other, and only then. -/
theorem times (reads : Reads reader legible form value) (count : Nat) :
    Reads (times reader count)
      (fun items : List ι => items.length = count ∧ ∀ item ∈ items, legible item)
      (List.flatMap form) (List.map value) := by
  -- the values that were read before stand in front of those that come
  have repeated (done : List α) (buffer : Octets) (result : List α) (rest : Octets)
      (read : (repeated reader count done).run buffer = (.ok result, rest)) :
      ∃ items : List ι, (items.length = count ∧ ∀ item ∈ items, legible item) ∧
        buffer = items.flatMap form ++ rest ∧ done.reverse ++ items.map value = result := by
    induction count generalizing done buffer with
    | zero =>
      cases read
      exact ⟨[], ⟨rfl, List.forall_mem_nil _⟩, rfl, List.append_nil _⟩
    | succ count ih =>
      obtain ⟨first, between, taken, later⟩ := run_bind_eq_ok_iff.1 read
      obtain ⟨item, fine, rfl, rfl⟩ := (reads _ _ _).1 taken
      obtain ⟨items, ⟨rfl, others⟩, rfl, rfl⟩ := ih _ _ later
      refine ⟨item :: items, ⟨rfl, List.forall_mem_cons.2 ⟨fine, others⟩⟩, ?_, ?_⟩
      · rw [List.flatMap_cons, List.append_assoc]
      · rw [List.reverse_cons, List.append_assoc]
        rfl
  intro buffer result rest
  constructor
  · exact repeated [] buffer result rest
  · rintro ⟨items, ⟨rfl, fine⟩, rfl, rfl⟩
    exact consumes_times (fun item there => reads.consumes (fine item there)) rest

/-- A loop comes to its end for want of octets and not of turns, because every item takes some. -/
theorem exists_items {floor : Nat} (reads : Reads reader legible form value)
    (some_ : 0 < floor) (long : ∀ item, legible item → floor ≤ (form item).length) {turns : Nat}
    {buffer rest : Octets} {done result : List α} (enough : buffer.length ≤ turns)
    (read : (repeatedWhile floor reader turns done).run buffer = (.ok result, rest)) :
    rest.length < floor ∧ ∃ items : List ι, (∀ item ∈ items, legible item) ∧
      buffer = items.flatMap form ++ rest ∧ done.reverse ++ items.map value = result := by
  induction turns generalizing done buffer with
  | zero =>
    cases read
    exact ⟨Nat.lt_of_le_of_lt enough some_, [], List.forall_mem_nil _, rfl, List.append_nil _⟩
  | succ turns ih =>
    rw [repeatedWhile, run_bind_ok (run_peek _)] at read
    split at read
    case isTrue =>
      obtain ⟨first, between, taken, later⟩ := run_bind_eq_ok_iff.1 read
      obtain ⟨item, fine, rfl, rfl⟩ := (reads _ _ _).1 taken
      have less : between.length ≤ turns := by
        have taken := long item fine
        rw [List.length_append] at enough
        omega
      obtain ⟨short, items, others, rfl, rfl⟩ := ih less later
      refine ⟨short, item :: items, List.forall_mem_cons.2 ⟨fine, others⟩, ?_, ?_⟩
      · rw [List.flatMap_cons, List.append_assoc]
      · rw [List.reverse_cons, List.append_assoc]
        rfl
    case isFalse short =>
      cases read
      rw [holds_iff, Nat.not_le] at short
      exact ⟨short, [], List.forall_mem_nil _, rfl, List.append_nil _⟩

/-- Items are taken as long as there is room for one, and each of them must be legible. -/
theorem run_many_eq_ok_iff {floor : Nat} (reads : Reads reader legible form value)
    (some_ : 0 < floor) (long : ∀ item, legible item → floor ≤ (form item).length)
    {buffer rest : Octets} {result : List α} :
    (many floor reader).run buffer = (.ok result, rest) ↔
      rest.length < floor ∧ ∃ items : List ι, (∀ item ∈ items, legible item) ∧
        buffer = items.flatMap form ++ rest ∧ items.map value = result := by
  constructor
  · intro read
    rw [many, run_bind_ok (run_peek _)] at read
    exact reads.exists_items some_ long (Nat.le_refl _) read
  · rintro ⟨short, items, fine, rfl, rfl⟩
    exact run_many_append short fun item there =>
      ⟨reads.consumes (fine item there), long item (fine item there)⟩

end Reads

/-- So many octets are taken exactly if they stand in front, whatever the error is otherwise. -/
theorem ite_holds_eq_ok_iff {count : Nat} {buffer front rest : Octets} {e : FeedError} :
    (if holds count buffer then (.ok (buffer.take count), buffer.drop count)
      else (.error e, buffer) : Except FeedError Octets × Octets) = (.ok front, rest) ↔
      buffer = front ++ rest ∧ front.length = count := by
  rw [← run_take_eq_ok_iff, run_take]
  simp only [holds_iff]
  split <;> simp

theorem run_network_eq_ok_iff {family : AddressFamily} {buffer rest : Octets} {network : Network} :
    (Reader.network family).run buffer = (.ok network, rest) ↔
      ∃ (bits : UInt8) (front : Octets) (fits : bits.toNat ≤ family.maxBits),
        front.length = octetsFor bits.toNat ∧ buffer = [bits] ++ front ++ rest ∧
          (⟨Address.padded family front, bits.toNat, by simpa using fits⟩ : Network) = network := by
  unfold Reader.network
  simp only [run_bind_eq_ok_iff, run_u8_eq_ok_iff]
  constructor
  · rintro ⟨bits, _, rfl, read⟩
    split at read
    case isTrue fits =>
      simp only [run_bind_eq_ok_iff, run_take_eq_ok_iff, run_pure_eq_ok_iff] at read
      obtain ⟨front, _, ⟨rfl, count⟩, same, rfl⟩ := read
      exact ⟨bits, front, fits, count, rfl, same⟩
    case isFalse => cases read
  · rintro ⟨bits, front, fits, count, rfl, same⟩
    refine ⟨bits, front ++ rest, rfl, ?_⟩
    rw [dif_pos fits]
    simp only [run_bind_eq_ok_iff, run_take_eq_ok_iff, run_pure_eq_ok_iff]
    exact ⟨front, rest, ⟨rfl, count⟩, same, rfl⟩

end Reader

end CollectorFeed
