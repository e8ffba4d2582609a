import CollectorFeed.Rib.TableDump
import CollectorFeed.Stream.Framer

/-!
# What can be wrong with a record

A record of a table dump that cannot be decoded is too short somewhere, has a network that is too
long, has attributes that contradict their lengths, or is of a subtype that is not registered
(`TableDumpRecord.isOfDump_decode`). What holds no network of its own, such as an index, a block of
attributes or an entry, is never refused for a network (`FeedError.isOfItem`), and a field of fixed
length is refused for want of octets alone (`FeedError.isExhausted`). A stream that yields
no record ended too early or cannot be read (`Framer.isOfStream_next`). Neither is ever about a
session, and a reader of routes of one family is never asked for a record of another kind.
-/

set_option autoImplicit false

namespace CollectorFeed

namespace FeedError

/-- Whether an error says that octets are missing. -/
def isExhausted : FeedError → Bool
  | bufferExhausted => true
  | _ => false

/-- Whether an error can come of reading what has no network in it. -/
def isOfItem : FeedError → Bool
  | bufferExhausted | malformedAttribute _ | cutShort _ => true
  | _ => false

/-- Whether an error can come of reading the body of a record of a table dump. -/
def isOfBody : FeedError → Bool
  | networkTooLong _ _ => true
  | e => e.isOfItem

/-- Whether an error can come of decoding a record of a table dump. -/
def isOfDump : FeedError → Bool
  | bufferExhausted | networkTooLong _ _ | malformedAttribute _ | cutShort _
  | unexpectedSubtype _ _ => true
  | _ => false

/-- Whether an error can come of cutting out a record. -/
def isOfStream : FeedError → Bool
  | shortHeader | truncatedBody _ _ | unreadable _ => true
  | _ => false

theorem isExhausted_iff {e : FeedError} : e.isExhausted = true ↔ e = .bufferExhausted := by
  cases e <;> simp [isExhausted]

theorem isOfItem_of_isExhausted {e : FeedError} (exhausted : e.isExhausted = true) :
    e.isOfItem = true := by
  rw [isExhausted_iff.1 exhausted]
  rfl

theorem isOfBody_of_isOfItem {e : FeedError} (ofItem : e.isOfItem = true) : e.isOfBody = true := by
  cases e with
  | networkTooLong _ _ => rfl
  | _ => exact ofItem

theorem isOfDump_of_isOfBody {e : FeedError} (ofBody : e.isOfBody = true) : e.isOfDump = true := by
  cases e with
  | bufferExhausted | malformedAttribute _ | cutShort _ | networkTooLong _ _ => rfl
  | _ => cases ofBody

end FeedError

/-! ## Readers -/

namespace Reader

variable {α β : Type} {allowed : FeedError → Bool}

/-- A reader fails with no other errors than the allowed ones. -/
def FailsOnly (allowed : FeedError → Bool) (reader : Reader α) : Prop :=
  ∀ buffer e rest, reader.run buffer = (.error e, rest) → allowed e = true

/-- A sequence of readers fails in the first or in what comes behind it. -/
theorem run_bind_eq_error_iff {reader : Reader α} {next : α → Reader β} {buffer rest : Octets}
    {e : FeedError} :
    (reader >>= next).run buffer = (.error e, rest) ↔
      reader.run buffer = (.error e, rest) ∨
        ∃ value between, reader.run buffer = (.ok value, between) ∧
          (next value).run between = (.error e, rest) := by
  rw [run_bind]
  rcases reader.run buffer with ⟨e' | value, left⟩
  · simp
  · constructor
    · intro failed
      exact .inr ⟨value, left, rfl, failed⟩
    · rintro (early | ⟨_, _, same, failed⟩)
      · cases early
      · cases same
        exact failed

namespace FailsOnly

/-- A reader that fails with some errors only fails with no others than these and more. -/
theorem mono {reader : Reader α} {more : FeedError → Bool} (fails : FailsOnly allowed reader)
    (wider : ∀ {e}, allowed e = true → more e = true) : FailsOnly more reader :=
  fun buffer e rest failed => wider (fails buffer e rest failed)

theorem ofItem {reader : Reader α} (exhausted : FailsOnly FeedError.isExhausted reader) :
    FailsOnly FeedError.isOfItem reader :=
  exhausted.mono FeedError.isOfItem_of_isExhausted

theorem ofBody {reader : Reader α} (ofItem : FailsOnly FeedError.isOfItem reader) :
    FailsOnly FeedError.isOfBody reader :=
  ofItem.mono FeedError.isOfBody_of_isOfItem

/-- An error that is not one of the first reader's comes of what stands behind it. -/
theorem run_bind_eq_error_iff {reader : Reader α} {next : α → Reader β}
    (first : FailsOnly allowed reader) {buffer rest : Octets} {e : FeedError}
    (other : allowed e = false) :
    (reader >>= next).run buffer = (.error e, rest) ↔
      ∃ value between, reader.run buffer = (.ok value, between) ∧
        (next value).run between = (.error e, rest) := by
  rw [Reader.run_bind_eq_error_iff]
  constructor
  · rintro (early | late)
    · cases other.symm.trans (first buffer e rest early)
    · exact late
  · exact .inr

/-- An error that is not one of what stands behind the first reader comes of that reader. -/
theorem run_bind_eq_error_iff_left {reader : Reader α} {next : α → Reader β}
    (second : ∀ value, FailsOnly allowed (next value)) {buffer rest : Octets} {e : FeedError}
    (other : allowed e = false) :
    (reader >>= next).run buffer = (.error e, rest) ↔ reader.run buffer = (.error e, rest) := by
  rw [Reader.run_bind_eq_error_iff]
  constructor
  · rintro (early | ⟨value, between, -, late⟩)
    · exact early
    · cases other.symm.trans (second value between e rest late)
  · exact .inl

theorem pure (value : α) : FailsOnly allowed (Pure.pure value : Reader α) := by
  intro buffer e rest failed
  cases failed

theorem fail {e : FeedError} (isAllowed : allowed e = true) :
    FailsOnly allowed (Reader.fail e : Reader α) := by
  intro buffer e' rest failed
  cases failed
  exact isAllowed

theorem peek : FailsOnly allowed Reader.peek := by
  intro buffer e rest failed
  cases failed

theorem bind {reader : Reader α} {next : α → Reader β} (first : FailsOnly allowed reader)
    (second : ∀ value, FailsOnly allowed (next value)) : FailsOnly allowed (reader >>= next) := by
  intro buffer e rest failed
  rcases Reader.run_bind_eq_error_iff.1 failed with early | ⟨value, between, -, late⟩
  · exact first buffer e rest early
  · exact second value between e rest late

theorem ite {condition : Prop} [Decidable condition] {reader other : Reader α}
    (first : FailsOnly allowed reader) (second : FailsOnly allowed other) :
    FailsOnly allowed (if condition then reader else other) := by
  split
  · exact first
  · exact second

theorem times {item : Reader α} (each : FailsOnly allowed item) (count : Nat) :
    FailsOnly allowed (Reader.times item count) := by
  have repeated (done : List α) : FailsOnly allowed (Reader.repeated item count done) := by
    induction count generalizing done with
    | zero => exact pure _
    | succ count ih => exact bind each fun value => ih (value :: done)
  exact repeated []

theorem many {item : Reader α} (floor : Nat) (each : FailsOnly allowed item) :
    FailsOnly allowed (Reader.many floor item) := by
  have repeated (turns : Nat) (done : List α) :
      FailsOnly allowed (Reader.repeatedWhile floor item turns done) := by
    induction turns generalizing done with
    | zero => exact pure _
    | succ turns ih =>
      exact bind peek fun left => ite (bind each fun value => ih (value :: done)) (pure _)
  exact bind peek fun left => repeated left.length []

/-! ### Fields -/

theorem take (count : Nat) : FailsOnly FeedError.isExhausted (Reader.take count) := by
  intro buffer e rest failed
  rw [run_take] at failed
  split at failed
  · cases failed
  · cases failed
    rfl

theorem need (count : Nat) : FailsOnly FeedError.isExhausted (Reader.need count) := by
  intro buffer e rest failed
  rw [run_need] at failed
  split at failed
  · cases failed
  · cases failed
    rfl

theorem u8 : FailsOnly FeedError.isExhausted Reader.u8 :=
  bind (take 1) fun _ => pure _

theorem u16 : FailsOnly FeedError.isExhausted Reader.u16 :=
  bind (take 2) fun _ => pure _

theorem u32 : FailsOnly FeedError.isExhausted Reader.u32 :=
  bind (take 4) fun _ => pure _

theorem quad : FailsOnly FeedError.isExhausted Reader.quad :=
  bind (take 4) fun _ => pure _

theorem asn (width : AsnWidth) : FailsOnly FeedError.isExhausted (Reader.asn width) :=
  bind (take _) fun _ => pure _

theorem address (family : AddressFamily) :
    FailsOnly FeedError.isExhausted (Reader.address family) :=
  bind (take _) fun _ => pure _

/-- A network is the one thing that is refused for its length. -/
theorem network (family : AddressFamily) :
    FailsOnly FeedError.isOfBody (Reader.network family) := by
  refine bind u8.ofItem.ofBody fun bits => ?_
  split
  · exact bind (take _).ofItem.ofBody fun _ => pure _
  · exact fail rfl

end FailsOnly

end Reader

/-! ## Records of table dumps -/

open Reader (FailsOnly)

theorem Peer.failsOnly_reader : FailsOnly FeedError.isExhausted Peer.reader :=
  .bind .u8 fun _ => .bind .quad fun _ => .bind (.address _) fun _ => .bind (.asn _) fun _ =>
    .pure _

theorem PeerIndex.failsOnly_reader : FailsOnly FeedError.isExhausted PeerIndex.reader :=
  .bind .quad fun _ => .bind .u16 fun _ => .bind (.take _) fun _ => .bind .u16 fun _ =>
    .bind (.times Peer.failsOnly_reader _) fun _ => .pure _

namespace AttributeBlock

theorem failsOnly_valueLength (flags code : UInt8) :
    FailsOnly FeedError.isOfItem (valueLength flags code) := by
  intro buffer e rest failed
  rw [Reader.run, valueLength] at failed
  split at failed
  · split at failed
    · cases failed
    · cases failed
      rfl
  · split at failed
    · cases failed
    next e' left read =>
      cases failed
      exact FailsOnly.u8.ofItem buffer _ _ read

theorem failsOnly_value (code : UInt8) (length : Nat) :
    FailsOnly FeedError.isOfItem (value code length) := by
  intro buffer e rest failed
  rw [Reader.run, value] at failed
  split at failed
  · cases failed
  · cases failed
    rfl

theorem isOfItem_kept {target : RouteTarget} {code : UInt8} {octets : Octets} {e : FeedError}
    (failed : kept target code octets = .error e) : e.isOfItem = true := by
  unfold kept Reachability.complete at failed
  split at failed
  · split at failed
    · cases failed
    · split at failed
      · cases failed
      · cases failed
        rfl
  · cases failed

theorem failsOnly_one (target : RouteTarget) : FailsOnly FeedError.isOfItem (one target) := by
  refine .bind FailsOnly.u8.ofItem fun flags => .bind FailsOnly.u8.ofItem fun code => ?_
  refine .bind (failsOnly_valueLength flags code) fun length => ?_
  refine .bind (failsOnly_value code length) fun octets => ?_
  split
  · exact .pure _
  next e failed => exact .fail (isOfItem_kept failed)

/-- A network in an attribute is not looked at, so no attribute block is refused for one. -/
theorem isOfItem_decode {target : RouteTarget} {block : Octets} {e : FeedError}
    (failed : decode target block = .error e) : e.isOfItem = true := by
  have whole : FailsOnly FeedError.isOfItem (reader target) :=
    .bind (.many _ (failsOnly_one target)) fun attributes =>
      .bind .peek fun left => .ite (.pure _) (.fail rfl)
  exact whole block e _ (Prod.ext failed rfl)

end AttributeBlock

theorem RibEntry.failsOnly_reader (target : RouteTarget) :
    FailsOnly FeedError.isOfItem (reader target) := by
  have block (length : Nat) : FailsOnly FeedError.isOfItem (block length) := by
    intro buffer e rest failed
    rw [Reader.run, RibEntry.block] at failed
    split at failed
    · cases failed
    · cases failed
      rfl
  refine .bind .peek fun left => .ite ?_ (.fail rfl)
  refine .bind FailsOnly.u16.ofItem fun peerPlace => .bind FailsOnly.u32.ofItem fun originated => ?_
  refine .bind FailsOnly.u16.ofItem fun length => ?_
  refine .bind (block _) fun octets => ?_
  split
  · exact .pure _
  next e failed => exact .fail (AttributeBlock.isOfItem_decode failed)

namespace RibRecord

/-- What stands behind the network of a record. -/
theorem failsOnly_entries (sequence : UInt32) (target : RouteTarget) :
    FailsOnly FeedError.isOfItem (do
      let count ← Reader.u16
      let entries ← Reader.times (RibEntry.reader target) count.toNat
      return (⟨sequence, target, entries⟩ : RibRecord)) :=
  .bind FailsOnly.u16.ofItem fun _ => .bind (.times (RibEntry.failsOnly_reader target) _)
    fun _ => .pure _

theorem failsOnly_body (sequence : UInt32) (family : AddressFamily) (use : SubsequentFamily) :
    FailsOnly FeedError.isOfBody (body sequence family use) :=
  .bind (.network family) fun _ => (failsOnly_entries sequence _).ofBody

/-- Routes of one family are read from a record of that kind only. -/
theorem failsOnly_familyReader {subtype : TableDumpSubtype} (known : subtype.family?.isSome) :
    FailsOnly FeedError.isOfBody (familyReader subtype) := by
  unfold familyReader
  split
  · exact .bind FailsOnly.u32.ofItem.ofBody fun sequence => failsOnly_body _ _ _
  next unknown =>
    rw [unknown] at known
    cases known

theorem failsOnly_genericReader : FailsOnly FeedError.isOfBody genericReader := by
  refine .bind FailsOnly.u32.ofItem.ofBody fun sequence => ?_
  refine .bind FailsOnly.u16.ofItem.ofBody fun family => ?_
  refine .bind FailsOnly.u8.ofItem.ofBody fun use => ?_
  split
  · exact .bind (failsOnly_body _ _ _) fun record => .pure _
  · exact .pure _

end RibRecord

namespace TableDumpRecord

theorem failsOnly_reader (subtype : TableDumpSubtype) :
    FailsOnly FeedError.isOfBody (reader subtype) := by
  cases subtype with
  | peerIndexTable => exact .bind PeerIndex.failsOnly_reader.ofItem.ofBody fun index => .pure _
  | ribIpv4Unicast | ribIpv4Multicast | ribIpv6Unicast | ribIpv6Multicast =>
    exact .bind (RibRecord.failsOnly_familyReader rfl) fun record => .pure _
  | ribGeneric =>
    refine .bind RibRecord.failsOnly_genericReader fun record? => ?_
    cases record? with
    | some record => exact .pure _
    | none => exact .pure _
  | _ => exact .pure _

/-- A record of a table dump is refused for what is wrong in it, and for nothing else. -/
theorem isOfDump_decode {subtype : UInt16} {body : Octets} {e : FeedError}
    (failed : decode subtype body = .error e) : e.isOfDump = true := by
  unfold decode at failed
  split at failed
  next known found =>
    exact FeedError.isOfDump_of_isOfBody (failsOnly_reader known body e _ (Prod.ext failed rfl))
  next => cases failed; rfl

end TableDumpRecord

/-! ## Streams -/

namespace Framer

theorem isOfStream_readHeader {source after : Source} {e : FeedError}
    (failed : source.readHeader = (.error e, after)) : e.isOfStream = true := by
  unfold Source.readHeader at failed
  split at failed <;> cases failed <;> rfl

theorem isOfStream_rescan {framer after : Framer} {e : FeedError}
    (failed : framer.rescan = (.error e, after)) : e.isOfStream = true := by
  have failed : framer.source.rescan.1 = .error e := congrArg Prod.fst failed
  unfold Source.rescan at failed
  split at failed
  · cases failed
    rfl
  · split at failed
    · cases failed
      rfl
    · cases failed

theorem isOfStream_acceptHeader {skips : Nat} {framer after : Framer} {e : FeedError}
    (failed : framer.acceptHeader skips = (.error e, after)) : e.isOfStream = true := by
  fun_induction acceptHeader skips framer with
  | case1 skips framer e' source read =>
    cases failed
    exact isOfStream_readHeader read
  | case2 => cases failed
  | case3 skips framer header source read refused e' next scanned =>
    cases failed
    exact isOfStream_rescan scanned
  | case4 skips framer header source read refused length next scanned ih => exact ih failed

/-- No record is had if the stream ended too early or cannot be read, and for nothing else. -/
theorem isOfStream_next {framer after : Framer} {e : FeedError}
    (failed : framer.next = (.error e, after)) : e.isOfStream = true := by
  unfold next at failed
  split at failed
  next e' left refused =>
    cases failed
    exact isOfStream_acceptHeader refused
  next header skips left accepted =>
    unfold Source.readBody at failed
    split at failed
    next e' source read =>
      split at read
      · cases read
        cases failed
        rfl
      · split at read
        · cases read
          cases failed
          rfl
        · cases read
    next => cases failed

end Framer

end CollectorFeed
