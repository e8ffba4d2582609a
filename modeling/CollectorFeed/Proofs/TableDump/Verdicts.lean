import CollectorFeed.Proofs.Conversation.Logbook
import CollectorFeed.Proofs.Decoding.Errors
import CollectorFeed.Proofs.TableDump.CommitRule
import CollectorFeed.Proofs.TableDump.Grammar

/-!
# What a bad record does to a table dump

Behind the index a record is passed over, ends the taking in or breaks the conversation off, and the
error of its decoding says which. Two errors are told from all others: that of a subtype which is not
registered, and that of a network which is too long. The first one comes of the subtype alone
(`decode_eq_unexpected_iff`), the second one of the bit length of the record's own network
(`decode_eq_tooLong_iff`); no entry and no attribute brings about either. What a record does is thus
decided by its kind (`Aborts`, `Continues`). Whatever it is, it changes no session, and the tables
change by nothing else than that held routes are committed. Main statement:
`DumpTransfer.verdicts_accept`.
-/

set_option autoImplicit false

namespace CollectorFeed

open Reader

/-! ## Numbers of subtypes -/

namespace TableDumpSubtype

theorem ofCode?_eq_some_iff {code : UInt16} {subtype : TableDumpSubtype} :
    ofCode? code = some subtype ↔ code = subtype.code := by
  have inOrder : ∀ place (inside : place < all.length), all[place].code.toNat = place + 1 := by
    decide
  constructor
  · intro known
    unfold ofCode? at known
    split at known
    case isTrue => cases known
    case isFalse some_ =>
      obtain ⟨inside, rfl⟩ := List.getElem?_eq_some_iff.1 known
      have positive : code.toNat ≠ 0 := fun zero => some_ (UInt16.toNat_inj.1 zero)
      rw [← UInt16.toNat_inj, inOrder _ inside]
      omega
  · rintro rfl
    exact ofCode?_code subtype

/-- The registered numbers are those from one to twelve. -/
theorem ofCode?_eq_none_iff {code : UInt16} :
    ofCode? code = none ↔ ¬ (1 ≤ code.toNat ∧ code.toNat ≤ 12) := by
  have count : all.length = 12 := rfl
  have zero : code = 0 ↔ code.toNat = 0 := UInt16.toNat_inj.symm
  unfold ofCode?
  split
  case isTrue none_ =>
    rw [zero] at none_
    simp [none_]
  case isFalse some_ =>
    rw [zero] at some_
    rw [List.getElem?_eq_none_iff, count]
    omega

end TableDumpSubtype

/-! ## Networks that are too long -/

/-- Octets that stand in front of the network of a record: its sequence number, and in a generic
record the registered numbers of a family and of a use. -/
inductive NetworkFront : TableDumpSubtype → AddressFamily → Octets → Prop
  | named {subtype : TableDumpSubtype} {family : AddressFamily} {use : SubsequentFamily}
      (known : subtype.family? = some (family, use)) (sequence : UInt32) :
      NetworkFront subtype family (Octets.ofNat 4 sequence.toNat)
  | generic (sequence : UInt32) (family : AddressFamily) (use : SubsequentFamily) :
      NetworkFront .ribGeneric family
        (Octets.ofNat 4 sequence.toNat ++ (Octets.ofNat 2 family.code.toNat ++ [use.code]))

/-- The bit length of a network is greater than its family allows. -/
structure ExceedsFamily (family : AddressFamily) (octet : UInt8) (bits max : Nat) : Prop where
  bits : bits = octet.toNat
  max : max = family.maxBits
  exceeds : family.maxBits < octet.toNat

/-- The fields in front of the network of a record are there, and a bit length behind them that its
family does not allow. -/
def TooLong (subtype : UInt16) (body : Octets) (bits max : Nat) : Prop :=
  ∃ (known : TableDumpSubtype) (family : AddressFamily) (front : Octets) (octet : UInt8)
    (rest : Octets), subtype = known.code ∧ NetworkFront known family front ∧
      body = front ++ octet :: rest ∧ ExceedsFamily family octet bits max

theorem Reader.run_network_eq_tooLong_iff {family : AddressFamily} {buffer rest : Octets}
    {bits max : Nat} :
    (Reader.network family).run buffer = (.error (.networkTooLong bits max), rest) ↔
      ∃ octet, buffer = octet :: rest ∧ ExceedsFamily family octet bits max := by
  unfold Reader.network
  rw [FailsOnly.u8.run_bind_eq_error_iff rfl]
  simp only [run_u8_eq_ok_iff]
  constructor
  · rintro ⟨octet, between, rfl, failed⟩
    split at failed
    case isTrue fits =>
      rw [(FailsOnly.take _).run_bind_eq_error_iff rfl] at failed
      obtain ⟨_, _, -, failed⟩ := failed
      cases failed
    case isFalse exceeds =>
      cases failed
      exact ⟨octet, rfl, rfl, rfl, Nat.lt_of_not_le exceeds⟩
  · rintro ⟨octet, rfl, rfl, rfl, exceeds⟩
    refine ⟨octet, rest, rfl, ?_⟩
    rw [dif_neg (Nat.not_le_of_lt exceeds)]
    rfl

namespace RibRecord

/-- What stands behind the network of a record is never refused for a network. -/
theorem run_body_eq_tooLong_iff {sequence : UInt32} {family : AddressFamily}
    {use : SubsequentFamily} {buffer rest : Octets} {bits max : Nat} :
    (body sequence family use).run buffer = (.error (.networkTooLong bits max), rest) ↔
      ∃ octet, buffer = octet :: rest ∧ ExceedsFamily family octet bits max := by
  unfold body
  rw [FailsOnly.run_bind_eq_error_iff_left (fun _ => failsOnly_entries sequence _) rfl]
  exact Reader.run_network_eq_tooLong_iff

theorem run_familyReader_eq_tooLong_iff {subtype : TableDumpSubtype}
    {named : AddressFamily × SubsequentFamily} (known : subtype.family? = some named)
    {buffer rest : Octets} {bits max : Nat} :
    (familyReader subtype).run buffer = (.error (.networkTooLong bits max), rest) ↔
      ∃ front octet, NetworkFront subtype named.1 front ∧ buffer = front ++ octet :: rest ∧
        ExceedsFamily named.1 octet bits max := by
  rw [familyReader, known, FailsOnly.u32.run_bind_eq_error_iff rfl]
  simp only [run_u32_eq_ok_iff, run_body_eq_tooLong_iff]
  constructor
  · rintro ⟨sequence, _, rfl, octet, rfl, exceeds⟩
    exact ⟨_, octet, .named known sequence, rfl, exceeds⟩
  · rintro ⟨_, octet, front, rfl, exceeds⟩
    cases front with
    | named _ sequence => exact ⟨sequence, _, rfl, octet, rfl, exceeds⟩
    | generic sequence family use => cases known

theorem run_genericReader_eq_tooLong_iff {buffer rest : Octets} {bits max : Nat} :
    genericReader.run buffer = (.error (.networkTooLong bits max), rest) ↔
      ∃ family front octet, NetworkFront .ribGeneric family front ∧
        buffer = front ++ octet :: rest ∧ ExceedsFamily family octet bits max := by
  have nothingBehind (record : RibRecord) :
      FailsOnly FeedError.isOfItem (pure (some record) : Reader (Option RibRecord)) :=
    .pure _
  constructor
  · intro failed
    obtain ⟨sequence, _, first, late⟩ := (FailsOnly.u32.run_bind_eq_error_iff rfl).1 failed
    obtain ⟨family, _, second, later⟩ := (FailsOnly.u16.run_bind_eq_error_iff rfl).1 late
    obtain ⟨use, _, third, latest⟩ := (FailsOnly.u8.run_bind_eq_error_iff rfl).1 later
    obtain rfl := run_u32_eq_ok_iff.1 first
    obtain rfl := run_u16_eq_ok_iff.1 second
    obtain rfl := run_u8_eq_ok_iff.1 third
    split at latest
    -- a family or a use that is not registered is not refused, whatever stands behind it
    case h_2 => cases latest
    case h_1 family' use' known known' =>
      obtain rfl := AddressFamily.ofCode?_eq_some_iff.1 known
      obtain rfl := SubsequentFamily.ofCode?_eq_some_iff.1 known'
      rw [FailsOnly.run_bind_eq_error_iff_left nothingBehind rfl, run_body_eq_tooLong_iff] at latest
      obtain ⟨octet, rfl, exceeds⟩ := latest
      refine ⟨family', _, octet, .generic sequence family' use', ?_, exceeds⟩
      simp only [List.append_assoc, List.cons_append, List.nil_append]
  · rintro ⟨family, _, octet, front, rfl, exceeds⟩
    cases front with
    | named known sequence => cases known
    | generic sequence family use =>
      rw [List.append_assoc, List.append_assoc, genericReader, run_bind_ok (consumes_u32 sequence _),
        run_bind_ok (consumes_u16 family.code _), run_bind_ok (consumes_u8 use.code _),
        AddressFamily.ofCode?_code, SubsequentFamily.ofCode?_code]
      refine (FailsOnly.run_bind_eq_error_iff_left nothingBehind rfl).2 ?_
      exact run_body_eq_tooLong_iff.2 ⟨octet, rfl, exceeds⟩

end RibRecord

namespace TableDumpRecord

/-- Whatever the subtype, a body is refused for a network exactly if the record's own network is too
long. -/
theorem run_reader_eq_tooLong_iff {subtype : TableDumpSubtype} {buffer rest : Octets}
    {bits max : Nat} :
    (reader subtype).run buffer = (.error (.networkTooLong bits max), rest) ↔
      ∃ family front octet, NetworkFront subtype family front ∧
        buffer = front ++ octet :: rest ∧ ExceedsFamily family octet bits max := by
  cases named : subtype.family? with
  | some family =>
    have nothingBehind (record : RibRecord) :
        FailsOnly FeedError.isOfItem (pure (.rib record) : Reader TableDumpRecord) :=
      .pure _
    rw [reader_of_family? named, FailsOnly.run_bind_eq_error_iff_left nothingBehind rfl,
      RibRecord.run_familyReader_eq_tooLong_iff named]
    constructor
    · rintro ⟨front, octet, there, split, exceeds⟩
      exact ⟨family.1, front, octet, there, split, exceeds⟩
    · rintro ⟨_, _, octet, there, split, exceeds⟩
      cases there with
      | named known sequence =>
        cases named.symm.trans known
        exact ⟨_, octet, .named known sequence, split, exceeds⟩
      | generic => cases named
  | none =>
    by_cases generic : subtype = .ribGeneric
    · subst generic
      have other : FeedError.isOfItem (.networkTooLong bits max) = false := rfl
      refine (FailsOnly.run_bind_eq_error_iff_left (fun record? => ?_) other).trans
        RibRecord.run_genericReader_eq_tooLong_iff
      cases record? with
      | some record => exact .pure _
      | none => exact .pure _
    · have ofItem : FailsOnly FeedError.isOfItem (reader subtype) := by
        cases subtype with
        | ribGeneric => exact absurd rfl generic
        | ribIpv4Unicast | ribIpv4Multicast | ribIpv6Unicast | ribIpv6Multicast => cases named
        | peerIndexTable => exact .bind PeerIndex.failsOnly_reader.ofItem fun index => .pure _
        | _ => exact .pure _
      constructor
      · intro failed
        cases ofItem buffer _ rest failed
      · rintro ⟨_, _, _, there, -⟩
        cases there with
        | named known => cases named.symm.trans known
        | generic => exact absurd rfl generic

/-- A record is refused for a network exactly if its own network is too long, and then it is told
with its bit length. -/
theorem decode_eq_tooLong_iff {subtype : UInt16} {body : Octets} {bits max : Nat} :
    decode subtype body = .error (.networkTooLong bits max) ↔ TooLong subtype body bits max := by
  unfold decode
  constructor
  · intro failed
    split at failed
    next known found =>
      obtain ⟨family, front, octet, there, split, exceeds⟩ :=
        run_reader_eq_tooLong_iff.1 (Prod.ext failed rfl)
      exact ⟨known, family, front, octet, _, TableDumpSubtype.ofCode?_eq_some_iff.1 found, there,
        split, exceeds⟩
    next => cases failed
  · rintro ⟨known, family, front, octet, rest, rfl, there, split, exceeds⟩
    have failed := run_reader_eq_tooLong_iff.2 ⟨family, front, octet, there, split, exceeds⟩
    rw [TableDumpSubtype.ofCode?_code]
    exact congrArg Prod.fst failed

/-- A record is refused for its subtype exactly if that is not registered, whatever its body is. -/
theorem decode_eq_unexpected_iff {subtype : UInt16} {body : Octets} :
    (∃ type code, decode subtype body = .error (.unexpectedSubtype type code)) ↔
      ¬ (1 ≤ subtype.toNat ∧ subtype.toNat ≤ 12) := by
  rw [← TableDumpSubtype.ofCode?_eq_none_iff]
  unfold decode
  cases found : TableDumpSubtype.ofCode? subtype with
  | some known =>
    refine iff_of_false ?_ (Option.some_ne_none known)
    rintro ⟨type, code, failed⟩
    cases failsOnly_reader known body _ _ (Prod.ext failed rfl)
  | none => exact iff_of_true ⟨_, _, rfl⟩ rfl

/-! ### Records that are passed over -/

/-- The numbers of a family and of a use stand behind the sequence number, and one of them is not
registered. -/
def NamesUnknownFamily (body : Octets) : Prop :=
  ∃ (sequence : UInt32) (family : UInt16) (use : UInt8) (rest : Octets),
    body = Octets.ofNat 4 sequence.toNat ++ (Octets.ofNat 2 family.toNat ++ use :: rest) ∧
      (AddressFamily.ofCode? family = none ∨ SubsequentFamily.ofCode? use = none)

theorem exists_run_genericReader_eq_none_iff {buffer : Octets} :
    (∃ left, RibRecord.genericReader.run buffer = (.ok none, left)) ↔ NamesUnknownFamily buffer := by
  constructor
  · rintro ⟨left, read⟩
    unfold RibRecord.genericReader at read
    simp only [run_bind_eq_ok_iff, run_u32_eq_ok_iff, run_u16_eq_ok_iff, run_u8_eq_ok_iff] at read
    obtain ⟨sequence, _, rfl, family, _, rfl, use, _, rfl, read⟩ := read
    refine ⟨sequence, family, use, _, rfl, ?_⟩
    split at read
    case h_1 =>
      -- routes are read of a registered family
      obtain ⟨_, _, -, same⟩ := run_bind_eq_ok_iff.1 read
      cases same
    case h_2 unknown =>
      cases known : AddressFamily.ofCode? family with
      | none => exact .inl rfl
      | some family' =>
        refine .inr (Option.eq_none_iff_forall_ne_some.2 fun use' known' => ?_)
        exact unknown family' use' known known'
  · rintro ⟨sequence, family, use, rest, rfl, unknown⟩
    refine ⟨rest, ?_⟩
    rw [← List.singleton_append, RibRecord.genericReader, run_bind_ok (consumes_u32 sequence _),
      run_bind_ok (consumes_u16 family _), run_bind_ok (consumes_u8 use _)]
    split
    case h_1 known known' =>
      rw [known, known'] at unknown
      rcases unknown with nothing | nothing
      · cases nothing
      · cases nothing
    case h_2 => rfl

/-- A record is passed over exactly if nothing is known to be done with its subtype, or if it is a
generic one of a family that is not known. -/
theorem exists_decode_eq_skipped_iff {subtype : UInt16} {body : Octets} :
    (∃ known, decode subtype body = .ok (.skipped known)) ↔
      7 ≤ subtype.toNat ∧ subtype.toNat ≤ 12 ∨
        subtype = TableDumpSubtype.ribGeneric.code ∧ NamesUnknownFamily body := by
  constructor
  · rintro ⟨skipped, decoded⟩
    unfold decode at decoded
    split at decoded
    case h_2 => cases decoded
    case h_1 known found =>
      obtain rfl := TableDumpSubtype.ofCode?_eq_some_iff.1 found
      obtain ⟨left, read⟩ := run_fst_eq_ok_iff.1 decoded
      cases known with
      | peerIndexTable =>
        obtain ⟨_, _, -, same⟩ := run_bind_eq_ok_iff.1 read
        cases same
      | ribIpv4Unicast | ribIpv4Multicast | ribIpv6Unicast | ribIpv6Multicast =>
        obtain ⟨_, _, -, same⟩ := run_bind_eq_ok_iff.1 read
        cases same
      | ribGeneric =>
        obtain ⟨record?, between, taken, told⟩ := run_bind_eq_ok_iff.1 read
        cases record? with
        | some record => cases told
        | none => exact .inr ⟨rfl, exists_run_genericReader_eq_none_iff.1 ⟨between, taken⟩⟩
      | _ => exact .inl (by decide)
  · rintro (⟨above, below⟩ | ⟨rfl, unknown⟩)
    · cases found : TableDumpSubtype.ofCode? subtype with
      | none => exact absurd ⟨by omega, below⟩ (TableDumpSubtype.ofCode?_eq_none_iff.1 found)
      | some known =>
        obtain rfl := TableDumpSubtype.ofCode?_eq_some_iff.1 found
        refine ⟨known, ?_⟩
        unfold decode
        rw [found]
        cases known with
        | peerIndexTable | ribIpv4Unicast | ribIpv4Multicast | ribIpv6Unicast | ribIpv6Multicast
        | ribGeneric => exact absurd above (by decide)
        | _ => rfl
    · obtain ⟨left, taken⟩ := exists_run_genericReader_eq_none_iff.2 unknown
      refine ⟨.ribGeneric, ?_⟩
      rw [decode, TableDumpSubtype.ofCode?_code]
      exact congrArg Prod.fst (run_bind_ok taken)

end TableDumpRecord

/-! ## Kinds of records -/

open TableDumpRecord (decode)

/-- A record that breaks the conversation off: it is not one of table dumps, its subtype is not
registered, or it is a further index. -/
inductive Aborts (record : FramedRecord) : Prop
  | type (other : record.header.knownType? ≠ some .tableDumpV2)
  | subtype (unknown : ¬ (1 ≤ record.header.subtype.toNat ∧ record.header.subtype.toNat ≤ 12))
  | index (index : PeerIndex) (decoded : decode record.header.subtype record.body = .ok (.index index))

/-- A record of a table dump behind which routes are still taken in, if so many routers are listed:
it gives routes to listed routers or none at all, it is passed over, or its network is too long. -/
inductive Harmless (peers : Nat) (record : FramedRecord) : Prop
  | routes (rib : RibRecord) (decoded : decode record.header.subtype record.body = .ok (.rib rib))
      (listed : ∀ entry ∈ rib.entries, entry.peerPlace.toNat < peers)
  | subtype (ignored : 7 ≤ record.header.subtype.toNat ∧ record.header.subtype.toNat ≤ 12)
  | family (generic : record.header.subtype = TableDumpSubtype.ribGeneric.code)
      (unknown : TableDumpRecord.NamesUnknownFamily record.body)
  | network (bits max : Nat) (tooLong : TooLong record.header.subtype record.body bits max)

/-- A record behind which routes are still taken in. -/
structure Continues (peers : Nat) (record : FramedRecord) : Prop where
  type : record.header.knownType? = some .tableDumpV2
  harmless : Harmless peers record

theorem aborts_iff {record : FramedRecord} :
    Aborts record ↔ record.header.knownType? ≠ some .tableDumpV2 ∨
      (∃ type code, decode record.header.subtype record.body =
        .error (.unexpectedSubtype type code)) ∨
      ∃ index, decode record.header.subtype record.body = .ok (.index index) := by
  rw [TableDumpRecord.decode_eq_unexpected_iff]
  constructor
  · rintro (other | unknown | ⟨index, decoded⟩)
    · exact .inl other
    · exact .inr (.inl unknown)
    · exact .inr (.inr ⟨index, decoded⟩)
  · rintro (other | unknown | ⟨index, decoded⟩)
    · exact .type other
    · exact .subtype unknown
    · exact .index index decoded

theorem harmless_iff {peers : Nat} {record : FramedRecord} :
    Harmless peers record ↔
      (∃ rib, decode record.header.subtype record.body = .ok (.rib rib) ∧
        ∀ entry ∈ rib.entries, entry.peerPlace.toNat < peers) ∨
      (∃ known, decode record.header.subtype record.body = .ok (.skipped known)) ∨
      ∃ bits max, decode record.header.subtype record.body = .error (.networkTooLong bits max) := by
  simp only [TableDumpRecord.exists_decode_eq_skipped_iff, TableDumpRecord.decode_eq_tooLong_iff]
  constructor
  · rintro (⟨rib, decoded, listed⟩ | ignored | ⟨generic, unknown⟩ | ⟨bits, max, tooLong⟩)
    · exact .inl ⟨rib, decoded, listed⟩
    · exact .inr (.inl (.inl ignored))
    · exact .inr (.inl (.inr ⟨generic, unknown⟩))
    · exact .inr (.inr ⟨bits, max, tooLong⟩)
  · rintro (⟨rib, decoded, listed⟩ | (ignored | ⟨generic, unknown⟩) | ⟨bits, max, tooLong⟩)
    · exact .routes rib decoded listed
    · exact .subtype ignored
    · exact .family generic unknown
    · exact .network bits max tooLong

theorem Continues.not_aborts {peers : Nat} {record : FramedRecord}
    (continues : Continues peers record) : ¬ Aborts record := by
  rw [aborts_iff]
  have kinds := harmless_iff.1 continues.harmless
  rintro (other | ⟨type, code, decoded⟩ | ⟨index, decoded⟩)
  · exact other continues.type
  · simp [decoded] at kinds
  · simp [decoded] at kinds

/-- Of the records that do not break the conversation off the malformed ones end the taking in. -/
theorem isMalformed_eq_false_iff (peers : Nat) {record : FramedRecord} (spared : ¬ Aborts record) :
    isMalformed peers record = false ↔ Continues peers record := by
  rw [aborts_iff] at spared
  have type : record.header.knownType? = some .tableDumpV2 := by
    by_contra other
    exact spared (.inl other)
  have onlyKind : Continues peers record ↔ Harmless peers record :=
    ⟨Continues.harmless, fun harmless => ⟨type, harmless⟩⟩
  rw [onlyKind, harmless_iff, isMalformed]
  cases decoded : decode record.header.subtype record.body with
  | ok content =>
    cases content with
    | index index => exact absurd (.inr (.inr ⟨index, decoded⟩)) spared
    | skipped known => simp
    | rib rib => simp
  | error e =>
    cases e with
    | networkTooLong bits max => simp
    | _ => simp

/-! ## What a record does -/

namespace DumpTransfer

/-- The routes that a record confirms: a good one confirms those that are held, unless a recovery scan
was needed in front of it. -/
def confirmedBy (dump : DumpTransfer) (record : FramedRecord) : RouteBatch :=
  if record.recoveries = 0 ∧ (goodRib? dump.tables.length record).isSome = true then dump.heldBatch
  else []

/-- What a record behind the index comes to. -/
structure Verdict (dump : DumpTransfer) (record : FramedRecord) (result : Except FeedError Unit)
    (after : DumpTransfer) : Prop where
  /-- The conversation is broken off. -/
  aborts : (∃ e, result = .error e) ↔ Aborts record
  /-- Routes are still taken in. -/
  continues : result = .ok () ∧ after.phase = .intake ↔ Continues dump.tables.length record
  /-- The taking in has ended. -/
  ends : result = .ok () ∧ after.phase = .handover ↔
    ¬ Aborts record ∧ ¬ Continues dump.tables.length record
  index? : after.index? = dump.index?
  /-- All that happens to the tables is that the confirmed routes are committed. -/
  committed : after.tables = commitTables dump.tables (dump.confirmedBy record)
  /-- No table comes or goes. -/
  count : after.tables.length = dump.tables.length
  /-- No table loses a route or gets another session. What it gets was held and is confirmed, and it
  has data if it had any before or gets some. -/
  tables : ∀ place table, dump.tables[place]? = some table →
    ∃ grown, after.tables[place]? = some grown ∧
      grown.routes.toList = table.routes.toList ++ routesAt place (dump.confirmedBy record) ∧
      grown.peer = table.peer ∧ grown.session = table.session ∧ grown.resolved = table.resolved ∧
      grown.hasData = (table.hasData || !(routesAt place (dump.confirmedBy record)).isEmpty)

variable {dump after : DumpTransfer} {record : FramedRecord}

theorem acceptRoutes_eq (dump : DumpTransfer) (record : FramedRecord) :
    dump.acceptRoutes record =
      if record.header.knownType? = some .tableDumpV2 then
        (dump.clearFor record).acceptDecoded record.header.type record.header.subtype
          (decode record.header.subtype record.body)
      else (.error (.unexpectedType record.header.type), dump.clearFor record) :=
  rfl

/-- A record that breaks the conversation off does nothing but what the scan in front of it did. -/
theorem acceptRoutes_of_aborts (dump : DumpTransfer) (aborts : Aborts record) :
    ∃ e, dump.acceptRoutes record = (.error e, dump.clearFor record) := by
  rw [acceptRoutes_eq]
  split
  case isFalse => exact ⟨_, rfl⟩
  case isTrue known =>
    rcases aborts_iff.1 aborts with other | ⟨type, code, decoded⟩ | ⟨index, decoded⟩
    · exact absurd known other
    · exact ⟨_, by rw [decoded]; rfl⟩
    · exact ⟨_, by rw [decoded]; rfl⟩

theorem acceptRoutes_of_not_aborts (dump : DumpTransfer) (spared : ¬ Aborts record) :
    ∃ after, dump.acceptRoutes record = (.ok (), after) := by
  rw [aborts_iff] at spared
  rw [acceptRoutes_eq]
  split
  case isFalse other => exact absurd (.inl other) spared
  case isTrue known =>
    cases decoded : decode record.header.subtype record.body with
    | ok content =>
      cases content with
      | index index => exact absurd (.inr (.inr ⟨index, decoded⟩)) spared
      | skipped known => exact ⟨_, rfl⟩
      | rib rib => exact ⟨_, rfl⟩
    | error e =>
      cases e with
      | unexpectedSubtype type code => exact absurd (.inr (.inl ⟨type, code, decoded⟩)) spared
      | networkTooLong bits max => exact ⟨_, rfl⟩
      | _ => exact ⟨_, rfl⟩

theorem goodRib?_of_aborts (aborts : Aborts record) (peers : Nat) :
    goodRib? peers record = none := by
  by_contra good
  obtain ⟨rib, good⟩ := Option.ne_none_iff_exists'.1 good
  obtain ⟨known, decoded, -, listed⟩ := goodRib?_eq_some_iff.1 good
  exact Continues.not_aborts ⟨known, .routes rib decoded listed⟩ aborts

theorem confirmedBy_of_not_good (bad : goodRib? dump.tables.length record = none) :
    dump.confirmedBy record = [] := by
  rw [confirmedBy, bad]
  exact if_neg fun both => by cases both.2

theorem confirmedBy_of_good {rib : RibRecord}
    (good : goodRib? dump.tables.length record = some rib) :
    dump.confirmedBy record = (dump.clearFor record).heldBatch := by
  rw [confirmedBy, good, heldBatch_clearFor]
  by_cases scanned : record.recoveries = 0
  · simp [scanned]
  · simp [scanned]

/-- Whatever a record is, the tables change by what it confirms. -/
theorem tables_acceptRoutes (dump : DumpTransfer) (record : FramedRecord) :
    (dump.acceptRoutes record).2.tables = commitTables dump.tables (dump.confirmedBy record) ∧
      (dump.acceptRoutes record).2.index? = dump.index? := by
  by_cases aborts : Aborts record
  · obtain ⟨e, done⟩ := acceptRoutes_of_aborts dump aborts
    rw [done, confirmedBy_of_not_good (goodRib?_of_aborts aborts _)]
    exact ⟨tables_clearFor dump record, index?_clearFor dump record⟩
  · obtain ⟨after, done⟩ := acceptRoutes_of_not_aborts dump aborts
    rw [done]
    rcases acceptRoutes_cases done with
      ⟨rib, good, -, advances⟩ | ⟨-, bad, -, drops⟩ | ⟨-, bad, -, drops⟩
    · rw [confirmedBy_of_good good, advances.tables, advances.index?, tables_clearFor]
      exact ⟨rfl, index?_clearFor dump record⟩
    · rw [confirmedBy_of_not_good bad]
      exact ⟨drops.tables, drops.index?⟩
    · rw [confirmedBy_of_not_good bad]
      exact ⟨drops.tables, drops.index?⟩

theorem grown_commitTables (tables : List PeerTable) (batch : RouteBatch) (place : Nat)
    (table : PeerTable) (found : tables[place]? = some table) :
    ∃ grown, (commitTables tables batch)[place]? = some grown ∧
      grown.routes.toList = table.routes.toList ++ routesAt place batch ∧
      grown.peer = table.peer ∧ grown.session = table.session ∧
      grown.resolved = table.resolved ∧
      grown.hasData = (table.hasData || !(routesAt place batch).isEmpty) := by
  refine ⟨table.commitAll (routesAt place batch), ?_, PeerTable.routes_commitAll _ _, ?_, ?_, ?_,
    PeerTable.hasData_commitAll _ _⟩
  · rw [getElem?_commitTables, found, Option.map_some]
  · exact PeerTable.field_commitAll (fun _ _ => rfl) table _
  · exact PeerTable.field_commitAll (fun _ _ => rfl) table _
  · exact PeerTable.field_commitAll (fun _ _ => rfl) table _

/-- A record that is taken ends the taking in exactly if it is malformed. -/
theorem phase_of_taken (taking : dump.phase = .intake)
    (done : dump.acceptRoutes record = (.ok (), after)) :
    isMalformed dump.tables.length record = false ∧ after.phase = .intake ∨
      isMalformed dump.tables.length record = true ∧ after.phase = .handover := by
  rcases acceptRoutes_cases done with
    ⟨rib, -, sound, advances⟩ | ⟨malformed, -, handing, -⟩ | ⟨sound, -, stays, -⟩
  · exact .inl ⟨sound, advances.phase.trans ((phase_clearFor dump record).trans taking)⟩
  · exact .inr ⟨malformed, handing⟩
  · exact .inl ⟨sound, stays.trans taking⟩

theorem verdict_acceptRoutes (dump : DumpTransfer) (taking : dump.phase = .intake)
    (record : FramedRecord) :
    Verdict dump record (dump.acceptRoutes record).1 (dump.acceptRoutes record).2 := by
  obtain ⟨committed, index?⟩ := tables_acceptRoutes dump record
  have count : (dump.acceptRoutes record).2.tables.length = dump.tables.length := by
    rw [committed, length_commitTables]
  have grown := grown_commitTables dump.tables (dump.confirmedBy record)
  rw [← committed] at grown
  -- the tables change alike in all three cases, so only the result and the phase are left to tell
  by_cases aborts : Aborts record
  · obtain ⟨e, done⟩ := acceptRoutes_of_aborts dump aborts
    have stops : ¬ Continues dump.tables.length record := fun on => on.not_aborts aborts
    rw [done] at index? committed count grown ⊢
    refine ⟨iff_of_true ⟨e, rfl⟩ aborts, iff_of_false ?_ stops, iff_of_false ?_ ?_, index?,
      committed, count, grown⟩
    · rintro ⟨same, -⟩
      cases same
    · rintro ⟨same, -⟩
      cases same
    · exact fun both => both.1 aborts
  · obtain ⟨after, done⟩ := acceptRoutes_of_not_aborts dump aborts
    have sound := isMalformed_eq_false_iff dump.tables.length aborts
    have phases := phase_of_taken taking done
    rw [done] at index? committed count grown ⊢
    refine ⟨iff_of_false ?_ aborts, ?_, ?_, index?, committed, count, grown⟩
    · rintro ⟨e, same⟩
      cases same
    · rw [← sound]
      rcases phases with ⟨fine, stays⟩ | ⟨malformed, ended⟩
      · exact iff_of_true ⟨rfl, stays⟩ fine
      · exact iff_of_false (by simp [ended]) (by simp [malformed])
    · rw [← sound]
      rcases phases with ⟨fine, stays⟩ | ⟨malformed, ended⟩
      · exact iff_of_false (by simp [stays]) (by simp [fine])
      · exact iff_of_true ⟨rfl, ended⟩ ⟨aborts, by simp [malformed]⟩

/-- The decoder refuses a record for its subtype exactly if that is not registered, and for a network
exactly if its own network is too long, whatever its entries and attributes are. So a record behind
the index breaks the conversation off, lets it go on or ends the taking in by its kind alone. No
surroundings see anything of it, so no session changes. The tables are those from before with the held
routes committed that a good record confirms, and without such a record they are the same. -/
theorem verdicts_accept :
    (∀ (subtype : UInt16) (body : Octets),
      ((∃ type code, decode subtype body = .error (.unexpectedSubtype type code)) ↔
        ¬ (1 ≤ subtype.toNat ∧ subtype.toNat ≤ 12)) ∧
      ∀ bits max, decode subtype body = .error (.networkTooLong bits max) ↔
        TooLong subtype body bits max) ∧
    ∀ {ω : Type} [Surroundings ω] (dump : DumpTransfer) (record : FramedRecord) (world : ω),
      dump.phase = .intake →
        ∃ result after, (dump.accept record).run world = ((result, after), world) ∧
          Verdict dump record result after := by
  refine ⟨fun subtype body => ⟨TableDumpRecord.decode_eq_unexpected_iff,
    fun _ _ => TableDumpRecord.decode_eq_tooLong_iff⟩, ?_⟩
  intro ω _ dump record world taking
  refine ⟨_, _, run_accept_intake taking record world, ?_⟩
  -- counting the record changes nothing that the verdict is about
  have verdict := verdict_acceptRoutes dump.noteRecord taking record
  exact ⟨verdict.aborts, verdict.continues, verdict.ends, verdict.index?, verdict.committed,
    verdict.count, verdict.tables⟩

/-- A table dump that holds one route of its only router. -/
def heldTransfer : DumpTransfer :=
  (((new .usual .label).feed [sampleOpening, sampleRoute 0 1 0]).run Logbook.blank).1.2

/-- A further route of the router confirms the held one, and a route of a router that is not listed
ends the taking in. -/
theorem verdicts_accept_heldTransfer :
    heldTransfer.phase = .intake ∧
      (∃ after, (heldTransfer.accept (sampleRoute 0 2 0)).run Logbook.blank =
          ((.ok (), after), Logbook.blank) ∧
        Continues 1 (sampleRoute 0 2 0) ∧ after.stats.committedRoutes = 1) ∧
      ∃ after, (heldTransfer.accept (sampleRoute 7 4 0)).run Logbook.blank =
          ((.ok (), after), Logbook.blank) ∧
        ¬ Aborts (sampleRoute 7 4 0) ∧ ¬ Continues 1 (sampleRoute 7 4 0) := by
  obtain ⟨result, after, done, verdict⟩ :=
    verdicts_accept.2 heldTransfer (sampleRoute 0 2 0) Logbook.blank rfl
  obtain ⟨result', after', done', verdict'⟩ :=
    verdicts_accept.2 heldTransfer (sampleRoute 7 4 0) Logbook.blank rfl
  cases done.symm.trans (show _ = ((.ok (), _), Logbook.blank) from rfl)
  cases done'.symm.trans (show _ = ((.ok (), _), Logbook.blank) from rfl)
  refine ⟨rfl, ⟨_, done, verdict.continues.1 ⟨rfl, rfl⟩, rfl⟩, ?_⟩
  exact ⟨_, done', verdict'.ends.1 ⟨rfl, rfl⟩⟩

end DumpTransfer

end CollectorFeed
