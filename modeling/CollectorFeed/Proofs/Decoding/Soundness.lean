import CollectorFeed.Conversation.DumpTransfer
import CollectorFeed.Proofs.Decoding.Accesses
import CollectorFeed.Proofs.Decoding.Errors
import CollectorFeed.Proofs.Update.Reception

/-!
# No input breaks a decoder down

What decoders and encoders do with octets they do without a check (`Unchecked`), behind checks that
stand elsewhere. `Unchecked.sound` puts together that these checks are enough, for all octets,
attributes and routes: every decoder and encoder ends, stays inside of its buffers and comes to what
its checked form comes to. So the branches that some of them have for a network whose accepted
length is refused after all, for a subtype that no reader is there for, and for an opening record
that holds no index, are never entered.

The only unchecked access of an encoder is to the address of a network. That a network is no longer
than its address is part of what a network is.
-/

set_option autoImplicit false

namespace CollectorFeed

namespace Unchecked

/-! ## Messages -/

/-- Writes an attribute behind octets; the flags that are written tell the width of its length. -/
def appendAttribute (front : Octets) (attr : PathAttribute) : Octets :=
  let width := if AttributeFlags.isExtended attr.writtenFlags then 2 else 1
  front ++ attr.writtenFlags :: attr.code :: (Octets.ofNat width attr.value.length ++ attr.value)

/-- The octets of a message in front of its network: a head, whose lengths are counted beforehand,
then one attribute after the other. -/
def messageFront (attributes : List PathAttribute) (network? : Option Network) : Octets :=
  attributes.foldl appendAttribute <|
    bgpMarker ++ Octets.ofNat 2 (UpdateMessage.totalLength attributes network?) ++
      [bgpUpdateType] ++ Octets.ofNat 2 0 ++
      Octets.ofNat 2 (UpdateMessage.attributesLength attributes)

/-- Writes a message whose length fits. -/
def messageOctets (attributes : List PathAttribute) (network? : Option Network) : Outcome Octets :=
  match network? with
  | some network => appendNetwork (messageFront attributes network?) network
  | none => return messageFront attributes network?

/-- Writes a message, unless its length does not fit. -/
def message (attributes : List PathAttribute) (network? : Option Network) : Outcome Octets :=
  if UpdateMessage.greatestLength < UpdateMessage.totalLength attributes network? then
    throw (.refused (.malformedAttribute (.messageTooLong
      (UpdateMessage.totalLength attributes network?))))
  else messageOctets attributes network?

theorem appendAttribute_eq (front : Octets) (attr : PathAttribute) :
    appendAttribute front attr = front ++ attr.encode := by
  rw [appendAttribute, attr.isExtended_writtenFlags]
  rfl

theorem foldl_appendAttribute (front : Octets) (attributes : List PathAttribute) :
    attributes.foldl appendAttribute front
      = front ++ UpdateMessage.encodeAttributes attributes := by
  induction attributes generalizing front with
  | nil => simp [UpdateMessage.encodeAttributes]
  | cons first rest ih =>
    rw [List.foldl_cons, ih, appendAttribute_eq, UpdateMessage.encodeAttributes,
      UpdateMessage.encodeAttributes, List.flatMap_cons, List.append_assoc]

theorem messageOctets_eq (attributes : List PathAttribute) (network? : Option Network) :
    messageOctets attributes network? = pure (UpdateMessage.octets attributes network?) := by
  cases network? with
  | none =>
    rw [messageOctets, messageFront, foldl_appendAttribute, UpdateMessage.octets,
      UpdateMessage.encodeNetwork, Option.map_none, Option.getD_none, List.append_nil]
  | some network =>
    rw [messageOctets, appendNetwork_eq, messageFront, foldl_appendAttribute]
    rfl

theorem message_eq (attributes : List PathAttribute) (network? : Option Network) :
    message attributes network? = .settle (UpdateMessage.encode attributes network?) := by
  rw [message, UpdateMessage.encode]
  by_cases long : UpdateMessage.greatestLength < UpdateMessage.totalLength attributes network?
  · rw [if_pos long, if_pos long]
    rfl
  · rw [if_neg long, if_neg long]
    exact messageOctets_eq attributes network?

/-! ## Narrow AS numbers -/

/-- What stands for a path attribute in a session with narrow AS numbers. -/
noncomputable def narrowPath (hasFull : Bool) (attr : PathAttribute) :
    Outcome (List PathAttribute) := do
  match ← Outcome.attempt ((asPath .four).on attr.value) with
  | .ok segments =>
    return { attr with value := AsPath.encode .two segments } ::
      Narrowing.fullValue (segments.any PathSegment.isWide && !hasFull) .as4Path attr.value
  | .error _ => return [attr]

/-- What stands for an aggregator in a session with narrow AS numbers. -/
def narrowAggregator (hasFull : Bool) (attr : PathAttribute) : Outcome (List PathAttribute) := do
  match ← Outcome.attempt (aggregator.on attr.value) with
  | .ok router =>
    return { attr with value := router.encode .two } ::
      Narrowing.fullValue (decide (AsnWidth.two.greatest < router.asn.toNat) && !hasFull)
        .as4Aggregator attr.value
  | .error _ => return [attr]

/-- What stands for one attribute in a session with narrow AS numbers. -/
noncomputable def narrowOne (hasFullPath hasFullAggregator : Bool) (attr : PathAttribute) :
    Outcome (List PathAttribute) :=
  if attr.kind? = some .asPath then narrowPath hasFullPath attr
  else if attr.kind? = some .aggregator ∧ attr.value.length = 8 then
    narrowAggregator hasFullAggregator attr
  else return [attr]

/-- Puts what stands for each attribute behind the others. -/
noncomputable def narrowAll (hasFullPath hasFullAggregator : Bool) :
    List PathAttribute → List PathAttribute → Outcome (List PathAttribute)
  | [], output => return output
  | attr :: rest, output => do
    let behind ← narrowOne hasFullPath hasFullAggregator attr
    narrowAll hasFullPath hasFullAggregator rest (output ++ behind)

/-- The attributes of a route for a session with AS numbers of the given width. -/
noncomputable def adapt (width : AsnWidth) (attributes : List PathAttribute) :
    Outcome (List PathAttribute) :=
  match width with
  | .four => return attributes
  | .two =>
    narrowAll (Narrowing.hasKind .as4Path attributes) (Narrowing.hasKind .as4Aggregator attributes)
      attributes []

theorem narrowPath_eq (hasFull : Bool) (attr : PathAttribute) :
    narrowPath hasFull attr = pure (Narrowing.path hasFull attr) := by
  rw [narrowPath, asPath_on, Outcome.attempt_settle, pure_bind, Narrowing.path]
  cases AsPath.decode .four attr.value with
  | ok segments => rfl
  | error e => rfl

theorem narrowAggregator_eq (hasFull : Bool) (attr : PathAttribute) :
    narrowAggregator hasFull attr = pure (Narrowing.aggregator hasFull attr) := by
  rw [narrowAggregator, aggregator_on, Outcome.attempt_settle, pure_bind, Narrowing.aggregator]
  cases Aggregator.decode attr.value with
  | ok router => rfl
  | error e => rfl

theorem narrowOne_eq (hasFullPath hasFullAggregator : Bool) (attr : PathAttribute) :
    narrowOne hasFullPath hasFullAggregator attr
      = pure (Narrowing.one hasFullPath hasFullAggregator attr) := by
  rw [narrowOne, Narrowing.one]
  split
  · exact narrowPath_eq hasFullPath attr
  · split
    · exact narrowAggregator_eq hasFullAggregator attr
    · rfl

theorem narrowAll_eq (hasFullPath hasFullAggregator : Bool)
    (attributes output : List PathAttribute) :
    narrowAll hasFullPath hasFullAggregator attributes output
      = pure (output ++ attributes.flatMap (Narrowing.one hasFullPath hasFullAggregator)) := by
  induction attributes generalizing output with
  | nil => simp [narrowAll]
  | cons attr rest ih =>
    rw [narrowAll, narrowOne_eq, pure_bind, ih, List.flatMap_cons, List.append_assoc]

theorem adapt_eq (width : AsnWidth) (attributes : List PathAttribute) :
    adapt width attributes = .settle (.ok (adaptAttributes width attributes)) := by
  cases width with
  | four => rfl
  | two => exact narrowAll_eq _ _ attributes []

/-- The message of a route for a session with AS numbers of the given width. -/
noncomputable def routeMessage (route : DumpedRoute) (width : AsnWidth) : Outcome Octets := do
  let attributes ← adapt width route.attributes
  message attributes route.trailingNetwork?

theorem routeMessage_eq (route : DumpedRoute) (width : AsnWidth) :
    routeMessage route width = .settle (route.updateMessage width) := by
  rw [routeMessage, adapt_eq]
  exact message_eq _ _

/-! ## The record that opens a table dump -/

/-- The index in the record that opens a table dump. There is a branch for a record that has the
subtype of the index and holds something else. -/
noncomputable def openingIndex (record : FramedRecord) : Outcome PeerIndex :=
  if DumpTransfer.opensDump record.header then do
    match ← tableDumpRecord record.header.subtype record.body with
    | .index index => return index
    | other => throw (.dead (.opening other))
  else throw (.refused (.unexpectedSubtype record.header.type record.header.subtype))

end Unchecked

namespace DumpTransfer

/-- The index in the record that opens a table dump. -/
def openingIndex (record : FramedRecord) : Except FeedError PeerIndex :=
  let refusal := FeedError.unexpectedSubtype record.header.type record.header.subtype
  if opensDump record.header then
    match TableDumpRecord.decode record.header.subtype record.body with
    | .error e => .error e
    | .ok (.index index) => .ok index
    | .ok _ => .error refusal
  else .error refusal

/-- A record with the subtype of the index holds an index or is refused. -/
theorem exists_index_of_decode {header : RecordHeader} {body : Octets} {decoded : TableDumpRecord}
    (opens : opensDump header = true)
    (read : TableDumpRecord.decode header.subtype body = .ok decoded) :
    ∃ index, decoded = .index index := by
  have subtype : header.subtype = TableDumpSubtype.peerIndexTable.code := by
    simp only [opensDump, Bool.and_eq_true, decide_eq_true_eq] at opens
    exact opens.2
  rw [subtype, TableDumpRecord.decode, TableDumpSubtype.ofCode?_code] at read
  have read : ((PeerIndex.reader >>= fun index =>
      (pure (.index index) : Reader TableDumpRecord)).run body).1 = .ok decoded := read
  rw [Reader.run_bind] at read
  rcases taken : PeerIndex.reader.run body with ⟨e | index, rest⟩
  · rw [taken] at read
    cases read
  · rw [taken] at read
    cases read
    exact ⟨index, rfl⟩

variable {ω : Type} [Surroundings ω]

/-- Binds the routers of an index that was read; without one the conversation is broken off. -/
def takeUp (dump : DumpTransfer) :
    Except FeedError PeerIndex → StateM ω (Except FeedError Unit × DumpTransfer)
  | .error e => return (.error e, dump)
  | .ok index => do
    match ← bindPeers dump.settings dump.handling index.collector index.peers with
    | .error e => return (.error (.session e), dump)
    | .ok tables =>
      return (.ok (), { dump with phase := .intake, index? := some index, tables := tables })

/-- What a table dump does with the record that opens it depends on the index in the record only. -/
theorem acceptIndex_eq (dump : DumpTransfer) (record : FramedRecord) :
    (dump.acceptIndex record : StateM ω _) = dump.takeUp (openingIndex record) := by
  rw [acceptIndex, openingIndex]
  cases opens : opensDump record.header with
  | false => rfl
  | true =>
    rcases TableDumpRecord.decode record.header.subtype record.body with e | index | rib | skipped
    · rfl
    · rfl
    · rfl
    · rfl

end DumpTransfer

namespace Unchecked

theorem openingIndex_eq (record : FramedRecord) :
    openingIndex record = .settle (DumpTransfer.openingIndex record) := by
  rw [openingIndex, DumpTransfer.openingIndex, tableDumpRecord_eq]
  by_cases opens : DumpTransfer.opensDump record.header = true
  · rw [if_pos opens, if_pos opens]
    cases read : TableDumpRecord.decode record.header.subtype record.body with
    | error e => rfl
    | ok decoded =>
      obtain ⟨index, rfl⟩ := DumpTransfer.exists_index_of_decode opens read
      rfl
  · rw [if_neg opens, if_neg opens]
    rfl

/-! ## All together -/

/-- What every decoder and encoder comes to when its octets are taken without a check, and what its
checked form can therefore not come to. -/
structure Sound : Prop where
  /-- Reading the header of a record from any stream. -/
  header : ∀ source, (Unchecked.header source).1.Settles source.readHeader.1 ∧
    (Unchecked.header source).2 = source.readHeader.2
  /-- Records of relayed messages, of every subtype. -/
  relayed : ∀ subtype body, (relayRecord subtype body).Settles (RelayRecord.decode subtype body)
  /-- Records of relayed messages with microseconds in front. -/
  relayedTimed : ∀ subtype body,
    (relayTimedRecord subtype body).Settles (RelayRecord.decodeTimed subtype body)
  /-- Records of table dumps, of every subtype. -/
  tableDump : ∀ subtype body,
    (tableDumpRecord subtype body).Settles (TableDumpRecord.decode subtype body)
  /-- Attribute blocks of routes to any network. -/
  attributes : ∀ target block,
    ((attributeBlock target).on block).Settles (AttributeBlock.decode target block)
  /-- Reachability attributes of routes to any network. -/
  reachability : ∀ target value,
    (complete target value).Settles (Reachability.complete target value)
  /-- AS paths of either width. -/
  asPath : ∀ width octets, ((asPath width).on octets).Settles (AsPath.decode width octets)
  /-- Attributes for a session of either width; none are refused. -/
  adapted : ∀ width attributes,
    (adapt width attributes).Settles (.ok (adaptAttributes width attributes))
  /-- Messages of any attributes, with and without a network. -/
  message : ∀ attributes network?,
    (message attributes network?).Settles (UpdateMessage.encode attributes network?)
  /-- Messages of any routes, for a session of either width. -/
  routeMessage : ∀ (route : DumpedRoute) width,
    (routeMessage route width).Settles (route.updateMessage width)
  /-- Networks of either family: none is refused when its length was accepted before. -/
  network : ∀ family octets,
    ((network family).on octets).Settles ((Reader.network family).run octets).1
  /-- No record is read by a reader that is there for another subtype. -/
  ribKind : ∀ subtype body kind,
    TableDumpRecord.decode subtype body ≠ .error (.contradiction (.notFamilyRib kind))
  /-- A record that opens a table dump is refused or gives its index. -/
  opening : ∀ record, (openingIndex record).Settles (DumpTransfer.openingIndex record)
  /-- That is what a table dump takes up. -/
  takenUp : ∀ (ω : Type) [Surroundings ω] (dump : DumpTransfer) (record : FramedRecord),
    (dump.acceptIndex record : StateM ω _) = dump.takeUp (DumpTransfer.openingIndex record)
  /-- A record with the subtype of the index holds nothing but an index. -/
  openingKind : ∀ header body decoded, DumpTransfer.opensDump header = true →
    TableDumpRecord.decode header.subtype body = .ok decoded → ∃ index, decoded = .index index

/-- No input makes a decoder or an encoder run for ever, reach out of its buffer or enter a branch
that is there for what its own checks rule out. -/
theorem sound : Sound where
  header source := by
    rw [header_eq]
    exact ⟨.of_eq rfl, rfl⟩
  relayed subtype body := .of_eq (relayRecord_eq subtype body)
  relayedTimed subtype body := .of_eq (relayTimedRecord_eq subtype body)
  tableDump subtype body := .of_eq (tableDumpRecord_eq subtype body)
  attributes target block := .of_eq ((Follows.attributeBlock target).on block)
  reachability target value := .of_eq (complete_eq target value)
  asPath width octets := .of_eq (asPath_on width octets)
  adapted width attributes := .of_eq (adapt_eq width attributes)
  message attributes network? := .of_eq (message_eq attributes network?)
  routeMessage route width := .of_eq (routeMessage_eq route width)
  network family octets := .of_eq ((Follows.network family).on octets)
  ribKind subtype body kind := by
    intro failed
    cases TableDumpRecord.isOfDump_decode failed
  opening record := .of_eq (openingIndex_eq record)
  takenUp ω _ dump record := dump.acceptIndex_eq record
  openingKind header body decoded opens read := DumpTransfer.exists_index_of_decode opens read

end Unchecked

end CollectorFeed
