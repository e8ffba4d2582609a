import CollectorFeed.Proofs.Decoding.Errors
import CollectorFeed.Proofs.Relay.Layout

/-!
# What becomes of the body of a relayed message

The fields in front of a relayed message stand one behind the other, and only the length of the two
addresses depends on what another field says (`RelayHeader`). If no header stands in front of a
body, the body ends within a field and is refused for it. Behind a header the remainder is looked at
twice, first for its length and then for its first sixteen octets, and is passed on as it is if both
will do. Nothing else in it matters, in particular not the length field of the message.
`RelayOutcome` has one case for each of the four results, and `RelayedMessage.exact_decode` says that
decoding comes to them.
-/

set_option autoImplicit false

namespace CollectorFeed

open Reader (FailsOnly)

/-! ## Headers octet by octet -/

/-- Octets of an address behind a family field. -/
def relayedAddressLength (family : FixedOctets 2) : Nat :=
  if family.toList = [0, 1] then 4 else 16

/-- The address that octets behind a family field spell. -/
def relayedAddress (family : FixedOctets 2) (octets : FixedOctets (relayedAddressLength family)) :
    Address :=
  if ipv4 : family.toList = [0, 1] then
    .v4 ⟨octets.toList, octets.length_toList.trans (if_pos ipv4)⟩
  else .v6 ⟨octets.toList, octets.length_toList.trans (if_neg ipv4)⟩

/-- The fields in front of a relayed message. -/
structure RelayHeader (width : AsnWidth) where
  peerAsn : FixedOctets width.octetCount
  localAsn : FixedOctets width.octetCount
  interface : FixedOctets 2
  family : FixedOctets 2
  peerAddress : FixedOctets (relayedAddressLength family)
  localAddress : FixedOctets (relayedAddressLength family)

namespace RelayHeader

variable {width : AsnWidth}

/-- The fields one behind the other. -/
def octets (header : RelayHeader width) : Octets :=
  header.peerAsn.toList ++ header.localAsn.toList ++ header.interface.toList ++
    header.family.toList ++ header.peerAddress.toList ++ header.localAddress.toList

/-- The number in the family field. -/
def familyField (header : RelayHeader width) : UInt16 :=
  UInt16.ofNat header.family.toNat

/-- The message with what the header says of it. -/
def relayed (header : RelayHeader width) (message : Octets) : RelayedMessage where
  width := width
  peerAsn := UInt32.ofNat header.peerAsn.toNat
  localAsn := UInt32.ofNat header.localAsn.toNat
  interface := UInt16.ofNat header.interface.toNat
  peerAddress := relayedAddress header.family header.peerAddress
  localAddress := relayedAddress header.family header.localAddress
  message := message

end RelayHeader

/-! ## Written fields -/

namespace FixedOctets

/-- Octets that spell a number are the written form of that number. -/
theorem ofNat_toNat {count : Nat} (octets : FixedOctets count) :
    Octets.ofNat count octets.toNat = octets.toList := by
  obtain ⟨list, rfl⟩ := octets
  exact Octets.ofNat_toNat list

theorem toNat_lt {count : Nat} (octets : FixedOctets count) :
    octets.toNat < Octets.bound count := by
  obtain ⟨list, rfl⟩ := octets
  exact Octets.toNat_lt list

theorem toNat_ofNat_uint16 (octets : FixedOctets 2) :
    (UInt16.ofNat octets.toNat).toNat = octets.toNat :=
  UInt16.toNat_ofNat_of_lt octets.toNat_lt

theorem toNat_ofNat_uint32 {width : AsnWidth} (octets : FixedOctets width.octetCount) :
    (UInt32.ofNat octets.toNat).toNat = octets.toNat := by
  refine UInt32.toNat_ofNat_of_lt (Nat.lt_of_lt_of_le octets.toNat_lt ?_)
  cases width <;> decide

end FixedOctets

theorem octets_relayedAddress (family : FixedOctets 2)
    (octets : FixedOctets (relayedAddressLength family)) :
    (relayedAddress family octets).octets = octets.toList := by
  unfold relayedAddress
  split <;> rfl

theorem ofRelayField_eq_ipv4_iff (family : FixedOctets 2) :
    AddressFamily.ofRelayField (UInt16.ofNat family.toNat) = .ipv4 ↔ family.toList = [0, 1] := by
  have isOne : UInt16.ofNat family.toNat = 1 ↔ family.toList = [0, 1] := by
    rw [← UInt16.toNat_inj, family.toNat_ofNat_uint16, ← family.ofNat_toNat]
    constructor
    · intro one
      rw [one]
      rfl
    · intro spelt
      have read := Octets.toNat_ofNat 2 family.toNat
      rw [spelt, Nat.mod_eq_of_lt family.toNat_lt] at read
      exact read.symm
  rw [← isOne]
  unfold AddressFamily.ofRelayField
  split <;> simp_all

theorem family_relayedAddress (family : FixedOctets 2)
    (octets : FixedOctets (relayedAddressLength family)) :
    (relayedAddress family octets).family = .ofRelayField (UInt16.ofNat family.toNat) := by
  unfold relayedAddress
  split
  case isTrue ipv4 => exact ((ofRelayField_eq_ipv4_iff family).2 ipv4).symm
  case isFalse other =>
    have other := mt (ofRelayField_eq_ipv4_iff family).1 other
    generalize AddressFamily.ofRelayField _ = known at other ⊢
    cases known with
    | ipv4 => exact absurd rfl other
    | ipv6 => rfl

/-- Writing what a header says of a message gives the header and the message back. -/
theorem RelayHeader.encode_relayed {width : AsnWidth} (header : RelayHeader width)
    (message : Octets) :
    (header.relayed message).encode header.familyField = header.octets ++ message := by
  simp only [RelayedMessage.encode, relayed, familyField, FixedOctets.toNat_ofNat_uint16,
    FixedOctets.toNat_ofNat_uint32, FixedOctets.ofNat_toNat, octets_relayedAddress, octets]

/-! ## Fields of a message -/

namespace RelayedMessage

/-- What must hold of the fields of a relayed message, whatever the message is: the AS numbers fit
their width, and the addresses are of the family. -/
structure Headed (relayed : RelayedMessage) (field : UInt16) : Prop where
  peerAsn : relayed.peerAsn.toNat ≤ relayed.width.greatest
  localAsn : relayed.localAsn.toNat ≤ relayed.width.greatest
  peerAddress : relayed.peerAddress.family = .ofRelayField field
  localAddress : relayed.localAddress.family = .ofRelayField field

theorem headed_relayed {width : AsnWidth} (header : RelayHeader width) (message : Octets) :
    (header.relayed message).Headed header.familyField where
  peerAsn := by
    rw [AsnWidth.greatest, Nat.le_sub_one_iff_lt (Octets.bound_pos _)]
    rw [show (header.relayed message).peerAsn.toNat = _ from header.peerAsn.toNat_ofNat_uint32]
    exact header.peerAsn.toNat_lt
  localAsn := by
    rw [AsnWidth.greatest, Nat.le_sub_one_iff_lt (Octets.bound_pos _)]
    rw [show (header.relayed message).localAsn.toNat = _ from header.localAsn.toNat_ofNat_uint32]
    exact header.localAsn.toNat_lt
  peerAddress := family_relayedAddress _ _
  localAddress := family_relayedAddress _ _

/-- Addresses of the family have the length that the family field asks for. -/
theorem length_octets_of_family {address : Address} {field : UInt16}
    (family : address.family = .ofRelayField field) :
    address.octets.length = relayedAddressLength ⟨Octets.ofNat 2 field.toNat, by simp⟩ := by
  have back : UInt16.ofNat (Octets.toNat (Octets.ofNat 2 field.toNat)) = field := by
    have small : field.toNat < Octets.bound 2 := field.toNat_lt
    rw [Octets.toNat_ofNat, Nat.mod_eq_of_lt small, UInt16.ofNat_toNat]
  have isIpv4 := ofRelayField_eq_ipv4_iff ⟨Octets.ofNat 2 field.toNat, by simp⟩
  rw [FixedOctets.toNat, back] at isIpv4
  rw [Address.length_octets, family, relayedAddressLength]
  split
  case isTrue ipv4 => rw [isIpv4.2 ipv4]; rfl
  case isFalse other =>
    have other := mt isIpv4.1 other
    generalize AddressFamily.ofRelayField field = known at other ⊢
    cases known with
    | ipv4 => exact absurd rfl other
    | ipv6 => rfl

/-- The written form of fields is that of a header. -/
theorem Headed.exists_header {relayed : RelayedMessage} {field : UInt16}
    (headed : relayed.Headed field) :
    ∃ header : RelayHeader relayed.width,
      relayed.encode field = header.octets ++ relayed.message :=
  ⟨{ peerAsn := ⟨Octets.ofNat relayed.width.octetCount relayed.peerAsn.toNat, by simp⟩
     localAsn := ⟨Octets.ofNat relayed.width.octetCount relayed.localAsn.toNat, by simp⟩
     interface := ⟨Octets.ofNat 2 relayed.interface.toNat, by simp⟩
     family := ⟨Octets.ofNat 2 field.toNat, by simp⟩
     peerAddress := ⟨relayed.peerAddress.octets, length_octets_of_family headed.peerAddress⟩
     localAddress := ⟨relayed.localAddress.octets, length_octets_of_family headed.localAddress⟩ },
    rfl⟩

/-! ## The four results -/

/-- Behind fields that a header can hold, only the check of the message is left. -/
theorem Headed.decode_encode {relayed : RelayedMessage} {field : UInt16}
    (headed : relayed.Headed field) :
    decode relayed.width (relayed.encode field) =
      (checkMessage relayed.message).map fun _ => relayed := by
  cases checked : checkMessage relayed.message with
  | ok _ =>
    have writable : relayed.Writable field :=
      ⟨headed.peerAsn, headed.localAsn, headed.peerAddress, headed.localAddress, checked⟩
    exact decode_eq_ok_iff.2 ⟨rfl, field, writable, rfl⟩
  | error e =>
    unfold decode encode reader
    simp only [List.append_assoc]
    rw [Reader.run_bind_ok (Reader.run_asn_eq_ok_iff.2 ⟨rfl, headed.peerAsn⟩),
      Reader.run_bind_ok (Reader.run_asn_eq_ok_iff.2 ⟨rfl, headed.localAsn⟩),
      Reader.run_bind_ok (Reader.run_u16_eq_ok_iff.2 rfl),
      Reader.run_bind_ok (Reader.run_u16_eq_ok_iff.2 rfl),
      Reader.run_bind_ok (Reader.run_address_eq_ok_iff.2 ⟨rfl, headed.peerAddress⟩),
      Reader.run_bind_ok (Reader.run_address_eq_ok_iff.2 ⟨rfl, headed.localAddress⟩),
      Reader.run_bind_ok (Reader.run_peek _), checked]
    rfl

/-- A body with an error for another reason than want of octets has all fields in front of a
message. -/
theorem exists_header_of_decode {width : AsnWidth} {body : Octets}
    (other : decode width body ≠ .error .bufferExhausted) :
    ∃ (header : RelayHeader width) (message : Octets), body = header.octets ++ message := by
  cases decoded : decode width body with
  | ok relayed =>
    obtain ⟨rfl, field, writable, rfl⟩ := decode_eq_ok_iff.1 decoded
    have headed : relayed.Headed field :=
      ⟨writable.peerAsn, writable.localAsn, writable.peerAddress, writable.localAddress⟩
    obtain ⟨header, is⟩ := headed.exists_header
    exact ⟨header, _, is⟩
  | error e =>
    have late : e.isExhausted = false := by
      cases e with
      | bufferExhausted => exact absurd decoded other
      | _ => rfl
    obtain ⟨rest, failed⟩ : ∃ rest, (reader width).run body = (.error e, rest) :=
      ⟨_, Prod.ext decoded rfl⟩
    unfold reader at failed
    simp only [(FailsOnly.asn width).run_bind_eq_error_iff late,
      FailsOnly.u16.run_bind_eq_error_iff late, (FailsOnly.address _).run_bind_eq_error_iff late,
      Reader.run_asn_eq_ok_iff, Reader.run_u16_eq_ok_iff, Reader.run_address_eq_ok_iff] at failed
    obtain ⟨peerAsn, _, ⟨rfl, fits⟩, localAsn, _, ⟨rfl, fits'⟩, interface, _, rfl, field, _, rfl,
      peerAddress, _, ⟨rfl, family⟩, localAddress, left, ⟨rfl, family'⟩, -⟩ := failed
    have headed : Headed ⟨width, peerAsn, localAsn, interface, peerAddress, localAddress, left⟩
      field := ⟨fits, fits', family, family'⟩
    obtain ⟨header, is⟩ := headed.exists_header
    exact ⟨header, left, by simpa [encode] using is⟩

end RelayedMessage

/-- What decoding the body of a relayed message comes to. -/
inductive RelayOutcome (width : AsnWidth) : Octets → Except FeedError RelayedMessage → Prop
  /-- The body ends within a field of the header. -/
  | cutShort {body : Octets}
      (noHeader : ∀ (header : RelayHeader width) (message : Octets),
        body ≠ header.octets ++ message) :
      RelayOutcome width body (.error .bufferExhausted)
  /-- What is behind the header is no longer than the header of a BGP message. -/
  | bare (header : RelayHeader width) {message : Octets} (short : message.length ≤ 19) :
      RelayOutcome width (header.octets ++ message)
        (.error (.cutShort (.relayedMessage message.length)))
  /-- What is behind the header does not begin with the marker. -/
  | unmarked (header : RelayHeader width) {message : Octets} (long : 19 < message.length)
      (other : message.take 16 ≠ List.replicate 16 0xFF) :
      RelayOutcome width (header.octets ++ message) (.error .missingMarker)
  /-- What is behind the header is the message. -/
  | relayed (header : RelayHeader width) {message : Octets} (long : 19 < message.length)
      (marked : message.take 16 = List.replicate 16 0xFF) :
      RelayOutcome width (header.octets ++ message) (.ok (header.relayed message))

namespace RelayedMessage

theorem decode_of_header {width : AsnWidth} (header : RelayHeader width) (message : Octets) :
    decode width (header.octets ++ message) =
      (checkMessage message).map fun _ => header.relayed message := by
  rw [← header.encode_relayed]
  exact (headed_relayed header message).decode_encode

theorem checkMessage_eq (message : Octets) :
    checkMessage message =
      if message.length ≤ 19 then .error (.cutShort (.relayedMessage message.length))
      else if message.take 16 = List.replicate 16 0xFF then .ok () else .error .missingMarker :=
  rfl

/-- Each of the four cases has its result. -/
theorem decode_of_outcome {width : AsnWidth} {body : Octets}
    {result : Except FeedError RelayedMessage} (outcome : RelayOutcome width body result) :
    decode width body = result := by
  cases outcome with
  | cutShort noHeader =>
    refine Classical.byContradiction fun other => ?_
    obtain ⟨header, message, is⟩ := exists_header_of_decode other
    exact noHeader header message is
  | bare header short =>
    rw [decode_of_header, checkMessage_eq, if_pos short]
    rfl
  | unmarked header long other =>
    rw [decode_of_header, checkMessage_eq, if_neg (Nat.not_le_of_lt long), if_neg other]
    rfl
  | relayed header long marked =>
    rw [decode_of_header, checkMessage_eq, if_neg (Nat.not_le_of_lt long), if_pos marked]
    rfl

/-- Every body is in one of the four cases. -/
theorem exists_outcome (width : AsnWidth) (body : Octets) :
    ∃ result, RelayOutcome width body result := by
  by_cases headed : ∃ (header : RelayHeader width) (message : Octets),
      body = header.octets ++ message
  case pos =>
    obtain ⟨header, message, rfl⟩ := headed
    rcases Nat.lt_or_ge 19 message.length with long | short
    · by_cases marked : message.take 16 = List.replicate 16 0xFF
      · exact ⟨_, .relayed header long marked⟩
      · exact ⟨_, .unmarked header long marked⟩
    · exact ⟨_, .bare header short⟩
  case neg =>
    refine ⟨_, .cutShort fun header message is => ?_⟩
    exact headed ⟨header, message, is⟩

end RelayedMessage

namespace RelayRecord

/-- Microseconds in front of a body change nothing of what it holds. -/
theorem decodeTimed_append (front : FixedOctets 4) (subtype : UInt16) (body : Octets) :
    decodeTimed subtype (front.toList ++ body) = decode subtype body := by
  have taken : Reader.u32.run (front.toList ++ body) =
      (.ok (UInt32.ofNat front.toNat), body) := by
    rw [Reader.u32, Reader.run_bind_ok (Reader.run_take_append front.length_toList)]
    rfl
  rw [decodeTimed, taken]

end RelayRecord

/-- Decoding a body comes to exactly one of the four results. What a header says of a message is
written as that header in front of the message, and microseconds in front of a body change nothing
of what it holds. -/
theorem RelayedMessage.exact_decode (width : AsnWidth) (body : Octets) :
    (∀ result, decode width body = result ↔ RelayOutcome width body result) ∧
      (∀ (header : RelayHeader width) (message : Octets),
        (header.relayed message).encode header.familyField = header.octets ++ message) ∧
      ∀ (microseconds : FixedOctets 4) (subtype : UInt16),
        RelayRecord.decodeTimed subtype (microseconds.toList ++ body) =
          RelayRecord.decode subtype body := by
  refine ⟨fun result => ⟨?_, decode_of_outcome⟩, ?_, ?_⟩
  case refine_2 => exact fun header message => header.encode_relayed message
  case refine_3 => exact fun front subtype => RelayRecord.decodeTimed_append front subtype body
  rintro rfl
  obtain ⟨result, outcome⟩ := exists_outcome width body
  rw [decode_of_outcome outcome]
  exact outcome

end CollectorFeed
