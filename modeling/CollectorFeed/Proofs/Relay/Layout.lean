import CollectorFeed.Relay.Message

/-!
# The layout of relayed messages

A reader takes a value exactly if the buffer begins with the written form of that value. From this
it follows for relayed messages that a body is decoded to a message exactly if it is the written
form of that message (`decode_eq_ok_iff`). In particular the BGP message is passed on as it stands
in the body, and no two messages have the same written form.
-/

set_option autoImplicit false

namespace CollectorFeed

/-! ## Readers -/

theorem Octets.ofNat_one (octet : UInt8) : Octets.ofNat 1 octet.toNat = [octet] :=
  congrArg ([·]) UInt8.ofNat_toNat

namespace Reader

variable {α β : Type}

/-- A reader gives a value if it leaves something in the buffer, perhaps nothing, with that value. -/
theorem run_fst_eq_ok_iff {reader : Reader α} {buffer : Octets} {result : α} :
    (reader.run buffer).1 = .ok result ↔ ∃ rest, reader.run buffer = (.ok result, rest) := by
  rcases reader.run buffer with ⟨given, left⟩
  simp

/-- Two readers one behind the other give a value exactly if both of them do. -/
theorem run_bind_eq_ok_iff {reader : Reader α} {next : α → Reader β} {buffer rest : Octets}
    {result : β} :
    (reader >>= next).run buffer = (.ok result, rest) ↔
      ∃ value between, reader.run buffer = (.ok value, between) ∧
        (next value).run between = (.ok result, rest) := by
  rw [run_bind]
  rcases reader.run buffer with ⟨e | value, between⟩
  · simp
  · constructor
    · intro read
      exact ⟨value, between, rfl, read⟩
    · rintro ⟨_, _, same, read⟩
      cases same
      exact read

theorem run_pure_eq_ok_iff {value result : α} {buffer rest : Octets} :
    (pure value : Reader α).run buffer = (.ok result, rest) ↔ value = result ∧ buffer = rest := by
  rw [run_pure, Prod.mk.injEq, Except.ok.injEq]

theorem run_take_eq_ok_iff {count : Nat} {buffer front rest : Octets} :
    (take count).run buffer = (.ok front, rest) ↔
      buffer = front ++ rest ∧ front.length = count := by
  constructor
  · intro read
    rw [run_take] at read
    split at read
    case isTrue long =>
      cases read
      exact ⟨(List.take_append_drop count buffer).symm, List.length_take_of_le long⟩
    case isFalse short => cases read
  · rintro ⟨rfl, width⟩
    exact run_take_append width

/-- A number is taken exactly if its written form stands in front. -/
theorem run_take_number_eq_ok_iff (count : Nat) (ofNat : Nat → α) (toNat : α → Nat)
    (toNat_ofNat : ∀ number, number < Octets.bound count → toNat (ofNat number) = number)
    (ofNat_toNat : ∀ value, ofNat (toNat value) = value) {buffer rest : Octets} {value : α} :
    ((take count >>= fun octets => pure (ofNat (Octets.toNat octets)) : Reader α).run buffer =
        (.ok value, rest)) ↔
      buffer = Octets.ofNat count (toNat value) ++ rest ∧ toNat value < Octets.bound count := by
  simp only [run_bind_eq_ok_iff, run_take_eq_ok_iff, run_pure_eq_ok_iff]
  constructor
  · rintro ⟨octets, _, ⟨rfl, width⟩, rfl, rfl⟩
    have small := Octets.toNat_lt octets
    rw [width] at small
    rw [toNat_ofNat _ small]
    refine ⟨?_, small⟩
    rw [← width, Octets.ofNat_toNat]
  · rintro ⟨rfl, small⟩
    refine ⟨Octets.ofNat count (toNat value), rest, ⟨rfl, Octets.length_ofNat _ _⟩, ?_, rfl⟩
    rw [Octets.toNat_ofNat, Nat.mod_eq_of_lt small, ofNat_toNat]

theorem run_u8_eq_ok_iff {buffer rest : Octets} {value : UInt8} :
    u8.run buffer = (.ok value, rest) ↔ buffer = value :: rest := by
  refine (run_take_number_eq_ok_iff 1 UInt8.ofNat UInt8.toNat ?_ ?_).trans ?_
  · intro number small
    exact UInt8.toNat_ofNat_of_lt small
  · exact fun _ => UInt8.ofNat_toNat
  · rw [Octets.ofNat_one]
    exact and_iff_left value.toNat_lt

theorem run_u16_eq_ok_iff {buffer rest : Octets} {value : UInt16} :
    u16.run buffer = (.ok value, rest) ↔ buffer = Octets.ofNat 2 value.toNat ++ rest := by
  refine (run_take_number_eq_ok_iff 2 UInt16.ofNat UInt16.toNat ?_ ?_).trans ?_
  · intro number small
    exact UInt16.toNat_ofNat_of_lt small
  · exact fun _ => UInt16.ofNat_toNat
  · exact and_iff_left value.toNat_lt

theorem run_u32_eq_ok_iff {buffer rest : Octets} {value : UInt32} :
    u32.run buffer = (.ok value, rest) ↔ buffer = Octets.ofNat 4 value.toNat ++ rest := by
  refine (run_take_number_eq_ok_iff 4 UInt32.ofNat UInt32.toNat ?_ ?_).trans ?_
  · intro number small
    exact UInt32.toNat_ofNat_of_lt small
  · exact fun _ => UInt32.ofNat_toNat
  · exact and_iff_left value.toNat_lt

theorem run_asn_eq_ok_iff {width : AsnWidth} {buffer rest : Octets} {asn : UInt32} :
    (Reader.asn width).run buffer = (.ok asn, rest) ↔
      buffer = Octets.ofNat width.octetCount asn.toNat ++ rest ∧ asn.toNat ≤ width.greatest := by
  refine (run_take_number_eq_ok_iff _ UInt32.ofNat UInt32.toNat ?_ ?_).trans ?_
  · intro number small
    refine UInt32.toNat_ofNat_of_lt (Nat.lt_of_lt_of_le small ?_)
    cases width <;> decide
  · exact fun _ => UInt32.ofNat_toNat
  · rw [AsnWidth.greatest, Nat.le_sub_one_iff_lt (Octets.bound_pos _)]

theorem run_quad_eq_ok_iff {buffer rest : Octets} {value : Quad} :
    quad.run buffer = (.ok value, rest) ↔ buffer = value.toList ++ rest := by
  unfold quad
  simp only [run_bind_eq_ok_iff, run_take_eq_ok_iff, run_pure_eq_ok_iff]
  constructor
  · rintro ⟨octets, _, ⟨rfl, width⟩, rfl, rfl⟩
    rw [FixedOctets.toList_padded width]
  · rintro rfl
    exact ⟨value.toList, rest, ⟨rfl, value.length_toList⟩, FixedOctets.padded_toList value, rfl⟩

theorem run_address_eq_ok_iff {family : AddressFamily} {buffer rest : Octets} {address : Address} :
    (Reader.address family).run buffer = (.ok address, rest) ↔
      buffer = address.octets ++ rest ∧ address.family = family := by
  unfold Reader.address
  simp only [run_bind_eq_ok_iff, run_take_eq_ok_iff, run_pure_eq_ok_iff]
  constructor
  · rintro ⟨octets, _, ⟨rfl, width⟩, rfl, rfl⟩
    refine ⟨?_, Address.family_padded family octets⟩
    cases family with
    | ipv4 => exact congrArg (· ++ _) (FixedOctets.toList_padded width).symm
    | ipv6 => exact congrArg (· ++ _) (FixedOctets.toList_padded width).symm
  · rintro ⟨rfl, rfl⟩
    exact ⟨address.octets, rest, ⟨rfl, address.length_octets⟩, address.padded_octets, rfl⟩

end Reader

/-! ## Relayed messages -/

namespace RelayedMessage

theorem checkMessage_eq_ok_iff {message : Octets} :
    checkMessage message = .ok () ↔
      bgpHeaderLength < message.length ∧ message.take bgpMarker.length = bgpMarker := by
  unfold checkMessage
  split
  case isTrue short => simp [Nat.not_lt.2 short]
  case isFalse long => split <;> simp [Nat.lt_of_not_le long, *]

/-- What a relayed message must be to be written with a family field and read again: its AS numbers
fit their width, its addresses are of the family, and it is a BGP message with a body. -/
structure Writable (relayed : RelayedMessage) (field : UInt16) : Prop where
  peerAsn : relayed.peerAsn.toNat ≤ relayed.width.greatest
  localAsn : relayed.localAsn.toNat ≤ relayed.width.greatest
  peerAddress : relayed.peerAddress.family = .ofRelayField field
  localAddress : relayed.localAddress.family = .ofRelayField field
  message : checkMessage relayed.message = .ok ()

/-- A body is decoded to a message exactly if it is the written form of that message. -/
theorem decode_eq_ok_iff {width : AsnWidth} {body : Octets} {relayed : RelayedMessage} :
    decode width body = .ok relayed ↔
      relayed.width = width ∧ ∃ field, relayed.Writable field ∧ body = relayed.encode field := by
  rw [decode, Reader.run_fst_eq_ok_iff]
  unfold reader
  simp only [Reader.run_bind_eq_ok_iff, Reader.run_asn_eq_ok_iff, Reader.run_u16_eq_ok_iff,
    Reader.run_address_eq_ok_iff, Reader.run_peek, Prod.mk.injEq, Except.ok.injEq]
  constructor
  · rintro ⟨rest, peerAsn, _, ⟨rfl, fits⟩, localAsn, _, ⟨rfl, fits'⟩, interface, _, rfl, field, _,
      rfl, peerAddress, _, ⟨rfl, family⟩, localAddress, left, ⟨rfl, family'⟩, _, _, ⟨rfl, rfl⟩,
      checked⟩
    cases fine : checkMessage left with
    | error e =>
      rw [fine] at checked
      cases checked
    | ok _ =>
      rw [fine] at checked
      cases checked
      exact ⟨rfl, field, ⟨fits, fits', family, family', fine⟩, by simp [encode]⟩
  · rintro ⟨rfl, field, writable, rfl⟩
    obtain ⟨fits, fits', family, family', fine⟩ := writable
    refine ⟨relayed.message, relayed.peerAsn, _, ⟨?_, fits⟩, relayed.localAsn, _, ⟨rfl, fits'⟩,
      relayed.interface, _, rfl, field, _, rfl, relayed.peerAddress, _, ⟨rfl, family⟩,
      relayed.localAddress, _, ⟨rfl, family'⟩, relayed.message, relayed.message, ⟨rfl, rfl⟩, ?_⟩
    · simp [encode]
    · rw [fine]
      rfl

end RelayedMessage

/-! ## Records -/

namespace RelayRecord

/-- A record holds a message exactly if its subtype is one whose messages are passed on, and its
body is the written form of that message. -/
theorem decode_eq_message_iff {subtype : UInt16} {body : Octets} {relayed : RelayedMessage} :
    decode subtype body = .ok (.message relayed) ↔
      (RelaySubtype.ofCode? subtype).bind RelaySubtype.forwardedWidth? = some relayed.width ∧
        ∃ field, relayed.Writable field ∧ body = relayed.encode field := by
  unfold decode
  cases RelaySubtype.ofCode? subtype with
  | none => simp
  | some known =>
    cases forwarded : known.forwardedWidth? with
    | none => simp [forwarded]
    | some width =>
      have mapped : (RelayedMessage.decode width body).map message = .ok (.message relayed) ↔
          RelayedMessage.decode width body = .ok relayed := by
        cases RelayedMessage.decode width body with
        | error e => simp [Except.map]
        | ok other => simp [Except.map]
      dsimp only [Option.bind_some]
      rw [forwarded, mapped, RelayedMessage.decode_eq_ok_iff, Option.some_inj, eq_comm]

end RelayRecord

end CollectorFeed
