import CollectorFeed.Proofs.Decoding.Forms

/-!
# Networks are read as they are written

A network is written with the octets that its bits reach into. The last one of them is written whole,
with the bits that do not count, and the octets behind it are left out. So the octets of a network
that was read are the ones that stood in the buffer, and what is read of a network that was written
is the same network with zeros for the octets that were left out (`Network.trimmed`). Wherever no
network is read, the buffer is empty, announces too many bits or ends too early
(`Reader.run_network_eq_error_iff`). Main statement: `roundTrip_network`.
-/

set_option autoImplicit false

namespace CollectorFeed

open Reader

namespace Network

/-- The network with zeros for the octets of its address that are not written. -/
def trimmed (network : Network) : Network where
  address := Address.padded network.family (network.address.octets.take (octetsFor network.bits))
  bits := network.bits
  bits_le := by simpa [family] using network.bits_le

theorem family_trimmed (network : Network) : network.trimmed.family = network.family :=
  Address.family_padded _ _

theorem length_written (network : Network) :
    (network.address.octets.take (octetsFor network.bits)).length = octetsFor network.bits :=
  List.length_take_of_le network.octetsFor_le

end Network

/-- Octets that are too few for an address are completed with zeros. -/
theorem Address.octets_padded {family : AddressFamily} {front : Octets}
    (fits : front.length ≤ family.octetCount) :
    (Address.padded family front).octets =
      front ++ List.replicate (family.octetCount - front.length) 0 := by
  have padded (count : Nat) (short : front.length ≤ count) :
      (FixedOctets.padded count front).toList = front ++ List.replicate (count - front.length) 0 := by
    show (front ++ List.replicate count 0).take count = _
    rw [List.take_append, List.take_of_length_le short, List.take_replicate,
      Nat.min_eq_left (Nat.sub_le _ _)]
  cases family with
  | ipv4 => exact padded 4 fits
  | ipv6 => exact padded 16 fits

namespace Network

/-- The octets that are written stay, and the others are zero. -/
theorem octets_trimmed (network : Network) :
    network.trimmed.address.octets = network.address.octets.take (octetsFor network.bits) ++
      List.replicate (network.family.octetCount - octetsFor network.bits) 0 := by
  have fits := network.octetsFor_le
  rw [Address.length_octets] at fits
  rw [trimmed, Address.octets_padded (by rwa [length_written]), length_written]

/-- The octets that are left out make no difference to the written form. -/
theorem encode_trimmed (network : Network) : network.trimmed.encode = network.encode := by
  have written : network.trimmed.address.octets.take (octetsFor network.bits) =
      network.address.octets.take (octetsFor network.bits) := by
    rw [octets_trimmed, List.take_left' network.length_written]
  exact congrArg (UInt8.ofNat network.bits :: ·) written

end Network

/-- Networks are taken by their written forms and in no other way. -/
theorem Reader.reads_network (family : AddressFamily) :
    Reads (Reader.network family) (fun network => network.family = family) Network.encode
      Network.trimmed := by
  intro buffer result rest
  rw [run_network_eq_ok_iff]
  constructor
  · rintro ⟨bits, front, fits, count, rfl, rfl⟩
    have whole : front.length ≤ family.octetCount := by
      rw [count, octetsFor]
      unfold AddressFamily.maxBits at fits
      omega
    -- the network itself is zero behind the octets that were read
    have written : (Address.padded family front).octets.take (octetsFor bits.toNat) = front := by
      rw [Address.octets_padded whole, List.take_left' count]
    refine ⟨⟨Address.padded family front, bits.toNat, by simpa using fits⟩,
      Address.family_padded _ _, ?_, ?_⟩
    · simp only [Network.encode, written, UInt8.ofNat_toNat]
      rfl
    · simp only [Network.trimmed, Network.family, written, Address.family_padded]
  · rintro ⟨network, rfl, rfl, rfl⟩
    have small : network.bits < 256 := Nat.lt_of_le_of_lt network.bits_le_longest (by decide)
    have number : (UInt8.ofNat network.bits).toNat = network.bits := UInt8.toNat_ofNat_of_lt' small
    refine ⟨UInt8.ofNat network.bits, network.address.octets.take (octetsFor network.bits), ?_, ?_,
      rfl, ?_⟩
    · rw [number]
      exact network.bits_le
    · rw [number]
      exact network.length_written
    · simp only [Network.trimmed, number]

/-! ## Where no network is read -/

/-- Why octets in front of a buffer are no network of a family, with the error for it and what is
left then. -/
inductive NoNetwork (family : AddressFamily) : Octets → FeedError → Octets → Prop
  /-- There is not even a bit length. -/
  | empty : NoNetwork family [] .bufferExhausted []
  /-- No address of the family has so many bits. Only their number is taken. -/
  | tooLong {bits : UInt8} {rest : Octets} (exceeds : family.maxBits < bits.toNat) :
      NoNetwork family (bits :: rest) (.networkTooLong bits.toNat family.maxBits) rest
  /-- There are fewer octets than the bits reach into. -/
  | short {bits : UInt8} {rest : Octets} (within : bits.toNat ≤ family.maxBits)
      (few : rest.length < octetsFor bits.toNat) :
      NoNetwork family (bits :: rest) .bufferExhausted rest

theorem Reader.run_u8_cons (octet : UInt8) (rest : Octets) :
    u8.run (octet :: rest) = (.ok octet, rest) :=
  consumes_u8 octet rest

/-- No network is read for one of three reasons, and for no other one. -/
theorem Reader.run_network_eq_error_iff {family : AddressFamily} {buffer rest : Octets}
    {e : FeedError} :
    (Reader.network family).run buffer = (.error e, rest) ↔ NoNetwork family buffer e rest := by
  cases buffer with
  | nil =>
    have refused : (Reader.network family).run [] = (.error .bufferExhausted, []) := rfl
    rw [refused]
    constructor
    · intro same
      cases same
      exact .empty
    · rintro ⟨⟩
      rfl
  | cons bits behind =>
    rw [Reader.network, run_bind_ok (run_u8_cons bits behind)]
    by_cases within : bits.toNat ≤ family.maxBits
    · rw [dif_pos within, run_bind, run_take]
      by_cases enough : octetsFor bits.toNat ≤ behind.length
      · -- there is a network
        rw [if_pos enough]
        constructor
        · intro failed
          cases failed
        · rintro (_ | exceeds | ⟨-, few⟩)
          · exact absurd within (Nat.not_le.2 exceeds)
          · exact absurd enough (Nat.not_le.2 few)
      · rw [if_neg enough]
        constructor
        · intro failed
          cases failed
          exact .short within (Nat.not_le.1 enough)
        · rintro (_ | exceeds | _)
          · exact absurd within (Nat.not_le.2 exceeds)
          · rfl
    · rw [dif_neg within, run_fail]
      constructor
      · intro failed
        cases failed
        exact .tooLong (Nat.not_le.1 within)
      · rintro (_ | _ | ⟨fits, -⟩)
        · rfl
        · exact absurd fits within

/-! ## All of it together -/

/-- How networks of a family are read and written. -/
structure NetworkRoundTrip (family : AddressFamily) : Prop where
  /-- What was taken is written again as it stood, bits that do not count included, and the length
  of the written form is the number of octets that were taken. -/
  written_again : ∀ (buffer rest : Octets) (network : Network),
    (Reader.network family).run buffer = (.ok network, rest) →
      network.family = family ∧ network.encode ++ rest = buffer ∧
        network.encodedLength + rest.length = buffer.length
  /-- What is written is read again, with zeros for the octets of the address that were left out, and
  nothing else is taken. -/
  read_again : ∀ (network : Network) (rest : Octets), network.family = family →
    ∃ read, (Reader.network family).run (network.encode ++ rest) = (.ok read, rest) ∧
      read.family = family ∧ read.bits = network.bits ∧
      read.address.octets = network.address.octets.take (octetsFor network.bits) ++
        List.replicate (family.octetCount - octetsFor network.bits) 0
  /-- Nothing is read exactly if there is a reason for it. -/
  refused : ∀ (buffer rest : Octets) (e : FeedError),
    (Reader.network family).run buffer = (.error e, rest) ↔ NoNetwork family buffer e rest

/-- Networks of each family are read as they are written, and they are refused only where they are too
long or not there. -/
theorem roundTrip_network (family : AddressFamily) : NetworkRoundTrip family where
  written_again := by
    intro buffer rest network read
    obtain ⟨origin, rfl, rfl, rfl⟩ := (reads_network family _ _ _).1 read
    rw [Network.family_trimmed, Network.encode_trimmed, ← Network.length_encode,
      Network.encode_trimmed, List.length_append]
    exact ⟨rfl, rfl, rfl⟩
  read_again := by
    rintro network rest rfl
    refine ⟨network.trimmed, (reads_network _).consumes rfl rest, network.family_trimmed, rfl, ?_⟩
    exact network.octets_trimmed
  refused := fun _ _ _ => run_network_eq_error_iff

/-- A network of twenty bits, which reach into the third octet of an address with bits set behind
them, and one more octet. -/
def hostNetwork : Network where
  address := .v4 ⟨[10, 1, 2, 3], rfl⟩
  bits := 20
  bits_le := by decide

/-- The four bits of the third octet are kept, and the fourth octet is lost. -/
theorem roundTrip_network_hostNetwork :
    hostNetwork.family = .ipv4 ∧ hostNetwork.encode = [20, 10, 1, 2] ∧
      ∃ read, (Reader.network .ipv4).run (hostNetwork.encode ++ [7]) = (.ok read, [7]) ∧
        read.family = .ipv4 ∧ read.bits = 20 ∧ read.address.octets = [10, 1, 2, 0] :=
  ⟨rfl, by decide, (roundTrip_network .ipv4).read_again hostNetwork [7] rfl⟩

end CollectorFeed
