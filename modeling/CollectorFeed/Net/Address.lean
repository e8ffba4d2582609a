import CollectorFeed.Net.Family

/-!
# Addresses and networks

An address is a fixed count of octets, and a network is an address together with the number of its
leading bits that count. Bits of the address behind those are kept, as routers send them.

The written form of a network is its bit length in one octet, followed by as many address octets as
those bits reach into.
-/

set_option autoImplicit false

namespace CollectorFeed

/-- Four octets, written as a dotted quad: an IPv4 address or the identifier of a router. -/
abbrev Quad := FixedOctets 4

/-- A network address of either family. -/
inductive Address
  | v4 (octets : Quad)
  | v6 (octets : FixedOctets 16)
deriving DecidableEq

namespace Address

/-- The family an address belongs to. -/
def family : Address → AddressFamily
  | v4 _ => .ipv4
  | v6 _ => .ipv6

/-- The octets of an address. -/
def octets : Address → Octets
  | v4 o => o.toList
  | v6 o => o.toList

@[simp] theorem length_octets (address : Address) :
    address.octets.length = address.family.octetCount := by
  cases address with
  | v4 o => exact o.length_toList
  | v6 o => exact o.length_toList

/-- The address of a family whose first octets are given and whose others are zero. -/
def padded (family : AddressFamily) (front : Octets) : Address :=
  match family with
  | .ipv4 => .v4 (FixedOctets.padded 4 front)
  | .ipv6 => .v6 (FixedOctets.padded 16 front)

@[simp] theorem family_padded (family : AddressFamily) (front : Octets) :
    (padded family front).family = family := by
  cases family <;> rfl

theorem padded_octets (address : Address) : padded address.family address.octets = address := by
  cases address <;> simp [padded, family, octets]

/-- The address that octets spell, if their number fits one of the families. -/
def ofOctets? (octets : Octets) : Option Address :=
  if fits : octets.length = 4 then some (.v4 ⟨octets, fits⟩)
  else if fits : octets.length = 16 then some (.v6 ⟨octets, fits⟩)
  else none

end Address

/-- Octets that a number of leading bits reaches into. -/
def octetsFor (bits : Nat) : Nat :=
  (bits + 7) / 8

/-- A network: an address and the number of its leading bits that count. -/
structure Network where
  /-- The address, bits behind the counting ones included. -/
  address : Address
  /-- How many leading bits count. -/
  bits : Nat
  /-- No network is longer than an address of its family. -/
  bits_le : bits ≤ address.family.maxBits
deriving DecidableEq

namespace Network

/-- The network of an address and a bit length, unless that length is too great. -/
def ofBits? (address : Address) (bits : Nat) : Option Network :=
  if fits : bits ≤ address.family.maxBits then some ⟨address, bits, fits⟩ else none

/-- Family of a network. -/
def family (network : Network) : AddressFamily :=
  network.address.family

/-- The written form: bit length, then the octets which the bits reach into. -/
def encode (network : Network) : Octets :=
  UInt8.ofNat network.bits :: network.address.octets.take (octetsFor network.bits)

/-- Octets of the written form. -/
def encodedLength (network : Network) : Nat :=
  1 + octetsFor network.bits

theorem octetsFor_le (network : Network) :
    octetsFor network.bits ≤ network.address.octets.length := by
  have fits := network.bits_le
  simp only [AddressFamily.maxBits] at fits
  rw [Address.length_octets, octetsFor]
  omega

/-- The longest networks are IPv6 addresses. -/
theorem bits_le_longest (network : Network) : network.bits ≤ 128 := by
  have fits := network.bits_le
  have longest : network.address.family.maxBits ≤ 128 := by
    cases network.address.family <;> decide
  omega

@[simp] theorem length_encode (network : Network) :
    network.encode.length = network.encodedLength := by
  have reach := network.octetsFor_le
  simp only [encode, encodedLength, List.length_cons, List.length_take]
  omega

end Network

end CollectorFeed
