import CollectorFeed.Octets

/-!
# Address families and widths of AS numbers

Routes are told apart by an address family and a subsequent family, each with a registered code.
AS numbers stand in two or four octets; which of the two a message uses is agreed on elsewhere.

Main statements: reading the code of a family gives the family back (`ofCode?_code`).
-/

set_option autoImplicit false

namespace CollectorFeed

/-! ## Families -/

/-- Family of network addresses. -/
inductive AddressFamily
  | ipv4
  | ipv6
deriving DecidableEq, Repr

namespace AddressFamily

/-- Registered number of the family. -/
def code : AddressFamily → UInt16
  | ipv4 => 1
  | ipv6 => 2

/-- The family with a registered number, if there is one. -/
def ofCode? (code : UInt16) : Option AddressFamily :=
  if code = 1 then some ipv4 else if code = 2 then some ipv6 else none

theorem ofCode?_code (family : AddressFamily) : ofCode? family.code = some family := by
  cases family <;> rfl

/-- Family named in the header of a relayed message: IPv4 if it is so marked, else IPv6. -/
def ofRelayField (code : UInt16) : AddressFamily :=
  if code = 1 then ipv4 else ipv6

/-- Octets of an address. -/
def octetCount : AddressFamily → Nat
  | ipv4 => 4
  | ipv6 => 16

/-- Length in bits of the longest network. -/
def maxBits (family : AddressFamily) : Nat :=
  8 * family.octetCount

/-- Name of the family. -/
def name : AddressFamily → String
  | ipv4 => "Ipv4"
  | ipv6 => "Ipv6"

end AddressFamily

/-- Which use of an address family a route is for. -/
inductive SubsequentFamily
  | unicast
  | multicast
deriving DecidableEq, Repr

namespace SubsequentFamily

/-- Registered number of the subsequent family. -/
def code : SubsequentFamily → UInt8
  | unicast => 1
  | multicast => 2

/-- The subsequent family with a registered number, if there is one. -/
def ofCode? (code : UInt8) : Option SubsequentFamily :=
  if code = 1 then some unicast else if code = 2 then some multicast else none

theorem ofCode?_code (use : SubsequentFamily) : ofCode? use.code = some use := by
  cases use <;> rfl

/-- Name of the subsequent family. -/
def name : SubsequentFamily → String
  | unicast => "Unicast"
  | multicast => "Multicast"

end SubsequentFamily

/-! ## AS numbers -/

/-- How many octets an AS number takes. -/
inductive AsnWidth
  | two
  | four
deriving DecidableEq, Repr

namespace AsnWidth

/-- Octets of one AS number. -/
def octetCount : AsnWidth → Nat
  | two => 2
  | four => 4

/-- Greatest AS number of the width. -/
def greatest (width : AsnWidth) : Nat :=
  Octets.bound width.octetCount - 1

end AsnWidth

/-- The AS number that stands for every number too wide for its place. -/
def transitionAsn : UInt32 := 23456

/-- An AS number in the given width; one that does not fit is replaced by `transitionAsn`. -/
def encodeAsn (width : AsnWidth) (asn : UInt32) : Octets :=
  if asn.toNat ≤ width.greatest then Octets.ofNat width.octetCount asn.toNat
  else Octets.ofNat width.octetCount transitionAsn.toNat

@[simp] theorem length_encodeAsn (width : AsnWidth) (asn : UInt32) :
    (encodeAsn width asn).length = width.octetCount := by
  unfold encodeAsn
  split <;> simp

end CollectorFeed
