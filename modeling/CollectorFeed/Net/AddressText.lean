import CollectorFeed.Net.Address

/-!
# Text of addresses

An IPv4 address is four decimal numbers with points between. An IPv6 address is eight groups of
lower-case hexadecimal digits with colons between, where the longest run of at least two zero
groups, the first one of equally long runs, is written as two colons. An IPv6 address that embeds
an IPv4 address behind ten zero octets and two octets of ones ends in the dotted form.
-/

set_option autoImplicit false

namespace CollectorFeed

/-- Decimal numbers of octets with points between. -/
def dottedText (octets : Octets) : String :=
  ".".intercalate (octets.map fun octet => toString octet.toNat)

namespace Ipv6Text

/-- The groups of two octets as numbers. -/
def groups : Octets → List Nat
  | high :: low :: rest => (high.toNat * 256 + low.toNat) :: groups rest
  | _ => []

/-- Lower-case hexadecimal digits of a group, without leading zeros. -/
def groupText (group : Nat) : String :=
  String.ofList (Nat.toDigits 16 group)

/-- Groups with colons between. -/
def groupsText (gs : List Nat) : String :=
  ":".intercalate (gs.map groupText)

/-- Number of zero groups that stand together from the given position on. -/
def zeroRun (gs : List Nat) (start : Nat) : Nat :=
  ((gs.drop start).takeWhile (· == 0)).length

/-- Position of the longest run of zero groups, the first one of equally long runs. -/
def longestRun (gs : List Nat) : Nat :=
  (List.range gs.length).foldl
    (fun best start => if zeroRun gs best < zeroRun gs start then start else best) 0

/-- Text of eight groups, the longest run of zero groups shortened if it has two or more. -/
def compressed (gs : List Nat) : String :=
  let start := longestRun gs
  let run := zeroRun gs start
  if 1 < run then
    groupsText (gs.take start) ++ "::" ++ groupsText (gs.drop (start + run))
  else groupsText gs

/-- Octets in front of an embedded IPv4 address. -/
def embeddingFront : Octets :=
  List.replicate 10 0 ++ List.replicate 2 255

end Ipv6Text

/-- The usual text of an address. -/
def Address.text : Address → String
  | .v4 o => dottedText o.toList
  | .v6 o =>
    if o.toList.take 12 = Ipv6Text.embeddingFront then
      "::ffff:" ++ dottedText (o.toList.drop 12)
    else Ipv6Text.compressed (Ipv6Text.groups o.toList)

/-- Text of a network: its address, a slash and the bit length. -/
def Network.text (network : Network) : String :=
  s!"{network.address.text}/{network.bits}"

end CollectorFeed
