import CollectorFeed.Record.Kinds

/-!
# Path attributes

A path attribute has a flags octet, a code and a value. One flag says that the length of the value
stands in two octets and not in one; when an attribute is written that flag follows the length, and
the other seven bits are kept.
-/

set_option autoImplicit false

namespace CollectorFeed

/-! ## Flags -/

namespace AttributeFlags

/-- Routers need not know the attribute. -/
def optional : UInt8 := 0x80

/-- Routers that do not know the attribute pass it on. -/
def transitive : UInt8 := 0x40

/-- The length of the value stands in two octets. -/
def extended : UInt8 := 0x10

/-- Whether a flags octet announces a length of two octets. -/
def isExtended (flags : UInt8) : Bool :=
  flags &&& extended != 0

/-- The flags octet with the flag of the long length set. -/
def setExtended (flags : UInt8) : UInt8 :=
  flags ||| extended

/-- The flags octet with the flag of the long length cleared. -/
def clearExtended (flags : UInt8) : UInt8 :=
  flags &&& ~~~extended

end AttributeFlags

/-! ## Attributes -/

/-- A path attribute as it stands in a message. -/
structure PathAttribute where
  /-- The flags octet. -/
  flags : UInt8
  /-- Number of the kind, registered or not. -/
  code : UInt8
  /-- The value. -/
  value : Octets
deriving DecidableEq

namespace PathAttribute

/-- An attribute of a registered kind. -/
def ofKind (flags : UInt8) (kind : AttributeKind) (value : Octets) : PathAttribute :=
  ⟨flags, kind.code, value⟩

/-- The registered kind of an attribute, if its code is one. -/
def kind? (attr : PathAttribute) : Option AttributeKind :=
  AttributeKind.ofCode? attr.code

/-- Whether the attribute carries networks together with their next hop. -/
def isMpReach (attr : PathAttribute) : Bool :=
  attr.code == AttributeKind.mpReach.code

/-- Whether the value is too long for a length of one octet. -/
def isLong (attr : PathAttribute) : Bool :=
  255 < attr.value.length

/-- The flags octet that goes with the length of the value. -/
def writtenFlags (attr : PathAttribute) : UInt8 :=
  if attr.isLong then AttributeFlags.setExtended attr.flags
  else AttributeFlags.clearExtended attr.flags

/-- The written form of the length: two octets for a long value, else one. -/
def lengthOctets (attr : PathAttribute) : Octets :=
  Octets.ofNat (if attr.isLong then 2 else 1) attr.value.length

/-- The written form of an attribute. -/
def encode (attr : PathAttribute) : Octets :=
  attr.writtenFlags :: attr.code :: (attr.lengthOctets ++ attr.value)

/-- Octets of the written form. -/
def encodedLength (attr : PathAttribute) : Nat :=
  (if attr.isLong then 4 else 3) + attr.value.length

@[simp] theorem length_encode (attr : PathAttribute) :
    attr.encode.length = attr.encodedLength := by
  simp only [encode, encodedLength, lengthOctets, List.length_cons, List.length_append,
    Octets.length_ofNat]
  split <;> omega

end PathAttribute

end CollectorFeed
