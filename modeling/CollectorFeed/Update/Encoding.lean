import CollectorFeed.Relay.Message
import CollectorFeed.Path.Reachability

/-!
# BGP UPDATE messages

A route of a table dump is passed on as a BGP UPDATE message: marker, length of the message, type,
no withdrawn routes, the path attributes behind their length, and perhaps one network. A message
whose length does not fit two octets is refused, and that is the only reason to refuse one.
-/

set_option autoImplicit false

namespace CollectorFeed

namespace UpdateMessage

/-- The written forms of attributes, one behind the other. -/
def encodeAttributes (attributes : List PathAttribute) : Octets :=
  attributes.flatMap PathAttribute.encode

/-- Octets of the written forms of attributes. -/
def attributesLength (attributes : List PathAttribute) : Nat :=
  attributes.foldr (fun first rest => first.encodedLength + rest) 0

theorem length_encodeAttributes (attributes : List PathAttribute) :
    (encodeAttributes attributes).length = attributesLength attributes := by
  induction attributes with
  | nil => rfl
  | cons first rest ih =>
    simp only [encodeAttributes, List.flatMap_cons, List.length_append, attributesLength,
      List.foldr_cons, PathAttribute.length_encode] at ih ⊢
    rw [ih]

/-- The written form of the network of a message, if it has one. -/
def encodeNetwork (network? : Option Network) : Octets :=
  (network?.map Network.encode).getD []

/-- Octets of a message. -/
def totalLength (attributes : List PathAttribute) (network? : Option Network) : Nat :=
  bgpHeaderLength + 2 + 2 + attributesLength attributes +
    ((network?.map Network.encodedLength).getD 0)

/-- Greatest length that the length field of a message can say. -/
def greatestLength : Nat := 65535

/-- The octets of a message whose length fits. -/
def octets (attributes : List PathAttribute) (network? : Option Network) : Octets :=
  bgpMarker ++ Octets.ofNat 2 (totalLength attributes network?) ++ [bgpUpdateType] ++
    Octets.ofNat 2 0 ++ Octets.ofNat 2 (attributesLength attributes) ++
    encodeAttributes attributes ++ encodeNetwork network?

/-- The message with the given attributes and network. -/
def encode (attributes : List PathAttribute) (network? : Option Network) :
    Except FeedError Octets :=
  let total := totalLength attributes network?
  if greatestLength < total then .error (.malformedAttribute (.messageTooLong total))
  else .ok (octets attributes network?)

end UpdateMessage

end CollectorFeed
