import CollectorFeed.Session.Basic

/-!
# Errors of a feed

Every way in which reading a feed can fail, as a cause with what is known about it. The wording of
a cause is given once, by `FeedError.message`.
-/

set_option autoImplicit false

namespace CollectorFeed

/-- What is wrong with the path attributes of a route. -/
inductive AttributeFault
  /-- The attribute announces a length of two octets and ends before them. -/
  | lengthMissing (code : UInt8)
  /-- The attribute is longer than what is left of its block. -/
  | valueTooLong (code : UInt8) (declared left : Nat)
  /-- The block ends in octets too few for an attribute. -/
  | trailing (count : Nat)
  /-- The next hop is longer than the attribute that holds it. -/
  | nextHopTooLong
  /-- The block is longer than what is left of its record. -/
  | blockTooLong (declared left : Nat)
  /-- The message would be longer than its length field can say. -/
  | messageTooLong (total : Nat)
deriving DecidableEq, Repr

/-- Text of what is wrong with path attributes. -/
def AttributeFault.message : AttributeFault → String
  | lengthMissing code => s!"attribute {code} missing its extended length"
  | valueTooLong code declared left =>
    s!"attribute {code} declares {declared} bytes, {left} left"
  | trailing count => s!"{count} trailing bytes after attributes"
  | nextHopTooLong => "MP_REACH_NLRI next hop exceeds attribute length"
  | blockTooLong declared left =>
    s!"attribute block of {declared} bytes, {left} left in record"
  | messageTooLong total => s!"UPDATE of {total} bytes does not fit a BGP length field"

/-- Why octets could not be had from a stream. -/
inductive ReadFault
  /-- The stream ended where a definite number of octets was needed. -/
  | unfilled
  /-- The stream ended among octets that were to be passed over. -/
  | skipEnded (skipped wanted : Nat)
  /-- The stream itself reported a failure. -/
  | failure (reason : String)
deriving DecidableEq, Repr

/-- Text of why octets could not be had. -/
def ReadFault.message : ReadFault → String
  | unfilled => "failed to fill whole buffer"
  | skipEnded skipped wanted => s!"stream ended after {skipped} of {wanted} skipped bytes"
  | failure reason => reason

/-- What makes a body disagree with itself. -/
inductive BodyFault
  /-- Routes of one family were asked for from a record of another kind. -/
  | notFamilyRib (kind : String)
  /-- An aggregator is six or eight octets long. -/
  | aggregatorLength (found : Nat)
  /-- A route names a router that the index does not list. -/
  | peerOutOfRange (index count : Nat)
deriving DecidableEq, Repr

/-- Text of what makes a body disagree with itself. -/
def BodyFault.message : BodyFault → String
  | notFamilyRib kind => s!"wrong RIB type for parsing: {kind}"
  | aggregatorLength found =>
    s!"Aggregator attribute length is invalid: found {found}, should 6 or 8"
  | peerOutOfRange index count => s!"peer index {index} outside of {count} peers"

/-- What a message was cut short in. -/
inductive CutShort
  /-- A route of a table dump has a head of eight octets. -/
  | ribEntry (left : Nat)
  /-- A relayed message has more than its header. -/
  | relayedMessage (length : Nat)
deriving DecidableEq, Repr

/-- Text of what a message was cut short in. -/
def CutShort.message : CutShort → String
  | ribEntry left => s!"RIB entry needs 8 bytes, {left} left"
  | relayedMessage length => s!"embedded BGP message of {length} bytes"

/-- A registry of codes in which a number may be missing. -/
inductive Registry
  | recordType
  | relaySubtype
  | tableDumpSubtype
  | addressFamily
  | subsequentFamily
  | attributeKind
deriving DecidableEq, Repr

/-- Name of a registry. -/
def Registry.name : Registry → String
  | recordType => "EntryType"
  | relaySubtype => "Bgp4MpType"
  | tableDumpSubtype => "TableDumpV2Type"
  | addressFamily => "Afi"
  | subsequentFamily => "Safi"
  | attributeKind => "AttrType"

/-- Why reading a feed failed. -/
inductive FeedError
  /-- The stream ended before a whole record header. -/
  | shortHeader
  /-- The stream ended inside the body of a record. -/
  | truncatedBody (expected read : Nat)
  /-- The header announces a body outside of the accepted lengths. -/
  | lengthOutOfBounds (length min max : UInt32)
  /-- The subtype does not belong here. -/
  | unexpectedSubtype (type subtype : UInt16)
  /-- The record type does not belong here. -/
  | unexpectedType (type : UInt16)
  /-- Path attributes contradict their lengths. -/
  | malformedAttribute (fault : AttributeFault)
  /-- A relayed message does not begin with sixteen octets of ones. -/
  | missingMarker
  /-- A network is longer than its family allows. -/
  | networkTooLong (bits max : Nat)
  /-- The stream cannot be read further. -/
  | unreadable (fault : ReadFault)
  /-- A number is not registered. -/
  | unregistered (registry : Registry) (value : Nat)
  /-- A call on the sessions was refused. -/
  | session (error : SessionRefusal)
  /-- A buffer holds fewer octets than were needed. -/
  | bufferExhausted
  /-- A body contradicts itself. -/
  | contradiction (fault : BodyFault)
  /-- A message was cut short. -/
  | cutShort (what : CutShort)
deriving DecidableEq

namespace FeedError

/-- Text of an error. -/
def message : FeedError → String
  | shortHeader => "stream ended before a full record header"
  | truncatedBody expected read => s!"truncated payload: expected {expected} bytes, read {read}"
  | lengthOutOfBounds length min max =>
    s!"invalid record length {length} (accepted {min}..={max})"
  | unexpectedSubtype type subtype => s!"unexpected subtype {subtype} for MRT type {type}"
  | unexpectedType type => s!"unexpected MRT type {type}"
  | malformedAttribute fault => s!"malformed attribute: {fault.message}"
  | missingMarker => "embedded BGP message is missing its marker"
  | networkTooLong bits max => s!"invalid prefix length {bits} (maximum {max})"
  | unreadable fault => s!"fatal read error: {fault.message}"
  | unregistered registry value => s!"unrecognized value {value} for {registry.name}"
  | session error => error.message
  | bufferExhausted => "not enough bytes left in buffer"
  | contradiction fault => s!"parse error: {fault.message}"
  | cutShort what => s!"truncated message: {what.message}"

/-- Whether an error means that the sender closed the stream. -/
def isEndOfFeed : FeedError → Bool
  | shortHeader => true
  | truncatedBody _ _ => true
  | _ => false

end FeedError

end CollectorFeed
