import CollectorFeed.Net.AddressText

/-!
# Sessions

Messages of a feed belong to logical BGP sessions. A session is found by the two ends of a
connection: AS number, address and TCP port on either side. This module holds the words in which
sessions are spoken of; `Session.Table` keeps the sessions themselves.
-/

set_option autoImplicit false

namespace CollectorFeed

/-- Number of a session. -/
structure SessionId where
  /-- Sessions are numbered from one. -/
  number : Nat
deriving DecidableEq, Repr

/-- Text of a session's number. -/
def SessionId.text (id : SessionId) : String :=
  s!"session-{id.number}"

/-- The TCP port on which BGP speakers listen. -/
def bgpPort : UInt16 := 179

/-- The two ends of a session. -/
structure SessionKey where
  /-- AS number of the router that is watched. -/
  peerAsn : UInt32
  /-- AS number of the collector. -/
  localAsn : UInt32
  /-- TCP port of the router. -/
  peerPort : UInt16
  /-- TCP port of the collector. -/
  localPort : UInt16
  /-- Address of the router. -/
  peerAddress : Address
  /-- Address of the collector. -/
  localAddress : Address
deriving DecidableEq

namespace SessionKey

/-- The key of two ends that both use the usual TCP port. -/
def onBgpPort (peerAsn localAsn : UInt32) (peerAddress localAddress : Address) : SessionKey where
  peerAsn := peerAsn
  localAsn := localAsn
  peerPort := bgpPort
  localPort := bgpPort
  peerAddress := peerAddress
  localAddress := localAddress

/-- The same ends on other ports. -/
def onPorts (key : SessionKey) (peerPort localPort : UInt16) : SessionKey :=
  { key with peerPort := peerPort, localPort := localPort }

/-- Text of a key: the router's end, an arrow, the collector's end. -/
def text (key : SessionKey) : String :=
  let far := s!"AS{key.peerAsn} {key.peerAddress.text}:{key.peerPort}"
  let near := s!"AS{key.localAsn} {key.localAddress.text}:{key.localPort}"
  s!"{far} <-> {near}"

end SessionKey

/-- How far a session has come. -/
inductive SessionState
  /-- Known from a table dump; the width of its AS numbers is still open. -/
  | provisional
  /-- At least one live message went through it. -/
  | established
  /-- Its feed has ended. -/
  | error
deriving DecidableEq, Repr

/-- Name of a state. -/
def SessionState.name : SessionState → String
  | provisional => "Provisional"
  | established => "MrtEstablished"
  | error => "Error"

/-- What brought a session into its state. -/
inductive SessionCause
  /-- Nothing in particular. -/
  | none
  /-- Somebody, or the end of its feed, stopped it. -/
  | manualStop
deriving DecidableEq, Repr

/-- Name of a cause. -/
def SessionCause.name : SessionCause → String
  | none => "None"
  | manualStop => "ManualStop"

/-- What those who receive the messages of a session do with them. -/
inductive Handling
  /-- Nothing in particular. -/
  | noAction
  /-- They mark them with a label. -/
  | label
  /-- They only store the routes. -/
  | storeRibOnly
deriving DecidableEq, Repr

namespace Handling

/-- Name of a way of handling messages. -/
def name : Handling → String
  | noAction => "NoAction"
  | label => "Label"
  | storeRibOnly => "StoreRibOnly"

/-- The way of handling messages that has a name, if there is one. -/
def ofName? : String → Option Handling
  | "NoAction" => some noAction
  | "Label" => some label
  | "StoreRibOnly" => some storeRibOnly
  | _ => Option.none

end Handling

/-- Why a call on the sessions was refused. -/
inductive SessionRefusal
  /-- There is a session of this key already. -/
  | alreadyExists (id : SessionId) (key : SessionKey)
  /-- There is no session of this number. -/
  | unknownSession (id : SessionId)
  /-- As many sessions exist as may exist. -/
  | tableFull (limit : Nat)
deriving DecidableEq

/-- Text of a refusal. -/
def SessionRefusal.message : SessionRefusal → String
  | alreadyExists id key => s!"session {id.text} already exists for {key.text}"
  | unknownSession id => s!"unknown session {id.text}"
  | tableFull limit => s!"session table is full ({limit} sessions)"

end CollectorFeed
