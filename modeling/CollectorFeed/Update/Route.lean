import CollectorFeed.Rib.Record
import CollectorFeed.Update.Encoding
import CollectorFeed.Update.Narrowing

/-!
# Routes as messages

A route is passed on with the attributes fit for its session. An IPv4 unicast route whose network
does not stand in an attribute carries it at the end of the message; any other route relies on its
attributes.
-/

set_option autoImplicit false

namespace CollectorFeed

namespace DumpedRoute

/-- The network that stands at the end of the message of a route. -/
def trailingNetwork? (route : DumpedRoute) : Option Network :=
  if route.target.family = .ipv4 ∧ route.target.use = .unicast ∧ route.hasMpReach = false then
    some route.target.network
  else none

/-- The message of a route for a session with AS numbers of the given width. -/
def updateMessage (route : DumpedRoute) (width : AsnWidth) : Except FeedError Octets :=
  UpdateMessage.encode (adaptAttributes width route.attributes) route.trailingNetwork?

end DumpedRoute

end CollectorFeed
