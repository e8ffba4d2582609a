/-!
# Requests to stop

A conversation is asked to stop through a handle. Handles of one request are interchangeable: once
the request was raised through one of them, every one of them shows it. A request that was raised
stays raised.
-/

set_option autoImplicit false

namespace CollectorFeed

/-- Requests to stop, and the handles that belong to them. -/
structure StopRequests where
  /-- Whether each request was raised. -/
  raised : List Bool
  /-- The request to which each handle belongs. -/
  handles : List Nat
deriving DecidableEq

namespace StopRequests

/-- One request with one handle. -/
def single : StopRequests :=
  ⟨[false], [0]⟩

/-- Adds a request with a handle of its own. -/
def add (requests : StopRequests) : StopRequests :=
  ⟨requests.raised ++ [false], requests.handles ++ [requests.raised.length]⟩

/-- Adds a handle of the same request. -/
def share (requests : StopRequests) (handle : Nat) : StopRequests :=
  match requests.handles[handle]? with
  | some request => { requests with handles := requests.handles ++ [request] }
  | none => requests

/-- Raises the request of a handle. -/
def raise (requests : StopRequests) (handle : Nat) : StopRequests :=
  match requests.handles[handle]? with
  | some request => { requests with raised := requests.raised.set request true }
  | none => requests

/-- What each handle shows. -/
def shown (requests : StopRequests) : List Bool :=
  requests.handles.map fun request => requests.raised[request]?.getD false

end StopRequests

end CollectorFeed
