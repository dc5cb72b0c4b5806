import MessageTransport.Reactor
import MessageTransport.Registry

set_option autoImplicit false

namespace MessageTransport

/-- A connection as the registry refers to it. -/
structure ConnectionRef where
  reactor : Nat
  connId : UInt32
deriving DecidableEq, Repr

namespace Reactor

variable {Handler : Type}

def refTo (r : Reactor Handler) (connId : UInt32) : ConnectionRef := ⟨r.index, connId⟩

/-- Changes a connection, if the reactor owns it. -/
def updateConnection (r : Reactor Handler) (connId : UInt32)
    (f : Connection Handler → Connection Handler) : Reactor Handler :=
  match r.connection? connId with
  | none => r
  | some c => { r with connections := r.connections.insert connId (f c) }

/-- The connection has a socket, and its handler is told. -/
def establish (r : Reactor Handler) (c : Connection Handler) (socket : Nat)
    (localAddress : Option Endpoint) : Delivery Handler × Reactor Handler :=
  (⟨c.handler, .established c.remote c.id⟩,
    r.updateConnection c.id (fun c => c.markConnected socket localAddress))

/-- Finds the handler of a message. A request goes to the handler of the connection. A response
takes the pending request with its id out of the table and goes to the handler of that; one whose id
is not there is dropped. -/
def dispatch (r : Reactor Handler) (c : Connection Handler) (m : Message) :
    Option (Delivery Handler) × Reactor Handler :=
  let event := Event.message c.remote c.id m.header m.payload
  if m.header.isRequest then (some ⟨c.handler, event⟩, r)
  else
    let (pending, next) := r.removeRequest m.header.id
    (pending.map (fun request => ⟨request.handler, event⟩), next)

/-- What a task got out of one go at reading. -/
structure Received (Handler : Type) where
  reactor : Reactor Handler
  delivery : Option (Delivery Handler)
  /-- Whether to read on, or why the connection has to close. -/
  outcome : Except ErrorCode Bool
  rest : List ReadAnswer

/-- Reads up to one message and finds its handler. -/
def receive (r : Reactor Handler) (c : Connection Handler) (answers : List ReadAnswer) :
    Received Handler :=
  let step := c.reader.advance answers
  let next := r.updateConnection c.id (fun c => { c with reader := step.reader })
  match step.outcome with
  | .error code => ⟨next, none, .error code, step.rest⟩
  | .ok none => ⟨next, none, .ok false, step.rest⟩
  | .ok (some m) =>
    let (delivery, dispatched) := next.dispatch c m
    ⟨dispatched, delivery, .ok true, step.rest⟩

/-- What is left when a connection has been taken out: the connection as its callers still see it,
the requests that were pending on it, and what it was taken out of. -/
structure Detached (Handler : Type) where
  connection : Connection Handler
  requests : List (PendingRequest Handler)
  reactor : Reactor Handler
  registry : Registry ConnectionRef

/-- Takes a connection out of the reactor, the registry and the request table. It is closed by then
and has nothing left to be written. -/
def detach (r : Reactor Handler) (registry : Registry ConnectionRef) (c : Connection Handler) :
    Detached Handler :=
  let (requests, table) := r.requests.purge c.id
  { connection := c.markClosed
    requests
    reactor := { r.forget c.id with requests := table }
    registry := (registry.removeHandle c.remote (r.refTo c.id)).2 }

/-- A request that was lost with its connection. -/
def lostWith (c : Connection Handler) (request : PendingRequest Handler) : Delivery Handler :=
  ⟨request.handler, .failed c.remote c.id request.id .brokenConnection⟩

/-- What is told of a connection that has been taken out: every request that was pending on it has
failed, and then its handler learns why it closed. -/
def Detached.deliveries (d : Detached Handler) (reason : ErrorCode) : List (Delivery Handler) :=
  let c := d.connection
  d.requests.map (lostWith c) ++ [⟨c.handler, .disconnected c.remote c.id reason⟩]

/-- The calls that a teardown makes. None of them is under guard. -/
def teardownCalls (panics : Handler → Event → Bool) (r : Reactor Handler)
    (registry : Registry ConnectionRef) (c : Connection Handler) (reason : ErrorCode) :
    List (Delivery Handler) :=
  Delivery.calls .unguarded panics ((r.detach registry c).deliveries reason)

end Reactor

end MessageTransport
