import MessageTransport.Config
import MessageTransport.Draft
import MessageTransport.IdAllocator
import MessageTransport.Reactor.Pool
import MessageTransport.Reactor.Task

set_option autoImplicit false

namespace MessageTransport

/-- The reactors with what they share. The registry finds the connection to an endpoint; the reactor
that owns a connection keeps it alive. -/
structure Transport (Handler : Type) where
  config : Config
  pool : ReactorPool Handler
  registry : Registry ConnectionRef := .empty
  requestIds : IdAllocator := {}
  connIds : IdAllocator := {}
  isShutDown : Bool := false

namespace Transport

variable {Handler : Type}

def start (config : Config) (processors : Nat) : Transport Handler where
  config
  pool := .start (config.effectiveReactorCount processors)

def connection? (t : Transport Handler) (ref : ConnectionRef) : Option (Connection Handler) :=
  (t.pool.reactor? ref.reactor).bind (fun r => r.connection? ref.connId)

/-- A connection lives as long as a reactor owns it. -/
def isLive (t : Transport Handler) (ref : ConnectionRef) : Bool := (t.connection? ref).isSome

def updateReactor (t : Transport Handler) (index : Nat)
    (f : Reactor Handler → Reactor Handler) : Transport Handler :=
  { t with pool := t.pool.update index f }

def updateConnection (t : Transport Handler) (ref : ConnectionRef)
    (f : Connection Handler → Connection Handler) : Transport Handler :=
  t.updateReactor ref.reactor (fun r => r.updateConnection ref.connId f)

/-- Takes a connection out of the registry if it is the one registered. -/
def unregister (t : Transport Handler) (remote : Endpoint) (ref : ConnectionRef) :
    Transport Handler :=
  { t with registry := (t.registry.removeHandle remote ref).2 }

/-- The open connection to an endpoint. -/
def lookup (t : Transport Handler) (remote : Endpoint) :
    Except ErrorCode (ConnectionRef × Connection Handler) × Transport Handler :=
  if t.isShutDown then (.error .shutdown, t)
  else
    let (found, registry) := t.registry.get t.isLive remote
    let next := { t with registry }
    match found.bind (fun ref => (t.connection? ref).map (fun c => (ref, c))) with
    | some (ref, c) =>
      if c.state = .closed then (.error .notConnected, next) else (.ok (ref, c), next)
    | none => (.error .notConnected, next)

/-- Puts a new connection under a reactor. It is registered first, and taken out again if the
reactor no longer takes in connections. -/
def install (t : Transport Handler) (index : Nat) (c : Connection Handler) :
    Except ErrorCode ConnectionRef × Transport Handler :=
  let ref : ConnectionRef := ⟨index, c.id⟩
  let (inserted, registry) := t.registry.insert t.isLive c.remote ref
  if inserted then
    let owned := ({ t with registry }).updateReactor index (fun r => r.adopt c)
    if (t.pool.reactor? index).any (fun r => r.running) then
      (.ok ref, owned.updateReactor index (fun r => r.register c.id))
    else
      let left := owned.updateReactor index (fun r => r.forget c.id)
      (.error .shutdown, left.unregister c.remote ref)
  else (.error .alreadyConnected, t)

def newConnection (t : Transport Handler) (id : UInt32) (remote : Endpoint) (handler : Handler)
    (timeoutMs : Nat) (socket : Option Nat) : Connection Handler where
  id
  remote
  handler
  requestTimeout := timeoutMs
  reader := .start t.config.maxMessageSize.toNat
  socket

/-- Starts to connect. Messages sent meanwhile are kept until the connection is there. -/
def connect (t : Transport Handler) (remote : Endpoint) (timeoutMs : Nat) (handler : Handler) :
    Except ErrorCode ConnectionRef × Transport Handler :=
  if t.isShutDown then (.error .shutdown, t)
  else
    let (present, registry) := t.registry.contains t.isLive remote
    let t := { t with registry }
    if present then (.error .alreadyConnected, t)
    else
      let (index, pool) := t.pool.takeNext
      let (id, connIds) := t.connIds.take
      let t := { t with pool, connIds }
      t.install index (t.newConnection id remote handler timeoutMs none)

/-- Takes in a connection that a listener accepted. -/
def accept (t : Transport Handler) (index : Nat) (remote : Endpoint) (socket : Nat)
    (handler : Handler) : Except ErrorCode ConnectionRef × Transport Handler :=
  let (id, connIds) := t.connIds.take
  let t := { t with connIds }
  t.install index (t.newConnection id remote handler t.config.requestTimeout.toMillis (some socket))

/-- What a send came to: its outcome, the connection used and the bytes written at once. -/
structure Sent (Handler : Type) (α : Type) where
  outcome : Except ErrorCode α
  transport : Transport Handler
  ref : Option ConnectionRef := none
  written : Bytes := []

/-- Hands chunks to a connection. One that cannot take them is no longer found afterwards. -/
def sendChunks (t : Transport Handler) (ref : ConnectionRef) (c : Connection Handler)
    (chunks : List Bytes) (answers : List WriteAnswer) : Sent Handler Unit :=
  let sent := c.send chunks answers
  let t := t.updateConnection ref (fun _ => sent.connection)
  match sent.outcome with
  | .ok () => ⟨.ok (), t, some ref, sent.written⟩
  | .error e => ⟨.error e, t.unregister c.remote ref, some ref, sent.written⟩

/-- The draft as it goes out as a request. Without a handler no response is expected. -/
def asRequest (draft : Draft) (id : UInt32) (hasHandler : Bool) : Draft :=
  let header := { draft.header.setFlag Header.requestFlag with id }
  draft.setHeader (if hasHandler then header else header.setFlag Header.ignoreResponseFlag)

/-- Sends a request. With a handler the request is given an id and is pending from before it is
written until its response, its expiry or the loss of its connection. -/
def sendRequest (t : Transport Handler) (now : Instant) (remote : Endpoint) (draft : Draft)
    (handler : Option Handler) (answers : List WriteAnswer) : Sent Handler UInt32 :=
  match t.lookup remote with
  | (.error e, t) => ⟨.error e, t, none, []⟩
  | (.ok (ref, c), t) =>
    let (id, requestIds) := match handler with
      | none => (0, t.requestIds)
      | some _ => t.requestIds.take
    let t := { t with requestIds }
    match (asRequest draft id handler.isSome).chunks with
    | .error e => ⟨.error e, t, none, []⟩
    | .ok chunks =>
      let t := match handler with
        | none => t
        | some handler => t.updateReactor ref.reactor (fun r => r.addRequest
            ⟨id, c.id, remote, handler, c.expiryAt now draft.header.timeoutMs⟩)
      let sent := t.sendChunks ref c chunks answers
      match sent.outcome with
      | .ok () => ⟨.ok id, sent.transport, some ref, sent.written⟩
      | .error e =>
        let t := if id = 0 then sent.transport
          else sent.transport.updateReactor ref.reactor (fun r => (r.removeRequest id).2)
        ⟨.error e, t, some ref, sent.written⟩

/-- The draft as it goes out as a response. -/
def asResponse (draft : Draft) : Draft :=
  draft.setHeader (draft.header.clearFlag Header.requestFlag)

/-- Sends a response. The request flag is cleared, and nothing is recorded. -/
def sendResponse (t : Transport Handler) (remote : Endpoint) (draft : Draft)
    (answers : List WriteAnswer) : Sent Handler Unit :=
  match t.lookup remote with
  | (.error e, t) => ⟨.error e, t, none, []⟩
  | (.ok (ref, c), t) =>
    match (asResponse draft).chunks with
    | .error e => ⟨.error e, t, none, []⟩
    | .ok chunks => t.sendChunks ref c chunks answers

/-- Closes the connection to an endpoint, which is no longer found from then on. -/
def closeSocket (t : Transport Handler) (remote : Endpoint) :
    Except ErrorCode Unit × Transport Handler :=
  match t.lookup remote with
  | (.error e, t) => (.error e, t)
  | (.ok (ref, _), t) =>
    (.ok (), (t.unregister remote ref).updateConnection ref (fun c => c.close .brokenConnection))

/-- Takes a connection apart on the reactor that owns it. Whoever has to be told is told when it is
no longer found anywhere. -/
def teardown (t : Transport Handler) (ref : ConnectionRef) (c : Connection Handler)
    (reason : ErrorCode) : List (Delivery Handler) × Transport Handler :=
  match t.pool.reactor? ref.reactor with
  | none => ([], t)
  | some r =>
    let detached := r.detach t.registry c
    (detached.deliveries reason,
      { t with registry := detached.registry }.updateReactor ref.reactor
        (fun _ => detached.reactor))

def localAddress (t : Transport Handler) (remote : Endpoint) :
    Except ErrorCode Endpoint × Transport Handler :=
  match t.lookup remote with
  | (.error e, t) => (.error e, t)
  | (.ok (_, c), t) =>
    match c.localAddress with
    | some address => (.ok address, t)
    | none => (.error .notConnected, t)

def isConnected (t : Transport Handler) (remote : Endpoint) : Bool × Transport Handler :=
  match t.lookup remote with
  | (.ok _, t) => (true, t)
  | (.error _, t) => (false, t)

/-- Sets a timer on the reactor whose turn it is. -/
def setTimer (t : Transport Handler) (due : Instant) (handler : Handler) :
    Except ErrorCode Unit × Transport Handler :=
  if t.isShutDown then (.error .shutdown, t)
  else
    let (index, pool) := t.pool.takeNext
    (.ok (), ({ t with pool }).updateReactor index (fun r => r.addTimer due handler))

/-- A reactor that stops closes its connections, takes up no more and forgets its timers once they
are gone. -/
def stopReactor (r : Reactor Handler) : Reactor Handler :=
  { r with
    stopping := true
    connections := r.connections.map (fun _ c => c.close .shutdown) }

/-- Shuts the transport down. A second time changes nothing. -/
def shutdown (t : Transport Handler) : Transport Handler :=
  if t.isShutDown then t
  else
    { t with
      isShutDown := true
      registry := t.registry.clear
      pool := { t.pool with reactors := t.pool.reactors.map stopReactor } }

/-- Whether every reactor has stopped. -/
def isStopped (t : Transport Handler) : Bool := t.pool.reactors.all (fun r => !r.running)

/-- The transport as it is shown to people. -/
def describe (t : Transport Handler) : String :=
  "Comm \x7b reactors: " ++ t.pool.size.repr ++ ", registry: " ++ t.registry.describe ++
    ", shut_down: " ++ (if t.isShutDown then "true" else "false") ++ " \x7d"

end Transport

end MessageTransport
