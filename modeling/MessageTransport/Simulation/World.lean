import MessageTransport.LinkManager
import MessageTransport.Simulation.Handler
import MessageTransport.Simulation.Network
import MessageTransport.Synchronizer

set_option autoImplicit false

namespace MessageTransport.Simulation

/-- Events in order of arrival, and how many of them have been waited for. -/
structure EventQueue where
  events : Array Event := #[]
  taken : Nat := 0

/-- A transport's listener: who handles its connections, and whose turn it is to own the next. -/
structure Acceptor where
  transport : TransportId
  handler : Handler
  onAccept : Option (Sink TransportId)
  next : Nat := 0

structure Manager where
  transport : TransportId
  links : LinkManager (Sink TransportId) := .empty

/-- Whether a listener that has not gone away keeps a transport alive. -/
def Acceptor.keeps (transport : TransportId) (a : Acceptor) : Bool :=
  a.handler.keeps transport || a.onAccept.any (Sink.keeps transport)

/-- Whether a manager keeps a transport alive: its own, and those that its handlers use. -/
def Manager.keeps (transport : TransportId) (m : Manager) : Bool :=
  m.transport = transport ||
    m.links.links.values.any (fun link => link.handler.any (Sink.keeps transport))

/-- Whole transports on one host under a clock of their own. In the background connections are made,
messages travel, deadlines pass and links are retried. -/
structure World where
  network : Network
  now : Instant := 0
  transports : Std.TreeMap TransportId (Transport Handler) := ∅
  /-- The transports that the program has, by name. -/
  held : Std.TreeMap String TransportId := ∅
  acceptors : Std.TreeMap Endpoint Acceptor := ∅
  managers : Std.TreeMap String Manager := ∅
  queues : Std.TreeMap String EventQueue := ∅
  synchronizers : Std.TreeMap String Synchronizer := ∅
  /-- Bare sockets by name. -/
  peers : Std.TreeMap String Nat := ∅
  /-- Bare listening sockets by name. -/
  bareListeners : Std.TreeMap String Endpoint := ∅
  /-- Addresses by name. -/
  names : Std.TreeMap String Endpoint := ∅

namespace World

/-- A world without transports, in which some ports are asked for by number. -/
def start (hasRoute : Bool) (claimed : List UInt16) : World :=
  { network := { hasRoute, claimed } }

def setTransport (w : World) (id : TransportId) (t : Transport Handler) : World :=
  { w with transports := w.transports.insert id t }

def onTransport (w : World) (id : TransportId) (f : Transport Handler → Transport Handler) :
    World :=
  match w.transports[id]? with
  | none => w
  | some t => w.setTransport id (f t)

def record (w : World) (queue : String) (e : Event) : World :=
  let q := w.queues.getD queue {}
  { w with queues := w.queues.insert queue { q with events := q.events.push e } }

/-- Hands an event to a sink. -/
def sink (w : World) (s : Sink TransportId) (e : Event) : World :=
  match s with
  | .record queue => w.record queue e
  | .panicOnMessage queue => w.record queue e
  | .stopTransport transport queue =>
    let stops := Sink.isMessage e || e == .timer
    (if stops then w.onTransport transport Transport.shutdown else w).record queue e
  | .synchronize name =>
    let s := w.synchronizers.getD name {}
    { w with synchronizers := w.synchronizers.insert name (s.handle e) }

/-- A writer that takes whatever it is offered. -/
def takesEverything : List WriteAnswer := List.replicate 4 .takesAll

/-- Puts what a send wrote onto its socket. -/
def transfer {α : Type} (w : World) (id : TransportId) (sent : Transport.Sent Handler α) :
    World :=
  let w := w.setTransport id sent.transport
  match (sent.ref.bind sent.transport.connection?).bind (fun c => c.socket) with
  | none => w
  | some socket => { w with network := w.network.write socket sent.written }

def sendResponse (w : World) (id : TransportId) (remote : Endpoint) (draft : Draft) :
    Except ErrorCode Unit × World :=
  match w.transports[id]? with
  | none => (.error .shutdown, w)
  | some t =>
    let sent := t.sendResponse remote draft takesEverything
    (sent.outcome, w.transfer id sent)

def respondAll (w : World) (id : TransportId) (remote : Endpoint) (drafts : List Draft) : World :=
  drafts.foldl (fun w draft => (w.sendResponse id remote draft).2) w

/-- The instant at which a manager takes note of what happens now. It is a later one, so that even a
link that is retried at once lets time pass. -/
def noticed (w : World) : Instant := w.now + 1

/-- Calls a handler. The flag says whether it panics. -/
def call (w : World) (d : Delivery Handler) : Bool × World :=
  match d.handler with
  | .plain s => (s.panics d.event, w.sink s d.event)
  | .serve transport s mode =>
    let recorded := w.sink s d.event
    match s.panics d.event, d.event.remote? with
    | false, some remote => (false, recorded.respondAll transport remote (mode.answers d.event))
    | panicked, _ => (panicked, recorded)
  | .managed manager remote =>
    match w.managers[manager]? with
    | none => (false, w)
    | some m =>
      let (sequel, links) := m.links.onEvent w.noticed remote d.event
      let w := { w with managers := w.managers.insert manager { m with links } }
      match sequel with
      | .forward s => (s.panics d.event, w.sink s d.event)
      | .panic => (true, w)
      | _ => (false, w)

/-- Makes calls in order. Without a guard the first panic ends them. -/
def callAll (guard : Delivery.Guard) : List (Delivery Handler) → World → World
  | [], w => w
  | d :: rest, w =>
    let (panicked, next) := w.call d
    if panicked && guard == .unguarded then next else callAll guard rest next

/-- Whether anybody can still use a transport: the program, a manager or a handler. -/
def isKept (w : World) (id : TransportId) : Bool :=
  w.held.values.contains id || w.managers.values.any (Manager.keeps id) ||
    w.acceptors.values.any (Acceptor.keeps id) ||
      w.transports.values.any (fun t =>
        t.pool.reactors.any (fun r => r.handlers.any (Handler.keeps id)))

/-- Takes a connection apart, tells everybody concerned and closes its socket. -/
def teardown (w : World) (id : TransportId) (t : Transport Handler) (ref : ConnectionRef)
    (reason : ErrorCode) : World :=
  match t.connection? ref with
  | none => w
  | some c =>
    let (deliveries, t) := t.teardown ref c reason
    let called := callAll .unguarded deliveries (w.setTransport id t)
    match c.socket with
    | none => called
    | some socket => { called with network := called.network.close socket }

/-- Tears a connection down because its handler panicked. -/
def teardownAfterPanic (w : World) (id : TransportId) (ref : ConnectionRef) : World :=
  match w.transports[id]? with
  | none => w
  | some t => w.teardown id t ref .brokenConnection

/-- Calls a handler from a connection's task, which a panic ends. -/
def callFromTask (w : World) (id : TransportId) (ref : ConnectionRef) (d : Delivery Handler) :
    World :=
  let (panicked, next) := w.call d
  if panicked then next.teardownAfterPanic id ref else next

/-- A connection gets its socket. -/
def establish (w : World) (id : TransportId) (t : Transport Handler) (ref : ConnectionRef)
    (c : Connection Handler) (socket : Nat) : World :=
  match t.pool.reactor? ref.reactor with
  | none => w
  | some r =>
    let address := (w.network.sockets[socket]?).map Socket.address
    let (delivery, reactor) := r.establish c socket address
    (w.setTransport id (t.updateReactor ref.reactor (fun _ => reactor))).callFromTask id ref
      delivery

/-- Reads up to one message off a connection's socket. -/
def receive (w : World) (id : TransportId) (t : Transport Handler) (ref : ConnectionRef)
    (c : Connection Handler) (socket : Nat) (answers : List ReadAnswer) : World :=
  match t.pool.reactor? ref.reactor with
  | none => w
  | some r =>
    let received := r.receive c answers
    let t := t.updateReactor ref.reactor (fun _ => received.reactor)
    let network := w.network.updateSocket socket
      (fun s => { s with inbox := Network.unread received.rest })
    let w := { w with network }.setTransport id t
    match received.outcome, received.delivery with
    | .error code, _ => w.teardown id t ref code
    | .ok _, some d => w.callFromTask id ref d
    | .ok _, none => w

/-- The next thing that a connection's task has to do, if there is any. -/
def taskStep? (w : World) (id : TransportId) (t : Transport Handler) (ref : ConnectionRef)
    (c : Connection Handler) : Option World :=
  match c.state, c.socket with
  | .connecting, some socket => some (w.establish id t ref c socket)
  | .connecting, none =>
    if c.closeWakeup then some (w.teardown id t ref (c.closeReason.getD .shutdown))
    else
      match w.network.connect c.remote with
      | .error _ => some (w.teardown id t ref .connectError)
      | .ok (socket, network) => some ({ w with network }.establish id t ref c socket)
  | .connected, some socket =>
    if c.closeWakeup then some (w.teardown id t ref (c.closeReason.getD .brokenConnection))
    else if c.wantsToWrite then
      let (flushed, _, written) := c.flush (List.replicate (c.outbound.chunks.length) .takesAll)
      let t := t.updateConnection ref (fun _ => flushed)
      some { w.setTransport id t with network := w.network.write socket written }
    else
      match (w.network.sockets[socket]?).map Network.readAnswers with
      | none | some [] => none
      | some answers => some (w.receive id t ref c socket answers)
  | _, _ => none

/-- A reactor that has stopped drops what is left. Nobody is told, but sockets are closed. -/
def dropReactor (w : World) (id : TransportId) (t : Transport Handler) (r : Reactor Handler) :
    World :=
  let network := (r.connections.values.filterMap Connection.socket).foldl Network.close w.network
  { w with network }.setTransport id (t.updateReactor r.index Reactor.drop)

/-- The next thing that a reactor has to do: to take up a connection, for one of its connections, or
for what is due. A reactor that stops waits only for the connections to go that it has taken up. -/
def reactorStep? (w : World) (id : TransportId) (t : Transport Handler) (r : Reactor Handler) :
    Option World :=
  match r.takeUp?, r.takenUp.findSome? (fun c => w.taskStep? id t (r.refTo c.id) c) with
  | some next, _ => some (w.setTransport id (t.updateReactor r.index (fun _ => next)))
  | none, some next => some next
  | none, none =>
    if !r.running then none
    else if r.stopping then some (w.dropReactor id t r)
    else if r.nextDeadline.any (fun deadline => deadline ≤ w.now) then
      let (deliveries, swept) := r.sweep w.now
      let w := w.setTransport id (t.updateReactor r.index (fun _ => swept))
      some (callAll .guarded deliveries w)
    else none

def transportStep? (w : World) (id : TransportId) (t : Transport Handler) : Option World :=
  t.pool.reactors.findSome? (fun r => w.reactorStep? id t r)

/-- A listener of a transport hands over the next connection. One that is not taken in is closed. -/
def acceptStep? (w : World) (address : Endpoint) (a : Acceptor) : Option World :=
  match w.network.accept? address, w.transports[a.transport]? with
  | some (socket, network), some t =>
    let w := { w with
      network
      acceptors := w.acceptors.insert address { a with next := a.next + 1 } }
    match network.sockets[socket]? with
    | none => some w
    | some s =>
      let (outcome, t) := t.accept (a.next % t.pool.size) s.remote socket a.handler
      let w := w.setTransport a.transport t
      match outcome with
      | .error _ => some { w with network := w.network.close socket }
      | .ok ref =>
        match a.onAccept with
        | none => some w
        | some k => some (w.sink k (.established s.remote ref.connId))
  | _, _ => none

/-- The listeners of a transport that has been shut down go away. -/
def dropAcceptor? (w : World) (address : Endpoint) (a : Acceptor) : Option World :=
  if (w.transports[a.transport]?).any (fun t => t.isShutDown) then
    some { w with
      acceptors := w.acceptors.erase address
      network := w.network.unlisten address }
  else none

/-- Connects a managed endpoint. -/
def connectLink (w : World) (name : String) (remote : Endpoint) : World :=
  match w.managers[name]? with
  | none => w
  | some m =>
    match w.transports[m.transport]? with
    | none => w
    | some t =>
      let (outcome, t) :=
        t.connect remote t.config.connectTimeout.toMillis (.managed name remote)
      let (sequel, links) := m.links.attempted w.noticed remote (outcome.map (fun _ => ()))
      let t := if sequel.closes then (t.closeSocket remote).2 else t
      { w.setTransport m.transport t with
        managers := w.managers.insert name { m with links } }

/-- The first retry of a manager that is due. -/
def managerStep? (w : World) (name : String) (m : Manager) : Option World :=
  match m.links.popRetry w.now with
  | (none, _) => none
  | (some (remote, connects), links) =>
    let w := { w with managers := w.managers.insert name { m with links } }
    some (if connects then w.connectLink name remote else w)

/-- A transport shuts down when nobody can use it any more. -/
def abandonStep? (w : World) (id : TransportId) (t : Transport Handler) : Option World :=
  if t.isShutDown || w.isKept id then none else some (w.setTransport id t.shutdown)

/-- The next thing that happens in the background, if there is any at this instant. -/
def step? (w : World) : Option World :=
  ((w.transports.toList.findSome? (fun entry => w.abandonStep? entry.1 entry.2)).orElse
    (fun _ => w.transports.toList.findSome? (fun entry => w.transportStep? entry.1 entry.2))).orElse
    (fun _ => (w.acceptors.toList.findSome? (fun entry => w.dropAcceptor? entry.1 entry.2)).orElse
      (fun _ => (w.acceptors.toList.findSome? (fun entry => w.acceptStep? entry.1 entry.2)).orElse
        (fun _ => w.managers.toList.findSome? (fun entry => w.managerStep? entry.1 entry.2))))

/-- Takes background steps until there are none, at most `steps` of them. -/
def settleSteps : Nat → World → World
  | 0, w => w
  | steps + 1, w =>
    match w.step? with
    | none => w
    | some next => settleSteps steps next

/-- More background steps than are ever taken at one instant. -/
def patience : Nat := 1000000

def settle (w : World) : World := settleSteps patience w

/-- When the next deadline in the background passes. -/
def nextDeadline (w : World) : Option Instant :=
  let reactors := w.transports.values.flatMap (fun t =>
    t.pool.reactors.filter (fun r => r.running && !r.stopping))
  let managers := w.managers.values.map (fun m => m.links.nextDeadline)
  (reactors.map Reactor.nextDeadline ++ managers).foldl Reactor.earlier? none

/-- Lets time pass until something is so or a deadline has come, over at most `turns` instants. -/
def runUntil (ready : World → Bool) (limit : Instant) : Nat → World → World
  | 0, w => w
  | turns + 1, w =>
    let settled := w.settle
    if ready settled then settled
    else
      match settled.nextDeadline with
      | none => { settled with now := max settled.now limit }
      | some deadline =>
        if deadline ≤ limit then
          runUntil ready limit turns { settled with now := max settled.now deadline }
        else { settled with now := max settled.now limit }

/-- Lets time pass until something is so, or for some milliseconds. If it is so already, or there is
no time for it, nothing happens in the background. -/
def wait (w : World) (ms : Nat) (ready : World → Bool) : World :=
  if ms = 0 ∨ ready w then w else runUntil ready (w.now + (ms : Int)) patience w

end World

end MessageTransport.Simulation
