import MessageTransport.Simulation.World

set_option autoImplicit false

namespace MessageTransport.Simulation

/-- An endpoint in a step: a name or a written address, or the remote end of an event that has been
waited for. -/
inductive Target where
  | named (text : String)
  | origin (queue : String) (index : Nat)
deriving DecidableEq, Repr

/-- A message as a step describes it. -/
structure Content where
  header : Header := .empty
  payload : Bytes := []
  extension : Bytes := []
  checksum : Bool := false
deriving DecidableEq, Repr

def Content.draft (c : Content) : Draft :=
  let draft := ((Draft.ofHeader c.header).appendRaw c.payload).setExtension c.extension
  if c.checksum then draft.requestChecksum else draft

def Content.inReplyTo (c : Content) (request : Header) : Content :=
  { c with header := c.header.inReplyTo request }

/-- What a program does with transports, bare sockets and managers, by the names it gives them. Time
passes only in steps that wait. -/
inductive Step where
  | transport (name : String) (config : Config)
  | shutdown (transport : String)
  | drop (transport : String)
  | describe (transport : String)
  | listen (transport name : String) (address : Option Target) (sink : Sink String)
      (mode : ReplyMode) (onAccept : Option (Sink String))
  | reserve (name : String)
  | connect (transport : String) (target : Target) (sink : Sink String) (timeoutMs : Nat)
  | send (transport : String) (target : Target) (sink : Option (Sink String)) (content : Content)
      (times : Nat) (retry : Bool)
  | respond (transport : String) (target : Target) (content : Content)
  /-- Answers a message that has been waited for. -/
  | answer (transport queue : String) (index : Nat) (content : Content)
  | close (transport : String) (target : Target)
  | isConnected (transport : String) (target : Target)
  | localAddress (transport : String) (target : Target)
  | timer (transport : String) (ms : Nat) (sink : Sink String)
  | wait (queue : String) (count : Nat)
  | waitSync (name : String) (ms : Nat)
  | bareListen (name : String) (address : Option Target)
  | bareUnlisten (name : String)
  | bareAccept (listener name : String)
  | bareConnect (target : Target) (name : String)
  | bareSend (peer : String) (data : Bytes)
  | bareRead (peer : String) (count : Nat)
  | bareReadEnd (peer : String)
  | bareClose (peer : String)
  | manager (transport name : String)
  | manage (manager : String) (target : Target) (retryMs : Nat) (service : String)
      (sink : Option (Sink String))
  | unmanage (manager : String) (target : Target)
  | waitLinked (manager : String) (target : Target) (ms : Nat)
  | isLinked (manager : String) (target : Target)
  | shutdownManager (manager : String)
  | describeManager (manager : String)

/-- The port that a target asks for by number. -/
def Target.port? : Target → Option UInt16
  | .named text => (Endpoint.ofText? text).map Endpoint.port
  | .origin .. => none

namespace Step

/-- The endpoint that a step is about, if there is one. -/
def target? : Step → Option Target
  | .listen _ _ address _ _ _ => address
  | .bareListen _ address => address
  | .connect _ target _ _ => some target
  | .send _ target _ _ _ _ => some target
  | .respond _ target _ => some target
  | .close _ target => some target
  | .isConnected _ target => some target
  | .localAddress _ target => some target
  | .bareConnect target _ => some target
  | .manage _ target _ _ _ => some target
  | .unmanage _ target => some target
  | .waitLinked _ target _ => some target
  | .isLinked _ target => some target
  | _ => none

def port? (step : Step) : Option UInt16 := step.target?.bind Target.port?

end Step

inductive Answer where
  | ok
  | bound
  | flag (b : Bool)
  | text (s : String)
  | failure (code : ErrorCode)
  | ids (outcomes : List (Except ErrorCode UInt32))
  | events (es : List Event)
  | event (e : Event)
  | bytes (bs : Bytes)

/-- Why a step makes no sense. -/
inductive Refusal where
  | noAddress
  | noMessage
  /-- The program has nothing of that name. -/
  | unknownName (name : String)
  | noConnection
  | streamEnded
  | noRoom
  | host (fault : AddressFault)
deriving DecidableEq, Repr

def Refusal.message : Refusal → String
  | noAddress => "no address"
  | noMessage => "no such message"
  | unknownName name => "unknown name " ++ name
  | noConnection => "no connection"
  | streamEnded => "failed to fill whole buffer"
  | noRoom => "capacity overflow"
  | host fault => fault.message

namespace World

/-- The outcome of a step: a step that makes no sense is refused. -/
abbrev Outcome := Except Refusal (Answer × World)

/-- Milliseconds that a wait for events or bytes lasts at most. -/
def waitLimit : Nat := 5000

def answerOf (outcome : Except ErrorCode Unit) : Answer :=
  match outcome with
  | .ok () => .ok
  | .error code => .failure code

/-- An event that has been waited for. -/
def waited? (w : World) (queue : String) (index : Nat) : Option Event :=
  (w.queues[queue]?).bind (fun q => if index < q.taken then q.events[index]? else none)

def address (w : World) : Target → Except Refusal Endpoint
  | .named text =>
    match w.names[text]?, Endpoint.ofText? text with
    | some e, _ => .ok e
    | none, some e => .ok e
    | none, none => .error .noAddress
  | .origin queue index =>
    match (w.waited? queue index).bind Event.remote? with
    | some e => .ok e
    | none => .error .noAddress

/-- The name under which an address is shown, the first one if it has several. Whatever has no name
of its own is a peer: accepted connections, addresses that a step wrote out, and those whose name
now belongs to another address. -/
def nameOf (w : World) (e : Endpoint) : String :=
  match w.names.toList.find? (fun entry => entry.2 = e) with
  | some entry => entry.1
  | none => "peer"

def giveName (w : World) (name : String) (e : Endpoint) : World :=
  { w with names := w.names.insert name e }

/-- The number of a transport that the program has. -/
def numberOf (w : World) (name : String) : Except Refusal TransportId :=
  match w.held[name]? with
  | some id => .ok id
  | none => .error (.unknownName name)

def transport (w : World) (name : String) : Except Refusal (TransportId × Transport Handler) := do
  let id ← w.numberOf name
  match w.transports[id]? with
  | some t => return (id, t)
  | none => .error (.unknownName name)

def managerOf (w : World) (name : String) : Except Refusal Manager :=
  match w.managers[name]? with
  | some m => .ok m
  | none => .error (.unknownName name)

def peerOf (w : World) (name : String) : Except Refusal Nat :=
  match w.peers[name]? with
  | some socket => .ok socket
  | none => .error (.unknownName name)

/-- The address to bind: the one given, with a fresh port in place of port zero, or else one that is
all fresh. -/
def bindAddress (w : World) (address : Option Target) : Except Refusal (Endpoint × World) := do
  let given ← address.mapM w.address
  match given with
  | some e =>
    let address := shown e.address
    if e.port ≠ 0 then return ({ e with address }, w)
    else
      let (fresh, network) := w.network.freshAddress
      return ({ fresh with address }, { w with network })
  | none =>
    let (fresh, network) := w.network.freshAddress
    return (fresh, { w with network })

/-- Shuts a transport down and waits for its reactors. -/
def shutdownNow (w : World) (id : TransportId) : World :=
  (w.onTransport id Transport.shutdown).wait 2000
    (fun w => (w.transports[id]?).all Transport.isStopped)

/-- The program lets go of a transport, if it has one of that name. That shuts the transport down
unless somebody else can use it. -/
def release (w : World) (name : String) : Bool × World :=
  match w.held[name]? with
  | none => (false, w)
  | some id =>
    let released := { w with held := w.held.erase name }
    (true, if released.isKept id then released else released.shutdownNow id)

/-- Starts a transport, which takes long enough for all others to settle. The program lets go of any
that had its name. -/
def startTransport (w : World) (name : String) (config : Config) : World :=
  let w := (w.settle.release name).2
  let id := w.transports.size
  { w.setTransport id (.start config 1) with held := w.held.insert name id }

def listen (w : World) (name label : String) (address : Option Target) (sink : Sink String)
    (mode : ReplyMode) (onAccept : Option (Sink String)) : Outcome := do
  let (id, t) ← w.transport name
  let sink ← sink.resolve w.numberOf
  let onAccept ← onAccept.mapM (Sink.resolve w.numberOf)
  let (e, bound) ← w.bindAddress address
  if t.isShutDown then return (.failure .shutdown, w)
  match bound.network.listen e with
  | .error _ => return (.failure .bindError, w)
  | .ok network =>
    let acceptor : Acceptor := ⟨id, .serve id sink mode, onAccept, 0⟩
    let pool := t.pool.takeNext.2
    return (.bound, ({ bound with
      network
      acceptors := bound.acceptors.insert e acceptor }.setTransport id { t with pool }).giveName
        label e)

def sendOnce (w : World) (id : TransportId) (remote : Endpoint) (sink : Option (Sink TransportId))
    (draft : Draft) : Except ErrorCode UInt32 × World :=
  match w.transports[id]? with
  | none => (.error .shutdown, w)
  | some t =>
    let sent := t.sendRequest w.now remote draft (sink.map Handler.plain) takesEverything
    (sent.outcome, w.transfer id sent)

/-- Sends as soon as there is a connection, looking for one at most `attempts` times. -/
def sendRetrying (id : TransportId) (remote : Endpoint) (sink : Option (Sink TransportId))
    (draft : Draft) (intervalMs : Nat) : Nat → World → Except ErrorCode UInt32 × World
  | 0, w => (.error .notConnected, w)
  | attempts + 1, w =>
    match w.transports[id]? with
    | none => (.error .shutdown, w)
    | some t =>
      match t.lookup remote with
      | (.ok _, _) => w.sendOnce id remote sink draft
      | (.error e, t) =>
        let w := w.setTransport id t
        if e = .notConnected ∧ attempts ≠ 0 then
          sendRetrying id remote sink draft intervalMs attempts
            (w.wait intervalMs (fun _ => false))
        else (.error e, w)

/-- Sends a draft some times, one after the other. -/
def sendTimes (send : World → Except ErrorCode UInt32 × World) :
    Nat → World → List (Except ErrorCode UInt32) × World
  | 0, w => ([], w)
  | times + 1, w =>
    let (outcome, next) := send w
    let (outcomes, last) := sendTimes send times next
    (outcome :: outcomes, last)

def send (w : World) (name : String) (target : Target) (sink : Option (Sink String)) (draft : Draft)
    (times : Nat) (retry : Bool) : Outcome := do
  let (id, t) ← w.transport name
  let remote ← w.address target
  let sink ← sink.mapM (Sink.resolve w.numberOf)
  let once := if retry then
      sendRetrying id remote sink draft t.config.sendRetryInterval.toMillis
        (max 1 t.config.sendRetryLimit.toNat)
    else fun w => w.sendOnce id remote sink draft
  let (outcomes, last) := sendTimes once times w
  return (.ids outcomes, last)

def respond (w : World) (name : String) (remote : Endpoint) (draft : Draft) : Outcome := do
  let (id, _) ← w.transport name
  let (outcome, next) := w.sendResponse id remote draft
  return (answerOf outcome, next)

/-- Takes the next events of a queue, waiting for them. -/
def takeEvents (w : World) (queue : String) (count : Nat) : Answer × World :=
  let here := fun (w : World) => w.queues.getD queue {}
  let start := (here w).taken
  let w := w.wait waitLimit (fun w => start + count ≤ (here w).events.size)
  let q := here w
  let stop := min q.events.size (start + count)
  (.events (q.events.extract start stop).toList,
    { w with queues := w.queues.insert queue { q with taken := stop } })

def synchronizer (w : World) (name : String) : Synchronizer := w.synchronizers.getD name {}

def takeSynchronized (w : World) (name : String) (ms : Nat) : Answer × World :=
  let w := w.wait ms (fun w => !(w.synchronizer name).isEmpty)
  let (reply, s) := (w.synchronizer name).wait
  (match reply with
    | .ok e => .event e
    | .error code => .failure code,
    { w with synchronizers := w.synchronizers.insert name s })

/-- Closes a bare listening socket, if there is one of that name. -/
def bareUnlisten (w : World) (name : String) : Bool × World :=
  match w.bareListeners[name]? with
  | none => (false, w)
  | some e =>
    (true,
      { w with network := w.network.unlisten e, bareListeners := w.bareListeners.erase name })

/-- Closes a bare socket, if there is one of that name. -/
def bareClose (w : World) (name : String) : Bool × World :=
  match w.peers[name]? with
  | none => (false, w)
  | some socket =>
    (true, { w with network := w.network.close socket, peers := w.peers.erase name })

/-- Gives a bare socket a name. One that had the name is closed. -/
def addPeer (w : World) (name : String) (socket : Nat) : World :=
  let w := (w.bareClose name).2
  { w with peers := w.peers.insert name socket }

def bareAccept (w : World) (listener name : String) : Outcome := do
  let some e := w.bareListeners[listener]? | .error (.unknownName listener)
  let w := w.wait waitLimit (fun w => (w.network.accept? e).isSome)
  match w.network.accept? e with
  | none => .error .noConnection
  | some (socket, network) => return (.ok, { w with network }.addPeer name socket)

def bareConnect (w : World) (target : Target) (name : String) : Outcome := do
  let e ← w.address target
  match w.network.connect e with
  | .ok (socket, network) => return (.ok, { w with network }.addPeer name socket)
  | .error fault => .error (.host fault)

/-- Takes bytes out of a bare socket. -/
def takeInbox (w : World) (socket count : Nat) : Answer × World :=
  let inbox := (w.network.sockets[socket]?).elim [] Socket.inbox
  let network := w.network.updateSocket socket (fun s => { s with inbox := s.inbox.drop count })
  (.bytes (inbox.take count), { w with network })

def bareRead (w : World) (name : String) (count : Nat) : Outcome := do
  let socket ← w.peerOf name
  let enough := fun (w : World) =>
    (w.network.sockets[socket]?).any (fun s => count ≤ s.inbox.length)
  let w := w.wait waitLimit enough
  if enough w then return w.takeInbox socket count
  else .error .streamEnded

def bareReadEnd (w : World) (name : String) : Outcome := do
  let socket ← w.peerOf name
  let ended := fun (w : World) => (w.network.sockets[socket]?).any Socket.ended
  let w := w.wait waitLimit ended
  return w.takeInbox socket ((w.network.sockets[socket]?).elim 0 (fun s => s.inbox.length))

def unmanage (w : World) (name : String) (target : Target) : Outcome := do
  let m ← w.managerOf name
  let e ← w.address target
  let (removed, links) := m.links.remove e
  let w := { w with managers := w.managers.insert name { m with links } }
  match removed, w.transports[m.transport]? with
  | true, some t =>
    let (outcome, t) := t.closeSocket e
    let w := w.setTransport m.transport t
    match outcome with
    | .error .notConnected => return (.ok, w)
    | other => return (answerOf other, w)
  | _, _ => return (.ok, w)

/-- Applies an operation of a transport that may fail. -/
def withTransport (w : World) (name : String)
    (f : Transport Handler → Answer × Transport Handler) : Outcome := do
  let (id, t) ← w.transport name
  let (answer, t) := f t
  return (answer, w.setTransport id t)

/-- The world after a step, and the answer to it. -/
def take (w : World) : Step → Outcome
  | .transport name config =>
    if ReactorPool.hasRoom (config.effectiveReactorCount 1) then
      .ok (.ok, w.startTransport name config)
    else .error .noRoom
  | .shutdown name => do
    let id ← w.numberOf name
    return (.ok, w.shutdownNow id)
  | .drop name =>
    let (had, next) := w.release name
    .ok (.flag had, next)
  | .describe name => w.withTransport name (fun t => (.text t.describe, t))
  | .listen name label address sink mode onAccept => w.listen name label address sink mode onAccept
  | .reserve name =>
    let (e, network) := w.network.freshAddress
    .ok (.ok, { w with network }.giveName name e)
  | .connect name target sink timeoutMs => do
    let e ← w.address target
    let sink ← sink.resolve w.numberOf
    w.withTransport name (fun t =>
      let (outcome, t) := t.connect e timeoutMs (.plain sink)
      (answerOf (outcome.map (fun _ => ())), t))
  | .send name target sink content times retry =>
    w.send name target sink content.draft times retry
  | .respond name target content => do
    let e ← w.address target
    w.respond name e content.draft
  | .answer name queue index content =>
    match w.waited? queue index with
    | some (.message remote _ request _) =>
      w.respond name remote (content.inReplyTo request).draft
    | _ => .error .noMessage
  | .close name target => do
    let e ← w.address target
    w.withTransport name (fun t =>
      let (outcome, t) := t.closeSocket e
      (answerOf outcome, t))
  | .isConnected name target => do
    let e ← w.address target
    w.withTransport name (fun t =>
      let (connected, t) := t.isConnected e
      (.flag connected, t))
  | .localAddress name target => do
    let e ← w.address target
    w.withTransport name (fun t =>
      match t.localAddress e with
      | (.ok address, t) => (.text address.hostText, t)
      | (.error code, t) => (.failure code, t))
  | .timer name ms sink => do
    let sink ← sink.resolve w.numberOf
    w.withTransport name (fun t =>
      let (outcome, t) := t.setTimer (w.now + (ms : Int)) (.plain sink)
      (answerOf outcome, t))
  | .wait queue count => .ok (w.takeEvents queue count)
  | .waitSync name ms => .ok (w.takeSynchronized name ms)
  | .bareListen name address => do
    let (e, bound) ← w.bindAddress address
    match bound.network.listen e with
    | .error fault => .error (.host fault)
    | .ok network =>
      let bound := ({ bound with network }.bareUnlisten name).2
      return (.ok, { bound with
        bareListeners := bound.bareListeners.insert name e }.giveName name e)
  | .bareUnlisten name =>
    let (had, next) := w.bareUnlisten name
    .ok (.flag had, next)
  | .bareAccept listener name => w.bareAccept listener name
  | .bareConnect target name => w.bareConnect target name
  | .bareSend name data => do
    let socket ← w.peerOf name
    return (.ok, { w with network := w.network.write socket data })
  | .bareRead name count => w.bareRead name count
  | .bareReadEnd name => w.bareReadEnd name
  | .bareClose name =>
    let (had, next) := w.bareClose name
    .ok (.flag had, next)
  | .manager name label => do
    let id ← w.numberOf name
    return (.ok, { w with managers := w.managers.insert label ⟨id, .empty⟩ })
  | .manage name target retryMs service sink => do
    let m ← w.managerOf name
    let e ← w.address target
    let sink ← sink.mapM (Sink.resolve w.numberOf)
    let (connects, links) := m.links.add e retryMs service sink
    let w := { w with managers := w.managers.insert name { m with links } }
    return (.ok, if connects then w.connectLink name e else w)
  | .unmanage name target => w.unmanage name target
  | .waitLinked name target ms => do
    let _ ← w.managerOf name
    let e ← w.address target
    let settled := fun (w : World) => (w.managers[name]?).all (fun m =>
      m.links.isConnected e || !m.links.isManaged e)
    let w := w.wait ms settled
    return (.flag ((w.managers[name]?).any (fun m => m.links.isConnected e)), w)
  | .isLinked name target => do
    let m ← w.managerOf name
    let e ← w.address target
    return (.flag (m.links.isConnected e), w)
  | .shutdownManager name => do
    let m ← w.managerOf name
    return (.ok, { w with managers := w.managers.insert name { m with links := m.links.shutdown } })
  | .describeManager name => do
    let m ← w.managerOf name
    return (.text m.links.describe, w)

/-- The answers of a scenario, each with the world behind its step. The first step that makes no
sense ends the scenario. -/
def run : List Step → World → Except Refusal (List (Answer × World))
  | [], _ => .ok []
  | step :: steps, w => do
    let (answer, next) ← w.take step
    let rest ← run steps next
    return (answer, next) :: rest

/-- The answers of a scenario on a fresh host, on which no port is handed out that the scenario asks
for by number. -/
def perform (hasRoute : Bool) (steps : List Step) : Except Refusal (List (Answer × World)) :=
  run steps (start hasRoute (steps.filterMap Step.port?))

/-- The events of each queue that nobody has waited for. -/
def leftOver (w : World) : List (String × List Event) :=
  (w.queues.toList.map (fun entry =>
    (entry.1, (entry.2.events.extract entry.2.taken entry.2.events.size).toList))).filter
      (fun entry => !entry.2.isEmpty)

end World

end MessageTransport.Simulation
