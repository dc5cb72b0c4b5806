import MessageTransport.Bytes
import MessageTransport.MessageReader
import MessageTransport.Simulation.Host

set_option autoImplicit false

namespace MessageTransport.Simulation

structure Socket where
  address : Endpoint
  remote : Endpoint
  /-- The number of the other end. -/
  peer : Nat
  /-- What has arrived and has not been read. -/
  inbox : Bytes := []
  /-- The other end writes no more. -/
  ended : Bool := false
deriving DecidableEq, Repr

/-- A listening socket with the connections that wait to be accepted. -/
structure Listener where
  backlog : List Nat := []
deriving DecidableEq, Repr

/-- The sockets of one host. Bytes written at one end of a connection are there at the other end at
once. A host without a route refuses every attempt to connect, but sockets can be bound on it. -/
structure Network where
  hasRoute : Bool
  /-- Ports that somebody may ask for by number. -/
  claimed : List UInt16 := []
  sockets : Std.TreeMap Nat Socket := ∅
  listeners : Std.TreeMap Endpoint Listener := ∅
  nextSocket : Nat := 0
  nextPort : UInt16 := 36731

namespace Network

def loopback : IpAddress := .v4 0x7f000001

/-- The first port from `port` on that is not among the used ones, over at most `tries` ports. -/
def freePort (used : List UInt16) : Nat → UInt16 → UInt16
  | 0, port => port
  | tries + 1, port => if used.contains port then freePort used tries (port + 1) else port

/-- A local address that nobody uses or asks for by number. -/
def freshAddress (n : Network) : Endpoint × Network :=
  let used := n.claimed ++ n.listeners.keys.map Endpoint.port
  let port := freePort used used.length n.nextPort
  (⟨loopback, port⟩, { n with nextPort := port + 1 })

/-- Binds a listening socket to an address. -/
def listen (n : Network) (address : Endpoint) : Except AddressFault Network :=
  match bindFault? n.hasRoute address.address with
  | some fault => .error fault
  | none =>
    if n.listeners.keys.any (collide address) then .error .inUse
    else .ok { n with listeners := n.listeners.insert address {} }

def unlisten (n : Network) (address : Endpoint) : Network :=
  { n with listeners := n.listeners.erase address }

/-- Connects to a listener: the number of the new socket, whose other end joins the backlog. -/
def connect (n : Network) (remote : Endpoint) : Except AddressFault (Nat × Network) :=
  let found := if n.hasRoute then n.listeners.toList.find? (fun entry => collide remote entry.1)
    else none
  match found with
  | none => .error (connectFault n.hasRoute remote.address)
  | some (bound, listener) =>
    let (address, n) := n.freshAddress
    let near := n.nextSocket
    let far := near + 1
    .ok (near, { n with
      sockets := (n.sockets.insert near ⟨address, remote, far, [], false⟩).insert far
        ⟨remote, address, near, [], false⟩
      listeners := n.listeners.insert bound ⟨listener.backlog ++ [far]⟩
      nextSocket := near + 2 })

/-- Takes the connection that has waited longest. -/
def accept? (n : Network) (address : Endpoint) : Option (Nat × Network) :=
  match n.listeners[address]? with
  | some ⟨socket :: rest⟩ =>
    some (socket, { n with listeners := n.listeners.insert address ⟨rest⟩ })
  | _ => none

def updateSocket (n : Network) (socket : Nat) (f : Socket → Socket) : Network :=
  match n.sockets[socket]? with
  | none => n
  | some s => { n with sockets := n.sockets.insert socket (f s) }

/-- Writes at one end; bytes for an end that is gone are lost. -/
def write (n : Network) (socket : Nat) (bs : Bytes) : Network :=
  match n.sockets[socket]? with
  | none => n
  | some s => n.updateSocket s.peer (fun far => { far with inbox := far.inbox ++ bs })

/-- Closes one end, so that the other one reads no more than what is there. -/
def close (n : Network) (socket : Nat) : Network :=
  match n.sockets[socket]? with
  | none => n
  | some s =>
    ({ n with sockets := n.sockets.erase socket }).updateSocket s.peer
      (fun far => { far with ended := true })

/-- How a socket answers reads now. -/
def readAnswers (s : Socket) : List ReadAnswer :=
  (if s.inbox.isEmpty then [] else [.data s.inbox]) ++ (if s.ended then [.endOfStream] else [])

/-- What is left in a socket behind some reads. -/
def unread : List ReadAnswer → Bytes
  | [] => []
  | .data bs :: rest => bs ++ unread rest
  | _ :: rest => unread rest

end Network

end MessageTransport.Simulation
