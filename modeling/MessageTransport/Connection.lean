import MessageTransport.Deadline
import MessageTransport.Endpoint
import MessageTransport.MessageReader
import MessageTransport.OutboundQueue

set_option autoImplicit false

namespace MessageTransport

inductive ConnectionState where
  | connecting
  | connected
  | closed
deriving DecidableEq, Repr

/-- A connection as its owner and its callers see it. Callers append under a lock and wake the task
of the connection in a step of their own; a wake-up that finds the task awake is kept until it
sleeps. -/
structure Connection (Handler : Type) where
  id : UInt32
  remote : Endpoint
  /-- Told of the connection itself and of the requests that come in on it. -/
  handler : Handler
  /-- Milliseconds until a request expires that brings no timeout of its own. -/
  requestTimeout : Nat
  reader : MessageReader
  state : ConnectionState := .connecting
  outbound : OutboundQueue := .empty
  /-- The first reason that was given for closing. -/
  closeReason : Option ErrorCode := none
  localAddress : Option Endpoint := none
  /-- The number of the connection's socket, once it has one. -/
  socket : Option Nat := none
  /-- A wake-up for the task to look at its output. -/
  writeWakeup : Bool := false
  /-- A wake-up for the task to close. -/
  closeWakeup : Bool := false

namespace Connection

variable {Handler : Type}

/-- When a request sent now expires; a timeout of zero leaves it to the connection. -/
def expiryAt (c : Connection Handler) (now : Instant) (timeoutMs : UInt32) : Instant :=
  now + (if timeoutMs = 0 then c.requestTimeout else timeoutMs.toNat : Nat)

/-- What a caller has to do once it has given up the lock. -/
inductive FollowUp where
  | nothing
  | wakeWriter
  | giveUp
deriving DecidableEq, Repr

/-- What appending some chunks came to: the connection, what is left to do, what was written. -/
structure Enqueued (Handler : Type) where
  connection : Connection Handler
  followUp : Except ErrorCode FollowUp
  written : Bytes

/-- Appends chunks, and writes at once if nothing is queued ahead of them. A connection that is
still connecting keeps them for later. -/
def enqueue (c : Connection Handler) (chunks : List Bytes) (answers : List WriteAnswer) :
    Enqueued Handler :=
  let queued := c.outbound.extend chunks
  match c.state with
  | .closed => ⟨c, .error .brokenConnection, []⟩
  | .connecting => ⟨{ c with outbound := queued }, .ok .nothing, []⟩
  | .connected =>
    if c.outbound.isEmpty then
      let flush := OutboundQueue.flush queued.chunks answers
      let followUp := match flush.outcome with
        | .ok true => FollowUp.nothing
        | .ok false => .wakeWriter
        | .error _ => .giveUp
      ⟨{ c with outbound := flush.queue }, .ok followUp, flush.written⟩
    else ⟨{ c with outbound := queued }, .ok .wakeWriter, []⟩

/-- Asks the task to close. A closed connection stays as it is, and the first reason counts. -/
def close (c : Connection Handler) (reason : ErrorCode) : Connection Handler :=
  match c.state with
  | .closed => c
  | _ => { c with closeReason := some (c.closeReason.getD reason), closeWakeup := true }

def follow (c : Connection Handler) : FollowUp → Connection Handler
  | .nothing => c
  | .wakeWriter => { c with writeWakeup := true }
  | .giveUp => c.close .brokenConnection

/-- What a send came to. -/
structure Sent (Handler : Type) where
  connection : Connection Handler
  outcome : Except ErrorCode Unit
  written : Bytes

/-- Appends chunks and does what is left to do. A failed write gives the connection up. -/
def send (c : Connection Handler) (chunks : List Bytes) (answers : List WriteAnswer) :
    Sent Handler :=
  let enqueued := c.enqueue chunks answers
  match enqueued.followUp with
  | .error e => ⟨enqueued.connection, .error e, enqueued.written⟩
  | .ok followUp =>
    let outcome := match followUp with
      | .giveUp => .error .brokenConnection
      | _ => .ok ()
    ⟨enqueued.connection.follow followUp, outcome, enqueued.written⟩

def wantsToWrite (c : Connection Handler) : Bool := !c.outbound.isEmpty

/-- The task has a socket for the connection. -/
def markConnected (c : Connection Handler) (socket : Nat) (localAddress : Option Endpoint) :
    Connection Handler :=
  { c with
    socket := some socket
    localAddress
    state := if c.state = .connecting then .connected else c.state }

/-- The task gives the connection up for good. -/
def markClosed (c : Connection Handler) : Connection Handler :=
  { c with state := .closed, outbound := .empty }

/-- What a task writes when its socket takes output. -/
def flush (c : Connection Handler) (answers : List WriteAnswer) :
    Connection Handler × Except ErrorCode Bool × Bytes :=
  let flush := OutboundQueue.flush c.outbound.chunks answers
  ({ c with outbound := flush.queue }, flush.outcome, flush.written)

def stateText : ConnectionState → String
  | .connecting => "Connecting"
  | .connected => "Connected"
  | .closed => "Closed"

/-- The connection as it is shown to people. -/
def describe (c : Connection Handler) : String :=
  "ConnectionHandle \x7b conn_id: " ++ c.id.toNat.repr ++ ", addr: " ++ c.remote.text ++
    ", state: " ++ stateText c.state ++ ", .. \x7d"

end Connection

end MessageTransport
