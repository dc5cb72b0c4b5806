import MessageTransport.ErrorReply
import MessageTransport.Transport

set_option autoImplicit false

namespace MessageTransport.Simulation

/-- Transports are numbered in order of their start. -/
abbrev TransportId := Nat

/-- Where events go. A program has names for transports; a handler knows their numbers. -/
inductive Sink (T : Type) where
  | record (queue : String)
  /-- Records, and then panics if the event is a message. -/
  | panicOnMessage (queue : String)
  /-- Shuts a transport down on a message or a timer, and then records. -/
  | stopTransport (transport : T) (queue : String)
  | synchronize (name : String)
deriving DecidableEq, Repr

/-- How a listener answers the requests that expect a response. -/
inductive ReplyMode where
  | silent
  | echo
  | twice
  | error
deriving DecidableEq, Repr

/-- Handlers as data: a handler sends events to a sink, and may also answer requests or pass events
to a manager of links. -/
inductive Handler where
  | plain (sink : Sink TransportId)
  | serve (transport : TransportId) (sink : Sink TransportId) (mode : ReplyMode)
  | managed (manager : String) (remote : Endpoint)
deriving DecidableEq, Repr

namespace Sink

/-- Reads `panic:q`, `stop:t:q`, `sync:s` or the name of a queue. One of these words without its
colons is the name of a queue too. -/
def ofText (s : String) : Sink String :=
  match s.splitOn ":" with
  | "panic" :: name :: rest => panicOnMessage (":".intercalate (name :: rest))
  | "sync" :: name :: rest => synchronize (":".intercalate (name :: rest))
  | "stop" :: transport :: name :: rest => stopTransport transport (":".intercalate (name :: rest))
  | _ => record s

def isMessage : Event → Bool
  | .message .. => true
  | _ => false

def panics {T : Type} : Sink T → Event → Bool
  | panicOnMessage _, e => isMessage e
  | _, _ => false

/-- Whether a sink keeps a transport alive: only by the wish to shut it down. -/
def keeps (transport : TransportId) : Sink TransportId → Bool
  | stopTransport id _ => id = transport
  | _ => false

/-- Finds the transport that a sink names. -/
def resolve {ε : Type} (find : String → Except ε TransportId) :
    Sink String → Except ε (Sink TransportId)
  | record queue => .ok (record queue)
  | panicOnMessage queue => .ok (panicOnMessage queue)
  | stopTransport name queue => do
    let id ← find name
    return stopTransport id queue
  | synchronize name => .ok (synchronize name)

end Sink

/-- Whether a handler keeps a transport alive. One that passes events to a manager does not: the
manager does that itself. -/
def Handler.keeps (transport : TransportId) : Handler → Bool
  | plain s => s.keeps transport
  | serve id s _ => id = transport || s.keeps transport
  | managed .. => false

namespace ReplyMode

def ofText (s : String) : ReplyMode :=
  match s with
  | "echo" => echo
  | "twice" => twice
  | "error" => error
  | _ => silent

def echoOf (request : Header) (payload : Bytes) : Draft :=
  (Draft.ofHeader (Header.empty.inReplyTo request)).appendRaw payload

/-- The replies to a request. -/
def replies (mode : ReplyMode) (request : Header) (payload : Bytes) : List Draft :=
  match mode with
  | silent => []
  | echo => [echoOf request payload]
  | twice => [echoOf request payload, echoOf request payload]
  | error => [ErrorReply.draft request .protocolError "no such command"]

/-- The replies to an event: only requests that expect a response get any. -/
def answers (mode : ReplyMode) : Event → List Draft
  | .message _ _ header payload =>
    if header.isRequest && !header.ignoresResponse then mode.replies header payload else []
  | _ => []

end ReplyMode

end MessageTransport.Simulation
