import MessageTransport.Event

set_option autoImplicit false

namespace MessageTransport

/-- A buffer between the transport and a caller who blocks until a reply arrives. When it is full,
further events are dropped, except those that end a request or a connection. -/
structure Synchronizer where
  capacity : Nat := 1024
  buffer : List Event := []
deriving DecidableEq, Repr

namespace Synchronizer

def size (s : Synchronizer) : Nat := s.buffer.length

def isEmpty (s : Synchronizer) : Bool := s.buffer.isEmpty

def handle (s : Synchronizer) (e : Event) : Synchronizer :=
  if e.isTerminal ∨ s.buffer.length < s.capacity then { s with buffer := s.buffer ++ [e] } else s

/-- What a waiting caller makes of an event. -/
def reply (e : Event) : Except ErrorCode Event :=
  match e.code? with
  | some code => .error code
  | none => .ok e

/-- The next event, once the time to wait for it is over. -/
def wait (s : Synchronizer) : Except ErrorCode Event × Synchronizer :=
  match s.buffer with
  | [] => (.error .requestTimeout, s)
  | e :: rest => (reply e, { s with buffer := rest })

inductive Op where
  | handle (e : Event)
  | wait
deriving DecidableEq, Repr

/-- The synchronizer after an operation, and the reply to a wait. -/
def step (s : Synchronizer) : Op → Synchronizer × Option (Except ErrorCode Event)
  | .handle e => (s.handle e, none)
  | .wait => (s.wait.2, some s.wait.1)

end Synchronizer

end MessageTransport
