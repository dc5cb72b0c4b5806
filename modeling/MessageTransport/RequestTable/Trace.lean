import MessageTransport.RequestTable

set_option autoImplicit false

namespace MessageTransport.RequestTable

variable {Handler : Type}

inductive Op (Handler : Type) where
  | insert (request : PendingRequest Handler)
  | remove (id : UInt32)
  | purge (connId : UInt32)
  | nextExpired (now : Instant)
  | drainExpired (now : Instant)
  | contains (id : UInt32)
deriving DecidableEq, Repr

inductive Reply (Handler : Type) where
  | done
  | flag (b : Bool)
  | request (r : Option (PendingRequest Handler))
  | requests (rs : List (PendingRequest Handler))
deriving DecidableEq, Repr

def step (t : RequestTable Handler) : Op Handler → RequestTable Handler × Reply Handler
  | .insert request => (t.insert request, .done)
  | .remove id => let (r, next) := t.remove id; (next, .request r)
  | .purge connId => let (rs, next) := t.purge connId; (next, .requests rs)
  | .nextExpired now => let (r, next) := t.nextExpired now; (next, .request r)
  | .drainExpired now => let (rs, next) := t.drainExpired now; (next, .requests rs)
  | .contains id => (t, .flag (t.contains id))

/-- The table and the reply after each operation of a run. Instants may go back and forth between
operations. -/
def run : RequestTable Handler → List (Op Handler) → List (RequestTable Handler × Reply Handler)
  | _, [] => []
  | t, op :: ops => t.step op :: run (t.step op).1 ops

end MessageTransport.RequestTable
