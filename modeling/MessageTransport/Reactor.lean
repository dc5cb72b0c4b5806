import MessageTransport.Connection
import MessageTransport.Delivery
import MessageTransport.RequestTable
import MessageTransport.TimerQueue

set_option autoImplicit false

namespace MessageTransport

/-- The connections that a reactor owns, the requests sent on them, and timers. Whoever brings an
earlier deadline than all others leaves a wake-up for the loop of the reactor. A connection is owned
at once, but nothing is done for it before the loop has taken it up. -/
structure Reactor (Handler : Type) where
  index : Nat
  requests : RequestTable Handler := .empty
  timers : TimerQueue Handler := .empty
  connections : Std.TreeMap UInt32 (Connection Handler) := ∅
  /-- The connections that the loop has still to take up, in order. -/
  arrivals : List UInt32 := []
  /-- A wake-up that has not been used yet. -/
  wakeup : Bool := false
  /-- The loop has been told to stop. -/
  stopping : Bool := false
  /-- The loop takes in connections. -/
  running : Bool := true

namespace Reactor

variable {Handler : Type}

def connection? (r : Reactor Handler) (connId : UInt32) : Option (Connection Handler) :=
  r.connections[connId]?

/-- Takes a connection over, in place of any with its id. -/
def adopt (r : Reactor Handler) (c : Connection Handler) : Reactor Handler :=
  { r with connections := r.connections.insert c.id c }

/-- Queues a connection for the loop. -/
def register (r : Reactor Handler) (connId : UInt32) : Reactor Handler :=
  { r with arrivals := r.arrivals ++ [connId] }

/-- The loop takes up the next connection. One that has been told to stop takes up none. -/
def takeUp? (r : Reactor Handler) : Option (Reactor Handler) :=
  match r.arrivals with
  | [] => none
  | _ :: rest => if r.stopping then none else some { r with arrivals := rest }

/-- The connections that the loop has taken up. -/
def takenUp (r : Reactor Handler) : List (Connection Handler) :=
  r.connections.values.filter (fun c => !r.arrivals.contains c.id)

/-- Lets go of a connection. -/
def forget (r : Reactor Handler) (connId : UInt32) : Reactor Handler :=
  { r with connections := r.connections.erase connId }

def notify (r : Reactor Handler) : Reactor Handler := { r with wakeup := true }

/-- Records a request, and says whether it is due before all others. -/
def insertRequest (r : Reactor Handler) (request : PendingRequest Handler) :
    Bool × Reactor Handler :=
  let earlier := match r.requests.nextDeadline with
    | none => true
    | some deadline => request.expiry < deadline
  (earlier, { r with requests := r.requests.insert request })

/-- Records a request and wakes the loop if it has to sleep less. -/
def addRequest (r : Reactor Handler) (request : PendingRequest Handler) : Reactor Handler :=
  let (earlier, next) := r.insertRequest request
  { next with wakeup := earlier || next.wakeup }

def removeRequest (r : Reactor Handler) (id : UInt32) :
    Option (PendingRequest Handler) × Reactor Handler :=
  let (found, requests) := r.requests.remove id
  (found, { r with requests })

def insertTimer (r : Reactor Handler) (due : Instant) (handler : Handler) : Reactor Handler :=
  { r with timers := r.timers.insert due handler }

def addTimer (r : Reactor Handler) (due : Instant) (handler : Handler) : Reactor Handler :=
  (r.insertTimer due handler).notify

/-- The earlier of two instants, each of which may not be there. -/
def earlier? : Option Instant → Option Instant → Option Instant
  | none, b => b
  | a, none => a
  | some a, some b => some (min a b)

/-- The earliest instant at which anything is due. -/
def nextDeadline (r : Reactor Handler) : Option Instant :=
  earlier? r.requests.nextDeadline r.timers.nextDeadline

/-- The earlier of an instant and of a deadline that may not be there. -/
def capped (cap : Instant) : Option Instant → Instant
  | none => cap
  | some deadline => min cap deadline

def timedOut (request : PendingRequest Handler) : Delivery Handler :=
  ⟨request.handler, .failed request.remote request.connId request.id .requestTimeout⟩

/-- Takes out what is due: the requests, and then the timers, each in order. -/
def sweep (r : Reactor Handler) (now : Instant) : List (Delivery Handler) × Reactor Handler :=
  let (requests, requestsLeft) := r.requests.drainExpired now
  let (timers, timersLeft) := r.timers.drainExpired now
  (requests.map timedOut ++ timers.map (fun handler => ⟨handler, .timer⟩),
    { r with requests := requestsLeft, timers := timersLeft })

/-- The calls that a sweep makes. Each is under guard. -/
def sweepCalls (panics : Handler → Event → Bool) (r : Reactor Handler) (now : Instant) :
    List (Delivery Handler) :=
  Delivery.calls .guarded panics (r.sweep now).1

/-- Whoever the reactor may still have to tell something. -/
def handlers (r : Reactor Handler) : List Handler :=
  r.connections.values.map Connection.handler ++ r.requests.toList.map PendingRequest.handler ++
    r.timers.timers.values

/-- The stopped reactor drops what is left and tells nobody. -/
def drop (r : Reactor Handler) : Reactor Handler :=
  { r with
    connections := ∅
    arrivals := []
    requests := .empty
    timers := .empty
    running := false }

/-- The reactor as it is shown to people. -/
def describe (r : Reactor Handler) : String :=
  "ReactorShared \x7b index: " ++ r.index.repr ++ ", connections: " ++ r.connections.size.repr ++
    ", .. \x7d"

end Reactor

end MessageTransport
