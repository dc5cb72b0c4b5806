import MessageTransport.Deadline
import MessageTransport.Event

set_option autoImplicit false

namespace MessageTransport

structure ManagedLink (Handler : Type) where
  connected : Bool := false
  retryScheduled : Bool := false
  /-- Milliseconds between a failure and the next attempt. -/
  retryInterval : Nat
  service : String
  handler : Option Handler
deriving DecidableEq, Repr

/-- A manager of links: endpoints to which a connection is kept up. A link that fails or breaks is
retried some time later, and is marked until then. -/
structure LinkManager (Handler : Type) where
  links : Std.TreeMap Endpoint (ManagedLink Handler) := ∅
  retries : Std.TreeMap Deadline Endpoint := ∅
  nextSerial : Nat := 0
  isShutDown : Bool := false

namespace LinkManager

/-- What is left to do when a manager has taken note of something. -/
inductive Sequel (Handler : Type) where
  | nothing
  /-- The connection that was made is closed again, because its endpoint was given up meanwhile. -/
  | close
  /-- The event is passed on. -/
  | forward (handler : Handler)
  /-- The manager has panicked, and whoever called it goes no further. -/
  | panic
deriving DecidableEq, Repr

variable {Handler : Type}

def empty : LinkManager Handler := {}

instance : Inhabited (LinkManager Handler) := ⟨empty⟩

def isManaged (m : LinkManager Handler) (remote : Endpoint) : Bool := m.links.contains remote

def isConnected (m : LinkManager Handler) (remote : Endpoint) : Bool :=
  (m.links[remote]?).any (fun link => link.connected)

def updateLink (m : LinkManager Handler) (remote : Endpoint)
    (f : ManagedLink Handler → ManagedLink Handler) : LinkManager Handler :=
  match m.links[remote]? with
  | none => m
  | some link => { m with links := m.links.insert remote (f link) }

/-- Marks a managed endpoint that has no mark and queues a retry for it, and says whether it panics.
It panics between the two if the retry would come after the last instant. -/
def scheduleRetry (m : LinkManager Handler) (now : Instant) (remote : Endpoint) :
    Bool × LinkManager Handler :=
  match m.links[remote]? with
  | none => (false, m)
  | some link =>
    if link.retryScheduled then (false, m)
    else
      let marked := { m with links := m.links.insert remote { link with retryScheduled := true } }
      match Instant.later? now link.retryInterval with
      | none => (true, marked)
      | some due =>
        (false,
          { marked with
            retries := m.retries.insert ⟨due, m.nextSerial⟩ remote
            nextSerial := m.nextSerial + 1 })

/-- Takes an endpoint on, and says whether it is to be connected now. One that is managed already
stays as it is. -/
def add (m : LinkManager Handler) (remote : Endpoint) (retryInterval : Nat) (service : String)
    (handler : Option Handler) : Bool × LinkManager Handler :=
  if m.isShutDown ∨ m.isManaged remote then (false, m)
  else
    (true, { m with links := m.links.insert remote { retryInterval, service, handler } })

/-- Gives an endpoint up, and says whether it was managed. Its retry stays in the queue. -/
def remove (m : LinkManager Handler) (remote : Endpoint) : Bool × LinkManager Handler :=
  (m.isManaged remote, { m with links := m.links.erase remote })

/-- Whether a connection that was made is to be closed again. -/
def Sequel.closes : Sequel Handler → Bool
  | close => true
  | _ => false

/-- What is left to do when a retry has been scheduled. -/
def Sequel.unless (sequel : Sequel Handler) (panics : Bool) : Sequel Handler :=
  if panics then panic else sequel

/-- Takes note of how an attempt to connect began. -/
def attempted (m : LinkManager Handler) (now : Instant) (remote : Endpoint)
    (outcome : Except ErrorCode Unit) : Sequel Handler × LinkManager Handler :=
  match outcome with
  | .ok () => (if m.isManaged remote then .nothing else .close, m)
  | .error .alreadyConnected =>
    (.nothing, m.updateLink remote (fun link => { link with connected := true }))
  | .error _ =>
    let (panics, next) := m.scheduleRetry now remote
    (Sequel.nothing.unless panics, next)

/-- Takes note of an event, which is passed on to the handler given for its endpoint. -/
def onEvent (m : LinkManager Handler) (now : Instant) (remote : Endpoint) (e : Event) :
    Sequel Handler × LinkManager Handler :=
  let sequel := ((m.links[remote]?).bind (fun link => link.handler)).elim .nothing .forward
  match e with
  | .established .. =>
    (sequel, m.updateLink remote (fun link => { link with connected := true }))
  | .disconnected .. =>
    let down := m.updateLink remote (fun link => { link with connected := false })
    let (panics, next) := down.scheduleRetry now remote
    (sequel.unless panics, next)
  | _ => (sequel, m)

/-- When the next retry is due. -/
def nextDeadline (m : LinkManager Handler) : Option Instant :=
  if m.isShutDown then none
  else (Deadline.earliest? m.retries).map (fun entry => entry.1.due)

/-- Takes the first retry out of the queue if it is due, and says whether its endpoint is to be
connected. -/
def popRetry (m : LinkManager Handler) (now : Instant) :
    Option (Endpoint × Bool) × LinkManager Handler :=
  match Deadline.earliest? m.retries with
  | none => (none, m)
  | some (key, remote) =>
    if m.isShutDown ∨ now < key.due then (none, m)
    else
      let popped := { m with retries := m.retries.erase key }
      match m.links[remote]? with
      | none => (some (remote, false), popped)
      | some link =>
        (some (remote, !link.connected),
          popped.updateLink remote (fun link => { link with retryScheduled := false }))

def shutdown (m : LinkManager Handler) : LinkManager Handler := { m with isShutDown := true }

/-- The manager as it is shown to people. -/
def describe (m : LinkManager Handler) : String :=
  "ConnectionManager \x7b managed: " ++ m.links.size.repr ++ ", pending_retries: " ++
    m.retries.size.repr ++ " \x7d"

end LinkManager

end MessageTransport
