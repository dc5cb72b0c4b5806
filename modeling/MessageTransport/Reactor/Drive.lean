import MessageTransport.Reactor.Task

set_option autoImplicit false

namespace MessageTransport

/-- How far a call has come. -/
inductive Call.Stage where
  /-- It has found the connection. -/
  | found
  /-- Its request is recorded, if it has one. -/
  | recorded
  /-- Its chunks have been taken, and the lock has been given up. -/
  | appended (next : Connection.FollowUp)
  /-- The connection did not take its chunks, or could not write them. -/
  | refused (code : ErrorCode)
  /-- Nor is its request recorded any more. -/
  | withdrawn (code : ErrorCode)
  | returned (outcome : Except ErrorCode Unit)

/-- A call that sends something on a connection. A request is recorded if a response to it is
expected. -/
structure Call (Handler : Type) where
  request : Option (PendingRequest Handler)
  chunks : List Bytes
  stage : Call.Stage := .found

namespace Call

variable {Handler : Type}

/-- How far a call is once the connection has taken its chunks, or has not. -/
def stageAfter : Except ErrorCode Connection.FollowUp → Stage
  | .error code => .refused code
  | .ok next => .appended next

/-- How far a call is once it has done what was left to do. -/
def stageBehind : Connection.FollowUp → Stage
  | .giveUp => .refused .brokenConnection
  | _ => .returned (.ok ())

/-- Some calls, one of which has come to another stage. -/
def advance (calls : List (Call Handler)) (i : Nat) (stage : Stage) : List (Call Handler) :=
  calls.modify i (fun call => { call with stage })

end Call

namespace Drive

/-- What a task is at. -/
inductive Phase (Handler : Type) where
  /-- It waits for its socket. -/
  | opening
  /-- It has its socket, and the connection's handler is next to be told. -/
  | announcing (news : Delivery Handler)
  /-- It is about to see whether there is anything to be written. -/
  | planning
  /-- It waits for its socket, and for it to take output only if there was any. -/
  | waiting (forOutput : Bool)
  /-- It has still to read from its socket, and then to write to it. -/
  | serving (reads writes : Bool)
  /-- It will take the connection apart. -/
  | leaving (reason : ErrorCode)
  | closed (reason : ErrorCode)
  /-- Its reactor has let go of the connection. -/
  | disowned (reason : ErrorCode)
  | unregistered (reason : ErrorCode)
  /-- It has taken out what was pending on the connection, and these are still to be told. The task
  is over when there are none. -/
  | telling (left : List (Delivery Handler))
deriving DecidableEq, Repr

end Drive

/-- The task of a connection beside everybody else who has to do with the connection: callers who
send something on it, whoever asks for it to be closed, and the sweeps of its reactor. What is done
under one lock is one step. A wake-up that finds the task awake is kept until it waits again. -/
structure Drive (Handler : Type) where
  /-- The connection as its reactor took it over. -/
  origin : Connection Handler
  reactor : Reactor Handler
  registry : Registry ConnectionRef
  /-- How the socket will answer the task's reads, in order. -/
  inbox : List ReadAnswer
  phase : Drive.Phase Handler := .opening
  /-- Whether the connection has had its socket. -/
  opened : Bool := false
  /-- The connection as its callers still hold it, once its reactor has let go of it. -/
  behind : Option (Connection Handler) := none
  /-- All calls so far, in the order in which they found the connection. -/
  calls : List (Call Handler) := []
  /-- What sweeps have taken out and have still to tell. -/
  due : List (Delivery Handler) := []
  /-- What sweeps have told so far, in order. -/
  swept : List (Delivery Handler) := []
  /-- What the task has told so far, in order. -/
  told : List (Delivery Handler) := []
  /-- Each message that has been read, with what was pending under its id at that moment. -/
  heard : List (Message × Option (PendingRequest Handler)) := []
  /-- What was pending on the connection when it was taken apart. -/
  lost : List (PendingRequest Handler) := []

namespace Drive

variable {Handler : Type}

/-- The task of a connection that a reactor owns, before it has done anything. -/
def start (r : Reactor Handler) (registry : Registry ConnectionRef) (c : Connection Handler)
    (script : List ReadAnswer) : Drive Handler where
  origin := c
  reactor := r
  registry
  inbox := script

/-- The connection as it is now, unless its reactor has let go of it. -/
def connection? (d : Drive Handler) : Option (Connection Handler) :=
  d.reactor.connection? d.origin.id

/-- The connection as its callers hold it, whether its reactor has let go of it or not. -/
def shared? (d : Drive Handler) : Option (Connection Handler) := d.connection?.or d.behind

/-- A change of the connection, for its reactor and for its callers. -/
def change (d : Drive Handler) (f : Connection Handler → Connection Handler) : Drive Handler :=
  { d with
    reactor := d.reactor.updateConnection d.origin.id f
    behind := d.behind.map f }

/-- The registry without the connection. -/
def unlisted (d : Drive Handler) : Registry ConnectionRef :=
  (d.registry.removeHandle d.origin.remote (d.reactor.refTo d.origin.id)).2

/-- A call finds the connection. -/
def enter (d : Drive Handler) (request : Option (PendingRequest Handler)) (chunks : List Bytes) :
    Drive Handler :=
  { d with calls := d.calls ++ [{ request, chunks }] }

def record (d : Drive Handler) (i : Nat) (call : Call Handler) : Drive Handler :=
  { d with
    reactor := call.request.elim d.reactor d.reactor.addRequest
    calls := Call.advance d.calls i .recorded }

def append (d : Drive Handler) (i : Nat) (call : Call Handler) (c : Connection Handler)
    (answers : List WriteAnswer) : Drive Handler :=
  let enqueued := c.enqueue call.chunks answers
  { d.change (fun _ => enqueued.connection) with
    calls := Call.advance d.calls i (Call.stageAfter enqueued.followUp) }

def follow (d : Drive Handler) (i : Nat) (next : Connection.FollowUp) : Drive Handler :=
  { d.change (fun c => c.follow next) with
    calls := Call.advance d.calls i (Call.stageBehind next) }

def withdraw (d : Drive Handler) (i : Nat) (call : Call Handler) (code : ErrorCode) :
    Drive Handler :=
  { d with
    reactor := call.request.elim d.reactor (fun request => (d.reactor.removeRequest request.id).2)
    calls := Call.advance d.calls i (.withdrawn code) }

/-- A call that failed sees to it that the connection is no longer found. -/
def fail (d : Drive Handler) (i : Nat) (code : ErrorCode) : Drive Handler :=
  { d with
    registry := d.unlisted
    calls := Call.advance d.calls i (.returned (.error code)) }

/-- Somebody asks for the connection to be closed. -/
def close (d : Drive Handler) (reason : ErrorCode) : Drive Handler :=
  d.change (fun c => c.close reason)

/-- The task gets its socket. -/
def connect (d : Drive Handler) (c : Connection Handler) (socket : Nat)
    (localAddress : Option Endpoint) : Drive Handler :=
  let (news, reactor) := d.reactor.establish c socket localAddress
  { d with reactor, phase := .announcing news, opened := true }

def announce (d : Drive Handler) (news : Delivery Handler) (panics : Bool) : Drive Handler :=
  { d with
    told := d.told ++ [news]
    phase := if panics then .leaving .brokenConnection else .planning }

/-- The task does not get its socket, or cannot wait for it. -/
def giveUp (d : Drive Handler) (reason : ErrorCode) : Drive Handler :=
  { d with phase := .leaving reason }

/-- The task sees whether it has to wait for its socket to take output. -/
def plan (d : Drive Handler) (c : Connection Handler) : Drive Handler :=
  { d with phase := .waiting c.wantsToWrite }

/-- A wake-up that there is output ends the wait. -/
def heed (d : Drive Handler) : Drive Handler :=
  { d.change (fun c => { c with writeWakeup := false }) with phase := .planning }

/-- A wake-up to close ends the wait. `reason` counts if none was given. -/
def obey (d : Drive Handler) (c : Connection Handler) (reason : ErrorCode) : Drive Handler :=
  { d.change (fun c => { c with closeWakeup := false }) with
    phase := .leaving (c.closeReason.getD reason) }

/-- The socket ends the wait. -/
def serve (d : Drive Handler) (reads writes : Bool) : Drive Handler :=
  { d with phase := .serving reads writes }

/-- What a task does after one go at reading, where `panics` says whether the handler that was
called panicked. -/
def phaseAfter (writes panics : Bool) : Except ErrorCode Bool → Phase Handler
  | .error code => .leaving code
  | .ok true => if panics then .leaving .brokenConnection else .serving true writes
  | .ok false => .serving false writes

/-- The message that one go at reading gets from a connection, if it gets one. -/
def incoming (d : Drive Handler) (c : Connection Handler) : Option Message :=
  match (c.reader.advance d.inbox).outcome with
  | .ok message => message
  | .error _ => none

/-- The task reads up to one message and tells its handler. -/
def read (d : Drive Handler) (c : Connection Handler) (writes panics : Bool) : Drive Handler :=
  let received := d.reactor.receive c d.inbox
  { d with
    reactor := received.reactor
    inbox := received.rest
    heard := d.heard ++
      (d.incoming c).toList.map (fun m => (m, d.reactor.requests.pending? m.header.id))
    told := d.told ++ received.delivery.toList
    phase := phaseAfter writes (received.delivery.isSome && panics) received.outcome }

def flush (d : Drive Handler) (c : Connection Handler) (answers : List WriteAnswer) :
    Drive Handler :=
  let (flushed, outcome, _) := c.flush answers
  { d.change (fun _ => flushed) with
    phase := match outcome with
      | .error _ => .leaving .brokenConnection
      | .ok _ => .planning }

/-- The task is done with its socket for now. -/
def goAround (d : Drive Handler) : Drive Handler := { d with phase := .planning }

def shut (d : Drive Handler) (reason : ErrorCode) : Drive Handler :=
  { d.change Connection.markClosed with phase := .closed reason }

/-- The reactor lets go of the connection, which its callers still hold. -/
def disown (d : Drive Handler) (reason : ErrorCode) : Drive Handler :=
  { d with
    reactor := d.reactor.forget d.origin.id
    behind := d.shared?
    phase := .disowned reason }

def unregister (d : Drive Handler) (reason : ErrorCode) : Drive Handler :=
  { d with registry := d.unlisted, phase := .unregistered reason }

/-- The connection with what is pending on it, once that has been taken out. -/
def detached (d : Drive Handler) : Reactor.Detached Handler :=
  let (requests, table) := d.reactor.requests.purge d.origin.id
  { connection := d.origin.markClosed
    requests
    reactor := { d.reactor with requests := table }
    registry := d.registry }

/-- The task takes out what is pending on the connection. -/
def purge (d : Drive Handler) (reason : ErrorCode) : Drive Handler :=
  { d with
    reactor := d.detached.reactor
    lost := d.detached.requests
    phase := .telling (d.detached.deliveries reason) }

def tell (d : Drive Handler) (news : Delivery Handler) (left : List (Delivery Handler)) :
    Drive Handler :=
  { d with told := d.told ++ [news], phase := .telling left }

/-- The loop takes out the requests that have expired. -/
def sweep (d : Drive Handler) (now : Instant) : Drive Handler :=
  let (expired, table) := d.reactor.requests.drainExpired now
  { d with
    reactor := { d.reactor with requests := table }
    due := d.due ++ expired.map Reactor.timedOut }

/-- The loop tells one of those it has taken out. -/
def tellDue (d : Drive Handler) (news : Delivery Handler) (left : List (Delivery Handler)) :
    Drive Handler :=
  { d with swept := d.swept ++ [news], due := left }

end Drive

end MessageTransport
