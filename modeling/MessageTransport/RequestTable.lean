import MessageTransport.Deadline
import MessageTransport.Endpoint

set_option autoImplicit false

namespace MessageTransport

structure PendingRequest (Handler : Type) where
  id : UInt32
  /-- The connection that the request was sent on. -/
  connId : UInt32
  remote : Endpoint
  /-- Told of the response, of the expiry or of the loss of the connection. -/
  handler : Handler
  expiry : Instant
deriving DecidableEq, Repr

/-- The requests that await a response, found by id, by expiry and by connection. A sweep visits
only requests that have expired, and a connection that breaks takes out exactly its own. -/
structure RequestTable (Handler : Type) where
  entries : Std.TreeMap UInt32 (PendingRequest Handler × Deadline)
  byExpiry : Std.TreeMap Deadline UInt32
  /-- The ids of each connection that has any. -/
  byConn : Std.TreeMap UInt32 (Std.TreeMap UInt32 Unit)
  nextSerial : Nat

namespace RequestTable

variable {Handler : Type}

def empty : RequestTable Handler := ⟨∅, ∅, ∅, 0⟩

instance : Inhabited (RequestTable Handler) := ⟨empty⟩

def size (t : RequestTable Handler) : Nat := t.entries.size

def isEmpty (t : RequestTable Handler) : Bool := t.entries.isEmpty

def contains (t : RequestTable Handler) (id : UInt32) : Bool := t.entries.contains id

/-- The request with an id, if it is pending. -/
def pending? (t : RequestTable Handler) (id : UInt32) : Option (PendingRequest Handler) :=
  (t.entries[id]?).map Prod.fst

/-- The requests in order of their ids. -/
def toList (t : RequestTable Handler) : List (PendingRequest Handler) :=
  t.entries.values.map Prod.fst

/-- The ids of a connection without one of them; a connection without ids is not listed. -/
def dropId (byConn : Std.TreeMap UInt32 (Std.TreeMap UInt32 Unit)) (connId id : UInt32) :
    Std.TreeMap UInt32 (Std.TreeMap UInt32 Unit) :=
  match byConn[connId]? with
  | none => byConn
  | some ids =>
    if (ids.erase id).isEmpty then byConn.erase connId else byConn.insert connId (ids.erase id)

def addId (byConn : Std.TreeMap UInt32 (Std.TreeMap UInt32 Unit)) (connId id : UInt32) :
    Std.TreeMap UInt32 (Std.TreeMap UInt32 Unit) :=
  byConn.insert connId ((byConn.getD connId ∅).insert id ())

/-- Takes out the request with an id. -/
def remove (t : RequestTable Handler) (id : UInt32) :
    Option (PendingRequest Handler) × RequestTable Handler :=
  match t.entries[id]? with
  | none => (none, t)
  | some (request, key) =>
    (some request,
      { t with
        entries := t.entries.erase id
        byExpiry := t.byExpiry.erase key
        byConn := dropId t.byConn request.connId id })

/-- Adds a request in place of any earlier one with its id. -/
def insert (t : RequestTable Handler) (request : PendingRequest Handler) : RequestTable Handler :=
  let rest := (t.remove request.id).2
  let key : Deadline := ⟨request.expiry, rest.nextSerial⟩
  { entries := rest.entries.insert request.id (request, key)
    byExpiry := rest.byExpiry.insert key request.id
    byConn := addId rest.byConn request.connId request.id
    nextSerial := rest.nextSerial + 1 }

/-- Takes the given ids out of the table, the index of connections excepted. -/
def takeIds (t : RequestTable Handler) :
    List UInt32 → List (PendingRequest Handler) × RequestTable Handler
  | [] => ([], t)
  | id :: ids =>
    match t.entries[id]? with
    | none => t.takeIds ids
    | some (request, key) =>
      let (requests, rest) := takeIds
        { t with entries := t.entries.erase id, byExpiry := t.byExpiry.erase key } ids
      (request :: requests, rest)

/-- Takes out every request of a connection, in order of expiry and then of id. -/
def purge (t : RequestTable Handler) (connId : UInt32) :
    List (PendingRequest Handler) × RequestTable Handler :=
  match t.byConn[connId]? with
  | none => ([], t)
  | some ids =>
    let (requests, rest) := takeIds { t with byConn := t.byConn.erase connId } ids.keys
    (requests.mergeSort (fun a b => a.expiry ≤ b.expiry), rest)

/-- The earliest expiry. -/
def nextDeadline (t : RequestTable Handler) : Option Instant :=
  (Deadline.earliest? t.byExpiry).map (fun entry => entry.1.due)

/-- Takes out the earliest request if it expires at or before `now`. -/
def nextExpired (t : RequestTable Handler) (now : Instant) :
    Option (PendingRequest Handler) × RequestTable Handler :=
  match Deadline.earliest? t.byExpiry with
  | none => (none, t)
  | some (key, id) => if now < key.due then (none, t) else t.remove id

theorem size_remove_lt (t : RequestTable Handler) (id : UInt32)
    {request : PendingRequest Handler} (h : (t.remove id).1 = some request) :
    (t.remove id).2.size < t.size := by
  cases found : t.entries[id]? with
  | none => simp [remove, found] at h
  | some entry =>
    have present : id ∈ t.entries := Std.TreeMap.mem_iff_isSome_getElem?.2 (by simp [found])
    simpa [remove, found, size] using size_erase_lt t.entries present

theorem size_nextExpired_lt (t : RequestTable Handler) (now : Instant)
    {request : PendingRequest Handler} (h : (t.nextExpired now).1 = some request) :
    (t.nextExpired now).2.size < t.size := by
  cases found : Deadline.earliest? t.byExpiry with
  | none => simp [nextExpired, found] at h
  | some entry =>
    by_cases later : now < entry.1.due
    · simp [nextExpired, found, later] at h
    · have step : t.nextExpired now = t.remove entry.2 := by
        simp [nextExpired, found, later]
      rw [step] at h ⊢
      exact size_remove_lt t entry.2 h

/-- Takes out every request that expires at or before `now`, earliest first. -/
def drainExpired (t : RequestTable Handler) (now : Instant) :
    List (PendingRequest Handler) × RequestTable Handler :=
  match _h : (t.nextExpired now).1 with
  | none => ([], t)
  | some request =>
    let (requests, rest) := drainExpired (t.nextExpired now).2 now
    (request :: requests, rest)
termination_by t.size
decreasing_by exact size_nextExpired_lt t now _h

end RequestTable

end MessageTransport
