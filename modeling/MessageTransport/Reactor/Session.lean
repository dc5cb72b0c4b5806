import MessageTransport.Reactor.Pool

set_option autoImplicit false

namespace MessageTransport.Reactor

variable {Handler : Type}

/-- A pool driven from outside under a clock that moves only while somebody waits. The calls that
the first reactor makes are kept until they are taken. -/
structure Session (Handler : Type) where
  pool : ReactorPool Handler
  now : Instant
  calls : List (Delivery Handler) := []

namespace Session

/-- A session whose clock stands some time before the origin, if there is room for its reactors. -/
def start? (reactors : Nat) (lead : Nat) : Option (Session Handler) :=
  if ReactorPool.hasRoom reactors then some { pool := .start reactors, now := -(lead : Int) }
  else none

def onFirst (s : Session Handler) (f : Reactor Handler → Reactor Handler) : Session Handler :=
  { s with pool := s.pool.update 0 f }

def addTimer (s : Session Handler) (due : Instant) (handler : Handler) : Session Handler :=
  s.onFirst (fun r => r.addTimer due handler)

def addRequest (s : Session Handler) (request : PendingRequest Handler) : Session Handler :=
  s.onFirst (fun r => r.addRequest request)

def removeRequest (s : Session Handler) (id : UInt32) :
    Option (PendingRequest Handler) × Session Handler :=
  ((s.pool.reactor? 0).bind (fun r => (r.removeRequest id).1),
    s.onFirst (fun r => (r.removeRequest id).2))

def shutdown (s : Session Handler) : Session Handler :=
  { s with pool := { s.pool with reactors := s.pool.reactors.map Reactor.drop } }

/-- The reactor sleeps until something is due and sweeps. A stopped reactor does nothing. -/
def turn? (panics : Handler → Event → Bool) (s : Session Handler) : Option (Session Handler) := do
  let r ← s.pool.reactor? 0
  let deadline ← if r.running then r.nextDeadline else none
  let now := max s.now deadline
  some { s.onFirst (fun r => (r.sweep now).2) with
    now
    calls := s.calls ++ r.sweepCalls panics now }

/-- Turns until there are `n` calls to be taken, at most `turns` of them. -/
def runUntil (panics : Handler → Event → Bool) (n : Nat) : Nat → Session Handler → Session Handler
  | 0, s => s
  | turns + 1, s =>
    if n ≤ s.calls.length then s
    else match s.turn? panics with
      | none => s
      | some next => runUntil panics n turns next

/-- Takes the next `n` calls, or fewer if no more are to come. Each turn makes at least one. -/
def wait (panics : Handler → Event → Bool) (n : Nat) (s : Session Handler) :
    List (Delivery Handler) × Session Handler :=
  let done := runUntil panics n n s
  (done.calls.take n, { done with calls := done.calls.drop n })

end Session

end MessageTransport.Reactor
