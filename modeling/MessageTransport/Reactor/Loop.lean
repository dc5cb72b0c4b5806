import MessageTransport.Reactor

set_option autoImplicit false

namespace MessageTransport.Reactor

variable {Handler : Type}

/-- What the loop is at. -/
inductive Phase where
  /-- It is about to look for the earliest deadline. -/
  | looking
  /-- It has seen the requests, and has to sleep no longer than until `bound`. -/
  | planning (bound : Instant)
  /-- It has seen the timers too, and sleeps until `bound`. -/
  | asleep (bound : Instant)
  | awake
  /-- It has taken out the requests that were due at `now`, and the timers are next. -/
  | sweeping (now : Instant)
deriving DecidableEq, Repr

/-- The loop of a reactor beside its callers. It looks for the earliest deadline, first among the
requests and then among the timers, sleeps until then, but no longer than a tick, and sweeps when it
wakes, again first the requests and then the timers. Requests and timers are under locks of their
own, so anybody may come between. A wake-up that finds the loop awake is kept, and one that finds it
asleep until the loop has used it. -/
structure Loop (Handler : Type) where
  reactor : Reactor Handler
  phase : Phase := .looking
  /-- Callers who have recorded something and have still to leave their wake-up. -/
  owed : Nat := 0

namespace Loop

/-- The loop of a reactor that has just been started. -/
def start (index : Nat) : Loop Handler where
  reactor := { index }

inductive Action (Handler : Type) where
  | insertRequest (request : PendingRequest Handler)
  | insertTimer (due : Instant) (handler : Handler)
  | notify
  | removeRequest (id : UInt32)
  | purge (connId : UInt32)
  | seeRequests (now : Instant)
  | seeTimers
  /-- The sleep ends: with the use of a wake-up, or because the time has come or for any other
  reason. -/
  | wake (usesWakeup : Bool)
  | sweepRequests (now : Instant)
  | sweepTimers
deriving DecidableEq, Repr

/-- The loop after a step, if the step is possible. -/
def step? (tick : Nat) (l : Loop Handler) : Action Handler → Option (Loop Handler)
  | .insertRequest request =>
    let (earlier, reactor) := l.reactor.insertRequest request
    some { l with reactor, owed := if earlier then l.owed + 1 else l.owed }
  | .insertTimer due handler =>
    some { l with reactor := l.reactor.insertTimer due handler, owed := l.owed + 1 }
  | .notify =>
    if l.owed = 0 then none
    else some { l with reactor := l.reactor.notify, owed := l.owed - 1 }
  | .removeRequest id => some { l with reactor := (l.reactor.removeRequest id).2 }
  | .purge connId =>
    some { l with reactor := { l.reactor with requests := (l.reactor.requests.purge connId).2 } }
  | .seeRequests now =>
    match l.phase with
    | .looking =>
      some { l with phase := .planning (capped (now + (tick : Int)) l.reactor.requests.nextDeadline) }
    | _ => none
  | .seeTimers =>
    match l.phase with
    | .planning bound =>
      some { l with phase := .asleep (capped bound l.reactor.timers.nextDeadline) }
    | _ => none
  | .wake usesWakeup =>
    match l.phase with
    | .asleep _ =>
      if usesWakeup && !l.reactor.wakeup then none
      else
        let wakeup := l.reactor.wakeup && !usesWakeup
        some { l with reactor := { l.reactor with wakeup }, phase := .awake }
    | _ => none
  | .sweepRequests now =>
    match l.phase with
    | .awake =>
      let requests := (l.reactor.requests.drainExpired now).2
      some { l with reactor := { l.reactor with requests }, phase := .sweeping now }
    | _ => none
  | .sweepTimers =>
    match l.phase with
    | .sweeping now =>
      let timers := (l.reactor.timers.drainExpired now).2
      some { l with reactor := { l.reactor with timers }, phase := .looking }
    | _ => none

/-- The loop after some steps, if they are possible one after the other. -/
def run? (tick : Nat) (l : Loop Handler) : List (Action Handler) → Option (Loop Handler)
  | [] => some l
  | action :: rest => (l.step? tick action).bind (fun next => next.run? tick rest)

end Loop

end MessageTransport.Reactor
