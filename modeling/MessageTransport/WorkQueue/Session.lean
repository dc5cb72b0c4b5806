import MessageTransport.Room
import MessageTransport.WorkQueue.Pool

set_option autoImplicit false

namespace MessageTransport.WorkQueue

variable {Work : Type} [DecidableEq Work]

/-- A pool driven from outside: jobs run until they are told to finish, and after each step the
workers start whatever they can. The jobs running are kept in the order in which they were started. -/
structure Session (Work : Type) where
  pool : Pool Work
  running : List Work

namespace Session

/-- Lets a pool settle in which some work is running, and returns the work that starts. -/
def settle (running : List Work) (p : Pool Work) : List Work × Session Work :=
  let (jobs, pool) := p.settle
  let started := jobs.map Job.work
  (started, ⟨pool, running ++ started⟩)

/-- Bytes that a worker takes in the list of all. -/
def workerBytes : Nat := 24

/-- A session with some workers; there has to be at least one, and room for all. -/
def start? (workers : Nat) : Option (Session Work) :=
  if workers = 0 ∨ !Room.fits workerBytes workers then none
  else some (settle [] (Pool.start workers)).2

def size (s : Session Work) : Nat := s.pool.queue.size

def isEmpty (s : Session Work) : Bool := s.pool.queue.isEmpty

def workerCount (s : Session Work) : Nat := s.pool.workers.length

/-- Queues a job. The work that starts comes out in order. -/
def add (s : Session Work) (urgent : Bool) (job : Job Work) :
    Except ErrorCode (List Work × Session Work) :=
  match s.pool.add urgent job with
  | .error e => .error e
  | .ok pool => .ok (settle s.running pool)

/-- The worker at some work. -/
def workerOf? (s : Session Work) (work : Work) : Option Nat :=
  s.pool.workers.findIdx? (fun w => match w with
    | .running job => job.work == work
    | _ => false)

/-- Ends some work, if it runs. -/
def finish? (s : Session Work) (work : Work) : Option (List Work × Session Work) := do
  let worker ← s.workerOf? work
  let pool ← s.pool.finish? worker s.pool.firstWaiting
  some (settle (s.running.erase work) pool)

/-- Ends the work that runs longest, again and again, at most `steps` times. -/
def drainSteps : Nat → Session Work → List Work × Session Work
  | 0, s => ([], s)
  | steps + 1, s =>
    match s.running.head?.bind s.finish? with
    | none => ([], s)
    | some (started, next) =>
      let (more, last) := drainSteps steps next
      (started ++ more, last)

/-- Ends all work. Each step ends one of the jobs that are running or queued now. -/
def drain (s : Session Work) : List Work × Session Work :=
  drainSteps (s.running.length + s.size) s

def shutdown (s : Session Work) : List Work × Session Work :=
  settle s.running s.pool.shutdown

/-- Closes the queue and ends all work. -/
def join (s : Session Work) : List Work × Session Work :=
  let (first, closed) := s.shutdown
  let (started, last) := closed.drain
  (first ++ started, last)

/-- The queue as it is shown to people. -/
def describe (s : Session Work) : String :=
  "ApplicationQueue \x7b worker_count: " ++ s.workerCount.repr ++ ", queued: " ++ s.size.repr ++
    " \x7d"

end Session

end MessageTransport.WorkQueue
