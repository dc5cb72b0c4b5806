import MessageTransport.WorkQueue

set_option autoImplicit false

namespace MessageTransport.WorkQueue

variable {Work : Type}

inductive Worker (Work : Type) where
  | scanning
  | running (job : Job Work)
  | waiting
  | exited
deriving DecidableEq, Repr

/-- A signal that a caller has still to give. -/
inductive Signal where
  | one
  | all
deriving DecidableEq, Repr

/-- How a job ends. A panic is caught, and the worker goes on as after any other job. -/
inductive Ending where
  | returned
  | panicked
deriving DecidableEq, Repr

/-- Workers at a queue. A worker scans the queue under its lock, runs a job without it, and waits
for a signal when there is nothing to start. A caller who has added work or closed the queue signals
in a step of its own, after it has given up the lock; a signal to one worker wakes any that waits
and is lost if none does. -/
structure Pool (Work : Type) where
  queue : WorkQueue Work
  workers : List (Worker Work)
  signals : List Signal

namespace Pool

/-- A pool whose workers are about to scan for the first time. -/
def start (count : Nat) : Pool Work := ⟨empty, List.replicate count .scanning, []⟩

def isWaiting : Worker Work → Bool
  | .waiting => true
  | _ => false

/-- Wakes a chosen worker, which has to be one that waits if any does. -/
def wakeOne? (workers : List (Worker Work)) (chosen : Nat) : Option (List (Worker Work)) :=
  match workers[chosen]? with
  | some .waiting => some (workers.set chosen .scanning)
  | _ => if workers.any isWaiting then none else some workers

def wakeAll (workers : List (Worker Work)) : List (Worker Work) :=
  workers.map (fun w => if isWaiting w then .scanning else w)

/-- One step of a caller or of a worker. Where a signal goes to one worker, `chosen` is that one. -/
inductive Action (Work : Type) where
  | add (urgent : Bool) (job : Job Work)
  | shutdown
  | signal (index chosen : Nat)
  | scan (worker : Nat)
  | finish (worker : Nat) (ending : Ending) (chosen : Nat)
deriving DecidableEq, Repr

def add (p : Pool Work) (urgent : Bool) (job : Job Work) : Except ErrorCode (Pool Work) :=
  match p.queue.add urgent job with
  | .error e => .error e
  | .ok (eligible, queue) =>
    .ok { p with queue, signals := if eligible then p.signals ++ [.one] else p.signals }

def shutdown (p : Pool Work) : Pool Work :=
  { p with queue := p.queue.close, signals := p.signals ++ [.all] }

/-- Gives one of the signals still to be given. -/
def signal? (p : Pool Work) (index chosen : Nat) : Option (Pool Work) :=
  match p.signals[index]? with
  | none => none
  | some .all => some { p with workers := wakeAll p.workers, signals := p.signals.eraseIdx index }
  | some .one =>
    (wakeOne? p.workers chosen).map
      (fun workers => { p with workers, signals := p.signals.eraseIdx index })

/-- A worker looks for a job; without one it exits if the queue is finished and waits if not. -/
def scan? (p : Pool Work) (worker : Nat) : Option (Pool Work) :=
  match p.workers[worker]? with
  | some .scanning =>
    match p.queue.takeNext with
    | some (job, queue) => some { p with queue, workers := p.workers.set worker (.running job) }
    | none =>
      if p.queue.isFinished then some { p with workers := p.workers.set worker .exited }
      else some { p with workers := p.workers.set worker .waiting }
  | _ => none

/-- A worker comes back from its job. It wakes another if the group has more work, and everybody if
the queue is finished. -/
def finish? (p : Pool Work) (worker chosen : Nat) : Option (Pool Work) :=
  match p.workers[worker]? with
  | some (.running job) =>
    let (more, queue) := p.queue.complete job.group
    let woken := if more then wakeOne? p.workers chosen else some p.workers
    woken.map (fun workers =>
      let workers := if queue.isFinished then wakeAll workers else workers
      { p with queue, workers := workers.set worker .scanning })
  | _ => none

/-- The pool after a step, if the step is possible. An addition that is refused changes nothing. -/
def step? (p : Pool Work) : Action Work → Option (Pool Work)
  | .add urgent job =>
    match p.add urgent job with
    | .ok next => some next
    | .error _ => some p
  | .shutdown => some p.shutdown
  | .signal index chosen => p.signal? index chosen
  | .scan worker => p.scan? worker
  | .finish worker _ chosen => p.finish? worker chosen

/-- The first worker that waits. -/
def firstWaiting (p : Pool Work) : Nat := p.workers.findIdx isWaiting

/-- Gives every signal, each to the first worker that waits. -/
def giveSignals : Nat → Pool Work → Pool Work
  | 0, p => p
  | count + 1, p =>
    match p.signal? 0 p.firstWaiting with
    | some next => giveSignals count next
    | none => p

/-- The job of a worker that runs one. -/
def jobAt? (p : Pool Work) (worker : Nat) : Option (Job Work) :=
  match p.workers[worker]? with
  | some (.running job) => some job
  | _ => none

/-- Lets each of the given workers scan if it is about to. The jobs started come out in order. -/
def scanEach : List Nat → Pool Work → List (Job Work) × Pool Work
  | [], p => ([], p)
  | worker :: rest, p =>
    match p.scan? worker with
    | none => scanEach rest p
    | some next =>
      let (started, last) := scanEach rest next
      ((next.jobAt? worker).toList ++ started, last)

/-- The jobs that start, and the pool once nobody has anything to do but jobs. -/
def settle (p : Pool Work) : List (Job Work) × Pool Work :=
  scanEach (List.range p.workers.length) (giveSignals p.signals.length p)

end Pool

end MessageTransport.WorkQueue
