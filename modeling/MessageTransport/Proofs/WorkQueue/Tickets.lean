import MessageTransport.Proofs.WorkQueue.Steps

set_option autoImplicit false

namespace MessageTransport

variable {Work Other : Type}

def Job.map (f : Work → Other) (job : Job Work) : Job Other := ⟨job.group, f job.work⟩

namespace WorkQueue

def map (f : Work → Other) (q : WorkQueue Work) : WorkQueue Other where
  urgent := q.urgent.map (Job.map f)
  normal := q.normal.map (Job.map f)
  groups := q.groups
  closed := q.closed

theorem extractFirst_map {α β : Type} (f : α → β) (p : β → Bool) (xs : List α) :
    extractFirst p (xs.map f) =
      (extractFirst (fun a => p (f a)) xs).map (fun found => (f found.1, found.2.map f)) := by
  induction xs with
  | nil => rfl
  | cons a rest ih =>
    by_cases holds : p (f a)
    · simp only [List.map_cons, extractFirst, holds, ↓reduceIte, Option.map_some]
    · simp only [List.map_cons, extractFirst, holds, Bool.false_eq_true, ↓reduceIte, ih,
        Option.map_map]
      rfl

theorem started_map (f : Work → Other) (q : WorkQueue Work) (job : Job Work) :
    (q.map f).started (job.map f) = (q.started job).map f := by
  rw [started_eq, started_eq]
  rfl

theorem takeNext_map (f : Work → Other) (q : WorkQueue Work) :
    (q.map f).takeNext = q.takeNext.map (fun taken => (taken.1.map f, taken.2.map f)) := by
  have found (jobs : List (Job Work)) : extractFirst (q.map f).isEligible (jobs.map (Job.map f)) =
      (extractFirst q.isEligible jobs).map (fun r => (r.1.map f, r.2.map (Job.map f))) :=
    extractFirst_map (Job.map f) (q.map f).isEligible jobs
  have lists : (q.map f).urgent = q.urgent.map (Job.map f) ∧
      (q.map f).normal = q.normal.map (Job.map f) := ⟨rfl, rfl⟩
  unfold takeNext
  rw [lists.1, lists.2, found, found]
  cases extractFirst q.isEligible q.urgent with
  | some taken =>
    exact congrArg (fun rest => some (taken.1.map f, rest))
      (started_map f { q with urgent := taken.2 } taken.1)
  | none =>
    cases extractFirst q.isEligible q.normal with
    | some taken =>
      exact congrArg (fun rest => some (taken.1.map f, rest))
        (started_map f { q with normal := taken.2 } taken.1)
    | none => rfl

theorem add_map (f : Work → Other) (q : WorkQueue Work) (urgent : Bool) (job : Job Work) :
    (q.map f).add urgent (job.map f) =
      (q.add urgent job).map (fun accepted => (accepted.1, accepted.2.map f)) := by
  cases state : q.closed with
  | true =>
    rw [add_closed (q := q.map f) state, add_closed state]
    rfl
  | false =>
    have last (jobs : List (Job Work)) : (jobs ++ [job]).map (Job.map f) =
        jobs.map (Job.map f) ++ [job.map f] := List.map_append
    rw [add_open (q := q.map f) state, add_open state]
    cases urgent <;> simp only [Except.map, map, Bool.false_eq_true, ↓reduceIte, last] <;> rfl

theorem complete_map (f : Work → Other) (q : WorkQueue Work) (group : UInt64) :
    (q.map f).complete group = ((q.complete group).1, (q.complete group).2.map f) := by
  have groups : (q.map f).groups = q.groups := rfl
  unfold complete
  rw [groups]
  split
  · rfl
  · split
    · rfl
    · split <;> rfl

theorem isFinished_map (f : Work → Other) (q : WorkQueue Work) :
    (q.map f).isFinished = q.isFinished := by
  simp only [isFinished, map, List.isEmpty_map]

def Worker.map (f : Work → Other) : Worker Work → Worker Other
  | .scanning => .scanning
  | .running job => .running (job.map f)
  | .waiting => .waiting
  | .exited => .exited

namespace Pool

def map (f : Work → Other) (p : Pool Work) : Pool Other :=
  ⟨p.queue.map f, p.workers.map (Worker.map f), p.signals⟩

def Action.map (f : Work → Other) : Action Work → Action Other
  | .add urgent job => .add urgent (job.map f)
  | .shutdown => .shutdown
  | .signal index chosen => .signal index chosen
  | .scan worker => .scan worker
  | .finish worker ending chosen => .finish worker ending chosen

theorem start_map (f : Work → Other) (count : Nat) : (start count).map f = start count := by
  simp only [map, start, List.map_replicate]
  rfl

theorem isWaiting_map (f : Work → Other) (worker : Worker Work) :
    isWaiting (worker.map f) = isWaiting worker := by
  cases worker <;> rfl

theorem wakeAll_map (f : Work → Other) (workers : List (Worker Work)) :
    wakeAll (workers.map (Worker.map f)) = (wakeAll workers).map (Worker.map f) := by
  unfold wakeAll
  rw [List.map_map, List.map_map]
  apply List.map_congr_left
  intro worker _
  cases worker <;> rfl

theorem wakeOne?_map (f : Work → Other) (workers : List (Worker Work)) (chosen : Nat) :
    wakeOne? (workers.map (Worker.map f)) chosen =
      (wakeOne? workers chosen).map (List.map (Worker.map f)) := by
  have some : (workers.map (Worker.map f)).any isWaiting = workers.any isWaiting := by
    rw [List.any_map]
    exact congrArg workers.any (funext (isWaiting_map f))
  unfold wakeOne?
  rw [List.getElem?_map, some]
  rcases workers[chosen]? with _ | _ | _ | _ | _
  case some.waiting => simp only [Option.map_some, Worker.map, List.map_set]
  all_goals
    simp only [Option.map_none, Option.map_some, Worker.map]
    split <;> rfl

theorem add_map (f : Work → Other) (p : Pool Work) (urgent : Bool) (job : Job Work) :
    (p.map f).add urgent (job.map f) = (p.add urgent job).map (map f) := by
  have added : (p.map f).queue.add urgent (job.map f) =
      (p.queue.add urgent job).map (fun accepted => (accepted.1, accepted.2.map f)) :=
    WorkQueue.add_map f p.queue urgent job
  unfold add
  rw [added]
  cases p.queue.add urgent job <;> rfl

theorem signal?_map (f : Work → Other) (p : Pool Work) (index chosen : Nat) :
    (p.map f).signal? index chosen = (p.signal? index chosen).map (map f) := by
  have lists : (p.map f).signals = p.signals ∧
      (p.map f).workers = p.workers.map (Worker.map f) := ⟨rfl, rfl⟩
  unfold signal?
  rw [lists.1, lists.2, wakeAll_map, wakeOne?_map]
  rcases p.signals[index]? with _ | _ | _
  · rfl
  · rw [Option.map_map, Option.map_map]
    rfl
  · rfl

theorem scan?_map (f : Work → Other) (p : Pool Work) (worker : Nat) :
    (p.map f).scan? worker = (p.scan? worker).map (map f) := by
  have parts : (p.map f).queue = p.queue.map f ∧
      (p.map f).workers = p.workers.map (Worker.map f) := ⟨rfl, rfl⟩
  unfold scan?
  rw [parts.1, parts.2, List.getElem?_map, takeNext_map, isFinished_map]
  rcases p.workers[worker]? with _ | _ | _ | _ | _
  case some.scanning =>
    simp only [Option.map_some, Worker.map]
    cases p.queue.takeNext with
    | some taken => simp only [Option.map_some, map, List.map_set, Worker.map]
    | none =>
      simp only [Option.map_none]
      split <;> simp only [Option.map_some, map, List.map_set, Worker.map]
  all_goals rfl

theorem finish?_map (f : Work → Other) (p : Pool Work) (worker chosen : Nat) :
    (p.map f).finish? worker chosen = (p.finish? worker chosen).map (map f) := by
  have parts : (p.map f).queue = p.queue.map f ∧
      (p.map f).workers = p.workers.map (Worker.map f) := ⟨rfl, rfl⟩
  unfold finish?
  rw [parts.1, parts.2, List.getElem?_map]
  rcases p.workers[worker]? with _ | _ | job | _ | _
  case some.running =>
    have group : (job.map f).group = job.group := rfl
    have woken (more : Bool) : (if more then wakeOne? (p.workers.map (Worker.map f)) chosen
        else some (p.workers.map (Worker.map f))) =
          (if more then wakeOne? p.workers chosen else some p.workers).map
            (List.map (Worker.map f)) := by
      cases more with
      | true => exact wakeOne?_map f p.workers chosen
      | false => rfl
    simp only [Option.map_some, Worker.map, group, complete_map, isFinished_map, woken,
      Option.map_map]
    congr 1
    funext workers
    simp only [Function.comp_apply, map, List.map_set, Worker.map]
    split
    · rw [wakeAll_map]
    · rfl
  all_goals rfl

/-- A pool takes the same steps whatever the work of its jobs is, so that what happens to a job can
be told of tickets in place of the work. -/
theorem step?_map (f : Work → Other) (p : Pool Work) (action : Action Work) :
    (p.map f).step? (action.map f) = (p.step? action).map (map f) := by
  cases action with
  | add urgent job =>
    simp only [Action.map, step?, add_map]
    cases p.add urgent job <;> rfl
  | shutdown => rfl
  | signal index chosen => exact signal?_map f p index chosen
  | scan worker => exact scan?_map f p worker
  | finish worker ending chosen => exact finish?_map f p worker chosen

theorem run?_map (f : Work → Other) (p : Pool Work) (actions : List (Action Work)) :
    (p.map f).run? (actions.map (Action.map f)) = (p.run? actions).map (map f) := by
  induction actions generalizing p with
  | nil => rfl
  | cons action rest ih =>
    simp only [List.map_cons, run?, step?_map]
    cases p.step? action with
    | none => rfl
    | some next => exact ih next

end Pool

/-- Work as it was added: in which step of a run, and whether as urgent work. -/
structure Ticket (Work : Type) where
  number : Nat
  urgent : Bool
  work : Work
deriving DecidableEq, Repr

namespace Pool

/-- The same step, with a ticket for the job if it adds one. -/
def Action.ticketed (number : Nat) : Action Work → Action (Ticket Work)
  | .add urgent job => .add urgent (job.map (fun work => ⟨number, urgent, work⟩))
  | .shutdown => .shutdown
  | .signal index chosen => .signal index chosen
  | .scan worker => .scan worker
  | .finish worker ending chosen => .finish worker ending chosen

/-- The same steps, with tickets numbered from `number` on. -/
def ticketed : Nat → List (Action Work) → List (Action (Ticket Work))
  | _, [] => []
  | number, action :: rest => action.ticketed number :: ticketed (number + 1) rest

theorem map_ticketed (number : Nat) (actions : List (Action Work)) :
    (ticketed number actions).map (Action.map Ticket.work) = actions := by
  induction actions generalizing number with
  | nil => rfl
  | cons action rest ih =>
    rw [ticketed, List.map_cons, ih]
    cases action <;> rfl

/-- Every run is also one of jobs with tickets. -/
theorem run?_ticketed {count : Nat} {actions : List (Action Work)} {last : Pool Work}
    (possible : (start count).run? actions = some last) :
    ∃ p : Pool (Ticket Work),
      (start count).run? (ticketed 0 actions) = some p ∧ p.map Ticket.work = last := by
  have same := run?_map Ticket.work (start count) (ticketed 0 actions)
  rw [start_map, map_ticketed, possible] at same
  exact Option.map_eq_some_iff.mp same.symm

end Pool

end WorkQueue

end MessageTransport
