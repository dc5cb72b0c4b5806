import Mathlib.Data.List.Forall2
import MessageTransport.Proofs.WorkQueue.Census
import MessageTransport.WorkQueue.Pool

set_option autoImplicit false

namespace MessageTransport.WorkQueue.Pool

variable {Work : Type}

def isScanning : Worker Work → Bool
  | .scanning => true
  | _ => false

def isRunning : Worker Work → Bool
  | .running _ => true
  | _ => false

/-- Whether a worker runs a job of a group. -/
def runs (group : UInt64) : Worker Work → Bool
  | .running job => isOf group job
  | _ => false

/-- A worker that becomes another counts as that other from then on. -/
theorem countP_set_add {workers : List (Worker Work)} {index : Nat} {old : Worker Work}
    (there : workers[index]? = some old) (new : Worker Work) (p : Worker Work → Bool) :
    (workers.set index new).countP p + (if p old then 1 else 0) =
      workers.countP p + (if p new then 1 else 0) := by
  obtain ⟨inside, same⟩ := List.getElem?_eq_some_iff.mp there
  have counted : (if p old then 1 else 0) ≤ workers.countP p := by
    split
    · rename_i holds
      exact List.countP_pos_iff.mpr ⟨old, List.mem_of_getElem? there, holds⟩
    · exact Nat.zero_le _
  rw [List.countP_set inside, same]
  omega

theorem countP_set_of_not {workers : List (Worker Work)} {index : Nat} {old : Worker Work}
    (there : workers[index]? = some old) (new : Worker Work) {p : Worker Work → Bool}
    (not : p old = false) :
    (workers.set index new).countP p = workers.countP p + (if p new then 1 else 0) := by
  have counted := countP_set_add there new p
  rw [not, if_neg Bool.false_ne_true, Nat.add_zero] at counted
  exact counted

/-- What holds only of workers that run holds of none where nobody runs. -/
theorem countP_eq_zero_of_idle {workers : List (Worker Work)}
    (idle : ∀ job, .running job ∉ workers) {p : Worker Work → Bool}
    (only : ∀ worker, p worker = true → isRunning worker = true) : workers.countP p = 0 := by
  apply List.countP_eq_zero.mpr
  intro worker member holds
  have runs := only worker holds
  cases worker with
  | running job => exact idle job member
  | _ => cases runs

/-- Some workers that waited scan now, and nobody else does anything new. -/
def Roused (before after : List (Worker Work)) : Prop :=
  List.Forall₂ (fun old new => new = old ∨ old = .waiting ∧ new = .scanning) before after

theorem Roused.refl (workers : List (Worker Work)) : Roused workers workers :=
  List.forall₂_same.mpr (fun _ _ => .inl rfl)

theorem Roused.length_eq {before after : List (Worker Work)} (roused : Roused before after) :
    after.length = before.length :=
  (List.Forall₂.length_eq roused).symm

/-- What holds of a scanning worker if it holds of a waiting one holds of no fewer workers. -/
theorem Roused.countP_le {before after : List (Worker Work)} (roused : Roused before after)
    {p : Worker Work → Bool} (kept : p .waiting = true → p .scanning = true) :
    before.countP p ≤ after.countP p := by
  induction roused with
  | nil => exact Nat.le_refl _
  | cons change rest ih =>
    rcases change with rfl | ⟨rfl, rfl⟩
    · simp only [List.countP_cons]
      omega
    · simp only [List.countP_cons]
      split
      · rename_i waits
        rw [if_pos (kept waits)]
        omega
      · omega

/-- What holds of a waiting worker if it holds of a scanning one holds of no more workers. -/
theorem Roused.countP_ge {before after : List (Worker Work)} (roused : Roused before after)
    {p : Worker Work → Bool} (kept : p .scanning = true → p .waiting = true) :
    after.countP p ≤ before.countP p := by
  induction roused with
  | nil => exact Nat.le_refl _
  | cons change rest ih =>
    rcases change with rfl | ⟨rfl, rfl⟩
    · simp only [List.countP_cons]
      omega
    · simp only [List.countP_cons]
      split
      · rename_i scans
        rw [if_pos (kept scans)]
        omega
      · omega

/-- Nobody starts or ends a job by being woken. -/
theorem Roused.countP_eq {before after : List (Worker Work)} (roused : Roused before after)
    {p : Worker Work → Bool} (waits : p .waiting = false) (scans : p .scanning = false) :
    after.countP p = before.countP p := by
  have le := roused.countP_le (p := p) (by simp [waits])
  have ge := roused.countP_ge (p := p) (by simp [scans])
  omega

theorem Roused.running {before after : List (Worker Work)} (roused : Roused before after)
    {index : Nat} {job : Job Work} (runs : before[index]? = some (.running job)) :
    after[index]? = some (.running job) := by
  induction roused generalizing index with
  | nil => exact runs
  | cons change rest ih =>
    cases index with
    | zero =>
      rcases change with rfl | ⟨rfl, rfl⟩
      · exact runs
      · cases runs
    | succ index => exact ih runs

theorem roused_set {workers : List (Worker Work)} {index : Nat}
    (waits : workers[index]? = some .waiting) : Roused workers (workers.set index .scanning) := by
  induction workers generalizing index with
  | nil => cases waits
  | cons worker rest ih =>
    cases index with
    | zero =>
      obtain rfl : worker = .waiting := Option.some.inj waits
      exact .cons (.inr ⟨rfl, rfl⟩) (Roused.refl rest)
    | succ index => exact .cons (.inl rfl) (ih waits)

/-- A signal to one worker wakes one if any waits. -/
theorem wakeOne?_some {workers woken : List (Worker Work)} {chosen : Nat}
    (called : wakeOne? workers chosen = some woken) :
    Roused workers woken ∧
      (0 < workers.countP isWaiting →
        woken.countP isScanning = workers.countP isScanning + 1) := by
  unfold wakeOne? at called
  split at called
  · rename_i waits
    cases called
    refine ⟨roused_set waits, ?_⟩
    intro _
    have counted := countP_set_add waits .scanning isScanning
    simpa [isScanning] using counted
  · split at called
    · cases called
    · rename_i nobody
      cases called
      refine ⟨.refl _, ?_⟩
      intro some
      have absent : ¬∃ worker ∈ workers, isWaiting worker = true := by
        intro present
        exact nobody (List.any_eq_true.mpr present)
      exact absurd (List.countP_pos_iff.mp some) absent

theorem wakeAll_roused (workers : List (Worker Work)) :
    Roused workers (wakeAll workers) ∧ (wakeAll workers).countP isWaiting = 0 := by
  induction workers with
  | nil => exact ⟨.nil, rfl⟩
  | cons worker rest ih =>
    obtain ⟨roused, nobody⟩ := ih
    cases worker with
    | waiting => exact ⟨.cons (.inr ⟨rfl, rfl⟩) roused, nobody⟩
    | _ => exact ⟨.cons (.inl rfl) roused, nobody⟩

theorem Roused.trans {first second third : List (Worker Work)} (before : Roused first second)
    (after : Roused second third) : Roused first third := by
  induction before generalizing third with
  | nil => exact after
  | cons change rest ih =>
    cases after with
    | cons change' rest' =>
      refine .cons ?_ (ih rest')
      rcases change with rfl | ⟨rfl, rfl⟩
      · exact change'
      · rcases change' with rfl | ⟨impossible, -⟩
        · exact .inr ⟨rfl, rfl⟩
        · cases impossible

/-- What those who use a pool can do to it. -/
inductive Call (p : Pool Work) : Pool Work → Prop where
  | refused (closed : p.queue.closed = true) : Call p p
  | added (urgent : Bool) (job : Job Work) (eligible : Bool) (queue : WorkQueue Work)
      (accepted : p.queue.add urgent job = .ok (eligible, queue)) :
      Call p { p with queue, signals := if eligible then p.signals ++ [.one] else p.signals }
  | closed : Call p p.shutdown

/-- What happens in a pool that is left alone. -/
inductive Move (p : Pool Work) : Pool Work → Prop where
  | calledAll (index : Nat) (there : p.signals[index]? = some .all) :
      Move p { p with workers := wakeAll p.workers, signals := p.signals.eraseIdx index }
  | calledOne (index chosen : Nat) (workers : List (Worker Work))
      (there : p.signals[index]? = some .one) (woken : wakeOne? p.workers chosen = some workers) :
      Move p { p with workers, signals := p.signals.eraseIdx index }
  | started (worker : Nat) (job : Job Work) (queue : WorkQueue Work)
      (scans : p.workers[worker]? = some .scanning) (taken : p.queue.takeNext = some (job, queue)) :
      Move p { p with queue, workers := p.workers.set worker (.running job) }
  | exited (worker : Nat) (scans : p.workers[worker]? = some .scanning)
      (nothing : p.queue.takeNext = none) (finished : p.queue.isFinished = true) :
      Move p { p with workers := p.workers.set worker .exited }
  | slept (worker : Nat) (scans : p.workers[worker]? = some .scanning)
      (nothing : p.queue.takeNext = none) (notOver : p.queue.isFinished = false) :
      Move p { p with workers := p.workers.set worker .waiting }
  | ended (worker : Nat) (job : Job Work) (more : Bool) (queue : WorkQueue Work)
      (woken : List (Worker Work)) (running : p.workers[worker]? = some (.running job))
      (completed : p.queue.complete job.group = (more, queue)) (roused : Roused p.workers woken)
      (everybody : queue.isFinished = true → woken.countP isWaiting = 0) :
      Move p { p with queue, workers := woken.set worker .scanning }

/-- A worker that comes back from its job scans. Others may have been woken, and all of them have if
the queue is finished. -/
theorem finish?_some {p next : Pool Work} {worker chosen : Nat}
    (possible : p.finish? worker chosen = some next) : ∃ job more queue woken,
      p.workers[worker]? = some (.running job) ∧ p.queue.complete job.group = (more, queue) ∧
        Roused p.workers woken ∧ (queue.isFinished = true → woken.countP isWaiting = 0) ∧
        next = { p with queue, workers := woken.set worker .scanning } := by
  unfold finish? at possible
  split at possible
  · rename_i job running
    cases completed : p.queue.complete job.group with
    | mk more queue =>
      simp only [completed] at possible
      obtain ⟨called, woken, rfl⟩ := Option.map_eq_some_iff.mp possible
      have roused : Roused p.workers called := by
        cases more with
        | true => exact (wakeOne?_some woken).1
        | false =>
          obtain rfl : p.workers = called := Option.some.inj woken
          exact .refl _
      obtain ⟨all, nobody⟩ := wakeAll_roused called
      refine ⟨job, more, queue, if queue.isFinished then wakeAll called else called, running,
        completed, ?_, ?_, rfl⟩
      · split
        · exact roused.trans all
        · exact roused
      · intro finished
        rw [if_pos finished]
        exact nobody
  · cases possible

theorem move_of_finish? {p next : Pool Work} {worker chosen : Nat}
    (possible : p.finish? worker chosen = some next) : Move p next := by
  obtain ⟨job, more, queue, woken, running, completed, roused, everybody, rfl⟩ :=
    finish?_some possible
  exact .ended worker job more queue woken running completed roused everybody

theorem move_of_scan? {p next : Pool Work} {worker : Nat}
    (possible : p.scan? worker = some next) : Move p next := by
  unfold scan? at possible
  split at possible
  · rename_i scans
    split at possible
    · rename_i job queue taken
      cases possible
      exact .started worker job queue scans taken
    · rename_i nothing
      split at possible
      · rename_i finished
        cases possible
        exact .exited worker scans nothing finished
      · rename_i notOver
        cases possible
        exact .slept worker scans nothing (Bool.eq_false_iff.mpr notOver)
  · cases possible

theorem move_of_signal? {p next : Pool Work} {index chosen : Nat}
    (possible : p.signal? index chosen = some next) : Move p next := by
  unfold signal? at possible
  split at possible
  · cases possible
  · rename_i there
    cases possible
    exact .calledAll index there
  · rename_i there
    obtain ⟨workers, woken, rfl⟩ := Option.map_eq_some_iff.mp possible
    exact .calledOne index chosen workers there woken

/-- Whether a step is taken by somebody who uses the pool. -/
def Action.isCall : Action Work → Bool
  | .add _ _ => true
  | .shutdown => true
  | _ => false

theorem call_of_step? {p next : Pool Work} {action : Action Work} (outside : action.isCall = true)
    (possible : p.step? action = some next) : Call p next := by
  cases action with
  | add urgent job =>
    cases accepted : p.queue.add urgent job with
    | error e =>
      simp only [step?, add, accepted] at possible
      cases possible
      apply Call.refused
      by_cases closed : p.queue.closed = true
      · exact closed
      · rw [add_open (Bool.eq_false_iff.mpr closed)] at accepted
        cases accepted
    | ok result =>
      simp only [step?, add, accepted] at possible
      cases possible
      exact .added urgent job result.1 result.2 accepted
  | shutdown =>
    cases possible
    exact .closed
  | signal => cases outside
  | scan => cases outside
  | finish => cases outside

theorem move_of_step? {p next : Pool Work} {action : Action Work} (inside : action.isCall = false)
    (possible : p.step? action = some next) : Move p next := by
  cases action with
  | add => cases inside
  | shutdown => cases inside
  | signal index chosen => exact move_of_signal? possible
  | scan worker => exact move_of_scan? possible
  | finish worker ending chosen => exact move_of_finish? possible

theorem call_or_move {p next : Pool Work} {action : Action Work}
    (possible : p.step? action = some next) : Call p next ∨ Move p next := by
  cases outside : action.isCall with
  | true => exact .inl (call_of_step? outside possible)
  | false => exact .inr (move_of_step? outside possible)

/-- The pools that any steps lead to from some workers that have just been started. -/
inductive Reachable (count : Nat) : Pool Work → Prop where
  | start : Reachable count (start count)
  | next {p next : Pool Work} (action : Action Work) (reached : Reachable count p)
      (possible : p.step? action = some next) : Reachable count next

/-- The pool after some steps, if they are possible one after the other. -/
def run? (p : Pool Work) : List (Action Work) → Option (Pool Work)
  | [] => some p
  | action :: rest => (p.step? action).bind (fun next => next.run? rest)

theorem run?_cons {p last : Pool Work} {action : Action Work} {rest : List (Action Work)}
    (possible : p.run? (action :: rest) = some last) :
    ∃ next, p.step? action = some next ∧ next.run? rest = some last :=
  Option.bind_eq_some_iff.mp possible

theorem Reachable.run {count : Nat} {p last : Pool Work} {actions : List (Action Work)}
    (reached : Reachable count p) (possible : p.run? actions = some last) :
    Reachable count last := by
  induction actions generalizing p with
  | nil =>
    obtain rfl : p = last := Option.some.inj possible
    exact reached
  | cons action rest ih =>
    obtain ⟨next, first, others⟩ := run?_cons possible
    exact ih (.next action reached first) others

end MessageTransport.WorkQueue.Pool
