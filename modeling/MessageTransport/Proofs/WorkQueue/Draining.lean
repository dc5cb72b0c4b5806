import Mathlib.Data.List.Perm.Basic
import MessageTransport.Proofs.WorkQueue.Order
import MessageTransport.Proofs.WorkQueue.Rest

set_option autoImplicit false

namespace MessageTransport.WorkQueue

variable {Work : Type}

/-- The job that a worker runs. -/
def Worker.job? : Worker Work → Option (Job Work)
  | .running job => some job
  | _ => none

theorem filterMap_job?_cons (worker : Worker Work) (rest : List (Worker Work)) :
    (worker :: rest).filterMap Worker.job? = worker.job?.toList ++ rest.filterMap Worker.job? := by
  rw [List.filterMap_cons]
  cases worker.job? <;> rfl

/-- What the workers run when one of them has turned from one thing to another. -/
theorem filterMap_job?_set {workers : List (Worker Work)} {index : Nat} {old : Worker Work}
    (there : workers[index]? = some old) (new : Worker Work) :
    (old.job?.toList ++ (workers.set index new).filterMap Worker.job?).Perm
      (new.job?.toList ++ workers.filterMap Worker.job?) := by
  obtain ⟨inside, rfl⟩ := List.getElem?_eq_some_iff.mp there
  have before := (List.getElem_cons_eraseIdx_perm inside).filterMap Worker.job?
  have after := (List.set_perm_cons_eraseIdx inside new).filterMap Worker.job?
  rw [filterMap_job?_cons] at before after
  -- Both sides are what the other workers run, the old job and the new one.
  refine (after.append_left _).trans (.trans ?_ (before.append_left _))
  exact List.perm_append_comm_assoc ..

namespace Pool

/-- The jobs that run. -/
def running (p : Pool Work) : List (Job Work) := p.workers.filterMap Worker.job?

theorem Roused.filterMap_job? {before after : List (Worker Work)} (roused : Roused before after) :
    after.filterMap Worker.job? = before.filterMap Worker.job? := by
  induction roused with
  | nil => rfl
  | cons change rest ih =>
    rw [filterMap_job?_cons, filterMap_job?_cons, ih]
    rcases change with rfl | ⟨rfl, rfl⟩
    · rfl
    · rfl

theorem jobAt?_eq (p : Pool Work) (worker : Nat) :
    p.jobAt? worker = (p.workers[worker]?).bind Worker.job? := by
  unfold jobAt?
  rcases p.workers[worker]? with _ | _ | _ | _ | _ <;> rfl

/-- The job that a step ends, whether it returns or panics. -/
def ended? (p : Pool Work) : Action Work → Option (Job Work)
  | .finish worker _ _ => p.jobAt? worker
  | _ => none

/-- The jobs that a run ends, in order. -/
def endedIn (p : Pool Work) : List (Action Work) → List (Job Work)
  | [] => []
  | action :: rest =>
    match p.step? action with
    | none => []
    | some next => (p.ended? action).toList ++ next.endedIn rest

/-- A job that is started leaves the backlog, and no other does. -/
theorem backlog_of_takeNext {q next : WorkQueue Work} {job : Job Work}
    (taken : q.takeNext = some (job, next)) : (job :: next.backlog).Perm q.backlog := by
  obtain ⟨-, before, after, -, ⟨jobs, rfl⟩ | ⟨-, jobs, rfl⟩⟩ := takeNext_some taken
  · rw [started_eq, backlog, backlog, jobs, List.append_assoc, List.append_assoc]
    exact List.perm_middle.symm
  · rw [started_eq, backlog, backlog, jobs, ← List.append_assoc, ← List.append_assoc]
    exact List.perm_middle.symm

/-- What a step starts leaves the backlog, and what it adds goes there. -/
theorem Change.backlog {p next : Pool Work} {action : Action Work} (change : Change p action next) :
    ((next.started? action).toList ++ next.queue.backlog).Perm
      ((p.added? action).toList ++ p.queue.backlog) := by
  cases change with
  | added urgent job what accepted none urgents normals =>
    rw [accepted, none, WorkQueue.backlog, WorkQueue.backlog, urgents, normals]
    cases urgent with
    | true =>
      rw [if_pos rfl, if_pos rfl, Option.toList_none, List.nil_append, List.append_assoc]
      exact List.perm_middle
    | false =>
      rw [if_neg Bool.false_ne_true, if_neg Bool.false_ne_true, Option.toList_none,
        List.nil_append, ← List.append_assoc]
      exact List.perm_append_comm
  | started job nothing begun taken =>
    rw [nothing, begun]
    exact backlog_of_takeNext taken
  | kept nothing none urgents normals =>
    rw [nothing, none, WorkQueue.backlog, WorkQueue.backlog, urgents, normals]

/-- To add a job is neither to change what workers do nor to close or open the queue. -/
theorem added_of_step? {p next : Pool Work} {urgent : Bool} {job : Job Work}
    (possible : p.step? (.add urgent job) = some next) :
    next.workers = p.workers ∧ next.queue.closed = p.queue.closed := by
  cases state : p.queue.closed with
  | true =>
    simp only [step?, add, add_closed state] at possible
    cases possible
    exact ⟨rfl, state⟩
  | false =>
    simp only [step?, add, add_open state] at possible
    cases possible
    exact ⟨rfl, rfl⟩

theorem roused_of_signal? {p next : Pool Work} {index chosen : Nat}
    (possible : p.signal? index chosen = some next) : Roused p.workers next.workers := by
  unfold signal? at possible
  split at possible
  · cases possible
  · cases possible
    exact (wakeAll_roused p.workers).1
  · obtain ⟨workers, woken, rfl⟩ := Option.map_eq_some_iff.mp possible
    exact (wakeOne?_some woken).1

/-- A scan is over with its worker turned to something else. -/
theorem workers_of_scan? {p next : Pool Work} {worker : Nat}
    (possible : p.scan? worker = some next) : ∃ new,
      p.workers[worker]? = some .scanning ∧ next.workers = p.workers.set worker new := by
  unfold scan? at possible
  split at possible
  · rename_i scans
    split at possible
    · cases possible
      exact ⟨_, scans, rfl⟩
    · split at possible
      · cases possible
        exact ⟨_, scans, rfl⟩
      · cases possible
        exact ⟨_, scans, rfl⟩
  · cases possible

/-- What a step ends runs no longer, and what it starts runs. -/
theorem running_of_step? {p next : Pool Work} {action : Action Work}
    (possible : p.step? action = some next) :
    ((p.ended? action).toList ++ next.running).Perm
      ((next.started? action).toList ++ p.running) := by
  cases action with
  | add urgent job =>
    have same : next.workers = p.workers := (added_of_step? possible).1
    rw [running, running, same]
    exact .refl _
  | shutdown =>
    cases possible
    exact .refl _
  | signal index chosen =>
    rw [running, running, (roused_of_signal? possible).filterMap_job?]
    exact .refl _
  | scan worker =>
    obtain ⟨new, scans, workers⟩ := workers_of_scan? possible
    have turned := filterMap_job?_set scans new
    obtain ⟨inside, -⟩ := List.getElem?_eq_some_iff.mp scans
    rw [started?, jobAt?_eq, running, running, workers, List.getElem?_set_self inside]
    exact turned
  | finish worker ending chosen =>
    obtain ⟨job, more, queue, woken, runs, -, roused, -, rfl⟩ := finish?_some possible
    have turned := filterMap_job?_set (roused.running runs) .scanning
    rw [roused.filterMap_job?] at turned
    rw [ended?, jobAt?_eq, runs]
    exact turned

theorem perm_chain {α : Type} {first later final added middle begun start : List α}
    (step : (first ++ middle).Perm (begun ++ start))
    (rest : (later ++ final).Perm (added ++ middle)) :
    (first ++ later ++ final).Perm (begun ++ added ++ start) := by
  rw [List.append_assoc, List.append_assoc]
  refine (rest.append_left first).trans ?_
  refine (List.perm_append_comm_assoc ..).trans ?_
  refine (step.append_left added).trans ?_
  exact List.perm_append_comm_assoc ..

/-- What a run ends and what runs after it is what it starts and what ran before it; what it starts
and what is queued after it is what it adds and what was queued before it. -/
theorem run?_split {p last : Pool Work} {actions : List (Action Work)}
    (possible : p.run? actions = some last) :
    (p.endedIn actions ++ last.running).Perm (p.startedIn actions ++ p.running) ∧
      (p.startedIn actions ++ last.queue.backlog).Perm
        (p.addedIn actions ++ p.queue.backlog) := by
  induction actions generalizing p with
  | nil =>
    obtain rfl : p = last := Option.some.inj possible
    exact ⟨.refl _, .refl _⟩
  | cons action rest ih =>
    obtain ⟨next, first, others⟩ := run?_cons possible
    obtain ⟨running, backlog⟩ := ih others
    simp only [endedIn, startedIn, addedIn, first]
    exact ⟨perm_chain (running_of_step? first) running,
      perm_chain (change_of_step? first).backlog backlog⟩

/-- From workers that have just been started: what a run ends and what runs after it is what it
starts, and that and what is queued after it is what it adds. -/
theorem split_of_run {count : Nat} {actions : List (Action Work)} {last : Pool Work}
    (possible : (start count).run? actions = some last) :
    ((start count).endedIn actions ++ last.running).Perm ((start count).startedIn actions) ∧
      ((start count).startedIn actions ++ last.queue.backlog).Perm
        ((start count).addedIn actions) := by
  obtain ⟨runs, queued⟩ := run?_split possible
  have idle : (start count : Pool Work).running = [] := by
    apply List.filterMap_eq_nil_iff.mpr
    intro worker member
    rw [List.eq_of_mem_replicate member]
    rfl
  have nothing : (start count : Pool Work).queue.backlog = [] := rfl
  rw [idle, List.append_nil] at runs
  rw [nothing, List.append_nil] at queued
  exact ⟨runs, queued⟩

theorem closed_of_step? {p next : Pool Work} {action : Action Work}
    (possible : p.step? action = some next) :
    next.queue.closed = true ↔ action = .shutdown ∨ p.queue.closed = true := by
  cases action with
  | shutdown =>
    cases possible
    exact iff_of_true rfl (.inl rfl)
  | add urgent job =>
    have same : next.queue.closed = p.queue.closed := (added_of_step? possible).2
    rw [same, or_iff_right nofun]
  | signal index chosen =>
    rw [(move_of_signal? possible).closed_eq, or_iff_right nofun]
  | scan worker => rw [(move_of_scan? possible).closed_eq, or_iff_right nofun]
  | finish worker ending chosen =>
    rw [(move_of_finish? possible).closed_eq, or_iff_right nofun]

/-- A queue is closed once it has been shut down, and not before. -/
theorem closed_of_run? {p last : Pool Work} {actions : List (Action Work)}
    (possible : p.run? actions = some last) :
    last.queue.closed = true ↔ .shutdown ∈ actions ∨ p.queue.closed = true := by
  induction actions generalizing p with
  | nil =>
    obtain rfl : p = last := Option.some.inj possible
    exact (or_iff_right List.not_mem_nil).symm
  | cons action rest ih =>
    obtain ⟨next, first, others⟩ := run?_cons possible
    rw [ih others, closed_of_step? first, List.mem_cons, ← or_assoc, or_comm (a := .shutdown ∈ rest),
      eq_comm (a := action)]

theorem Move.length_eq {p next : Pool Work} (move : Move p next) :
    next.workers.length = p.workers.length := by
  cases move with
  | calledAll index there => exact (wakeAll_roused p.workers).1.length_eq
  | calledOne index chosen workers there woken => exact (wakeOne?_some woken).1.length_eq
  | started worker job queue scans taken => exact List.length_set
  | exited worker scans nothing finished => exact List.length_set
  | slept worker scans nothing notOver => exact List.length_set
  | ended worker job more queue woken runs completed roused everybody =>
    exact List.length_set.trans roused.length_eq

theorem Call.workers_eq {p next : Pool Work} (call : Call p next) : next.workers = p.workers := by
  cases call <;> rfl

theorem Reachable.length_workers {count : Nat} {p : Pool Work} (reached : Reachable count p) :
    p.workers.length = count := by
  induction reached with
  | start => exact List.length_replicate
  | next action _ possible ih =>
    rcases call_or_move possible with call | move
    · rw [call.workers_eq, ih]
    · rw [move.length_eq, ih]

theorem isFinished_iff {q : WorkQueue Work} :
    q.isFinished = true ↔ q.closed = true ∧ q.urgent = [] ∧ q.normal = [] := by
  simp only [isFinished, Bool.and_eq_true, List.isEmpty_iff, and_assoc]

/-- Nothing starts from a finished queue. -/
theorem takeNext_of_finished {q : WorkQueue Work} (finished : q.isFinished = true) :
    q.takeNext = none := by
  obtain ⟨-, urgent, normal⟩ := isFinished_iff.mp finished
  rw [WorkQueue.takeNext_eq_none_iff, urgent, normal]
  nofun

/-- A finished queue stays finished. -/
theorem finished_of_call {p next : Pool Work} (call : Call p next)
    (finished : p.queue.isFinished = true) : next.queue.isFinished = true := by
  obtain ⟨closed, urgent, normal⟩ := isFinished_iff.mp finished
  cases call with
  | refused => exact finished
  | added isUrgent job eligible queue accepted =>
    rw [add_closed closed] at accepted
    cases accepted
  | closed => exact isFinished_iff.mpr ⟨rfl, urgent, normal⟩

theorem Move.finished {p next : Pool Work} (move : Move p next)
    (finished : p.queue.isFinished = true) : next.queue.isFinished = true := by
  cases move with
  | started worker job queue scans taken =>
    rw [takeNext_of_finished finished] at taken
    cases taken
  | ended worker job more queue woken runs completed roused everybody =>
    obtain ⟨urgent, normal, closed, -⟩ := complete_census completed
    rw [WorkQueue.isFinished, urgent, normal, closed]
    exact finished
  | _ => exact finished

/-- Whoever does not scan once others have been woken did the same before. -/
theorem Roused.mem {before after : List (Worker Work)} (roused : Roused before after)
    {worker : Worker Work} (there : worker ∈ after) (still : worker ≠ .scanning) :
    worker ∈ before := by
  induction roused with
  | nil => exact there
  | cons change rest ih =>
    rcases List.mem_cons.mp there with rfl | behind
    · rcases change with rfl | ⟨-, scans⟩
      · exact List.mem_cons_self
      · exact absurd scans still
    · exact List.mem_cons_of_mem _ (ih behind)

/-- A worker that is gone was gone before or has gone now. -/
theorem Move.exited_cases {p next : Pool Work} (move : Move p next)
    (gone : .exited ∈ next.workers) : .exited ∈ p.workers ∨ p.queue.isFinished = true := by
  have turned {workers : List (Worker Work)} {worker : Nat} {new : Worker Work}
      (gone : .exited ∈ workers.set worker new) (other : new ≠ .exited) : .exited ∈ workers :=
    (List.mem_or_eq_of_mem_set gone).resolve_right other.symm
  cases move with
  | calledAll index there => exact .inl ((wakeAll_roused p.workers).1.mem gone nofun)
  | calledOne index chosen workers there woken => exact .inl ((wakeOne?_some woken).1.mem gone nofun)
  | started worker job queue scans taken => exact .inl (turned gone nofun)
  | exited worker scans nothing finished => exact .inr finished
  | slept worker scans nothing notOver => exact .inl (turned gone nofun)
  | ended worker job more queue woken runs completed called everybody =>
    exact .inl (called.mem (turned gone nofun) nofun)

/-- No worker is gone while there is anything to wait for. -/
theorem Reachable.finished {count : Nat} {p : Pool Work} (reached : Reachable count p)
    (gone : .exited ∈ p.workers) : p.queue.isFinished = true := by
  induction reached with
  | start => cases List.eq_of_mem_replicate gone
  | @next p next action _ possible ih =>
    rcases call_or_move possible with call | move
    · rw [call.workers_eq] at gone
      exact finished_of_call call (ih gone)
    · exact move.finished ((move.exited_cases gone).elim ih id)

/-- When all workers are gone nothing is queued, nothing runs and the table of groups is empty. -/
theorem Reachable.empty_of_exited {count : Nat} {p : Pool Work} (reached : Reachable count p)
    (some : 0 < count) (gone : ∀ worker ∈ p.workers, worker = .exited) :
    p.queue.backlog = [] ∧ p.running = [] ∧ p.queue.groups.isEmpty = true := by
  have there : .exited ∈ p.workers := by
    obtain ⟨worker, member⟩ := List.exists_mem_of_length_pos (reached.length_workers ▸ some)
    exact gone worker member ▸ member
  obtain ⟨-, urgent, normal⟩ := isFinished_iff.mp (reached.finished there)
  have idle (job : Job Work) : .running job ∉ p.workers := by
    intro runs
    cases gone _ runs
  refine ⟨?_, ?_, ?_⟩
  · rw [backlog, urgent, normal, List.append_nil]
  · apply List.filterMap_eq_nil_iff.mpr
    intro worker member
    rw [gone worker member]
    rfl
  · apply Std.TreeMap.isEmpty_iff_forall_not_mem.mpr
    intro group recorded
    have accounted := reached.accounted
    have absent : p.queue.groups[group]? = none := by
      by_cases grouped : group = 0
      · rw [grouped]
        exact accounted.ungrouped
      · have none : p.runningOf group = 0 := by
          apply countP_eq_zero_of_idle idle
          intro worker runs
          cases worker with
          | running job => rfl
          | _ => cases runs
        rw [accounted.usage group grouped, none, queued, urgent, normal]
        rfl
    rw [Std.TreeMap.mem_iff_isSome_getElem?, absent] at recorded
    cases recorded

theorem exited_of_map {Other : Type} {f : Work → Other} {p : Pool Work}
    (gone : ∀ worker ∈ (p.map f).workers, worker = .exited) :
    ∀ worker ∈ p.workers, worker = .exited := by
  intro worker member
  have same := gone _ (List.mem_map_of_mem member)
  cases worker with
  | exited => rfl
  | _ => cases same

/-- Whatever is added, started, ended and shut down in whatever order, by any number of workers:
once the queue has been shut down, and not before, it refuses what is added, and nothing changes; a
worker is gone only if that has happened and nothing is queued. With a ticket for each job, the jobs
that were taken in are those queued, those running and those that have ended, each of them once,
however they end; so when all workers are gone each of these jobs has been started and has ended
just once, and the table of groups is empty. -/
theorem drained_of_run {count : Nat} {actions : List (Action Work)} {last : Pool Work}
    (possible : (start count).run? actions = some last) :
    (∀ urgent job, last.queue.add urgent job = .error .shutdown ↔ .shutdown ∈ actions) ∧
    (.shutdown ∈ actions → ∀ urgent job, last.step? (.add urgent job) = some last) ∧
    (.exited ∈ last.workers →
      .shutdown ∈ actions ∧ last.queue.urgent = [] ∧ last.queue.normal = []) ∧
    ∃ p : Pool (Ticket Work),
      (start count).run? (ticketed 0 actions) = some p ∧ p.map Ticket.work = last ∧
      ((start count).addedIn (ticketed 0 actions)).Nodup ∧
      (p.queue.backlog ++ (p.running ++ (start count).endedIn (ticketed 0 actions))).Perm
        ((start count).addedIn (ticketed 0 actions)) ∧
      (0 < count → (∀ worker ∈ last.workers, worker = .exited) →
        ((start count).startedIn (ticketed 0 actions)).Perm
          ((start count).addedIn (ticketed 0 actions)) ∧
        ((start count).endedIn (ticketed 0 actions)).Perm
          ((start count).addedIn (ticketed 0 actions)) ∧
        last.queue.groups.isEmpty = true) := by
  have reached : Reachable count last := Reachable.start.run possible
  have shut : last.queue.closed = true ↔ .shutdown ∈ actions := by
    rw [closed_of_run? possible]
    exact or_iff_left Bool.false_ne_true
  refine ⟨?_, ?_, ?_, ?_⟩
  · intro urgent job
    rw [← shut]
    cases state : last.queue.closed with
    | true => exact iff_of_true (add_closed state urgent job) rfl
    | false =>
      rw [add_open state]
      exact iff_of_false nofun nofun
  · intro closed urgent job
    simp only [step?, add, add_closed (shut.mpr closed)]
  · intro gone
    obtain ⟨closed, empty⟩ := isFinished_iff.mp (reached.finished gone)
    exact ⟨shut.mp closed, empty⟩
  · obtain ⟨p, again, same⟩ := run?_ticketed possible
    obtain ⟨runs, queued⟩ := split_of_run again
    refine ⟨p, again, same, ?_, ?_, ?_⟩
    · apply (addedIn_increasing 0 (start count) actions).1.imp
      rintro a b less rfl
      exact Nat.lt_irrefl _ less
    · refine ((List.perm_append_comm.trans runs).append_left _).trans ?_
      exact List.perm_append_comm.trans queued
    · intro some gone
      obtain ⟨none, rests, table⟩ :=
        (Reachable.start.run again).empty_of_exited some (exited_of_map (same ▸ gone))
      rw [rests, List.append_nil] at runs
      rw [none, List.append_nil] at queued
      refine ⟨queued, runs.trans queued, ?_⟩
      rw [← same]
      exact table

/-- Two jobs of group five, of which the first to start panics, between two workers. The one that had
nothing to do is woken for the second job or leaves, and a job that comes too late is refused. -/
def evening : List (Action Unit) :=
  [.add false ⟨5, ()⟩, .add true ⟨5, ()⟩, .scan 0, .shutdown, .add false ⟨0, ()⟩, .scan 1,
    .finish 0 .panicked 1, .scan 1, .scan 0, .finish 1 .returned 0, .shutdown, .scan 1]

/-- The pool after that. -/
def deserted : Pool Unit := ((start 2).run? evening).getD (start 2)

theorem drained_of_run_deserted :
    (start 2).run? evening = some deserted ∧ (∀ worker ∈ deserted.workers, worker = .exited) ∧
      ((start 2).endedIn (ticketed 0 evening)).length = 2 ∧
      ((start 2).endedIn (ticketed 0 evening)).Nodup ∧
      deserted.queue.groups.isEmpty = true := by
  have possible : (start 2).run? evening = some deserted := by rfl
  have gone : ∀ worker ∈ deserted.workers, worker = .exited := by decide +kernel
  obtain ⟨-, -, -, p, -, -, distinct, -, done⟩ := drained_of_run possible
  obtain ⟨-, ended, table⟩ := done (by decide) gone
  exact ⟨possible, gone, by rfl, ended.nodup_iff.mpr distinct, table⟩

end Pool

end MessageTransport.WorkQueue
