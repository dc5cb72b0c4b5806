import Mathlib.Data.Finset.Card
import MessageTransport.Proofs.WorkQueue.Steps

set_option autoImplicit false

namespace MessageTransport.WorkQueue

variable {Work : Type}

/-- The groups that have work queued and none running. -/
def openGroups (q : WorkQueue Work) : Finset UInt64 :=
  ((q.urgent ++ q.normal).map Job.group).toFinset.filter
    (fun group => group ≠ 0 ∧ q.isBusy group = false)

/-- How many jobs could be started at once, if there were workers enough. -/
def startable (q : WorkQueue Work) : Nat := q.queued 0 + q.openGroups.card

theorem mem_openGroups {q : WorkQueue Work} {group : UInt64} :
    group ∈ q.openGroups ↔ 0 < q.queued group ∧ group ≠ 0 ∧ q.isBusy group = false := by
  rw [openGroups, Finset.mem_filter, List.mem_toFinset, List.mem_map, queued_pos_iff]

theorem startable_eq_zero_iff {q : WorkQueue Work} : q.startable = 0 ↔ q.takeNext = none := by
  rw [takeNext_eq_none_iff, startable, Nat.add_eq_zero_iff, Finset.card_eq_zero]
  constructor
  · intro ⟨ungrouped, grouped⟩ job member
    apply Bool.eq_false_iff.mpr
    intro eligible
    have some : 0 < q.queued job.group := queued_pos_iff.mpr ⟨job, member, rfl⟩
    by_cases group : job.group = 0
    · rw [group] at some
      omega
    · have free := (isEligible_iff.mp eligible).resolve_left group
      have counted : job.group ∈ q.openGroups := mem_openGroups.mpr ⟨some, group, free⟩
      rw [grouped] at counted
      exact absurd counted (Finset.notMem_empty _)
  · intro waiting
    have blocked (group : UInt64) (free : group = 0 ∨ q.isBusy group = false) :
        ¬0 < q.queued group := by
      intro some
      obtain ⟨job, member, rfl⟩ := queued_pos_iff.mp some
      have eligible := isEligible_iff.mpr free
      rw [waiting job member] at eligible
      cases eligible
    have ungrouped := blocked 0 (.inl rfl)
    refine ⟨by omega, ?_⟩
    apply Finset.eq_empty_of_forall_notMem
    intro group counted
    obtain ⟨some, -, free⟩ := mem_openGroups.mp counted
    exact blocked group (.inr free) some

theorem isBusy_of_add {q next : WorkQueue Work} {urgent eligible : Bool} {job : Job Work}
    (accepted : q.add urgent job = .ok (eligible, next)) (group : UInt64) :
    next.isBusy group = q.isBusy group := by
  obtain ⟨-, -, table, -⟩ := add_ok accepted
  rw [isBusy_eq, isBusy_eq, usageOf_eq, table, counted, getElem?_recorded]
  by_cases here : job.group = group ∧ group ≠ 0
  · obtain ⟨rfl, grouped⟩ := here
    rw [if_pos ⟨rfl, grouped⟩]
    rfl
  · rw [if_neg here, ← usageOf_eq]

/-- An added job can be started beside all others if it is eligible. -/
theorem startable_add {q next : WorkQueue Work} {urgent eligible : Bool} {job : Job Work}
    (accepted : q.add urgent job = .ok (eligible, next)) :
    next.startable ≤ q.startable + (if eligible then 1 else 0) := by
  obtain ⟨-, rfl, -, queued⟩ := add_ok accepted
  have same (group : UInt64) (other : job.group ≠ group) (counted : group ∈ next.openGroups) :
      group ∈ q.openGroups := by
    obtain ⟨some, grouped, free⟩ := mem_openGroups.mp counted
    rw [queued, tally_of_ne other] at some
    rw [isBusy_of_add accepted] at free
    exact mem_openGroups.mpr ⟨some, grouped, free⟩
  have ungrouped := queued 0
  unfold startable
  by_cases group : job.group = 0
  · have subset : next.openGroups ⊆ q.openGroups := by
      intro other counted
      obtain ⟨-, grouped, -⟩ := mem_openGroups.mp counted
      exact same other (fun here => grouped (here.symm.trans group)) counted
    have fewer := Finset.card_le_card subset
    rw [group, tally_self] at ungrouped
    rw [if_pos (isEligible_iff.mpr (.inl group))]
    omega
  · rw [tally_of_ne group] at ungrouped
    by_cases free : q.isBusy job.group = false
    · have subset : next.openGroups ⊆ insert job.group q.openGroups := by
        intro other counted
        by_cases here : job.group = other
        · exact Finset.mem_insert.mpr (.inl here.symm)
        · exact Finset.mem_insert_of_mem (same other here counted)
      have fewer := Finset.card_le_card subset
      have one := Finset.card_insert_le job.group q.openGroups
      rw [if_pos (isEligible_iff.mpr (.inr free))]
      omega
    · have subset : next.openGroups ⊆ q.openGroups := by
        intro other counted
        obtain ⟨-, -, idle⟩ := mem_openGroups.mp counted
        rw [isBusy_of_add accepted] at idle
        exact same other (fun here => free (here ▸ idle)) counted
      have fewer := Finset.card_le_card subset
      omega

/-- A started job leaves one job fewer to be started. -/
theorem startable_takeNext {q next : WorkQueue Work} {job : Job Work}
    (taken : q.takeNext = some (job, next)) : next.startable + 1 ≤ q.startable := by
  obtain ⟨eligible, -⟩ := takeNext_some taken
  obtain ⟨-, -, table, queued⟩ := takeNext_census taken
  have idle (group : UInt64) (grouped : group ≠ 0) (free : next.isBusy group = false) :
      job.group ≠ group ∧ q.isBusy group = false := by
    rw [isBusy_eq, usageOf_eq, table, getElem?_recorded] at free
    by_cases here : job.group = group
    · rw [if_pos ⟨here, grouped⟩] at free
      cases free
    · rw [if_neg (fun both => here both.1), ← usageOf_eq, ← isBusy_eq] at free
      exact ⟨here, free⟩
  have left : next.openGroups ⊆ q.openGroups.erase job.group := by
    intro group counted
    obtain ⟨some, grouped, free⟩ := mem_openGroups.mp counted
    obtain ⟨other, free⟩ := idle group grouped free
    have before := queued group
    have some : 0 < q.queued group := by omega
    exact Finset.mem_erase.mpr ⟨other.symm, mem_openGroups.mpr ⟨some, grouped, free⟩⟩
  have fewer := Finset.card_le_card left
  have ungrouped := queued 0
  unfold startable
  by_cases group : job.group = 0
  · have all := Finset.card_erase_le (a := job.group) (s := q.openGroups)
    rw [group, tally_self] at ungrouped
    omega
  · have here : job.group ∈ q.openGroups := by
      have own := queued job.group
      rw [tally_self] at own
      exact mem_openGroups.mpr ⟨by omega, group, (isEligible_iff.mp eligible).resolve_left group⟩
    have one := Finset.card_erase_add_one here
    rw [tally_of_ne group] at ungrouped
    omega

/-- Of a group that no longer runs one job can be started. -/
theorem startable_complete {q next : WorkQueue Work} {group : UInt64} {more : Bool}
    (completed : q.complete group = (more, next)) : next.startable ≤ q.startable + 1 := by
  obtain ⟨urgent, normal, -, table⟩ := complete_census completed
  have queued (other : UInt64) : next.queued other = q.queued other := by
    rw [WorkQueue.queued, urgent, normal]
    rfl
  have subset : next.openGroups ⊆ insert group q.openGroups := by
    intro other counted
    obtain ⟨some, grouped, free⟩ := mem_openGroups.mp counted
    by_cases here : group = other
    · exact Finset.mem_insert.mpr (.inl here.symm)
    · rw [queued] at some
      rw [isBusy_eq, usageOf_eq, table, if_neg (fun both => here both.1), ← usageOf_eq,
        ← isBusy_eq] at free
      exact Finset.mem_insert_of_mem (mem_openGroups.mpr ⟨some, grouped, free⟩)
  have fewer := Finset.card_le_card subset
  have one := Finset.card_insert_le group q.openGroups
  have ungrouped := queued 0
  unfold startable
  omega

namespace Pool

/-- A signal that has been given is no longer to be given. -/
theorem count_eraseIdx_add {signals : List Signal} {index : Nat} {given : Signal}
    (there : signals[index]? = some given) (kind : Signal) :
    (signals.eraseIdx index).count kind + (if given = kind then 1 else 0) = signals.count kind := by
  obtain ⟨inside, rfl⟩ := List.getElem?_eq_some_iff.mp there
  rw [← (List.getElem_cons_eraseIdx_perm inside).count_eq kind, List.count_cons]
  simp only [beq_iff_eq]

/-- While somebody waits, everything that could be started is looked for, and if nothing is left to
wait for this is still to be said or somebody runs who will say it. A caller gives no signal for a
job whose group runs, and a worker that ends a job wakes one other at most, so what is counted are
the groups and not their jobs. -/
structure Attended (p : Pool Work) : Prop where
  covered : 0 < p.workers.countP isWaiting →
    p.queue.startable ≤ p.workers.countP isScanning + p.signals.count .one
  dismissed : 0 < p.workers.countP isWaiting → p.queue.isFinished = true →
    0 < p.signals.count .all ∨ 0 < p.workers.countP isRunning

theorem start_attended (count : Nat) : Attended (start count : Pool Work) := by
  have nobody : (start count : Pool Work).workers.countP isWaiting = 0 := by
    simp only [start, List.countP_replicate, isWaiting, Bool.false_eq_true, ↓reduceIte]
  constructor
  · intro waits
    omega
  · intro waits
    omega

theorem isFinished_eq_false_of_open {q : WorkQueue Work} (opened : q.closed = false) :
    q.isFinished = false := by
  rw [isFinished, opened, Bool.false_and, Bool.false_and]

theorem Attended.call {p next : Pool Work} (attended : p.Attended) (call : Call p next) :
    next.Attended := by
  cases call with
  | refused => exact attended
  | added urgent job eligible queue accepted =>
    obtain ⟨opened, -⟩ := add_ok accepted
    have more := startable_add accepted
    constructor
    · intro waits
      have covered := attended.covered waits
      show queue.startable ≤ p.workers.countP isScanning +
        (if eligible then p.signals ++ [.one] else p.signals).count .one
      cases eligible with
      | true =>
        rw [if_pos rfl, List.count_append]
        have one : [Signal.one].count .one = 1 := by rfl
        rw [if_pos rfl] at more
        omega
      | false =>
        rw [if_neg Bool.false_ne_true] at more ⊢
        omega
    · intro _ finished
      rw [isFinished_eq_false_of_open opened] at finished
      cases finished
  | closed =>
    constructor
    · intro waits
      have covered := attended.covered waits
      show p.queue.startable ≤ p.workers.countP isScanning + (p.signals ++ [Signal.all]).count .one
      rw [List.count_append]
      omega
    · intro _ _
      left
      show 0 < (p.signals ++ [Signal.all]).count .all
      rw [List.count_append]
      exact Nat.lt_add_left _ Nat.one_pos

theorem Attended.calledOne {p : Pool Work} (attended : p.Attended) {index : Nat}
    {workers : List (Worker Work)} (there : p.signals[index]? = some .one)
    (roused : Roused p.workers workers)
    (answered : 0 < p.workers.countP isWaiting →
      workers.countP isScanning = p.workers.countP isScanning + 1) :
    Attended { p with workers, signals := p.signals.eraseIdx index } := by
  have fewer := roused.countP_ge (p := isWaiting) (fun scans => by cases scans)
  constructor
  · intro waits
    have waited := Nat.lt_of_lt_of_le waits fewer
    have covered := attended.covered waited
    have scans := answered waited
    have given := count_eraseIdx_add there .one
    rw [if_pos rfl] at given
    show p.queue.startable ≤ workers.countP isScanning + (p.signals.eraseIdx index).count .one
    omega
  · intro waits finished
    have given := count_eraseIdx_add there .all
    rw [if_neg (by decide), Nat.add_zero] at given
    show 0 < (p.signals.eraseIdx index).count .all ∨ 0 < workers.countP isRunning
    rw [roused.countP_eq rfl rfl, given]
    exact attended.dismissed (Nat.lt_of_lt_of_le waits fewer) finished

/-- A worker that scanned and found nothing leaves nothing to be looked for. -/
theorem Attended.settled {p : Pool Work} (attended : p.Attended) {worker : Nat}
    {settled : Worker Work} (scans : p.workers[worker]? = some .scanning)
    (nothing : p.queue.takeNext = none) (rests : isRunning settled = false)
    (waits : isWaiting settled = true → p.queue.isFinished = false) :
    Attended { p with workers := p.workers.set worker settled } := by
  have none := startable_eq_zero_iff.mpr nothing
  constructor
  · intro _
    show p.queue.startable ≤ _
    omega
  · intro some finished
    have running := countP_set_of_not scans settled (p := isRunning) rfl
    rw [rests, if_neg Bool.false_ne_true, Nat.add_zero] at running
    show 0 < p.signals.count .all ∨ 0 < (p.workers.set worker settled).countP isRunning
    rw [running]
    apply attended.dismissed ?_ finished
    cases asleep : isWaiting settled with
    | true =>
      rw [waits asleep] at finished
      cases finished
    | false =>
      have waiting := countP_set_of_not scans settled (p := isWaiting) rfl
      rw [asleep, if_neg Bool.false_ne_true] at waiting
      have some : 0 < (p.workers.set worker settled).countP isWaiting := some
      omega

theorem Attended.started {p : Pool Work} (attended : p.Attended) {worker : Nat} {job : Job Work}
    {queue : WorkQueue Work} (scans : p.workers[worker]? = some .scanning)
    (taken : p.queue.takeNext = some (job, queue)) :
    Attended { p with queue, workers := p.workers.set worker (.running job) } := by
  have waiting := countP_set_add scans (.running job) isWaiting
  have scanning := countP_set_add scans (.running job) isScanning
  have running := countP_set_add scans (.running job) isRunning
  simp only [isWaiting, isScanning, isRunning, Bool.false_eq_true, ↓reduceIte]
    at waiting scanning running
  have fewer := startable_takeNext taken
  constructor
  · intro some
    have some : 0 < (p.workers.set worker (.running job)).countP isWaiting := some
    have covered := attended.covered (by omega)
    show queue.startable ≤
      (p.workers.set worker (.running job)).countP isScanning + p.signals.count .one
    omega
  · intro _ _
    right
    show 0 < (p.workers.set worker (.running job)).countP isRunning
    omega

theorem Attended.ended {p : Pool Work} (attended : p.Attended) {worker : Nat} {job : Job Work}
    {more : Bool} {queue : WorkQueue Work} {woken : List (Worker Work)}
    (running : p.workers[worker]? = some (.running job))
    (completed : p.queue.complete job.group = (more, queue)) (roused : Roused p.workers woken)
    (everybody : queue.isFinished = true → woken.countP isWaiting = 0) :
    Attended { p with queue, workers := woken.set worker .scanning } := by
  have waiting := countP_set_add (roused.running running) .scanning isWaiting
  have scanning := countP_set_add (roused.running running) .scanning isScanning
  simp only [isWaiting, isScanning, Bool.false_eq_true, ↓reduceIte] at waiting scanning
  have fewer := roused.countP_ge (p := isWaiting) (fun scans => by cases scans)
  have further := roused.countP_le (p := isScanning) (fun waits => by cases waits)
  have opened := startable_complete completed
  constructor
  · intro some
    have some : 0 < (woken.set worker .scanning).countP isWaiting := some
    have covered := attended.covered (by omega)
    show queue.startable ≤ (woken.set worker .scanning).countP isScanning + p.signals.count .one
    omega
  · intro some finished
    have some : 0 < (woken.set worker .scanning).countP isWaiting := some
    have nobody := everybody finished
    omega

theorem Attended.move {p next : Pool Work} (attended : p.Attended) (move : Move p next) :
    next.Attended := by
  cases move with
  | calledAll index there =>
    have nobody := (wakeAll_roused p.workers).2
    constructor
    · intro waits
      exact absurd nobody (Nat.ne_of_gt waits)
    · intro waits
      exact absurd nobody (Nat.ne_of_gt waits)
  | calledOne index chosen workers there woken =>
    obtain ⟨roused, answered⟩ := wakeOne?_some woken
    exact attended.calledOne there roused answered
  | started worker job queue scans taken => exact attended.started scans taken
  | exited worker scans nothing finished =>
    exact attended.settled scans nothing rfl (fun waits => by cases waits)
  | slept worker scans nothing notOver =>
    exact attended.settled scans nothing rfl (fun _ => notOver)
  | ended worker job more queue woken running completed roused everybody =>
    exact attended.ended running completed roused everybody

theorem Reachable.attended {count : Nat} {p : Pool Work} (reached : Reachable count p) :
    p.Attended := by
  induction reached with
  | start => exact start_attended count
  | next action _ possible ih =>
    rcases call_or_move possible with call | move
    · exact ih.call call
    · exact ih.move move

/-- Where somebody waits, nobody scans and nothing is left to be signalled, there is nothing to
start, and somebody runs or something may still be added. -/
theorem Attended.quiet {p : Pool Work} (attended : p.Attended) (waits : .waiting ∈ p.workers)
    (asleep : .scanning ∉ p.workers) (told : p.signals = []) :
    p.queue.takeNext = none ∧
      ¬(p.queue.closed = true ∧ p.queue.urgent = [] ∧ p.queue.normal = [] ∧
        ∀ job, .running job ∉ p.workers) := by
  have waiting : 0 < p.workers.countP isWaiting := List.countP_pos_iff.mpr ⟨_, waits, rfl⟩
  have scanning : p.workers.countP isScanning = 0 := by
    apply List.countP_eq_zero.mpr
    intro worker member scans
    cases worker with
    | scanning => exact asleep member
    | _ => cases scans
  have signals (kind : Signal) : p.signals.count kind = 0 := by
    rw [told]
    rfl
  constructor
  · have covered := attended.covered waiting
    rw [scanning, signals] at covered
    exact startable_eq_zero_iff.mp (Nat.eq_zero_of_le_zero covered)
  · intro ⟨closed, urgent, normal, idle⟩
    have finished : p.queue.isFinished = true := by
      rw [isFinished, closed, urgent, normal]
      rfl
    have running : p.workers.countP isRunning = 0 :=
      countP_eq_zero_of_idle idle (fun _ runs => runs)
    have unsaid := attended.dismissed waiting finished
    rw [signals, running] at unsaid
    omega

end Pool

end MessageTransport.WorkQueue
