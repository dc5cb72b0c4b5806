import MessageTransport.Proofs.WorkQueue.Steps

set_option autoImplicit false

namespace MessageTransport.WorkQueue.Pool

variable {Work : Type}

/-- Workers that run a job of a group. -/
def runningOf (p : Pool Work) (group : UInt64) : Nat := p.workers.countP (runs group)

/-- What the table has to hold of a group with some jobs queued and some running. -/
def due (queued running : Nat) : Option GroupUsage :=
  if queued + running = 0 then none else some ⟨decide (0 < running), queued + running⟩

theorem due_getD (queued running : Nat) :
    (due queued running).getD {} = ⟨decide (0 < running), queued + running⟩ := by
  unfold due
  split
  · rename_i nothing
    obtain ⟨rfl, rfl⟩ := Nat.add_eq_zero_iff.mp nothing
    rfl
  · rfl

theorem due_of_pos {queued running : Nat} (some : 0 < queued + running) :
    due queued running = Option.some ⟨decide (0 < running), queued + running⟩ := by
  rw [due, if_neg (by omega)]

/-- No group runs more than one job, and the table holds of each group what it has to and nothing
of jobs without a group. -/
structure Accounted (p : Pool Work) : Prop where
  ungrouped : p.queue.groups[(0 : UInt64)]? = none
  exclusive : ∀ group, group ≠ 0 → p.runningOf group ≤ 1
  usage : ∀ group, group ≠ 0 →
    p.queue.groups[group]? = due (p.queue.queued group) (p.runningOf group)

theorem Accounted.usageOf {p : Pool Work} (accounted : p.Accounted) {group : UInt64}
    (grouped : group ≠ 0) : p.queue.usageOf group =
      ⟨decide (0 < p.runningOf group), p.queue.queued group + p.runningOf group⟩ := by
  rw [usageOf_eq, accounted.usage group grouped, due_getD]

/-- A group that has an eligible job runs none. -/
theorem Accounted.runningOf_eq_zero {p : Pool Work} (accounted : p.Accounted) {job : Job Work}
    (grouped : job.group ≠ 0) (eligible : p.queue.isEligible job = true) :
    p.runningOf job.group = 0 := by
  have free : p.queue.isBusy job.group = false :=
    (isEligible_iff.mp eligible).resolve_left grouped
  rw [isBusy_eq, accounted.usageOf grouped] at free
  have free : ¬0 < p.runningOf job.group := of_decide_eq_false free
  omega

theorem runs_running (group : UInt64) (job : Job Work) :
    (if runs group (.running job) then 1 else 0) = tally job.group group := by
  simp only [runs, isOf, tally, beq_iff_eq]

theorem start_accounted (count : Nat) : Accounted (start count : Pool Work) := by
  have idle (group : UInt64) : (start count : Pool Work).runningOf group = 0 := by
    simp only [runningOf, start, List.countP_replicate, runs, Bool.false_eq_true, ↓reduceIte]
  have table (group : UInt64) : (start count : Pool Work).queue.groups[group]? = none :=
    Std.TreeMap.getElem?_emptyc
  refine ⟨table 0, ?_, ?_⟩
  · intro group _
    rw [idle]
    exact Nat.zero_le 1
  · intro group _
    rw [table, idle]
    rfl

theorem Accounted.added {p : Pool Work} (accounted : p.Accounted) {urgent eligible : Bool}
    {job : Job Work} {queue : WorkQueue Work} {signals : List Signal}
    (accepted : p.queue.add urgent job = .ok (eligible, queue)) :
    Accounted { p with queue, signals } := by
  obtain ⟨-, -, table, queued⟩ := add_ok accepted
  refine ⟨?_, accounted.exclusive, ?_⟩
  · show queue.groups[(0 : UInt64)]? = none
    rw [table, counted, getElem?_recorded, if_neg (fun here => here.2 rfl)]
    exact accounted.ungrouped
  · intro group grouped
    show queue.groups[group]? = due (queue.queued group) (p.runningOf group)
    rw [table, counted, getElem?_recorded, queued group]
    by_cases same : job.group = group
    · subst same
      rw [if_pos ⟨rfl, grouped⟩, accounted.usageOf grouped, tally_self, due_of_pos (by omega)]
      simp only [Option.some.injEq, GroupUsage.mk.injEq, true_and]
      omega
    · rw [if_neg (fun here => same here.1), tally_of_ne same, Nat.add_zero]
      exact accounted.usage group grouped

theorem Accounted.started {p : Pool Work} (accounted : p.Accounted) {worker : Nat}
    {job : Job Work} {queue : WorkQueue Work} (scans : p.workers[worker]? = some .scanning)
    (taken : p.queue.takeNext = some (job, queue)) :
    Accounted { p with queue, workers := p.workers.set worker (.running job) } := by
  obtain ⟨eligible, -⟩ := takeNext_some taken
  obtain ⟨-, -, table, queued⟩ := takeNext_census taken
  have running (group : UInt64) : (p.workers.set worker (.running job)).countP (runs group) =
      p.runningOf group + tally job.group group := by
    rw [countP_set_of_not scans _ rfl, runs_running]
    rfl
  refine ⟨?_, ?_, ?_⟩
  · show queue.groups[(0 : UInt64)]? = none
    rw [table, getElem?_recorded, if_neg (fun here => here.2 rfl)]
    exact accounted.ungrouped
  · intro group grouped
    show (p.workers.set worker (.running job)).countP (runs group) ≤ 1
    rw [running]
    by_cases same : job.group = group
    · subst same
      have idle := accounted.runningOf_eq_zero grouped eligible
      have one := tally_self job.group
      omega
    · rw [tally_of_ne same]
      exact accounted.exclusive group grouped
  · intro group grouped
    show queue.groups[group]? =
      due (queue.queued group) ((p.workers.set worker (.running job)).countP (runs group))
    rw [table, getElem?_recorded, running]
    have left := queued group
    by_cases same : job.group = group
    · subst same
      have idle := accounted.runningOf_eq_zero grouped eligible
      rw [tally_self] at left
      rw [if_pos ⟨rfl, grouped⟩, accounted.usageOf grouped, idle, tally_self,
        due_of_pos (by omega), left]
      rfl
    · rw [tally_of_ne same] at left ⊢
      rw [if_neg (fun here => same here.1), Nat.add_zero, ← Nat.add_zero (queue.queued group), ← left]
      exact accounted.usage group grouped

theorem Accounted.ended {p : Pool Work} (accounted : p.Accounted) {worker : Nat} {job : Job Work}
    {more : Bool} {queue : WorkQueue Work} {woken : List (Worker Work)}
    (running : p.workers[worker]? = some (.running job))
    (completed : p.queue.complete job.group = (more, queue)) (roused : Roused p.workers woken) :
    Accounted { p with queue, workers := woken.set worker .scanning } := by
  obtain ⟨urgent, normal, -, table⟩ := complete_census completed
  have queued (group : UInt64) : queue.queued group = p.queue.queued group := by
    rw [WorkQueue.queued, urgent, normal]
    rfl
  have left (group : UInt64) :
      (woken.set worker .scanning).countP (runs group) + tally job.group group =
        p.runningOf group := by
    have counted := countP_set_add (roused.running running) .scanning (runs group)
    rw [runs_running, roused.countP_eq rfl rfl] at counted
    exact counted
  refine ⟨?_, ?_, ?_⟩
  · show queue.groups[(0 : UInt64)]? = none
    rw [table, if_neg (fun here => here.2 rfl)]
    exact accounted.ungrouped
  · intro group grouped
    have := accounted.exclusive group grouped
    have := left group
    show (woken.set worker .scanning).countP (runs group) ≤ 1
    omega
  · intro group grouped
    show queue.groups[group]? =
      due (queue.queued group) ((woken.set worker .scanning).countP (runs group))
    have alone := accounted.exclusive group grouped
    have fewer := left group
    rw [table, queued]
    by_cases same : job.group = group
    · subst same
      rw [tally_self] at fewer
      have last : (woken.set worker .scanning).countP (runs job.group) = 0 := by omega
      have one : p.runningOf job.group = 1 := by omega
      have outstanding : (p.queue.usageOf job.group).outstanding =
          p.queue.queued job.group + 1 := by
        rw [accounted.usageOf grouped, one]
      rw [if_pos ⟨rfl, grouped⟩, outstanding, last, due]
      by_cases nothing : p.queue.queued job.group = 0
      · rw [if_pos (by omega), if_pos (by omega)]
      · rw [if_neg (by omega), if_neg (by omega), Nat.add_sub_cancel]
        rfl
    · rw [tally_of_ne same, Nat.add_zero] at fewer
      rw [if_neg (fun here => same here.1), fewer]
      exact accounted.usage group grouped

/-- Changes of what waits and of what is to be signalled are not changes of what runs. -/
theorem Accounted.roused {p : Pool Work} (accounted : p.Accounted) {workers : List (Worker Work)}
    {signals : List Signal} (same : ∀ group, workers.countP (runs group) = p.runningOf group) :
    Accounted { p with workers, signals } := by
  refine ⟨accounted.ungrouped, ?_, ?_⟩
  · intro group grouped
    show workers.countP (runs group) ≤ 1
    rw [same]
    exact accounted.exclusive group grouped
  · intro group grouped
    show p.queue.groups[group]? = due (p.queue.queued group) (workers.countP (runs group))
    rw [same]
    exact accounted.usage group grouped

theorem Accounted.call {p next : Pool Work} (accounted : p.Accounted) (call : Call p next) :
    next.Accounted := by
  cases call with
  | refused => exact accounted
  | added urgent job eligible queue accepted => exact accounted.added accepted
  | closed => exact ⟨accounted.ungrouped, accounted.exclusive, accounted.usage⟩

theorem Accounted.move {p next : Pool Work} (accounted : p.Accounted) (move : Move p next) :
    next.Accounted := by
  cases move with
  | calledAll index there =>
    exact accounted.roused (fun group => (wakeAll_roused p.workers).1.countP_eq rfl rfl)
  | calledOne index chosen workers there woken =>
    exact accounted.roused (fun group => (wakeOne?_some woken).1.countP_eq rfl rfl)
  | started worker job queue scans taken => exact accounted.started scans taken
  | exited worker scans nothing finished =>
    exact accounted.roused (fun group => countP_set_of_not scans .exited rfl)
  | slept worker scans nothing notOver =>
    exact accounted.roused (fun group => countP_set_of_not scans .waiting rfl)
  | ended worker job more queue woken running completed roused everybody =>
    exact accounted.ended running completed roused

theorem Reachable.accounted {count : Nat} {p : Pool Work} (reached : Reachable count p) :
    p.Accounted := by
  induction reached with
  | start => exact start_accounted count
  | next action _ possible ih =>
    rcases call_or_move possible with call | move
    · exact ih.call call
    · exact ih.move move

/-- If nobody runs, every job queued can be started. -/
theorem Accounted.eq_nil_of_takeNext {p : Pool Work} (accounted : p.Accounted)
    (idle : ∀ job, .running job ∉ p.workers) (nothing : p.queue.takeNext = none) :
    p.queue.urgent ++ p.queue.normal = [] := by
  apply List.eq_nil_iff_forall_not_mem.mpr
  intro job member
  have blocked := takeNext_eq_none_iff.mp nothing job member
  have free : p.queue.isEligible job = true := by
    apply isEligible_iff.mpr
    by_cases grouped : job.group = 0
    · exact .inl grouped
    · right
      have none : p.runningOf job.group = 0 := by
        apply countP_eq_zero_of_idle idle
        intro worker runs
        cases worker with
        | running other => rfl
        | _ => cases runs
      rw [isBusy_eq, accounted.usageOf grouped, none]
      rfl
  rw [free] at blocked
  cases blocked

/-- Whatever is added, started, ended and shut down in whatever order, by any number of workers: a
group other than zero runs at most one job, it is in the table just when it has a job queued or
running, with the number of these and marked as running just when one runs, and what runs is still
counted when it ends. Work without a group is never in the table. -/
theorem groups_of_reachable {count : Nat} {p : Pool Work} (reached : Reachable count p) :
    p.queue.groups[(0 : UInt64)]? = none ∧
      ∀ group : UInt64, group ≠ 0 →
        p.runningOf group ≤ 1 ∧
        ((p.queue.groups[group]?).isSome = true ↔
          0 < p.queue.queued group + p.runningOf group) ∧
        (∀ usage, p.queue.groups[group]? = some usage →
          usage.outstanding = p.queue.queued group + p.runningOf group ∧
          (usage.running = true ↔ 0 < p.runningOf group)) ∧
        (0 < p.runningOf group → ∃ usage, p.queue.groups[group]? = some usage ∧
          1 ≤ usage.outstanding) := by
  have accounted := reached.accounted
  refine ⟨accounted.ungrouped, ?_⟩
  intro group grouped
  refine ⟨accounted.exclusive group grouped, ?_⟩
  rw [accounted.usage group grouped]
  by_cases nothing : p.queue.queued group + p.runningOf group = 0
  · rw [due, if_pos nothing]
    refine ⟨?_, ?_, ?_⟩
    · simp only [Option.isSome_none, Bool.false_eq_true, false_iff]
      omega
    · intro usage absent
      cases absent
    · intro running
      omega
  · rw [due, if_neg nothing]
    refine ⟨?_, ?_, ?_⟩
    · simp only [Option.isSome_some, true_iff]
      omega
    · intro usage present
      cases present
      exact ⟨rfl, decide_eq_true_iff⟩
    · intro running
      exact ⟨_, rfl, by show 1 ≤ p.queue.queued group + p.runningOf group; omega⟩

/-- Two jobs of group five, of which one has been started. -/
def sharing : Pool Unit :=
  ((start 2).run? [.add false ⟨5, ()⟩, .add false ⟨5, ()⟩, .scan 0]).getD (start 2)

theorem sharing_reachable : Reachable 2 sharing := by
  apply Reachable.start.run
  show (start 2).run? [.add false ⟨5, ()⟩, .add false ⟨5, ()⟩, .scan 0] = some sharing
  rfl

theorem groups_of_reachable_sharing :
    sharing.runningOf 5 = 1 ∧ sharing.queue.queued 5 = 1 ∧
      (sharing.queue.groups[(5 : UInt64)]?).isSome = true := by
  have running : sharing.runningOf 5 = 1 := by rfl
  have queued : sharing.queue.queued 5 = 1 := by rfl
  obtain ⟨-, groups⟩ := groups_of_reachable sharing_reachable
  obtain ⟨-, present, -⟩ := groups 5 (by decide)
  refine ⟨running, queued, ?_⟩
  apply present.mpr
  rw [running, queued]
  decide

end MessageTransport.WorkQueue.Pool
