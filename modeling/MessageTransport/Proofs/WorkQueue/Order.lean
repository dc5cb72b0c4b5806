import MessageTransport.Proofs.WorkQueue.Groups
import MessageTransport.Proofs.WorkQueue.Tickets

set_option autoImplicit false

namespace MessageTransport.WorkQueue

variable {Work : Type}

/-- All that is queued, urgent work first. -/
def backlog (q : WorkQueue Work) : List (Job Work) := q.urgent ++ q.normal

namespace Pool

/-- Whether a group other than zero has a job that runs. -/
def Busy (p : Pool Work) (group : UInt64) : Prop :=
  group ≠ 0 ∧ ∃ job, .running job ∈ p.workers ∧ job.group = group

/-- One job is taken out of a list, and all those ahead of it are of busy groups. -/
def Passes (p : Pool Work) (job : Job Work) (jobs rest : List (Job Work)) : Prop :=
  ∃ before after, jobs = before ++ job :: after ∧ rest = before ++ after ∧
    ∀ other ∈ before, p.Busy other.group

theorem runningOf_pos_iff {p : Pool Work} {group : UInt64} :
    0 < p.runningOf group ↔ ∃ job, .running job ∈ p.workers ∧ job.group = group := by
  rw [runningOf, List.countP_pos_iff]
  constructor
  · rintro ⟨worker, member, runs⟩
    cases worker with
    | running job => exact ⟨job, member, eq_of_beq runs⟩
    | _ => cases runs
  · rintro ⟨job, member, same⟩
    exact ⟨.running job, member, beq_iff_eq.mpr same⟩

/-- A job has to wait just when its group is busy. -/
theorem Accounted.isEligible_eq_false_iff {p : Pool Work} (accounted : p.Accounted)
    {job : Job Work} : p.queue.isEligible job = false ↔ p.Busy job.group := by
  rw [← Bool.not_eq_true, isEligible_iff, not_or, Busy, ← runningOf_pos_iff, isBusy_eq]
  apply and_congr_right
  intro grouped
  rw [accounted.usageOf grouped, decide_eq_false_iff_not, not_not]

/-- Whoever stands ahead of the job started is of a busy group, and so is all urgent work if the job
is not urgent itself. -/
theorem Accounted.passes {p : Pool Work} (accounted : p.Accounted) {job : Job Work}
    {queue : WorkQueue Work} (taken : p.queue.takeNext = some (job, queue)) :
    p.Passes job p.queue.urgent queue.urgent ∧ queue.normal = p.queue.normal ∨
      p.Passes job p.queue.normal queue.normal ∧ queue.urgent = p.queue.urgent ∧
        ∀ other ∈ p.queue.urgent, p.Busy other.group := by
  have busy (jobs : List (Job Work)) (waiting : ∀ other ∈ jobs, p.queue.isEligible other = false) :
      ∀ other ∈ jobs, p.Busy other.group :=
    fun other member => accounted.isEligible_eq_false_iff.mp (waiting other member)
  obtain ⟨-, before, after, ahead, ⟨jobs, rfl⟩ | ⟨urgent, jobs, rfl⟩⟩ := takeNext_some taken
  · left
    rw [started_eq]
    exact ⟨⟨before, after, jobs, rfl, busy before ahead⟩, rfl⟩
  · right
    rw [started_eq]
    exact ⟨⟨before, after, jobs, rfl, busy before ahead⟩, rfl, busy _ urgent⟩

theorem Accounted.takeNext_eq_none_iff {p : Pool Work} (accounted : p.Accounted) :
    p.queue.takeNext = none ↔ ∀ job ∈ p.queue.backlog, p.Busy job.group := by
  rw [WorkQueue.takeNext_eq_none_iff, backlog]
  constructor
  · intro waiting job member
    exact accounted.isEligible_eq_false_iff.mp (waiting job member)
  · intro busy job member
    exact accounted.isEligible_eq_false_iff.mpr (busy job member)

/-- The job that a step adds, if the queue takes it in. -/
def added? (p : Pool Work) : Action Work → Option (Job Work)
  | .add urgent job =>
    match p.queue.add urgent job with
    | .ok _ => some job
    | .error _ => none
  | _ => none

/-- The job that a step to a pool starts. -/
def started? (next : Pool Work) : Action Work → Option (Job Work)
  | .scan worker => next.jobAt? worker
  | _ => none

/-- The jobs that a run adds, in order. -/
def addedIn (p : Pool Work) : List (Action Work) → List (Job Work)
  | [] => []
  | action :: rest =>
    match p.step? action with
    | none => []
    | some next => (p.added? action).toList ++ next.addedIn rest

/-- The jobs that a run starts, in order. -/
def startedIn (p : Pool Work) : List (Action Work) → List (Job Work)
  | [] => []
  | action :: rest =>
    match p.step? action with
    | none => []
    | some next => (next.started? action).toList ++ next.startedIn rest

/-- What a step makes of the work that is queued. -/
inductive Change (p : Pool Work) (action : Action Work) (next : Pool Work) : Prop where
  | added (urgent : Bool) (job : Job Work) (what : action = .add urgent job)
      (accepted : p.added? action = some job) (none : next.started? action = none)
      (urgents : next.queue.urgent = if urgent then p.queue.urgent ++ [job] else p.queue.urgent)
      (normals : next.queue.normal = if urgent then p.queue.normal else p.queue.normal ++ [job])
  | started (job : Job Work) (nothing : p.added? action = none)
      (begun : next.started? action = some job)
      (taken : p.queue.takeNext = some (job, next.queue))
  | kept (nothing : p.added? action = none) (none : next.started? action = none)
      (urgents : next.queue.urgent = p.queue.urgent) (normals : next.queue.normal = p.queue.normal)

theorem change_of_add {p next : Pool Work} {urgent : Bool} {job : Job Work}
    (possible : p.step? (.add urgent job) = some next) : Change p (.add urgent job) next := by
  cases state : p.queue.closed with
  | true =>
    simp only [step?, add, add_closed state] at possible
    cases possible
    refine .kept ?_ rfl rfl rfl
    simp only [added?, add_closed state]
  | false =>
    simp only [step?, add, add_open state] at possible
    cases possible
    refine .added urgent job rfl ?_ rfl rfl rfl
    simp only [added?, add_open state]

theorem change_of_scan {p next : Pool Work} {worker : Nat}
    (possible : p.step? (.scan worker) = some next) : Change p (.scan worker) next := by
  have sets {settled : Worker Work} (there : p.workers[worker]? = some .scanning) :
      (p.workers.set worker settled)[worker]? = some settled := by
    obtain ⟨inside, -⟩ := List.getElem?_eq_some_iff.mp there
    rw [List.getElem?_set_self inside]
  have possible : p.scan? worker = some next := possible
  unfold scan? at possible
  split at possible
  · rename_i there
    split at possible
    · rename_i job queue taken
      cases possible
      refine .started job rfl ?_ taken
      simp only [started?, jobAt?, sets there]
    · split at possible <;> cases possible
      all_goals
        refine .kept rfl ?_ rfl rfl
        simp only [started?, jobAt?, sets there]
  · cases possible

theorem change_of_step? {p next : Pool Work} {action : Action Work}
    (possible : p.step? action = some next) : Change p action next := by
  cases action with
  | add urgent job => exact change_of_add possible
  | scan worker => exact change_of_scan possible
  | shutdown =>
    cases possible
    exact .kept rfl rfl rfl rfl
  | signal index chosen =>
    have possible : p.signal? index chosen = some next := possible
    unfold signal? at possible
    split at possible
    · cases possible
    · cases possible
      exact .kept rfl rfl rfl rfl
    · obtain ⟨workers, -, rfl⟩ := Option.map_eq_some_iff.mp possible
      exact .kept rfl rfl rfl rfl
  | finish worker ending chosen =>
    obtain ⟨job, more, queue, woken, -, completed, -, -, rfl⟩ := finish?_some possible
    obtain ⟨urgent, normal, -, -⟩ := complete_census completed
    exact .kept rfl rfl urgent normal

/-- Jobs in the order of their tickets, all numbered below a bound and all urgent or none. -/
structure InOrder (bound : Nat) (urgent : Bool) (jobs : List (Job (Ticket Work))) : Prop where
  increasing : jobs.Pairwise (fun a b => a.work.number < b.work.number)
  below : ∀ job ∈ jobs, job.work.number < bound
  alike : ∀ job ∈ jobs, job.work.urgent = urgent

theorem InOrder.sublist {bound : Nat} {urgent : Bool} {jobs rest : List (Job (Ticket Work))}
    (ordered : InOrder bound urgent jobs) (fewer : rest.Sublist jobs) :
    InOrder (bound + 1) urgent rest := by
  refine ⟨ordered.increasing.sublist fewer, ?_, ?_⟩
  · intro job member
    exact Nat.lt_succ_of_lt (ordered.below job (fewer.subset member))
  · intro job member
    exact ordered.alike job (fewer.subset member)

theorem InOrder.push {bound : Nat} {urgent : Bool} {jobs : List (Job (Ticket Work))}
    (ordered : InOrder bound urgent jobs) {job : Job (Ticket Work)}
    (number : job.work.number = bound) (kind : job.work.urgent = urgent) :
    InOrder (bound + 1) urgent (jobs ++ [job]) := by
  refine ⟨?_, ?_, ?_⟩
  · apply List.pairwise_append.mpr
    refine ⟨ordered.increasing, List.pairwise_singleton _ _, ?_⟩
    intro earlier member other same
    obtain rfl := List.mem_singleton.mp same
    rw [number]
    exact ordered.below earlier member
  · intro other member
    rcases List.mem_append.mp member with earlier | same
    · exact Nat.lt_succ_of_lt (ordered.below other earlier)
    · obtain rfl := List.mem_singleton.mp same
      omega
  · intro other member
    rcases List.mem_append.mp member with earlier | same
    · exact ordered.alike other earlier
    · obtain rfl := List.mem_singleton.mp same
      exact kind

/-- Both lists of a queue are in the order of their tickets. -/
structure Ordered (bound : Nat) (p : Pool (Ticket Work)) : Prop where
  urgent : InOrder bound true p.queue.urgent
  normal : InOrder bound false p.queue.normal

theorem Ordered.sublist {bound : Nat} {p next : Pool (Ticket Work)} (ordered : p.Ordered bound)
    (urgents : next.queue.urgent.Sublist p.queue.urgent)
    (normals : next.queue.normal.Sublist p.queue.normal) : next.Ordered (bound + 1) :=
  ⟨ordered.urgent.sublist urgents, ordered.normal.sublist normals⟩

theorem start_ordered (count : Nat) : Ordered 0 (start count : Pool (Ticket Work)) := by
  have nothing (urgent : Bool) : InOrder 0 urgent ([] : List (Job (Ticket Work))) :=
    ⟨.nil, fun _ member => absurd member List.not_mem_nil,
      fun _ member => absurd member List.not_mem_nil⟩
  exact ⟨nothing true, nothing false⟩

/-- A step that adds a job gives it the ticket it has been given. -/
theorem ticket_of_add {number : Nat} {action : Action Work} {urgent : Bool}
    {job : Job (Ticket Work)} (what : action.ticketed number = .add urgent job) :
    job.work.number = number ∧ job.work.urgent = urgent := by
  cases action with
  | add =>
    cases what
    exact ⟨rfl, rfl⟩
  | _ => cases what

theorem Ordered.step {bound : Nat} {p next : Pool (Ticket Work)} {action : Action Work}
    (ordered : p.Ordered bound) (possible : p.step? (action.ticketed bound) = some next) :
    next.Ordered (bound + 1) := by
  cases change_of_step? possible with
  | added urgent job what accepted none urgents normals =>
    obtain ⟨number, kind⟩ := ticket_of_add what
    cases urgent with
    | true =>
      rw [if_pos rfl] at urgents normals
      refine ⟨?_, ?_⟩
      · rw [urgents]
        exact ordered.urgent.push number kind
      · rw [normals]
        exact ordered.normal.sublist (List.Sublist.refl _)
    | false =>
      rw [if_neg Bool.false_ne_true] at urgents normals
      refine ⟨?_, ?_⟩
      · rw [urgents]
        exact ordered.urgent.sublist (List.Sublist.refl _)
      · rw [normals]
        exact ordered.normal.push number kind
  | started job nothing begun taken =>
    have fewer (before after : List (Job (Ticket Work))) :
        (before ++ after).Sublist (before ++ job :: after) :=
      (List.sublist_cons_self job after).append_left before
    obtain ⟨-, before, after, -, ⟨jobs, rest⟩ | ⟨-, jobs, rest⟩⟩ := takeNext_some taken
    · apply ordered.sublist
      · rw [rest, jobs, started_eq]
        exact fewer before after
      · rw [rest, started_eq]
    · apply ordered.sublist
      · rw [rest, started_eq]
      · rw [rest, jobs, started_eq]
        exact fewer before after
  | kept nothing none urgents normals =>
    apply ordered.sublist
    · rw [urgents]
    · rw [normals]

/-- Whether a job is of a group and was added with an urgency. -/
def isKind (group : UInt64) (urgent : Bool) (job : Job (Ticket Work)) : Bool :=
  isOf group job && job.work.urgent == urgent

/-- Jobs that have to wait are not of the group of one that can be started. -/
theorem filter_isKind_of_waiting {q : WorkQueue (Ticket Work)} {jobs : List (Job (Ticket Work))}
    {job : Job (Ticket Work)} (waiting : ∀ other ∈ jobs, q.isEligible other = false)
    (eligible : q.isEligible job = true) {group : UInt64} {urgent : Bool}
    (kind : isKind group urgent job = true) : jobs.filter (isKind group urgent) = [] := by
  have here : job.group = group := eq_of_beq (Bool.and_eq_true_iff.mp kind).1
  apply List.filter_eq_nil_iff.mpr
  intro other member same
  have there : other.group = group := eq_of_beq (Bool.and_eq_true_iff.mp same).1
  have blocked := waiting other member
  rw [isEligible, there, ← here, ← isEligible, eligible] at blocked
  cases blocked

/-- Of jobs of one kind, the one started is the first in the backlog. -/
theorem filter_isKind_of_taken {q next : WorkQueue (Ticket Work)} {job : Job (Ticket Work)}
    (taken : q.takeNext = some (job, next)) (group : UInt64) (urgent : Bool) :
    (job :: next.backlog).filter (isKind group urgent) =
      q.backlog.filter (isKind group urgent) := by
  have moved (ahead behind : List (Job (Ticket Work)))
      (waiting : ∀ other ∈ ahead, q.isEligible other = false)
      (eligible : q.isEligible job = true) :
      (job :: (ahead ++ behind)).filter (isKind group urgent) =
        (ahead ++ job :: behind).filter (isKind group urgent) := by
    by_cases kind : isKind group urgent job = true
    · simp only [List.filter_append, List.filter_cons, kind, ↓reduceIte,
        filter_isKind_of_waiting waiting eligible kind, List.nil_append]
    · simp only [List.filter_append, List.filter_cons, kind, Bool.false_eq_true, ↓reduceIte]
  obtain ⟨eligible, before, after, ahead, ⟨jobs, rfl⟩ | ⟨passed, jobs, rfl⟩⟩ := takeNext_some taken
  · rw [started_eq, backlog, backlog, jobs, List.append_assoc, List.append_assoc,
      List.cons_append]
    exact moved before (after ++ q.normal) ahead eligible
  · have waiting : ∀ other ∈ q.urgent ++ before, q.isEligible other = false := by
      intro other member
      rcases List.mem_append.mp member with first | later
      · exact passed other first
      · exact ahead other later
    rw [started_eq, backlog, backlog, jobs, ← List.append_assoc, ← List.append_assoc]
    exact moved (q.urgent ++ before) after waiting eligible

/-- A step starts the first job of its kind, and adds one behind all of its kind. -/
theorem Ordered.conserved {bound : Nat} {p next : Pool (Ticket Work)} {action : Action Work}
    (ordered : p.Ordered bound) (possible : p.step? (action.ticketed bound) = some next)
    (group : UInt64) (urgent : Bool) :
    ((next.started? (action.ticketed bound)).toList ++ next.queue.backlog).filter
        (isKind group urgent) =
      (p.queue.backlog ++ (p.added? (action.ticketed bound)).toList).filter
        (isKind group urgent) := by
  cases change_of_step? possible with
  | added asUrgent job what accepted none urgents normals =>
    obtain ⟨-, kind⟩ := ticket_of_add what
    rw [accepted, none, backlog, backlog, urgents, normals]
    cases asUrgent with
    | true =>
      -- An urgent job goes ahead of the normal ones, of which none is of its kind.
      have apart (same : isKind group urgent job = true) :
          p.queue.normal.filter (isKind group urgent) = [] := by
        have here : job.work.urgent = urgent := eq_of_beq (Bool.and_eq_true_iff.mp same).2
        apply List.filter_eq_nil_iff.mpr
        intro other member also
        have there : other.work.urgent = urgent := eq_of_beq (Bool.and_eq_true_iff.mp also).2
        rw [ordered.normal.alike other member, ← here, kind] at there
        cases there
      by_cases same : isKind group urgent job = true
      · simp only [Option.toList_none, Option.toList_some, ↓reduceIte, List.nil_append,
          List.filter_append, apart same, List.append_nil]
      · simp only [Option.toList_none, Option.toList_some, ↓reduceIte, List.nil_append,
          List.filter_append, List.filter_cons, same, Bool.false_eq_true, List.filter_nil,
          List.append_nil]
    | false =>
      simp only [Option.toList_none, Option.toList_some, Bool.false_eq_true, ↓reduceIte,
        List.nil_append, List.append_assoc]
  | started job nothing begun taken =>
    rw [nothing, begun, Option.toList_none, Option.toList_some, List.append_nil,
      List.singleton_append]
    exact filter_isKind_of_taken taken group urgent
  | kept nothing none urgents normals =>
    rw [nothing, none, backlog, backlog, urgents, normals, Option.toList_none, List.append_nil,
      List.nil_append]

theorem added?_number {number : Nat} {p : Pool (Ticket Work)} {action : Action Work}
    {job : Job (Ticket Work)} (accepted : p.added? (action.ticketed number) = some job) :
    job.work.number = number := by
  cases action with
  | add urgent bare =>
    simp only [Action.ticketed, added?] at accepted
    split at accepted
    · cases accepted
      rfl
    · cases accepted
  | _ => cases accepted

/-- What a run adds has its tickets in order. -/
theorem addedIn_increasing (number : Nat) (p : Pool (Ticket Work)) (actions : List (Action Work)) :
    (p.addedIn (ticketed number actions)).Pairwise (fun a b => a.work.number < b.work.number) ∧
      ∀ job ∈ p.addedIn (ticketed number actions), number ≤ job.work.number := by
  induction actions generalizing number p with
  | nil => exact ⟨.nil, fun _ member => absurd member List.not_mem_nil⟩
  | cons action rest ih =>
    rw [ticketed, addedIn]
    split
    · exact ⟨.nil, fun _ member => absurd member List.not_mem_nil⟩
    · rename_i next possible
      obtain ⟨increasing, later⟩ := ih (number + 1) next
      cases accepted : p.added? (action.ticketed number) with
      | none =>
        rw [Option.toList_none, List.nil_append]
        exact ⟨increasing, fun job member => Nat.le_of_succ_le (later job member)⟩
      | some job =>
        have here := added?_number accepted
        rw [Option.toList_some, List.singleton_append]
        refine ⟨List.pairwise_cons.mpr ⟨?_, increasing⟩, ?_⟩
        · intro other member
          rw [here]
          exact later other member
        · intro other member
          rcases List.mem_cons.mp member with rfl | behind
          · exact Nat.le_of_eq here.symm
          · exact Nat.le_of_succ_le (later other behind)

/-- Of each kind, what has started in a run and then what is queued after it is what was queued
before it and then what it has added. -/
theorem Ordered.run {bound : Nat} {p last : Pool (Ticket Work)} {actions : List (Action Work)}
    (ordered : p.Ordered bound) (possible : p.run? (ticketed bound actions) = some last) :
    last.Ordered (bound + actions.length) ∧ ∀ group urgent,
      (p.startedIn (ticketed bound actions) ++ last.queue.backlog).filter (isKind group urgent) =
        (p.queue.backlog ++ p.addedIn (ticketed bound actions)).filter (isKind group urgent) := by
  induction actions generalizing p bound with
  | nil =>
    obtain rfl : p = last := Option.some.inj possible
    refine ⟨ordered, ?_⟩
    intro group urgent
    rw [ticketed, startedIn, addedIn, List.nil_append, List.append_nil]
  | cons action rest ih =>
    obtain ⟨next, first, others⟩ := run?_cons possible
    obtain ⟨final, conserved⟩ := ih (ordered.step first) others
    refine ⟨?_, ?_⟩
    · rw [List.length_cons, Nat.add_comm rest.length 1, ← Nat.add_assoc]
      exact final
    · intro group urgent
      have step := ordered.conserved first group urgent
      have later := conserved group urgent
      rw [List.filter_append, List.filter_append] at step later
      simp only [ticketed, startedIn, addedIn, first, List.filter_append, List.append_assoc]
      rw [later, ← List.append_assoc, step, List.append_assoc]

/-- A job with a higher ticket starts before one that is queued only if it is urgent and the other
is not, or because the other's group is busy. -/
theorem Ordered.overtakes {bound : Nat} {p : Pool (Ticket Work)} (ordered : p.Ordered bound)
    (accounted : p.Accounted) {job : Job (Ticket Work)} {queue : WorkQueue (Ticket Work)}
    (taken : p.queue.takeNext = some (job, queue)) {other : Job (Ticket Work)}
    (queued : other ∈ p.queue.backlog) (earlier : other.work.number < job.work.number) :
    job.work.urgent = true ∧ other.work.urgent = false ∨ p.Busy other.group := by
  -- Behind the job in its own list stand only higher tickets.
  have ahead {urgent : Bool} {jobs rest : List (Job (Ticket Work))}
      (inOrder : InOrder bound urgent jobs) (passes : p.Passes job jobs rest)
      (member : other ∈ jobs) : p.Busy other.group := by
    obtain ⟨before, after, rfl, -, busy⟩ := passes
    rcases List.mem_append.mp member with front | back
    · exact busy other front
    · have increasing := (List.pairwise_append.mp inOrder.increasing).2.1
      rcases List.mem_cons.mp back with rfl | behind
      · exact absurd earlier (Nat.lt_irrefl _)
      · have higher := (List.pairwise_cons.mp increasing).1 other behind
        omega
  rcases accounted.passes taken with ⟨passes, -⟩ | ⟨passes, -, urgents⟩
  · have urgent : job.work.urgent = true := by
      obtain ⟨before, after, jobs, -, -⟩ := passes
      apply ordered.urgent.alike
      rw [jobs]
      exact List.mem_append_right _ List.mem_cons_self
    rcases List.mem_append.mp queued with inUrgent | inNormal
    · exact .inr (ahead ordered.urgent passes inUrgent)
    · exact .inl ⟨urgent, ordered.normal.alike other inNormal⟩
  · rcases List.mem_append.mp queued with inUrgent | inNormal
    · exact .inr (urgents other inUrgent)
    · exact .inr (ahead ordered.normal passes inNormal)

/-- Whatever is added, started, ended and shut down in whatever order, by any number of workers: a
job is passed over, by those behind it in its own list and by normal work if it is urgent, only
while its group is busy, and nothing is started only while all groups with work queued are busy,
which they are not if nobody runs. So with a ticket for each job the jobs of one group and urgency
start in the order in which they were added, and one that is queued is overtaken only by urgent
work, if it is not urgent itself, or while its group is busy. -/
theorem order_of_run {count : Nat} {actions : List (Action Work)} {last : Pool Work}
    (possible : (start count).run? actions = some last) :
    (∀ job queue, last.queue.takeNext = some (job, queue) →
      last.Passes job last.queue.urgent queue.urgent ∧ queue.normal = last.queue.normal ∨
        last.Passes job last.queue.normal queue.normal ∧ queue.urgent = last.queue.urgent ∧
          ∀ other ∈ last.queue.urgent, last.Busy other.group) ∧
    (last.queue.takeNext = none ↔ ∀ job ∈ last.queue.backlog, last.Busy job.group) ∧
    (last.queue.backlog ≠ [] → (∀ job, .running job ∉ last.workers) →
      ∃ job queue, last.queue.takeNext = some (job, queue)) ∧
    ∃ p : Pool (Ticket Work),
      (start count).run? (ticketed 0 actions) = some p ∧ p.map Ticket.work = last ∧
      ((start count).addedIn (ticketed 0 actions)).Pairwise
        (fun a b => a.work.number < b.work.number) ∧
      (∀ group urgent,
        ((start count).startedIn (ticketed 0 actions)).filter (isKind group urgent) ++
            p.queue.backlog.filter (isKind group urgent) =
          ((start count).addedIn (ticketed 0 actions)).filter (isKind group urgent)) ∧
      ∀ job queue, p.queue.takeNext = some (job, queue) → ∀ other ∈ p.queue.backlog,
        other.work.number < job.work.number →
          job.work.urgent = true ∧ other.work.urgent = false ∨ p.Busy other.group := by
  have accounted := (Reachable.start.run possible).accounted
  refine ⟨fun job queue => accounted.passes, accounted.takeNext_eq_none_iff, ?_, ?_⟩
  · intro some idle
    cases taken : last.queue.takeNext with
    | none => exact absurd (accounted.eq_nil_of_takeNext idle taken) some
    | some started => exact ⟨started.1, started.2, rfl⟩
  · obtain ⟨p, again, same⟩ := run?_ticketed possible
    obtain ⟨ordered, conserved⟩ := (start_ordered count).run again
    have counted := (Reachable.start.run again).accounted
    refine ⟨p, again, same, (addedIn_increasing 0 (start count) actions).1, ?_, ?_⟩
    · intro group urgent
      rw [← List.filter_append, conserved group urgent]
      rfl
    · intro job queue taken other queued earlier
      exact ordered.overtakes counted taken queued earlier

/-- Two jobs of group five, one of none and an urgent one of group five, of which the first and the
third have been started. -/
def rush : List (Action Unit) :=
  [.add false ⟨5, ()⟩, .scan 0, .add false ⟨5, ()⟩, .add false ⟨0, ()⟩, .add true ⟨5, ()⟩, .scan 1]

/-- The pool after that. -/
def rushed : Pool Unit := ((start 2).run? rush).getD (start 2)

theorem order_of_run_rushed :
    (start 2).run? rush = some rushed ∧ rushed.queue.takeNext = none ∧
      ∀ job ∈ rushed.queue.backlog, rushed.Busy job.group := by
  have possible : (start 2).run? rush = some rushed := by rfl
  have nothing : rushed.queue.takeNext = none := by rfl
  exact ⟨possible, nothing, (order_of_run possible).2.1.mp nothing⟩

end Pool

end MessageTransport.WorkQueue
