import MessageTransport.Proofs.Lookup
import MessageTransport.WorkQueue

set_option autoImplicit false

namespace MessageTransport.WorkQueue

variable {Work : Type}

/-- Whether a job is of a group. -/
def isOf (group : UInt64) (job : Job Work) : Bool := job.group == group

/-- The jobs of a group that have not been started. -/
def queued (q : WorkQueue Work) (group : UInt64) : Nat :=
  q.urgent.countP (isOf group) + q.normal.countP (isOf group)

/-- One for the group that is meant and zero for all others. -/
def tally (group other : UInt64) : Nat := if group = other then 1 else 0

@[simp] theorem tally_self (group : UInt64) : tally group group = 1 := by
  simp only [tally, ↓reduceIte]

theorem tally_of_ne {group other : UInt64} (differ : group ≠ other) : tally group other = 0 := by
  simp only [tally, differ, ↓reduceIte]

theorem countP_isOf_cons (group : UInt64) (job : Job Work) (jobs : List (Job Work)) :
    (job :: jobs).countP (isOf group) = jobs.countP (isOf group) + tally job.group group := by
  simp only [List.countP_cons, isOf, tally, beq_iff_eq]

theorem countP_isOf_split (group : UInt64) (before after : List (Job Work)) (job : Job Work) :
    (before ++ job :: after).countP (isOf group) =
      (before ++ after).countP (isOf group) + tally job.group group := by
  simp only [List.countP_append, countP_isOf_cons]
  omega

theorem queued_pos_iff {q : WorkQueue Work} {group : UInt64} :
    0 < q.queued group ↔ ∃ job ∈ q.urgent ++ q.normal, job.group = group := by
  rw [queued, ← List.countP_append, List.countP_pos_iff]
  constructor
  · intro ⟨job, member, same⟩
    exact ⟨job, member, eq_of_beq same⟩
  · intro ⟨job, member, same⟩
    exact ⟨job, member, beq_iff_eq.mpr same⟩

theorem isEligible_iff {q : WorkQueue Work} {job : Job Work} :
    q.isEligible job = true ↔ job.group = 0 ∨ q.isBusy job.group = false := by
  simp only [isEligible, Bool.or_eq_true, beq_iff_eq, Bool.not_eq_true']

/-- The usage of a group, all zero if the table has none. -/
def usageOf (q : WorkQueue Work) (group : UInt64) : GroupUsage := q.groups.getD group {}

/-- Only work that has a group is recorded in the table. -/
theorem getElem?_recorded (groups : Std.TreeMap UInt64 GroupUsage) (group other : UInt64)
    (usage : GroupUsage) :
    (if group = 0 then groups else groups.insert group usage)[other]? =
      if group = other ∧ other ≠ 0 then some usage else groups[other]? := by
  by_cases ungrouped : group = 0
  · have elsewhere : ¬(group = other ∧ other ≠ 0) := by
      rintro ⟨same, grouped⟩
      exact grouped (same.symm.trans ungrouped)
    rw [if_pos ungrouped, if_neg elsewhere]
  · rw [if_neg ungrouped, getElem?_inserted]
    by_cases same : group = other
    · have here : group = other ∧ other ≠ 0 := ⟨same, same ▸ ungrouped⟩
      rw [if_pos same, if_pos here]
    · have elsewhere : ¬(group = other ∧ other ≠ 0) := fun here => same here.1
      rw [if_neg same, if_neg elsewhere]

/-- The table once a job has been added. -/
def counted (q : WorkQueue Work) (job : Job Work) : Std.TreeMap UInt64 GroupUsage :=
  if job.group = 0 then q.groups
  else
    q.groups.insert job.group
      { q.usageOf job.group with outstanding := (q.usageOf job.group).outstanding + 1 }

theorem add_closed {q : WorkQueue Work} (closed : q.closed = true) (urgent : Bool)
    (job : Job Work) : q.add urgent job = .error .shutdown := by
  simp only [add, closed, ↓reduceIte]

theorem add_open {q : WorkQueue Work} (opened : q.closed = false) (urgent : Bool)
    (job : Job Work) :
    q.add urgent job = .ok (q.isEligible job,
      { urgent := if urgent then q.urgent ++ [job] else q.urgent
        normal := if urgent then q.normal else q.normal ++ [job]
        groups := q.counted job
        closed := false }) := by
  cases urgent <;> simp only [add, opened, Bool.false_eq_true, ↓reduceIte, counted, usageOf]

/-- What an accepted job changes: it is counted in the queue, and in the table if it has a group. -/
theorem add_ok {q next : WorkQueue Work} {urgent eligible : Bool} {job : Job Work}
    (accepted : q.add urgent job = .ok (eligible, next)) :
    next.closed = false ∧ eligible = q.isEligible job ∧ next.groups = q.counted job ∧
      ∀ group, next.queued group = q.queued group + tally job.group group := by
  cases state : q.closed with
  | true =>
    rw [add_closed state] at accepted
    cases accepted
  | false =>
    rw [add_open state] at accepted
    obtain ⟨rfl, rfl⟩ := Prod.mk.inj (Except.ok.inj accepted)
    refine ⟨rfl, rfl, rfl, ?_⟩
    intro group
    have last (jobs : List (Job Work)) : (jobs ++ [job]).countP (isOf group) =
        jobs.countP (isOf group) + tally job.group group := by
      rw [countP_isOf_split, List.append_nil]
    cases urgent with
    | true =>
      simp only [queued, ↓reduceIte, last]
      omega
    | false =>
      simp only [queued, Bool.false_eq_true, ↓reduceIte, last]
      omega

theorem started_eq (q : WorkQueue Work) (job : Job Work) :
    q.started job = { q with
      groups := if job.group = 0 then q.groups
        else q.groups.insert job.group { q.usageOf job.group with running := true } } := by
  unfold started usageOf
  split <;> rfl

/-- The job started is the first eligible one of its list, and no urgent one is passed over. -/
theorem takeNext_some {q next : WorkQueue Work} {job : Job Work}
    (taken : q.takeNext = some (job, next)) :
    q.isEligible job = true ∧ ∃ before after, (∀ other ∈ before, q.isEligible other = false) ∧
      (q.urgent = before ++ job :: after ∧ next = ({ q with urgent := before ++ after }).started job ∨
        (∀ other ∈ q.urgent, q.isEligible other = false) ∧
          q.normal = before ++ job :: after ∧
          next = ({ q with normal := before ++ after }).started job) := by
  unfold takeNext at taken
  split at taken
  · rename_i job' rest found
    obtain ⟨before, after, jobs, left, eligible, passed⟩ := extractFirst_eq_some found
    obtain ⟨rfl, rfl⟩ := Prod.mk.inj (Option.some.inj taken)
    exact ⟨eligible, before, after, passed, .inl ⟨jobs, by rw [left]⟩⟩
  · rename_i none
    split at taken
    · rename_i job' rest found
      obtain ⟨before, after, jobs, left, eligible, passed⟩ := extractFirst_eq_some found
      obtain ⟨rfl, rfl⟩ := Prod.mk.inj (Option.some.inj taken)
      have waiting := extractFirst_eq_none_iff.mp none
      exact ⟨eligible, before, after, passed, .inr ⟨waiting, jobs, by rw [left]⟩⟩
    · cases taken

/-- Nothing is started just when every queued job has to wait for its group. -/
theorem takeNext_eq_none_iff {q : WorkQueue Work} :
    q.takeNext = none ↔ ∀ job ∈ q.urgent ++ q.normal, q.isEligible job = false := by
  unfold takeNext
  constructor
  · intro nothing job member
    split at nothing
    · cases nothing
    · rename_i urgent
      split at nothing
      · cases nothing
      · rename_i normal
        rcases List.mem_append.mp member with inUrgent | inNormal
        · exact extractFirst_eq_none_iff.mp urgent job inUrgent
        · exact extractFirst_eq_none_iff.mp normal job inNormal
  · intro waiting
    have urgent : extractFirst q.isEligible q.urgent = none := by
      apply extractFirst_eq_none_iff.mpr
      intro job member
      exact waiting job (List.mem_append_left _ member)
    have normal : extractFirst q.isEligible q.normal = none := by
      apply extractFirst_eq_none_iff.mpr
      intro job member
      exact waiting job (List.mem_append_right _ member)
    rw [urgent, normal]

/-- What starting a job changes: it is no longer counted in the queue, and its group runs. -/
theorem takeNext_census {q next : WorkQueue Work} {job : Job Work}
    (taken : q.takeNext = some (job, next)) :
    next.closed = q.closed ∧ q.size = next.size + 1 ∧
      next.groups = (if job.group = 0 then q.groups
        else q.groups.insert job.group { q.usageOf job.group with running := true }) ∧
      ∀ group, q.queued group = next.queued group + tally job.group group := by
  obtain ⟨-, before, after, -, ⟨jobs, rfl⟩ | ⟨-, jobs, rfl⟩⟩ := takeNext_some taken
  all_goals
    rw [started_eq]
    refine ⟨rfl, ?_, rfl, ?_⟩
    · simp only [size, jobs, List.length_append, List.length_cons]
      omega
    · intro group
      simp only [queued, jobs, countP_isOf_split]
      omega

theorem usageOf_eq (q : WorkQueue Work) (group : UInt64) :
    q.usageOf group = (q.groups[group]?).getD {} := by
  rw [usageOf, Std.TreeMap.getD_eq_getD_getElem?]

theorem isBusy_eq (q : WorkQueue Work) (group : UInt64) :
    q.isBusy group = (q.usageOf group).running := by
  unfold isBusy
  rw [usageOf_eq]
  cases q.groups[group]? <;> rfl

/-- What ending a job changes: its group no longer runs, and the table forgets a group that has
nothing more. -/
theorem complete_census {q next : WorkQueue Work} {group : UInt64} {more : Bool}
    (completed : q.complete group = (more, next)) :
    next.urgent = q.urgent ∧ next.normal = q.normal ∧ next.closed = q.closed ∧
      ∀ other, next.groups[other]? =
        if group = other ∧ other ≠ 0 then
          if (q.usageOf group).outstanding ≤ 1 then none
          else some ⟨false, (q.usageOf group).outstanding - 1⟩
        else q.groups[other]? := by
  unfold complete at completed
  split at completed
  · rename_i ungrouped
    obtain ⟨-, rfl⟩ := Prod.mk.inj completed
    refine ⟨rfl, rfl, rfl, ?_⟩
    intro other
    have elsewhere : ¬(group = other ∧ other ≠ 0) := by
      rintro ⟨same, grouped⟩
      exact grouped (same.symm.trans ungrouped)
    rw [if_neg elsewhere]
  · rename_i grouped
    have recorded (other : UInt64) (usage : Option GroupUsage) :
        (if group = other ∧ other ≠ 0 then usage else q.groups[other]?) =
          if group = other then usage else q.groups[other]? := by
      by_cases same : group = other
      · have here : group = other ∧ other ≠ 0 := ⟨same, same ▸ grouped⟩
        rw [if_pos here, if_pos same]
      · have elsewhere : ¬(group = other ∧ other ≠ 0) := fun here => same here.1
        rw [if_neg elsewhere, if_neg same]
    simp only [recorded, usageOf_eq]
    split at completed
    · rename_i absent
      obtain ⟨-, rfl⟩ := Prod.mk.inj completed
      refine ⟨rfl, rfl, rfl, ?_⟩
      intro other
      by_cases same : group = other
      · subst same
        have few : ({} : GroupUsage).outstanding ≤ 1 := Nat.zero_le 1
        rw [absent, if_pos rfl, Option.getD_none, if_pos few]
      · rw [if_neg same]
    · rename_i usage present
      rw [present, Option.getD_some]
      split at completed
      · rename_i last
        obtain ⟨-, rfl⟩ := Prod.mk.inj completed
        refine ⟨rfl, rfl, rfl, ?_⟩
        intro other
        rw [getElem?_erased, if_pos last]
      · rename_i further
        obtain ⟨-, rfl⟩ := Prod.mk.inj completed
        refine ⟨rfl, rfl, rfl, ?_⟩
        intro other
        rw [getElem?_inserted, if_neg further]

end MessageTransport.WorkQueue
