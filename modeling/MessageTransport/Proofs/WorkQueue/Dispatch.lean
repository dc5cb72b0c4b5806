import MessageTransport.Event
import MessageTransport.Proofs.WorkQueue.Draining

set_option autoImplicit false

namespace MessageTransport

/-- The number made of a connection id and a group id. -/
def lane (connId groupId : UInt32) : UInt64 := connId.toUInt64 <<< 32 ||| groupId.toUInt64

theorem lane_toNat (connId groupId : UInt32) :
    (lane connId groupId).toNat = UInt32.size * connId.toNat + groupId.toNat := by
  have high := connId.toNat_lt
  have low := groupId.toNat_lt
  have shift : (32 : UInt64).toNat % 64 = 32 := rfl
  rw [lane, UInt64.toNat_or, UInt64.toNat_shiftLeft, UInt32.toNat_toUInt64, UInt32.toNat_toUInt64,
    shift, Nat.shiftLeft_eq, Nat.mod_eq_of_lt (by omega), Nat.mul_comm,
    ← Nat.two_pow_add_eq_or_of_lt low]

theorem lane_eq_iff {connId connId' groupId groupId' : UInt32} :
    lane connId groupId = lane connId' groupId' ↔ connId = connId' ∧ groupId = groupId' := by
  have low := groupId.toNat_lt
  have low' := groupId'.toNat_lt
  have size : UInt32.size = 4294967296 := rfl
  rw [← UInt64.toNat_inj, ← UInt32.toNat_inj, ← UInt32.toNat_inj, lane_toNat, lane_toNat, size]
  omega

theorem lane_ne_zero (connId : UInt32) {groupId : UInt32} (grouped : groupId ≠ 0) :
    lane connId groupId ≠ 0 := by
  intro zero
  have none : lane connId groupId = lane 0 0 := zero
  exact grouped (lane_eq_iff.mp none).2

namespace WorkQueue

/-- A message as it arrives on a connection, which is known by its id. -/
structure Arrival where
  remote : Endpoint
  connId : UInt32
  header : Header
  payload : Bytes
deriving DecidableEq, Repr

namespace Arrival

def event (m : Arrival) : Event := .message m.remote m.connId m.header m.payload

/-- The work that a message is turned into. -/
def job (m : Arrival) : Job Arrival := ⟨m.event.workGroup, m⟩

theorem workGroup_event (m : Arrival) : m.event.workGroup =
    if m.header.groupId = 0 then 0 else lane m.connId m.header.groupId := rfl

end Arrival

/-- What happens at a queue that is fed with messages. -/
inductive Incident where
  | arrives (m : Arrival)
  | shutdown
  | signal (index chosen : Nat)
  | scan (worker : Nat)
  | finish (worker : Nat) (ending : Ending) (chosen : Nat)
deriving DecidableEq, Repr

namespace Incident

/-- Messages are queued as normal work. -/
def action : Incident → Pool.Action Arrival
  | arrives m => .add false m.job
  | shutdown => .shutdown
  | signal index chosen => .signal index chosen
  | scan worker => .scan worker
  | finish worker ending chosen => .finish worker ending chosen

/-- The steps of a pool, in which the work of each message has a ticket with the number of its
step. -/
def steps (incidents : List Incident) : List (Pool.Action (Ticket Arrival)) :=
  Pool.ticketed 0 (incidents.map action)

/-- The work of the messages that arrive before the queue is closed. -/
def arrivals : Nat → List Incident → List (Job (Ticket Arrival))
  | _, [] => []
  | number, arrives m :: rest =>
    m.job.map (fun m => ⟨number, false, m⟩) :: arrivals (number + 1) rest
  | _, shutdown :: _ => []
  | number, _ :: rest => arrivals (number + 1) rest

end Incident

/-- Whether work is that of a message of a connection and a group id. -/
def isFor (connId groupId : UInt32) (job : Job (Ticket Arrival)) : Bool :=
  job.work.work.connId == connId && job.work.work.header.groupId == groupId

/-- Work as it is made of a message. -/
structure Stamped (job : Job (Ticket Arrival)) : Prop where
  group : job.group = job.work.work.event.workGroup
  normal : job.work.urgent = false

theorem Stamped.isOf_eq {job : Job (Ticket Arrival)} (stamped : Stamped job) (connId : UInt32)
    {groupId : UInt32} (grouped : groupId ≠ 0) :
    isOf (lane connId groupId) job = isFor connId groupId job := by
  rw [isOf, isFor, stamped.group, Arrival.workGroup_event, Bool.eq_iff_iff, Bool.and_eq_true,
    beq_iff_eq, beq_iff_eq, beq_iff_eq]
  split
  · rename_i ungrouped
    rw [ungrouped]
    exact iff_of_false (lane_ne_zero connId grouped).symm fun here => grouped here.2.symm
  · exact lane_eq_iff

theorem Stamped.isKind_eq {job : Job (Ticket Arrival)} (stamped : Stamped job) (connId : UInt32)
    {groupId : UInt32} (grouped : groupId ≠ 0) :
    Pool.isKind (lane connId groupId) false job = isFor connId groupId job := by
  rw [Pool.isKind, stamped.isOf_eq connId grouped, stamped.normal, beq_self_eq_true, Bool.and_true]

theorem stamped_of_arrivals {number : Nat} {incidents : List Incident} :
    ∀ job ∈ Incident.arrivals number incidents, Stamped job := by
  fun_induction Incident.arrivals number incidents with
  | case1 => nofun
  | case2 number m rest ih =>
    intro job member
    rcases List.mem_cons.mp member with rfl | later
    · exact ⟨rfl, rfl⟩
    · exact ih job later
  | case3 => nofun
  | case4 number incident rest _ _ ih => exact ih

namespace Pool

theorem addedIn_of_closed {Work : Type} {p : Pool Work} (closed : p.queue.closed = true)
    (actions : List (Action Work)) : p.addedIn actions = [] := by
  induction actions generalizing p with
  | nil => rfl
  | cons action rest ih =>
    rw [addedIn]
    split
    · rfl
    · rename_i next possible
      have nothing : p.added? action = none := by
        cases action with
        | add urgent job => simp only [added?, add_closed closed]
        | _ => rfl
      rw [nothing, ih ((closed_of_step? possible).mpr (.inr closed))]
      rfl

/-- An open queue takes in the messages that arrive until it is closed. -/
theorem addedIn_eq_arrivals {number : Nat} {incidents : List Incident}
    {p last : Pool (Ticket Arrival)} (opened : p.queue.closed = false)
    (possible : p.run? (ticketed number (incidents.map Incident.action)) = some last) :
    p.addedIn (ticketed number (incidents.map Incident.action)) =
      Incident.arrivals number incidents := by
  induction incidents generalizing p number with
  | nil => rfl
  | cons incident rest ih =>
    obtain ⟨next, first, others⟩ := run?_cons possible
    have added : p.addedIn (ticketed number ((incident :: rest).map Incident.action)) =
        (p.added? (incident.action.ticketed number)).toList ++
          next.addedIn (ticketed (number + 1) (rest.map Incident.action)) := by
      simp only [List.map_cons, ticketed, addedIn, first]
    have state := closed_of_step? first
    rw [opened] at state
    -- Only to shut down closes the queue.
    have still (goesOn : incident.action.ticketed number ≠ .shutdown) :
        next.queue.closed = false := by
      apply Bool.eq_false_iff.mpr
      intro closed
      rcases state.mp closed with stops | before
      · exact goesOn stops
      · cases before
    cases incident with
    | shutdown =>
      rw [added, addedIn_of_closed (state.mpr (.inl rfl))]
      rfl
    | arrives m =>
      have goesOn : (Incident.arrives m).action.ticketed number ≠ .shutdown := by
        intro same
        cases same
      rw [added, ih (still goesOn) others]
      simp only [Incident.action, Action.ticketed, added?, add_open opened]
      rfl
    | signal | scan | finish =>
      rw [added, ih (still ?_) others]
      · rfl
      · intro same
        cases same

theorem runningOf_eq {Work : Type} (p : Pool Work) (group : UInt64) :
    p.runningOf group = p.running.countP (isOf group) := by
  rw [runningOf, running, List.countP_filterMap]
  congr 1
  funext worker
  cases worker <;> rfl

theorem busy_iff {Work : Type} {p : Pool Work} {group : UInt64} :
    p.Busy group ↔ group ≠ 0 ∧ ∃ job ∈ p.running, job.group = group := by
  rw [Busy, ← runningOf_pos_iff, runningOf_eq, List.countP_pos_iff]
  simp only [isOf, beq_iff_eq]

/-- Whether the work of a message has to wait: one of the same connection and group id, which is not
zero, is being worked on. -/
def HeldBack (p : Pool (Ticket Arrival)) (job : Job (Ticket Arrival)) : Prop :=
  job.work.work.header.groupId ≠ 0 ∧
    ∃ other ∈ p.running, isFor job.work.work.connId job.work.work.header.groupId other

/-- All that a pool has to do or does is the work of messages. -/
structure Fed (p : Pool (Ticket Arrival)) : Prop where
  urgent : p.queue.urgent = []
  normal : ∀ job ∈ p.queue.normal, Stamped job
  running : ∀ job ∈ p.running, Stamped job

theorem fed_of_run {count : Nat} {incidents : List Incident} {last : Pool (Ticket Arrival)}
    (possible : (start count).run? (Incident.steps incidents) = some last) :
    last.Fed ∧ ∀ job ∈ (start count).startedIn (Incident.steps incidents), Stamped job := by
  obtain ⟨runs, queued⟩ := split_of_run possible
  have arrived : (start count).addedIn (Incident.steps incidents) =
      Incident.arrivals 0 incidents := addedIn_eq_arrivals rfl possible
  rw [arrived] at queued
  have waits : ∀ job ∈ last.queue.backlog, Stamped job := fun job member =>
    stamped_of_arrivals job (queued.subset (List.mem_append_right _ member))
  have begun : ∀ job ∈ (start count).startedIn (Incident.steps incidents), Stamped job :=
    fun job member => stamped_of_arrivals job (queued.subset (List.mem_append_left _ member))
  obtain ⟨ordered, -⟩ := (start_ordered count).run possible
  refine ⟨⟨?_, ?_, ?_⟩, begun⟩
  · apply List.eq_nil_iff_forall_not_mem.mpr
    intro job member
    have normal := (waits job (List.mem_append_left _ member)).normal
    rw [ordered.urgent.alike job member] at normal
    cases normal
  · exact fun job member => waits job (List.mem_append_right _ member)
  · exact fun job member => begun job (runs.subset (List.mem_append_right _ member))

theorem Fed.busy_iff_heldBack {p : Pool (Ticket Arrival)} (fed : p.Fed) {job : Job (Ticket Arrival)}
    (stamped : Stamped job) : p.Busy job.group ↔ p.HeldBack job := by
  rw [busy_iff, HeldBack, stamped.group, Arrival.workGroup_event]
  split
  · rename_i ungrouped
    exact iff_of_false (fun here => here.1 rfl) fun here => here.1 ungrouped
  · rename_i grouped
    rw [and_iff_right (lane_ne_zero _ grouped), and_iff_right grouped]
    apply exists_congr
    intro other
    apply and_congr_right
    intro runs
    rw [← (fed.running other runs).isOf_eq _ grouped, isOf, beq_iff_eq]

/-- At most one message of a connection and group id is worked on at a time. -/
theorem Fed.countP_running_le {p : Pool (Ticket Arrival)} (fed : p.Fed) (accounted : p.Accounted)
    (connId : UInt32) {groupId : UInt32} (grouped : groupId ≠ 0) :
    p.running.countP (isFor connId groupId) ≤ 1 := by
  have same : p.running.countP (isFor connId groupId) = p.runningOf (lane connId groupId) := by
    rw [runningOf_eq]
    refine List.countP_congr fun job runs => ?_
    rw [(fed.running job runs).isOf_eq connId grouped]
  rw [same]
  exact accounted.exclusive _ (lane_ne_zero connId grouped)

/-- The scan takes the first work that does not have to wait. -/
theorem Fed.taken {p : Pool (Ticket Arrival)} (fed : p.Fed) (accounted : p.Accounted)
    {job : Job (Ticket Arrival)} {queue : WorkQueue (Ticket Arrival)}
    (taken : p.queue.takeNext = some (job, queue)) :
    ¬p.HeldBack job ∧ ∃ before after, p.queue.normal = before ++ job :: after ∧
      queue.normal = before ++ after ∧ ∀ other ∈ before, p.HeldBack other := by
  obtain ⟨eligible, -⟩ := takeNext_some taken
  rcases accounted.passes taken with ⟨⟨before, after, jobs, -⟩, -⟩ | ⟨passes, -⟩
  · rw [fed.urgent] at jobs
    exact absurd jobs (by simp)
  · obtain ⟨before, after, jobs, rest, busy⟩ := passes
    have stamped (other : Job (Ticket Arrival)) (member : other ∈ before ++ job :: after) :
        Stamped other := fed.normal other (jobs ▸ member)
    refine ⟨?_, before, after, jobs, rest, ?_⟩
    · intro held
      have here := stamped job (List.mem_append_right _ List.mem_cons_self)
      have waits := accounted.isEligible_eq_false_iff.mpr ((fed.busy_iff_heldBack here).mpr held)
      rw [eligible] at waits
      cases waits
    · intro other ahead
      exact (fed.busy_iff_heldBack (stamped other (List.mem_append_left _ ahead))).mp
        (busy other ahead)

theorem Fed.takeNext_eq_none_iff {p : Pool (Ticket Arrival)} (fed : p.Fed)
    (accounted : p.Accounted) :
    p.queue.takeNext = none ↔ ∀ job ∈ p.queue.normal, p.HeldBack job := by
  rw [accounted.takeNext_eq_none_iff, backlog, fed.urgent, List.nil_append]
  refine forall_congr' fun job => forall_congr' fun member => ?_
  exact fed.busy_iff_heldBack (fed.normal job member)

/-- Whatever messages arrive on whatever connections, while workers scan and end their work, however
it ends: of one connection and one group id other than zero at most one message is worked on at a
time, and the messages that have been taken up and then those that wait are those that have arrived,
in the order of arrival. The scan takes the first work for which no message of the same connection
and the same group id other than zero is being worked on, and takes none only if there is no such
work; so nothing else holds a message back, and nothing at all one without a group id. -/
theorem dispatch_of_run {count : Nat} {incidents : List Incident} {last : Pool (Ticket Arrival)}
    (possible : (start count).run? (Incident.steps incidents) = some last) :
    (∀ connId groupId : UInt32, groupId ≠ 0 →
      last.running.countP (isFor connId groupId) ≤ 1 ∧
      ((start count).startedIn (Incident.steps incidents)).filter (isFor connId groupId) ++
          last.queue.normal.filter (isFor connId groupId) =
        (Incident.arrivals 0 incidents).filter (isFor connId groupId)) ∧
    (Incident.arrivals 0 incidents).Pairwise (fun a b => a.work.number < b.work.number) ∧
    last.queue.urgent = [] ∧
    (∀ job queue, last.queue.takeNext = some (job, queue) →
      ¬last.HeldBack job ∧ ∃ before after, last.queue.normal = before ++ job :: after ∧
        queue.normal = before ++ after ∧ ∀ other ∈ before, last.HeldBack other) ∧
    (last.queue.takeNext = none ↔ ∀ job ∈ last.queue.normal, last.HeldBack job) := by
  have accounted := (Reachable.start.run possible).accounted
  obtain ⟨fed, begun⟩ := fed_of_run possible
  have arrived : (start count).addedIn (Incident.steps incidents) =
      Incident.arrivals 0 incidents := addedIn_eq_arrivals rfl possible
  refine ⟨?_, ?_, fed.urgent, fun job queue => fed.taken accounted,
    fed.takeNext_eq_none_iff accounted⟩
  · intro connId groupId grouped
    refine ⟨fed.countP_running_le accounted connId grouped, ?_⟩
    have same (jobs : List (Job (Ticket Arrival))) (stamped : ∀ job ∈ jobs, Stamped job) :
        jobs.filter (isKind (lane connId groupId) false) = jobs.filter (isFor connId groupId) :=
      List.filter_congr fun job member => (stamped job member).isKind_eq connId grouped
    have nothing : (start count : Pool (Ticket Arrival)).queue.backlog = [] := rfl
    obtain ⟨-, conserved⟩ := (start_ordered count).run possible
    have inOrder := conserved (lane connId groupId) false
    rw [nothing, List.nil_append, List.filter_append, backlog, fed.urgent, List.nil_append]
      at inOrder
    rw [← same _ begun, ← same _ fed.normal, ← same _ stamped_of_arrivals, ← arrived]
    exact inOrder
  · rw [← arrived]
    exact (addedIn_increasing 0 (start count) _).1

/-- A message on a connection. -/
def letter (connId groupId : UInt32) (text : Bytes) : Arrival :=
  ⟨⟨.v4 1, 80⟩, connId, { Header.ofCommand 7 with groupId }, text⟩

/-- Two messages of a group on one connection, one of the same group id on another and one of no
group, and three workers, of whom the second and the third pass the second message over. -/
def delivery : List Incident :=
  [.arrives (letter 3 9 [1]), .arrives (letter 3 9 [2]), .arrives (letter 4 9 [3]), .scan 0,
    .scan 1, .arrives (letter 3 0 [4]), .scan 2]

/-- The pool after that. -/
def delivered : Pool (Ticket Arrival) :=
  ((start 3).run? (Incident.steps delivery)).getD (start 3)

theorem dispatch_of_run_delivered :
    (start 3).run? (Incident.steps delivery) = some delivered ∧ (9 : UInt32) ≠ 0 ∧
      delivered.running.countP (isFor 3 9) ≤ 1 ∧
      ((start 3).startedIn (Incident.steps delivery)).filter (isFor 3 9) ++
          delivered.queue.normal.filter (isFor 3 9) =
        (Incident.arrivals 0 delivery).filter (isFor 3 9) ∧
      delivered.queue.takeNext = none ∧ delivered.queue.normal.length = 1 ∧
      ∀ job ∈ delivered.queue.normal, delivered.HeldBack job := by
  have possible : (start 3).run? (Incident.steps delivery) = some delivered := by rfl
  have nothing : delivered.queue.takeNext = none := by rfl
  obtain ⟨lanes, -, -, -, none⟩ := dispatch_of_run possible
  obtain ⟨alone, inOrder⟩ := lanes 3 9 (by decide)
  exact ⟨possible, by decide, alone, inOrder, nothing, by rfl, none.mp nothing⟩

end Pool

end WorkQueue

end MessageTransport
