import MessageTransport.Proofs.WorkQueue.Groups
import MessageTransport.Proofs.WorkQueue.Wakeups

set_option autoImplicit false

namespace MessageTransport.WorkQueue.Pool

variable {Work : Type}

/-- Jobs not started, jobs not ended and signals not given. -/
def load (p : Pool Work) : Nat :=
  p.queue.size + p.workers.countP isRunning + p.signals.length

/-- What a pool has left to do if nobody calls it. Whatever is done of the load may set every worker
scanning. -/
def weight (p : Pool Work) : Nat :=
  (p.workers.length + 1) * p.load + p.workers.countP isScanning

theorem weight_lt_of_load {p next : Pool Work} (same : next.workers.length = p.workers.length)
    (less : next.load < p.load) : next.weight < p.weight := by
  have scanning : next.workers.countP isScanning ≤ p.workers.length :=
    same ▸ List.countP_le_length
  have whole : (p.workers.length + 1) * (next.load + 1) ≤ (p.workers.length + 1) * p.load :=
    Nat.mul_le_mul_left _ less
  rw [Nat.mul_succ] at whole
  unfold weight
  rw [same]
  omega

theorem weight_lt_of_scanning {p next : Pool Work} (same : next.workers.length = p.workers.length)
    (load : next.load = p.load)
    (fewer : next.workers.countP isScanning < p.workers.countP isScanning) :
    next.weight < p.weight := by
  unfold weight
  rw [same, load]
  omega

theorem length_eraseIdx_lt {signals : List Signal} {index : Nat} {given : Signal}
    (there : signals[index]? = some given) : (signals.eraseIdx index).length < signals.length := by
  obtain ⟨inside, -⟩ := List.getElem?_eq_some_iff.mp there
  rw [List.length_eraseIdx_of_lt inside]
  omega

theorem weight_lt_of_given {p : Pool Work} {workers : List (Worker Work)} {index : Nat}
    {given : Signal} (there : p.signals[index]? = some given) (roused : Roused p.workers workers) :
    weight { p with workers, signals := p.signals.eraseIdx index } < p.weight := by
  apply weight_lt_of_load roused.length_eq
  have fewer := length_eraseIdx_lt there
  have running := roused.countP_eq (p := isRunning) rfl rfl
  show p.queue.size + workers.countP isRunning + (p.signals.eraseIdx index).length <
    p.queue.size + p.workers.countP isRunning + p.signals.length
  omega

theorem weight_lt_of_settled {p : Pool Work} {worker : Nat} {settled : Worker Work}
    (scans : p.workers[worker]? = some .scanning) (rests : isRunning settled = false)
    (still : isScanning settled = false) :
    weight { p with workers := p.workers.set worker settled } < p.weight := by
  have running := countP_set_of_not scans settled (p := isRunning) rfl
  rw [rests, if_neg Bool.false_ne_true, Nat.add_zero] at running
  have scanning := countP_set_add scans settled isScanning
  rw [still, if_neg Bool.false_ne_true, Nat.add_zero, isScanning, if_pos rfl] at scanning
  apply weight_lt_of_scanning List.length_set
  · unfold load
    rw [running]
  · show (p.workers.set worker settled).countP isScanning < _
    omega

theorem Move.weight_lt {p next : Pool Work} (move : Move p next) : next.weight < p.weight := by
  cases move with
  | calledAll index there => exact weight_lt_of_given there (wakeAll_roused p.workers).1
  | calledOne index chosen workers there woken =>
    exact weight_lt_of_given there (wakeOne?_some woken).1
  | started worker job queue scans taken =>
    obtain ⟨-, size, -, -⟩ := takeNext_census taken
    have running := countP_set_add scans (.running job) isRunning
    have scanning := countP_set_add scans (.running job) isScanning
    simp only [isRunning, isScanning, Bool.false_eq_true, ↓reduceIte] at running scanning
    apply weight_lt_of_scanning List.length_set
    · show queue.size + (p.workers.set worker (.running job)).countP isRunning + p.signals.length =
        p.queue.size + p.workers.countP isRunning + p.signals.length
      omega
    · show (p.workers.set worker (.running job)).countP isScanning < _
      omega
  | exited worker scans nothing finished => exact weight_lt_of_settled scans rfl rfl
  | slept worker scans nothing notOver => exact weight_lt_of_settled scans rfl rfl
  | ended worker job more queue woken runs completed roused everybody =>
    obtain ⟨urgent, normal, -, -⟩ := complete_census completed
    have size : queue.size = p.queue.size := by
      rw [size, urgent, normal]
      rfl
    have running := countP_set_add (roused.running runs) .scanning isRunning
    rw [roused.countP_eq rfl rfl] at running
    simp only [isRunning, Bool.false_eq_true, ↓reduceIte] at running
    apply weight_lt_of_load (List.length_set.trans roused.length_eq)
    show queue.size + (woken.set worker .scanning).countP isRunning + p.signals.length <
      p.queue.size + p.workers.countP isRunning + p.signals.length
    omega

theorem Move.closed_eq {p next : Pool Work} (move : Move p next) :
    next.queue.closed = p.queue.closed := by
  cases move with
  | started worker job queue scans taken => exact (takeNext_census taken).1
  | ended worker job more queue woken runs completed roused everybody =>
    exact (complete_census completed).2.2.1
  | _ => rfl

theorem run?_alone {p last : Pool Work} {actions : List (Action Work)}
    (alone : ∀ action ∈ actions, action.isCall = false) (possible : p.run? actions = some last) :
    actions.length + last.weight ≤ p.weight ∧ last.queue.closed = p.queue.closed := by
  induction actions generalizing p with
  | nil =>
    obtain rfl : p = last := Option.some.inj possible
    exact ⟨Nat.le_of_eq (Nat.zero_add _), rfl⟩
  | cons action rest ih =>
    obtain ⟨next, first, others⟩ := run?_cons possible
    have move := move_of_step? (alone action List.mem_cons_self) first
    obtain ⟨bound, closed⟩ :=
      ih (fun other member => alone other (List.mem_cons_of_mem _ member)) others
    have less := move.weight_lt
    refine ⟨?_, closed.trans move.closed_eq⟩
    rw [List.length_cons]
    omega

/-- Whether a pool that nobody calls stays as it is. -/
def Resting (p : Pool Work) : Prop :=
  ∀ action : Action Work, action.isCall = false → p.step? action = none

/-- There is always a worker whom a signal to one of them can go to. -/
theorem exists_wakeOne? (workers : List (Worker Work)) :
    ∃ chosen woken, wakeOne? workers chosen = some woken := by
  by_cases waits : workers.any isWaiting = true
  · obtain ⟨worker, member, waiting⟩ := List.any_eq_true.mp waits
    obtain ⟨chosen, there⟩ := List.getElem?_of_mem member
    cases worker with
    | waiting =>
      refine ⟨chosen, workers.set chosen .scanning, ?_⟩
      rw [wakeOne?, there]
    | _ => cases waiting
  · refine ⟨workers.length, workers, ?_⟩
    rw [wakeOne?, List.getElem?_eq_none (Nat.le_refl _)]
    exact if_neg waits

theorem Resting.signals_eq_nil {p : Pool Work} (resting : p.Resting) : p.signals = [] := by
  obtain ⟨chosen, woken, called⟩ := exists_wakeOne? p.workers
  have stays : p.signal? 0 chosen = none := resting (.signal 0 chosen) rfl
  unfold signal? at stays
  rw [called] at stays
  cases given : p.signals with
  | nil => rfl
  | cons signal rest =>
    rw [given] at stays
    cases signal <;> cases stays

theorem Resting.settled {p : Pool Work} (resting : p.Resting) {worker : Worker Work}
    (member : worker ∈ p.workers) : worker = .waiting ∨ worker = .exited := by
  obtain ⟨index, there⟩ := List.getElem?_of_mem member
  cases worker with
  | waiting => exact .inl rfl
  | exited => exact .inr rfl
  | scanning =>
    have stays : p.scan? index = none := resting (.scan index) rfl
    unfold scan? at stays
    simp only [there] at stays
    split at stays
    · cases stays
    · split at stays
      · cases stays
      · cases stays
  | running job =>
    obtain ⟨chosen, woken, called⟩ := exists_wakeOne? p.workers
    have stays : p.finish? index chosen = none := resting (.finish index .returned chosen) rfl
    unfold finish? at stays
    simp only [there, called, Option.map_eq_none_iff] at stays
    split at stays <;> cases stays

/-- Whatever is added, started, ended, signalled and shut down in whatever order, by any number of
workers: if somebody waits, nobody scans and no signal is left to be given, then there is nothing to
start and no reason to exit. So a pool that nobody calls comes to rest after so many steps, and if
it has been closed, it comes to rest with all workers gone. -/
theorem awake_of_reachable {count : Nat} {p : Pool Work} (reached : Reachable count p) :
    (.waiting ∈ p.workers → .scanning ∉ p.workers → p.signals = [] →
      p.queue.takeNext = none ∧
        ¬(p.queue.closed = true ∧ p.queue.urgent = [] ∧ p.queue.normal = [] ∧
          ∀ job, .running job ∉ p.workers)) ∧
    ∀ (actions : List (Action Work)) (last : Pool Work),
      (∀ action ∈ actions, action.isCall = false) → p.run? actions = some last →
        actions.length ≤ p.weight ∧
        (p.queue.closed = true → last.Resting → ∀ worker ∈ last.workers, worker = .exited) := by
  refine ⟨reached.attended.quiet, ?_⟩
  intro actions last alone possible
  obtain ⟨bound, closed⟩ := run?_alone alone possible
  refine ⟨by omega, ?_⟩
  intro shut resting worker member
  rcases resting.settled member with rfl | rfl
  · have left := reached.run possible
    have idle (job : Job Work) : .running job ∉ last.workers := by
      intro runs
      rcases resting.settled runs with impossible | impossible <;> cases impossible
    have asleep : .scanning ∉ last.workers := by
      intro scans
      rcases resting.settled scans with impossible | impossible <;> cases impossible
    obtain ⟨nothing, notOver⟩ := left.attended.quiet member asleep resting.signals_eq_nil
    have empty := left.accounted.eq_nil_of_takeNext idle nothing
    obtain ⟨urgent, normal⟩ := List.append_eq_nil_iff.mp empty
    exact absurd ⟨closed.trans shut, urgent, normal, idle⟩ notOver
  · rfl

/-- One worker runs a job, and another waits while a second job of the same group is queued. -/
def dozing : Pool Unit :=
  ((start 2).run? [.add false ⟨7, ()⟩, .signal 0 0, .scan 0, .add false ⟨7, ()⟩, .scan 1]).get
    (by decide +kernel)

theorem dozing_reachable : Reachable 2 dozing :=
  Reachable.start.run (Option.some_get _).symm

/-- What the workers do once they have been told that nothing more will come. -/
def leaving : List (Action Unit) :=
  [.signal 0 0, .scan 1, .finish 0 .returned 1, .scan 1, .scan 0, .finish 1 .panicked 0, .scan 1]

/-- The same workers when they have done both jobs. -/
def dismissed : Pool Unit := (dozing.shutdown.run? leaving).get (by decide +kernel)

theorem awake_of_reachable_dozing :
    dozing.queue.normal = [⟨7, ()⟩] ∧ dozing.queue.takeNext = none ∧
      ∀ worker ∈ dismissed.workers, worker = .exited := by
  have queued : dozing.queue.normal = [⟨7, ()⟩] := by decide +kernel
  have waiting : .waiting ∈ dozing.workers := by decide +kernel
  have asleep : .scanning ∉ dozing.workers := by decide +kernel
  have quiet : dozing.signals = [] := by decide +kernel
  refine ⟨queued, ((awake_of_reachable dozing_reachable).1 waiting asleep quiet).1, ?_⟩
  have closing : Reachable 2 dozing.shutdown := dozing_reachable.next .shutdown rfl
  obtain ⟨-, after⟩ := awake_of_reachable closing
  have alone : ∀ action ∈ leaving, action.isCall = false := by decide
  obtain ⟨-, gone⟩ := after leaving dismissed alone (Option.some_get _).symm
  have workers : dismissed.workers = [.exited, .exited] := by decide +kernel
  have signals : dismissed.signals = [] := by decide +kernel
  apply gone rfl
  intro action inside
  cases action with
  | add => cases inside
  | shutdown => cases inside
  | signal index chosen =>
    rw [step?, signal?, signals]
    rfl
  | scan worker =>
    rw [step?, scan?, workers]
    rcases worker with _ | _ | worker <;> rfl
  | finish worker ending chosen =>
    rw [step?, finish?, workers]
    rcases worker with _ | _ | worker <;> rfl

end MessageTransport.WorkQueue.Pool
