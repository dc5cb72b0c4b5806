import MessageTransport.Synchronizer

set_option autoImplicit false

namespace MessageTransport.Synchronizer

/-- The event that a call hands over. -/
def Op.event? : Op → Option Event
  | handle e => some e
  | wait => none

/-- The synchronizer after some calls. -/
def after (s : Synchronizer) (ops : List Op) : Synchronizer :=
  ops.foldl (fun s op => (s.step op).1) s

/-- The events handled in a run, each with how many were buffered when it arrived. -/
def handled : Synchronizer → List Op → List (Event × Nat)
  | _, [] => []
  | s, op :: ops => (op.event?.map (fun e => (e, s.size))).toList ++ (s.step op).1.handled ops

/-- The answers to the waits of a run, each with how many events were buffered when the wait began. -/
def answers : Synchronizer → List Op → List (Except ErrorCode Event × Nat)
  | _, [] => []
  | s, op :: ops =>
    ((s.step op).2.map (fun answer => (answer, s.size))).toList ++ (s.step op).1.answers ops

/-- The events handled in a run, less those that end nothing and arrived when the buffer was full. -/
def kept (s : Synchronizer) (ops : List Op) : List Event :=
  ((s.handled ops).filter (fun arrival => arrival.1.isTerminal || arrival.2 < s.capacity)).map Prod.fst

/-- The answers to those waits that found anything buffered. -/
def returned (s : Synchronizer) (ops : List Op) : List (Except ErrorCode Event) :=
  ((s.answers ops).filter (fun answer => 0 < answer.2)).map Prod.fst

/-- What an event is to a caller who waits. The end of a request or a connection is a failure. -/
def outcome : Event → Except ErrorCode Event
  | .failed _ _ _ code => .error code
  | .disconnected _ _ reason => .error reason
  | e => .ok e

theorem reply_eq_outcome (e : Event) : reply e = outcome e := by
  cases e <;> rfl

@[simp] theorem after_cons (s : Synchronizer) (op : Op) (ops : List Op) :
    s.after (op :: ops) = (s.step op).1.after ops := rfl

theorem after_append (s : Synchronizer) (ops more : List Op) :
    s.after (ops ++ more) = (s.after ops).after more := List.foldl_append

theorem capacity_step (s : Synchronizer) (op : Op) : (s.step op).1.capacity = s.capacity := by
  cases op with
  | handle e =>
    show (s.handle e).capacity = s.capacity
    unfold Synchronizer.handle
    split <;> rfl
  | wait =>
    show s.wait.2.capacity = s.capacity
    unfold Synchronizer.wait
    split <;> rfl

theorem capacity_after (s : Synchronizer) (ops : List Op) : (s.after ops).capacity = s.capacity := by
  induction ops generalizing s with
  | nil => rfl
  | cons op ops ih => exact (ih (s.step op).1).trans (s.capacity_step op)

/-- An event stays in front of those that come later if it ends something or found room. -/
theorem kept_handle (s : Synchronizer) (e : Event) (ops : List Op) :
    s.kept (.handle e :: ops) =
      (if e.isTerminal ∨ s.size < s.capacity then [e] else []) ++ (s.handle e).kept ops := by
  have same : (s.handle e).capacity = s.capacity := s.capacity_step (.handle e)
  have first : s.handled (.handle e :: ops) = (e, s.size) :: (s.handle e).handled ops := rfl
  rw [kept, kept, first, same, List.filter_cons]
  by_cases room : e.isTerminal ∨ s.size < s.capacity <;> simp [room]

theorem kept_wait (s : Synchronizer) (ops : List Op) : s.kept (.wait :: ops) = s.wait.2.kept ops := by
  have same : s.wait.2.capacity = s.capacity := s.capacity_step .wait
  rw [kept, kept, same]
  rfl

theorem kept_append (s : Synchronizer) (ops more : List Op) :
    s.kept (ops ++ more) = s.kept ops ++ (s.after ops).kept more := by
  induction ops generalizing s with
  | nil => rfl
  | cons op ops ih =>
    cases op with
    | handle e => rw [List.cons_append, kept_handle, kept_handle, ih, List.append_assoc]; rfl
    | wait => rw [List.cons_append, kept_wait, kept_wait, ih]; rfl

theorem kept_waits (s : Synchronizer) (count : Nat) : s.kept (List.replicate count .wait) = [] := by
  induction count generalizing s with
  | zero => rfl
  | succ count ih => rw [List.replicate_succ, kept_wait, ih]

theorem handled_events (s : Synchronizer) (ops : List Op) :
    (s.handled ops).map Prod.fst = ops.filterMap Op.event? := by
  induction ops generalizing s with
  | nil => rfl
  | cons op ops ih =>
    cases op with
    | handle e => exact congrArg (e :: ·) (ih (s.handle e))
    | wait => exact ih s.wait.2

theorem buffer_handle (s : Synchronizer) (e : Event) :
    (s.handle e).buffer = s.buffer ++ if e.isTerminal ∨ s.size < s.capacity then [e] else [] := by
  unfold Synchronizer.handle size
  split <;> simp

theorem returned_wait (s : Synchronizer) (ops : List Op) :
    s.returned (.wait :: ops) =
      (if s.buffer = [] then [] else [s.wait.1]) ++ s.wait.2.returned ops := by
  have first : s.answers (.wait :: ops) = (s.wait.1, s.size) :: s.wait.2.answers ops := rfl
  rw [returned, returned, first, List.filter_cons]
  by_cases nothing : s.buffer = [] <;> simp [size, nothing, List.length_pos_iff]

/-- A wait runs out of time, or it takes the first event. -/
theorem wait_cases (s : Synchronizer) :
    s.buffer = [] ∧ s.wait = (.error .requestTimeout, s) ∨
      ∃ e rest, s.buffer = e :: rest ∧ s.wait = (outcome e, { s with buffer := rest }) := by
  unfold wait
  split
  · rename_i nothing
    exact .inl ⟨nothing, rfl⟩
  · rename_i e rest first
    exact .inr ⟨e, rest, first, by rw [reply_eq_outcome]⟩

/-- Only a wait that finds nothing answers with a timeout and takes nothing. -/
theorem wait_eq_timeout_iff (s : Synchronizer) :
    s.wait = (.error .requestTimeout, s) ↔ s.buffer = [] := by
  rcases s.wait_cases with ⟨nothing, answer⟩ | ⟨e, rest, first, answer⟩
  · exact iff_of_true answer nothing
  · refine iff_of_false ?_ (by rw [first]; exact List.cons_ne_nil e rest)
    intro same
    rw [answer] at same
    have fewer : rest = e :: rest := (congrArg (fun result => result.2.buffer) same).trans first
    exact List.cons_ne_self e rest fewer.symm

/-- What was buffered and what is kept in a run goes out in order, and what has not gone out is
buffered. The induction is on the calls, with whatever is buffered before them. -/
theorem buffer_append_kept (s : Synchronizer) (ops : List Op) :
    ∃ gone, s.buffer ++ s.kept ops = gone ++ (s.after ops).buffer ∧
      s.returned ops = gone.map outcome := by
  induction ops generalizing s with
  | nil => exact ⟨[], List.append_nil _, rfl⟩
  | cons op ops ih =>
    cases op with
    | handle e =>
      obtain ⟨gone, all, answered⟩ := ih (s.handle e)
      refine ⟨gone, ?_, answered⟩
      rw [kept_handle, ← List.append_assoc, ← buffer_handle]
      exact all
    | wait =>
      have next : s.after (.wait :: ops) = s.wait.2.after ops := rfl
      obtain ⟨gone, all, answered⟩ := ih s.wait.2
      rw [kept_wait, returned_wait, next]
      rcases s.wait_cases with ⟨nothing, answer⟩ | ⟨e, rest, first, answer⟩
      · refine ⟨gone, ?_, ?_⟩
        · rw [← all, answer]
        · rw [if_pos nothing, answered, List.nil_append]
      · refine ⟨e :: gone, ?_, ?_⟩
        · rw [List.cons_append, ← all, first, answer, List.cons_append]
        · rw [if_neg (by rw [first]; exact List.cons_ne_nil e rest), answered, answer]
          rfl

/-- As many waits as there are events buffered take them all. -/
theorem buffer_waits (s : Synchronizer) :
    (s.after (List.replicate s.size .wait)).buffer = [] := by
  induction buffered : s.buffer generalizing s with
  | nil =>
    rw [size, buffered]
    exact buffered
  | cons e rest ih =>
    rcases s.wait_cases with ⟨nothing, -⟩ | ⟨first, others, there, answer⟩
    · rw [nothing] at buffered
      cases buffered
    · obtain ⟨rfl, rfl⟩ := List.cons.inj (there.symm.trans buffered)
      have step : (s.step .wait).1 = { s with buffer := others } := congrArg Prod.snd answer
      have shorter := ih { s with buffer := others } rfl
      rw [size, buffered, List.length_cons, List.replicate_succ, after_cons, step]
      exact shorter

/-- Whether every event at or beyond the capacity ends something. -/
def Bounded (s : Synchronizer) : Prop :=
  ∀ (place : Nat) (e : Event), s.buffer[place]? = some e → e.isTerminal = false → place < s.capacity

theorem Bounded.handle {s : Synchronizer} (bounded : s.Bounded) (e : Event) :
    (s.handle e).Bounded := by
  intro place other there goesOn
  rw [buffer_handle, List.getElem?_append] at there
  rw [show (s.handle e).capacity = s.capacity from s.capacity_step (.handle e)]
  split at there
  · exact bounded place other there goesOn
  · obtain ⟨last, same⟩ := List.getElem?_eq_some_iff.mp there
    by_cases room : e.isTerminal ∨ s.size < s.capacity
    · simp only [room, ↓reduceIte, List.length_singleton] at last
      simp only [room, ↓reduceIte, List.getElem_singleton] at same
      subst same
      rw [goesOn] at room
      have room : s.buffer.length < s.capacity := room.resolve_left Bool.false_ne_true
      omega
    · simp only [room, ↓reduceIte, List.length_nil] at last
      omega

theorem Bounded.wait {s : Synchronizer} (bounded : s.Bounded) : s.wait.2.Bounded := by
  rcases s.wait_cases with ⟨nothing, answer⟩ | ⟨first, rest, buffered, answer⟩
  · rw [answer]
    exact bounded
  · rw [answer]
    intro place e there goesOn
    have behind : s.buffer[place + 1]? = some e := by
      rw [buffered]
      exact there
    exact Nat.lt_of_succ_lt (bounded (place + 1) e behind goesOn)

theorem Bounded.after {s : Synchronizer} (bounded : s.Bounded) (ops : List Op) :
    (s.after ops).Bounded := by
  induction ops generalizing s with
  | nil => exact bounded
  | cons op ops ih =>
    cases op with
    | handle e => exact ih (bounded.handle e)
    | wait => exact ih bounded.wait

/-- No end of a request or a connection is dropped. -/
theorem terminal_kept (s : Synchronizer) (ops : List Op) :
    (s.kept ops).filter Event.isTerminal = (ops.filterMap Op.event?).filter Event.isTerminal := by
  rw [← s.handled_events, kept, List.filter_map, List.filter_map, List.filter_filter]
  apply congrArg
  apply List.filter_congr
  intro arrival _
  show (arrival.1.isTerminal && (arrival.1.isTerminal || _)) = arrival.1.isTerminal
  cases arrival.1.isTerminal <;> rfl

/-- From a fresh synchronizer on, whatever its capacity and the calls: the events handled are those
of the calls, and of these all are kept but those that end nothing and arrived when no room was
left. The kept ones are, in order of arrival, those that waits have returned, each as a failure with
its reason if it ends something and as itself if not, and behind them those buffered; if the waits
go on, all are returned. No event at or beyond the capacity is one that ends nothing. A wait answers
with a timeout and takes nothing if and only if nothing is buffered. -/
theorem kept_of_run (capacity : Nat) (ops : List Op) :
    let fresh : Synchronizer := { capacity }
    let s := fresh.after ops
    (fresh.handled ops).map Prod.fst = ops.filterMap Op.event? ∧
      (fresh.kept ops).filter Event.isTerminal =
        (ops.filterMap Op.event?).filter Event.isTerminal ∧
      (∃ gone, fresh.kept ops = gone ++ s.buffer ∧ fresh.returned ops = gone.map outcome) ∧
      fresh.returned (ops ++ List.replicate s.size .wait) = (fresh.kept ops).map outcome ∧
      (∀ (place : Nat) (e : Event), s.buffer[place]? = some e → e.isTerminal = false →
        place < capacity) ∧
      (s.wait = (.error .requestTimeout, s) ↔ s.buffer = []) := by
  intro fresh s
  have bounded : fresh.Bounded := by
    intro place e there
    cases there
  refine ⟨fresh.handled_events ops, fresh.terminal_kept ops, fresh.buffer_append_kept ops, ?_, ?_,
    s.wait_eq_timeout_iff⟩
  · obtain ⟨gone, all, answered⟩ := fresh.buffer_append_kept (ops ++ List.replicate s.size .wait)
    rw [kept_append, kept_waits, after_append, buffer_waits, List.append_nil, List.append_nil] at all
    rw [answered, ← all]
    rfl
  · intro place e there goesOn
    have inside := bounded.after ops place e there goesOn
    rw [capacity_after] at inside
    exact inside

end MessageTransport.Synchronizer
