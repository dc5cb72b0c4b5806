import Mathlib.Data.List.Perm.Subperm
import MessageTransport.Proofs.RequestTable.Refinement
import MessageTransport.Proofs.TimerQueue
import MessageTransport.Reactor

set_option autoImplicit false

namespace MessageTransport

/-- What is due and what is not due, put together, is everything. -/
theorem due_append_later {Item : Type} (due : Item → Instant) (items : List Item) (now : Instant) :
    ((items.filter (fun a => due a ≤ now)).insertionSort (fun a b => due a ≤ due b) ++
      items.filter (fun a => now < due a)).Perm items := by
  have later : items.filter (fun a => now < due a) =
      items.filter (fun a => !decide (due a ≤ now)) := by
    apply List.filter_congr
    intro a _
    rw [← decide_not, decide_eq_decide]
    exact Int.not_le.symm
  rw [later]
  exact ((List.perm_insertionSort _ _).append_right _).trans (List.filter_append_perm _ _)

variable {Handler : Type}

/-- A timer, and how many timers were added before it. -/
structure Alarm (Handler : Type) where
  serial : Nat
  due : Instant
  handler : Handler
deriving DecidableEq, Repr

namespace Alarm

def entry (a : Alarm Handler) : Deadline × Handler := (⟨a.due, a.serial⟩, a.handler)

/-- Earlier deadlines first, and of equal ones the earlier addition. -/
def Before (a b : Alarm Handler) : Prop := a.due < b.due ∨ a.due = b.due ∧ a.serial < b.serial

/-- The timers that are due, by deadline and then by the order in which they were added. -/
def expired (alarms : List (Alarm Handler)) (now : Instant) : List (Alarm Handler) :=
  (alarms.filter (fun a => a.due ≤ now)).insertionSort (fun a b => a.due ≤ b.due)

def unexpired (alarms : List (Alarm Handler)) (now : Instant) : List (Alarm Handler) :=
  alarms.filter (fun a => now < a.due)

theorem mem_expired {alarms : List (Alarm Handler)} {now : Instant} {a : Alarm Handler} :
    a ∈ expired alarms now ↔ a ∈ alarms ∧ a.due ≤ now := by
  simp only [expired, List.mem_insertionSort, List.mem_filter, decide_eq_true_eq]

theorem entry_before {a b : Alarm Handler} (before : a.Before b) :
    compare a.entry.1 b.entry.1 = .lt := by
  have lex : compare a.entry.1 b.entry.1 = (compare a.due b.due).then (compare a.serial b.serial) :=
    rfl
  rw [lex, Ordering.then_eq_lt, Std.compare_eq_lt, Std.LawfulEqCmp.compare_eq_iff_eq,
    Std.compare_eq_lt]
  exact before

/-- An alarm that was added before all others takes its place in front of those of its deadline. -/
theorem orderedInsert_before {a : Alarm Handler} {alarms : List (Alarm Handler)}
    (sorted : alarms.Pairwise Before) (first : ∀ b ∈ alarms, a.serial < b.serial) :
    (alarms.orderedInsert (fun a b => a.due ≤ b.due) a).Pairwise Before := by
  induction alarms with
  | nil => exact List.pairwise_singleton Before a
  | cons b rest ih =>
    obtain ⟨behind, ordered⟩ := List.pairwise_cons.mp sorted
    rw [List.orderedInsert_cons]
    split
    · rename_i soon
      refine List.pairwise_cons.mpr ⟨?_, sorted⟩
      intro c member
      have later : b.due ≤ c.due := by
        rcases List.mem_cons.mp member with rfl | there
        · exact Int.le_refl _
        · rcases behind c there with before | ⟨same, -⟩
          · exact Int.le_of_lt before
          · exact Int.le_of_eq same
      rcases Int.lt_or_eq_of_le (Int.le_trans soon later) with before | same
      · exact .inl before
      · exact .inr ⟨same, first c member⟩
    · rename_i late
      refine List.pairwise_cons.mpr ⟨?_, ih ordered fun c there =>
        first c (List.mem_cons_of_mem _ there)⟩
      intro c member
      rcases (List.mem_orderedInsert (fun a b : Alarm Handler => a.due ≤ b.due)).mp member with
        rfl | there
      · exact .inl (Int.not_le.mp late)
      · exact behind c there

/-- Sorting by deadline keeps the order of addition among equal deadlines. -/
theorem insertionSort_before {alarms : List (Alarm Handler)}
    (inOrder : alarms.Pairwise (fun a b => a.serial < b.serial)) :
    (alarms.insertionSort (fun a b => a.due ≤ b.due)).Pairwise Before := by
  induction alarms with
  | nil => exact .nil
  | cons a rest ih =>
    obtain ⟨first, ordered⟩ := List.pairwise_cons.mp inOrder
    refine orderedInsert_before (ih ordered) ?_
    intro b member
    exact first b ((List.mem_insertionSort _).mp member)

theorem expired_before {alarms : List (Alarm Handler)}
    (inOrder : alarms.Pairwise (fun a b => a.serial < b.serial)) (now : Instant) :
    (expired alarms now).Pairwise Before :=
  insertionSort_before (inOrder.filter _)

theorem expired_append_unexpired (alarms : List (Alarm Handler)) (now : Instant) :
    (expired alarms now ++ unexpired alarms now).Perm alarms :=
  due_append_later due alarms now

end Alarm

namespace TimerQueue

/-- A queue holds the timers of a list, in the order in which they were added. -/
structure Represents (q : TimerQueue Handler) (alarms : List (Alarm Handler)) : Prop where
  entries : q.timers.toList.Perm (alarms.map Alarm.entry)
  inOrder : alarms.Pairwise (fun a b => a.serial < b.serial)
  numbered : ∀ a ∈ alarms, a.serial < q.nextSerial

variable {q : TimerQueue Handler} {alarms : List (Alarm Handler)}

theorem represents_empty : (empty : TimerQueue Handler).Represents [] where
  entries := .refl _
  inOrder := .nil
  numbered a member := by cases member

theorem Represents.insert (represents : q.Represents alarms) (due : Instant) (handler : Handler) :
    (q.insert due handler).Represents (alarms ++ [⟨q.nextSerial, due, handler⟩]) where
  entries := by
    -- the serial number of the new key is larger than all others, so nothing is replaced
    have kept : q.timers.toList.filter
        (fun timer => decide ¬((⟨due, q.nextSerial⟩ : Deadline) == timer.1) = true) =
          q.timers.toList := by
      apply List.filter_eq_self.mpr
      intro timer member
      obtain ⟨a, there, rfl⟩ := List.mem_map.mp (represents.entries.mem_iff.mp member)
      apply decide_eq_true
      intro same
      have serial := congrArg Deadline.serial (eq_of_beq same)
      exact Nat.ne_of_gt (represents.numbered a there) serial
    refine Std.TreeMap.toList_insert_perm.trans ?_
    rw [kept, List.map_append]
    exact (represents.entries.cons _).trans (List.perm_append_singleton _ _).symm
  inOrder := by
    refine List.pairwise_append.mpr ⟨represents.inOrder, List.pairwise_singleton _ _, ?_⟩
    intro a member b last
    rw [List.mem_singleton.mp last]
    exact represents.numbered a member
  numbered a member := by
    rcases List.mem_append.mp member with there | last
    · exact Nat.lt_succ_of_lt (represents.numbered a there)
    · rw [List.mem_singleton.mp last]
      exact Nat.lt_succ_self _

theorem nextSerial_drainExpired (q : TimerQueue Handler) (now : Instant) :
    (q.drainExpired now).2.nextSerial = q.nextSerial := by
  fun_induction drainExpired q now with
  | case1 q none => rfl
  | case2 q handler some handlers rest drained ih =>
    rw [drained] at ih
    rcases q.nextExpired_cases now with ⟨none, -⟩ | ⟨timer, -, taken, -⟩
    · rw [none] at some
      cases some
    · rw [taken] at ih
      exact ih

/-- Draining takes out the timers that are due, in their order, and leaves the rest. -/
theorem Represents.drainExpired (represents : q.Represents alarms) (now : Instant) :
    (q.drainExpired now).1 = (Alarm.expired alarms now).map Alarm.handler ∧
      (q.drainExpired now).2.Represents (Alarm.unexpired alarms now) := by
  obtain ⟨handlers, left⟩ := q.drainExpired_eq now
  have due : q.dueBy now = (Alarm.expired alarms now).map Alarm.entry := by
    have sorted : (q.dueBy now).Pairwise (fun a b => compare a.1 b.1 = .lt) :=
      Std.TreeMap.ordered_keys_toList.filter _
    have ordered : ((Alarm.expired alarms now).map Alarm.entry).Pairwise
        (fun a b => compare a.1 b.1 = .lt) :=
      (Alarm.expired_before represents.inOrder now).map Alarm.entry fun _ _ => Alarm.entry_before
    have same : (q.dueBy now).Perm ((Alarm.expired alarms now).map Alarm.entry) := by
      refine (represents.entries.filter _).trans ?_
      rw [List.filter_map]
      exact (List.perm_insertionSort _ _).symm.map Alarm.entry
    apply same.eq_of_pairwise _ sorted ordered
    intro a b _ _ before after
    exact absurd after (Std.OrientedCmp.not_lt_of_lt before)
  refine ⟨?_, ?_, represents.inOrder.filter _, ?_⟩
  · rw [handlers, due, List.map_map]
    rfl
  · rw [left]
    refine (represents.entries.filter _).trans ?_
    rw [List.filter_map]
    rfl
  · intro a member
    rw [nextSerial_drainExpired]
    exact represents.numbered a (List.mem_of_mem_filter member)

end TimerQueue

theorem Ledger.expired_append_unexpired (l : Ledger Handler) (now : Instant) :
    (l.expired now ++ l.unexpired now).Perm l :=
  due_append_later PendingRequest.expiry l now

namespace Reactor

/-- What is done about the deadlines of a reactor. -/
inductive Op (Handler : Type) where
  | addRequest (request : PendingRequest Handler)
  | addTimer (due : Instant) (handler : Handler)
  | removeRequest (id : UInt32)
  | sweep (now : Instant)
deriving DecidableEq, Repr

def perform (r : Reactor Handler) : Op Handler → Reactor Handler
  | .addRequest request => r.addRequest request
  | .addTimer due handler => r.addTimer due handler
  | .removeRequest id => (r.removeRequest id).2
  | .sweep now => (r.sweep now).2

/-- The calls of an operation, if it is a sweep. -/
def callsOf (panics : Handler → Event → Bool) (r : Reactor Handler) :
    Op Handler → List (List (Delivery Handler))
  | .sweep now => [r.sweepCalls panics now]
  | .addRequest _ | .addTimer _ _ | .removeRequest _ => []

/-- The calls of each sweep of a run. -/
def told (panics : Handler → Event → Bool) :
    Reactor Handler → List (Op Handler) → List (List (Delivery Handler))
  | _, [] => []
  | r, op :: ops => r.callsOf panics op ++ told panics (r.perform op) ops

end Reactor

/-- What a sweep takes out. -/
structure Round (Handler : Type) where
  now : Instant
  requests : Ledger Handler
  timers : List (Alarm Handler)

namespace Round

/-- The requests are told first, and each of them of itself. -/
def calls (round : Round Handler) : List (Delivery Handler) :=
  round.requests.map (fun r => ⟨r.handler, .failed r.remote r.connId r.id .requestTimeout⟩) ++
    round.timers.map (fun a => ⟨a.handler, .timer⟩)

/-- Everything is due, and comes in its order. -/
structure Timely (round : Round Handler) : Prop where
  requestsDue : ∀ r ∈ round.requests, r.expiry ≤ round.now
  requestsInOrder : round.requests.Pairwise (fun a b => a.expiry ≤ b.expiry)
  timersDue : ∀ a ∈ round.timers, a.due ≤ round.now
  timersInOrder : round.timers.Pairwise Alarm.Before

end Round

/-- What is pending, in the order in which it was added. -/
structure Agenda (Handler : Type) where
  requests : Ledger Handler := []
  timers : List (Alarm Handler) := []
  /-- How many timers have been added. -/
  added : Nat := 0

namespace Agenda

open Reactor (Op)

def round (a : Agenda Handler) (now : Instant) : Round Handler :=
  ⟨now, a.requests.expired now, Alarm.expired a.timers now⟩

def after (a : Agenda Handler) : Op Handler → Agenda Handler
  | .addRequest request => { a with requests := a.requests.insert request }
  | .addTimer due handler =>
    { a with timers := a.timers ++ [⟨a.added, due, handler⟩], added := a.added + 1 }
  | .removeRequest id => { a with requests := a.requests.without id }
  | .sweep now =>
    { a with requests := a.requests.unexpired now, timers := Alarm.unexpired a.timers now }

def roundOf (a : Agenda Handler) : Op Handler → List (Round Handler)
  | .sweep now => [a.round now]
  | .addRequest _ | .addTimer _ _ | .removeRequest _ => []

/-- The rounds of the sweeps of a run. -/
def rounds : Agenda Handler → List (Op Handler) → List (Round Handler)
  | _, [] => []
  | a, op :: ops => a.roundOf op ++ (a.after op).rounds ops

/-- The requests that a run adds. -/
def requested : List (Op Handler) → Ledger Handler
  | [] => []
  | .addRequest request :: ops => request :: requested ops
  | _ :: ops => requested ops

/-- The timers that a run adds, if so many have been added before. -/
def booked : Nat → List (Op Handler) → List (Alarm Handler)
  | _, [] => []
  | added, .addTimer due handler :: ops => ⟨added, due, handler⟩ :: booked (added + 1) ops
  | added, _ :: ops => booked added ops

theorem le_serial_of_booked {ops : List (Op Handler)} {added : Nat} {alarm : Alarm Handler}
    (member : alarm ∈ booked added ops) : added ≤ alarm.serial := by
  induction ops generalizing added with
  | nil => cases member
  | cons op ops ih =>
    cases op with
    | addTimer due handler =>
      rcases List.mem_cons.mp member with rfl | there
      · exact Nat.le_refl _
      · exact Nat.le_of_succ_le (ih there)
    | addRequest request => exact ih member
    | removeRequest id => exact ih member
    | sweep now => exact ih member

/-- The timers of a run are told apart by their numbers. -/
theorem booked_nodup (ops : List (Op Handler)) (added : Nat) : (booked added ops).Nodup := by
  induction ops generalizing added with
  | nil => exact List.nodup_nil
  | cons op ops ih =>
    cases op with
    | addTimer due handler =>
      refine List.nodup_cons.mpr ⟨?_, ih (added + 1)⟩
      intro there
      exact Nat.not_succ_le_self added (le_serial_of_booked there)
    | addRequest request => exact ih added
    | removeRequest id => exact ih added
    | sweep now => exact ih added

/-- No timer gets lost, and none is taken out twice: those that the rounds take out and those that
are left in the end are those that there were and those that were added. -/
theorem timers_rounds (a : Agenda Handler) (ops : List (Op Handler)) :
    ((a.rounds ops).flatMap Round.timers ++ (ops.foldl after a).timers).Perm
      (a.timers ++ booked a.added ops) := by
  induction ops generalizing a with
  | nil =>
    rw [booked, List.append_nil]
    exact .refl _
  | cons op ops ih =>
    have rest := ih (a.after op)
    rw [rounds, List.flatMap_append, List.foldl_cons, List.append_assoc]
    cases op with
    | addRequest request => exact rest
    | removeRequest id => exact rest
    | addTimer due handler =>
      refine rest.trans ?_
      rw [booked, after, List.append_assoc]
      exact .refl _
    | sweep now =>
      refine (rest.append_left _).trans ?_
      rw [← List.append_assoc]
      refine List.Perm.append_right _ ?_
      rw [roundOf, List.flatMap_singleton]
      exact Alarm.expired_append_unexpired a.timers now

/-- No request is taken out more often than it was added. -/
theorem requests_rounds (a : Agenda Handler) (ops : List (Op Handler)) :
    ((a.rounds ops).flatMap Round.requests ++ (ops.foldl after a).requests).Subperm
      (a.requests ++ requested ops) := by
  induction ops generalizing a with
  | nil =>
    rw [requested, List.append_nil]
    exact .refl _
  | cons op ops ih =>
    have rest := ih (a.after op)
    rw [rounds, List.flatMap_append, List.foldl_cons, List.append_assoc]
    cases op with
    | addTimer due handler => exact rest
    | removeRequest id =>
      exact rest.trans (List.filter_sublist.append_right _).subperm
    | addRequest request =>
      refine rest.trans ?_
      rw [requested, after, Ledger.insert, List.append_assoc]
      exact (List.filter_sublist.append_right _).subperm
    | sweep now =>
      refine ((List.subperm_append_left _).mpr rest).trans ?_
      rw [← List.append_assoc]
      refine (List.Perm.append_right _ ?_).subperm
      rw [roundOf, List.flatMap_singleton]
      exact a.requests.expired_append_unexpired now

end Agenda

namespace Reactor

/-- A reactor has what is on an agenda pending, and nothing else. -/
structure Keeps (r : Reactor Handler) (a : Agenda Handler) : Prop where
  requests : r.requests.Represents a.requests
  timers : r.timers.Represents a.timers
  added : r.timers.nextSerial = a.added

variable {r : Reactor Handler} {a : Agenda Handler}

theorem keeps_empty (index : Nat) : ({ index } : Reactor Handler).Keeps {} where
  requests := RequestTable.represents_empty
  timers := TimerQueue.represents_empty
  added := rfl

theorem Keeps.perform (keeps : r.Keeps a) (op : Op Handler) :
    (r.perform op).Keeps (a.after op) := by
  cases op with
  | addRequest request => exact { keeps with requests := keeps.requests.insert request }
  | addTimer due handler =>
    refine ⟨keeps.requests, ?_, congrArg (· + 1) keeps.added⟩
    rw [Agenda.after, ← keeps.added]
    exact keeps.timers.insert due handler
  | removeRequest id => exact { keeps with requests := (keeps.requests.remove id).2 }
  | sweep now =>
    refine ⟨(keeps.requests.drainExpired now).2, (keeps.timers.drainExpired now).2, ?_⟩
    exact (TimerQueue.nextSerial_drainExpired r.timers now).trans keeps.added

/-- A sweep makes the calls of the round that its agenda gives out, whoever panics. -/
theorem Keeps.sweepCalls (keeps : r.Keeps a) (panics : Handler → Event → Bool) (now : Instant) :
    r.sweepCalls panics now = (a.round now).calls := by
  have given : (r.sweep now).1 = (r.requests.drainExpired now).1.map timedOut ++
      (r.timers.drainExpired now).1.map (fun handler => ⟨handler, .timer⟩) := rfl
  rw [Reactor.sweepCalls, Delivery.calls_guarded, given, (keeps.requests.drainExpired now).1,
    (keeps.timers.drainExpired now).1, List.map_map]
  rfl

theorem Keeps.round_timely (keeps : r.Keeps a) (now : Instant) : (a.round now).Timely where
  requestsDue _ member := (Ledger.mem_expired.mp member).2
  requestsInOrder := List.pairwise_insertionSort _ _
  timersDue _ member := (Alarm.mem_expired.mp member).2
  timersInOrder := Alarm.expired_before keeps.timers.inOrder now

/-- An operation gives out the round of its agenda, if it gives out any. -/
theorem Keeps.callsOf (keeps : r.Keeps a) (panics : Handler → Event → Bool) (op : Op Handler) :
    r.callsOf panics op = (a.roundOf op).map Round.calls ∧
      ∀ round ∈ a.roundOf op, round.Timely := by
  have quiet : ∀ round ∈ ([] : List (Round Handler)), round.Timely := by
    intro round member
    cases member
  cases op with
  | sweep now =>
    refine ⟨congrArg ([·]) (keeps.sweepCalls panics now), ?_⟩
    intro round member
    rw [List.mem_singleton.mp member]
    exact keeps.round_timely now
  | addRequest request => exact ⟨rfl, quiet⟩
  | addTimer due handler => exact ⟨rfl, quiet⟩
  | removeRequest id => exact ⟨rfl, quiet⟩

theorem Keeps.run (keeps : r.Keeps a) (panics : Handler → Event → Bool) (ops : List (Op Handler)) :
    told panics r ops = (a.rounds ops).map Round.calls ∧
      (ops.foldl Reactor.perform r).Keeps (ops.foldl Agenda.after a) ∧
      ∀ round ∈ a.rounds ops, round.Timely := by
  induction ops generalizing r a with
  | nil =>
    refine ⟨rfl, keeps, ?_⟩
    intro round member
    cases member
  | cons op ops ih =>
    obtain ⟨calls, kept, timely⟩ := ih (keeps.perform op)
    obtain ⟨here, prompt⟩ := keeps.callsOf panics op
    refine ⟨?_, kept, ?_⟩
    · rw [told, here, calls, Agenda.rounds, List.map_append]
    · intro round member
      rcases List.mem_append.mp member with now | later
      · exact prompt round now
      · exact timely round later

/-- The sweeps of a run from an empty reactor on give out the rounds of its agenda, and what is left
on the agenda stays pending. Nothing comes early, and each round has its order. No timer comes
twice, none gets lost, and one that is due at a sweep has come by then. No request comes more often
than it was added. -/
theorem told_run (index : Nat) (panics : Handler → Event → Bool) (ops : List (Op Handler)) :
    let start : Agenda Handler := {}
    let fired := (start.rounds ops).flatMap Round.timers
    let left := ops.foldl Agenda.after start
    told panics { index } ops = (start.rounds ops).map Round.calls ∧
      (ops.foldl Reactor.perform { index }).Keeps left ∧
      (∀ round ∈ start.rounds ops, round.Timely) ∧
      fired.Nodup ∧ (fired ++ left.timers).Perm (Agenda.booked 0 ops) ∧
      (∀ now, ∀ alarm ∈ Agenda.booked 0 ops, alarm.due ≤ now →
        alarm ∈ fired ∨ alarm ∈ (left.round now).timers) ∧
      ((start.rounds ops).flatMap Round.requests ++ left.requests).Subperm
        (Agenda.requested ops) := by
  intro start fired left
  obtain ⟨calls, kept, timely⟩ := (keeps_empty index).run panics ops
  have timers : (fired ++ left.timers).Perm (Agenda.booked 0 ops) := start.timers_rounds ops
  have distinct : (fired ++ left.timers).Nodup :=
    timers.nodup_iff.mpr (Agenda.booked_nodup ops 0)
  refine ⟨calls, kept, timely, (List.nodup_append.mp distinct).1, timers, ?_,
    start.requests_rounds ops⟩
  intro now alarm member due
  rcases List.mem_append.mp (timers.mem_iff.mpr member) with before | pending
  · exact .inl before
  · exact .inr (Alarm.mem_expired.mpr ⟨pending, due⟩)

end Reactor

end MessageTransport
