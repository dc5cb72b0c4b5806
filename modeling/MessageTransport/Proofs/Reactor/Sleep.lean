import MessageTransport.Proofs.RequestTable.Refinement
import MessageTransport.Proofs.TimerQueue
import MessageTransport.Reactor.Loop

set_option autoImplicit false

namespace MessageTransport

namespace RequestTable

variable {Handler : Type}

/-- No request expires before the deadline of its table. -/
theorem Represents.nextDeadline_le {t : RequestTable Handler} {l : Ledger Handler}
    (represents : t.Represents l) {r : PendingRequest Handler} (member : r ∈ l) :
    ∃ deadline, t.nextDeadline = some deadline ∧ deadline ≤ r.expiry := by
  have shown := represents.shown.nextDeadline
  have inside : r.expiry ∈ l.map PendingRequest.expiry := List.mem_map_of_mem member
  obtain ⟨deadline, least⟩ := Option.isSome_iff_exists.mp (List.isSome_min?_of_mem inside)
  exact ⟨deadline, shown.trans least, (List.min?_eq_some_iff.mp least).2 _ inside⟩

/-- The deadline of a table is the expiry of one of its requests. -/
theorem Represents.exists_expiry {t : RequestTable Handler} {l : Ledger Handler}
    (represents : t.Represents l) {deadline : Instant} (next : t.nextDeadline = some deadline) :
    ∃ r ∈ l, r.expiry = deadline := by
  rw [represents.shown.nextDeadline] at next
  exact List.mem_map.mp (List.min?_eq_some_iff.mp next).1

theorem drainExpired_of_early {t : RequestTable Handler} {now : Instant} {key : Deadline}
    {id : UInt32} (first : Deadline.earliest? t.byExpiry = some (key, id)) (early : now < key.due) :
    t.drainExpired now = ([], t) := by
  have none : (t.nextExpired now).1 = none := by
    simp only [nextExpired, first, early, ↓reduceIte]
  rw [drainExpired]
  split
  · rfl
  · rename_i some
    rw [none] at some
    cases some

end RequestTable

namespace Reactor

variable {Handler : Type}

theorem capped_le (cap : Instant) (deadline : Option Instant) : capped cap deadline ≤ cap := by
  cases deadline with
  | none => exact Int.le_refl cap
  | some deadline => exact Int.min_le_left cap deadline

theorem capped_some_le (cap deadline : Instant) : capped cap (some deadline) ≤ deadline :=
  Int.min_le_right cap deadline

/-- A request that is recorded without a wake-up expires no earlier than another. -/
theorem exists_deadline_of_later {r : Reactor Handler} {request : PendingRequest Handler}
    (later : (r.insertRequest request).1 = false) :
    ∃ deadline, r.requests.nextDeadline = some deadline ∧ deadline ≤ request.expiry := by
  unfold insertRequest at later
  cases next : r.requests.nextDeadline with
  | none =>
    simp only [next] at later
    cases later
  | some deadline =>
    simp only [next, decide_eq_false_iff_not] at later
    exact ⟨deadline, rfl, Int.not_lt.mp later⟩

namespace Phase

/-- Until when the loop will sleep at most, once it has seen the requests. -/
def bound? : Phase → Option Instant
  | planning bound => some bound
  | asleep bound => some bound
  | _ => none

end Phase

namespace Loop

/-- No wake-up has been left, and no caller has one still to leave. -/
structure Unannounced (l : Loop Handler) : Prop where
  unused : l.reactor.wakeup = false
  settled : l.owed = 0

/-- What the loop has seen is still the earliest there is, unless a wake-up says that it may not
be. -/
structure Watchful (l : Loop Handler) (pending : Ledger Handler) : Prop where
  represents : l.reactor.requests.Represents pending
  requests : l.Unannounced → ∀ bound ∈ l.phase.bound?, ∀ request ∈ pending, bound ≤ request.expiry
  timers : l.Unannounced → ∀ bound, l.phase = .asleep bound →
    ∀ timer ∈ l.reactor.timers.timers, bound ≤ timer.due

/-- The loops that any steps lead to from one that has just been started. -/
inductive Reachable (tick : Nat) : Loop Handler → Prop where
  | start (index : Nat) : Reachable tick (start index)
  | next {l next : Loop Handler} (action : Action Handler) (reached : Reachable tick l)
      (possible : l.step? tick action = some next) : Reachable tick next

theorem Reachable.run {tick : Nat} {l last : Loop Handler} (reached : Reachable tick l)
    (actions : List (Action Handler)) (possible : l.run? tick actions = some last) :
    Reachable tick last := by
  induction actions generalizing l with
  | nil =>
    obtain rfl : l = last := Option.some.inj possible
    exact reached
  | cons action rest ih =>
    obtain ⟨next, first, others⟩ := Option.bind_eq_some_iff.mp possible
    exact ih (.next action reached first) others

theorem start_watchful (index : Nat) : (start index : Loop Handler).Watchful [] := by
  refine ⟨RequestTable.represents_empty, ?_, ?_⟩
  · intro _ bound seen
    cases seen
  · intro _ bound asleep
    cases asleep

/-- Requests that are taken out leave nothing that expires earlier than before. -/
theorem Watchful.fewer {l : Loop Handler} {pending rest : Ledger Handler}
    (watchful : l.Watchful pending) {requests : RequestTable Handler}
    (represents : requests.Represents rest) (fewer : ∀ request ∈ rest, request ∈ pending) :
    Watchful { l with reactor := { l.reactor with requests } } rest := by
  refine ⟨represents, ?_, ?_⟩
  · intro quiet bound seen request member
    exact watchful.requests ⟨quiet.unused, quiet.settled⟩ bound seen request (fewer request member)
  · intro quiet
    exact watchful.timers ⟨quiet.unused, quiet.settled⟩

theorem Watchful.insertRequest {l : Loop Handler} {pending : Ledger Handler}
    (watchful : l.Watchful pending) (request : PendingRequest Handler) :
    Watchful
      { l with
        reactor := (l.reactor.insertRequest request).2
        owed := if (l.reactor.insertRequest request).1 then l.owed + 1 else l.owed }
      (pending.insert request) := by
  refine ⟨watchful.represents.insert request, ?_, ?_⟩
  · intro quiet bound seen other member
    have settled := quiet.settled
    cases earlier : (l.reactor.insertRequest request).1 with
    | true =>
      simp only [earlier, ↓reduceIte] at settled
      omega
    | false =>
      simp only [earlier, Bool.false_eq_true, ↓reduceIte] at settled
      have before := watchful.requests ⟨quiet.unused, settled⟩ bound seen
      rcases Ledger.mem_insert.mp member with ⟨old, -⟩ | rfl
      · exact before other old
      -- No wake-up is left for it, but it expires no earlier than a request that was there before.
      · obtain ⟨deadline, next, later⟩ := exists_deadline_of_later earlier
        obtain ⟨first, there, rfl⟩ := watchful.represents.exists_expiry next
        exact Int.le_trans (before first there) later
  · intro quiet bound asleep
    have settled : (if (l.reactor.insertRequest request).1 then l.owed + 1 else l.owed) = 0 :=
      quiet.settled
    refine watchful.timers ⟨quiet.unused, ?_⟩ bound asleep
    split at settled
    · omega
    · exact settled

/-- A loop that has a wake-up to use or to wait for has promised nothing. -/
theorem Watchful.announced {l : Loop Handler} {pending : Ledger Handler}
    (represents : l.reactor.requests.Represents pending) (announced : ¬l.Unannounced) :
    l.Watchful pending :=
  ⟨represents, fun quiet => absurd quiet announced, fun quiet => absurd quiet announced⟩

/-- A loop that has not seen the requests has promised nothing. -/
theorem Watchful.unseen {l : Loop Handler} {pending : Ledger Handler}
    (represents : l.reactor.requests.Represents pending) (unseen : l.phase.bound? = none) :
    l.Watchful pending := by
  refine ⟨represents, ?_, ?_⟩
  · intro _ bound seen
    rw [unseen] at seen
    cases seen
  · intro _ bound asleep
    rw [asleep] at unseen
    cases unseen

theorem Watchful.seeRequests {l : Loop Handler} {pending : Ledger Handler}
    (watchful : l.Watchful pending) (cap : Instant) :
    Watchful { l with phase := .planning (capped cap l.reactor.requests.nextDeadline) } pending := by
  refine ⟨watchful.represents, ?_, ?_⟩
  · intro _ bound seen request member
    obtain rfl := Option.some.inj seen
    obtain ⟨deadline, next, least⟩ := watchful.represents.nextDeadline_le member
    rw [next]
    exact Int.le_trans (capped_some_le cap deadline) least
  · intro _ bound asleep
    cases asleep

theorem Watchful.seeTimers {l : Loop Handler} {pending : Ledger Handler}
    (watchful : l.Watchful pending) {bound : Instant} (planning : l.phase = .planning bound) :
    Watchful { l with phase := .asleep (capped bound l.reactor.timers.nextDeadline) } pending := by
  refine ⟨watchful.represents, ?_, ?_⟩
  · intro quiet until' seen request member
    obtain rfl := Option.some.inj seen
    have before := watchful.requests ⟨quiet.unused, quiet.settled⟩ bound
      (by rw [planning]; rfl) request member
    exact Int.le_trans (capped_le bound _) before
  · intro _ until' asleep timer there
    obtain rfl := Phase.asleep.inj asleep
    obtain ⟨deadline, next, least⟩ := TimerQueue.nextDeadline_le there
    rw [next]
    exact Int.le_trans (capped_some_le bound deadline) least

theorem Watchful.step {tick : Nat} {l next : Loop Handler} {pending : Ledger Handler}
    (watchful : l.Watchful pending) {action : Action Handler}
    (possible : l.step? tick action = some next) : ∃ rest, next.Watchful rest := by
  have represents := watchful.represents
  cases action with
  | insertRequest request =>
    obtain rfl := Option.some.inj possible
    exact ⟨_, watchful.insertRequest request⟩
  | insertTimer due handler =>
    obtain rfl := Option.some.inj possible
    exact ⟨pending, .announced represents (fun quiet => Nat.succ_ne_zero _ quiet.settled)⟩
  | notify =>
    simp only [step?] at possible
    split at possible
    · cases possible
    · obtain rfl := Option.some.inj possible
      exact ⟨pending, .announced represents (fun quiet => Bool.noConfusion quiet.unused)⟩
  | removeRequest id =>
    obtain rfl := Option.some.inj possible
    refine ⟨_, watchful.fewer (represents.remove id).2 ?_⟩
    intro request member
    exact (Ledger.mem_without.mp member).1
  | purge connId =>
    obtain rfl := Option.some.inj possible
    refine ⟨_, watchful.fewer (represents.purge connId).2.2 ?_⟩
    intro request member
    exact (Ledger.mem_ofOthers.mp member).1
  | seeRequests now =>
    simp only [step?] at possible
    split at possible
    · obtain rfl := Option.some.inj possible
      exact ⟨pending, watchful.seeRequests _⟩
    · cases possible
  | seeTimers =>
    simp only [step?] at possible
    split at possible
    · rename_i bound planning
      obtain rfl := Option.some.inj possible
      exact ⟨pending, watchful.seeTimers planning⟩
    · cases possible
  | wake usesWakeup =>
    simp only [step?] at possible
    split at possible
    · split at possible
      · cases possible
      · obtain rfl := Option.some.inj possible
        exact ⟨pending, .unseen represents rfl⟩
    · cases possible
  | sweepRequests now =>
    simp only [step?] at possible
    split at possible
    · obtain rfl := Option.some.inj possible
      exact ⟨_, .unseen (represents.drainExpired now).2 rfl⟩
    · cases possible
  | sweepTimers =>
    simp only [step?] at possible
    split at possible
    · obtain rfl := Option.some.inj possible
      exact ⟨pending, .unseen represents rfl⟩
    · cases possible

theorem Reachable.watchful {tick : Nat} {l : Loop Handler} (reached : Reachable tick l) :
    ∃ pending, l.Watchful pending := by
  induction reached with
  | start index => exact ⟨[], start_watchful index⟩
  | next action _ possible ih =>
    obtain ⟨pending, watchful⟩ := ih
    exact watchful.step possible

/-- Whatever is recorded, taken out and purged while the loop looks, sleeps and sweeps: if it sleeps
with no wake-up left for it and none to come, it wakes no later than the first pending request
expires and the first timer is due. -/
theorem bound_le_of_reachable {tick : Nat} {l : Loop Handler} (reached : Reachable tick l)
    {bound : Instant} (asleep : l.phase = .asleep bound) (unused : l.reactor.wakeup = false)
    (settled : l.owed = 0) :
    (∀ id request, l.reactor.requests.pending? id = some request → bound ≤ request.expiry) ∧
      ∀ timer ∈ l.reactor.timers.timers, bound ≤ timer.due := by
  obtain ⟨pending, watchful⟩ := reached.watchful
  have quiet : l.Unannounced := ⟨unused, settled⟩
  have seen : bound ∈ l.phase.bound? := by rw [asleep]; rfl
  refine ⟨?_, watchful.timers quiet bound asleep⟩
  intro id request found
  rw [← watchful.represents.lookUp] at found
  exact watchful.requests quiet bound seen request (Ledger.of_lookUp found).1

def asking (id : UInt32) (expiry : Instant) : PendingRequest Nat :=
  ⟨id, 1, ⟨.v4 1, 80⟩, 7, expiry⟩

def oneRequest : RequestTable Nat := RequestTable.empty.insert (asking 1 20)

def oneTimer : TimerQueue Nat := TimerQueue.empty.insert 10 8

/-- A request and a timer came after the loop had seen the requests, and their wake-up was used. -/
def roused : Loop Nat where
  reactor := { index := 0, requests := oneRequest, timers := oneTimer }
  phase := .awake

/-- The loop sleeps again, and a second request has come that expires after the first. -/
def dozing : Loop Nat where
  reactor := { index := 0, requests := oneRequest.insert (asking 2 30), timers := oneTimer }
  phase := .asleep 10

theorem roused_reachable : Reachable 50 roused := by
  have nothing : (RequestTable.empty : RequestTable Nat).nextDeadline = none :=
    congrArg (Option.map _) (Deadline.earliest?_eq_none_iff.mpr Std.TreeMap.isEmpty_emptyc)
  apply Reachable.run (.start 0) [.seeRequests 0, .insertRequest (asking 1 20), .insertTimer 10 8,
    .seeTimers, .notify, .notify, .wake true]
  simp only [run?, step?, start, insertRequest, nothing, Option.bind_some]
  rfl

theorem dozing_reachable : Reachable 50 dozing := by
  have request : Deadline.earliest? oneRequest.byExpiry = _ := Deadline.earliest?_singleton _ _
  have timer : Deadline.earliest? oneTimer.timers = _ := Deadline.earliest?_singleton _ _
  have unexpired : oneRequest.drainExpired 1 = ([], oneRequest) :=
    RequestTable.drainExpired_of_early request (by decide)
  have early : oneTimer.drainExpired 1 = ([], oneTimer) :=
    TimerQueue.drainExpired_of_early timer (by decide)
  have expires : oneRequest.nextDeadline = some 20 := congrArg (Option.map _) request
  have due : oneTimer.nextDeadline = some 10 := congrArg (Option.map _) timer
  apply roused_reachable.run [.sweepRequests 1, .sweepTimers, .seeRequests 1, .seeTimers,
    .insertRequest (asking 2 30)]
  simp only [run?, step?, roused, insertRequest, unexpired, early, expires, due, Option.bind_some]
  rfl

theorem bound_le_of_reachable_dozing :
    dozing.phase = .asleep 10 ∧ dozing.reactor.wakeup = false ∧ dozing.owed = 0 ∧
      dozing.reactor.requests.pending? 2 = some (asking 2 30) ∧
      (∀ id request, dozing.reactor.requests.pending? id = some request →
        10 ≤ request.expiry) ∧
      ∀ timer ∈ dozing.reactor.timers.timers, 10 ≤ timer.due :=
  ⟨rfl, rfl, rfl, by decide +kernel, bound_le_of_reachable dozing_reachable rfl rfl rfl⟩

end Loop

end Reactor

end MessageTransport
