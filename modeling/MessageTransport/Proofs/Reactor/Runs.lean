import MessageTransport.Proofs.Lookup
import MessageTransport.Proofs.Transport.Upkeep

set_option autoImplicit false

namespace MessageTransport

variable {Handler : Type}

namespace Connection

/-- What never changes about a connection. -/
def identity (c : Connection Handler) : UInt32 × Endpoint × Handler := (c.id, c.remote, c.handler)

theorem identity_close (c : Connection Handler) (reason : ErrorCode) :
    (c.close reason).identity = c.identity := by
  unfold close
  split <;> rfl

theorem identity_enqueue (c : Connection Handler) (chunks : List Bytes)
    (answers : List WriteAnswer) : (c.enqueue chunks answers).connection.identity = c.identity := by
  unfold enqueue
  dsimp only
  split
  · rfl
  · rfl
  · split <;> rfl

theorem state_enqueue (c : Connection Handler) (chunks : List Bytes) (answers : List WriteAnswer) :
    (c.enqueue chunks answers).connection.state = c.state := by
  unfold enqueue
  dsimp only
  split
  · rfl
  · rfl
  · split <;> rfl

theorem identity_follow (c : Connection Handler) (next : FollowUp) :
    (c.follow next).identity = c.identity := by
  cases next with
  | nothing => rfl
  | wakeWriter => rfl
  | giveUp => exact c.identity_close .brokenConnection

theorem identity_send (c : Connection Handler) (chunks : List Bytes) (answers : List WriteAnswer) :
    (c.send chunks answers).connection.identity = c.identity := by
  unfold send
  dsimp only
  split
  · exact c.identity_enqueue chunks answers
  · exact (identity_follow _ _).trans (c.identity_enqueue chunks answers)

end Connection

namespace Reactor

theorem connection?_updateConnection (r : Reactor Handler) (connId other : UInt32)
    (f : Connection Handler → Connection Handler) :
    (r.updateConnection connId f).connection? other =
      if connId = other then (r.connection? other).map f else r.connection? other := by
  unfold updateConnection
  split
  · rename_i absent
    by_cases same : connId = other
    · subst same
      rw [if_pos rfl, absent, Option.map_none]
    · rw [if_neg same]
  · rename_i c owned
    refine (getElem?_inserted r.connections connId other (f c)).trans ?_
    by_cases same : connId = other
    · subst same
      rw [if_pos rfl, if_pos rfl, owned, Option.map_some]
    · rw [if_neg same, if_neg same]
      rfl

theorem connection?_adopt (r : Reactor Handler) (c : Connection Handler) (connId : UInt32) :
    (r.adopt c).connection? connId = if c.id = connId then some c else r.connection? connId :=
  getElem?_inserted r.connections c.id connId c

theorem connection?_forget (r : Reactor Handler) (connId other : UInt32) :
    (r.forget connId).connection? other =
      if connId = other then none else r.connection? other :=
  getElem?_erased r.connections connId other

theorem index_updateConnection (r : Reactor Handler) (connId : UInt32)
    (f : Connection Handler → Connection Handler) :
    (r.updateConnection connId f).index = r.index := by
  unfold updateConnection
  split <;> rfl

/-- Reading changes nothing about a connection but its reader. -/
theorem connection?_receive (r : Reactor Handler) (c : Connection Handler)
    (answers : List ReadAnswer) (connId : UInt32) :
    (r.receive c answers).reactor.connection? connId =
      (r.updateConnection c.id (fun c' =>
        { c' with reader := (c.reader.advance answers).reader })).connection? connId := by
  unfold receive
  dsimp only
  split
  · rfl
  · rfl
  · unfold dispatch
    dsimp only
    split <;> rfl

theorem index_receive (r : Reactor Handler) (c : Connection Handler) (answers : List ReadAnswer) :
    (r.receive c answers).reactor.index = r.index := by
  have read := r.index_updateConnection c.id (fun c' =>
    { c' with reader := (c.reader.advance answers).reader })
  unfold receive
  dsimp only
  split
  · exact read
  · exact read
  · unfold dispatch
    dsimp only
    split <;> exact read

theorem eq_of_takeUp? {r next : Reactor Handler} (taken : r.takeUp? = some next) :
    next = { r with arrivals := r.arrivals.tail } := by
  unfold takeUp? at taken
  split at taken
  · cases taken
  · rename_i queued
    split at taken
    · cases taken
    · rw [queued]
      exact (Option.some.inj taken).symm

/-- What may happen to a reactor between two looks at it, except that it takes a connection over. A
connection may change, but not into another one. -/
inductive Step (r : Reactor Handler) : Reactor Handler → Prop where
  | register (connId : UInt32) : Step r (r.register connId)
  | takeUp {next : Reactor Handler} (taken : r.takeUp? = some next) : Step r next
  | update (connId : UInt32) {f : Connection Handler → Connection Handler}
    (same : ∀ c, r.connection? connId = some c → (f c).identity = c.identity) :
    Step r (r.updateConnection connId f)
  | forget (connId : UInt32) : Step r (r.forget connId)
  | insertRequest (request : PendingRequest Handler) : Step r (r.insertRequest request).2
  | removeRequest (id : UInt32) : Step r (r.removeRequest id).2
  | purge (connId : UInt32) : Step r { r with requests := (r.requests.purge connId).2 }
  | expireRequests (now : Instant) : Step r { r with requests := (r.requests.drainExpired now).2 }
  | insertTimer (due : Instant) (handler : Handler) : Step r (r.insertTimer due handler)
  | expireTimers (now : Instant) : Step r { r with timers := (r.timers.drainExpired now).2 }
  | notify : Step r r.notify
  | useWakeup : Step r { r with wakeup := false }
  | stop : Step r (Transport.stopReactor r)
  | drop : Step r r.drop

/-- The states that a reactor can be in. -/
inductive Reachable : Reactor Handler → Prop where
  | start (index : Nat) : Reachable { index }
  | adopt {r : Reactor Handler} (reached : Reachable r) (c : Connection Handler) :
    Reachable (r.adopt c)
  | next {r next : Reactor Handler} (reached : Reachable r) (step : r.Step next) : Reachable next

theorem Step.represents {r next : Reactor Handler} (step : r.Step next) {l : Ledger Handler}
    (represents : r.requests.Represents l) : ∃ rest, next.requests.Represents rest := by
  cases step with
  | takeUp taken =>
    rw [requests_takeUp? taken]
    exact ⟨l, represents⟩
  | update connId same =>
    rw [requests_updateConnection]
    exact ⟨l, represents⟩
  | insertRequest request => exact ⟨_, represents.insert request⟩
  | removeRequest id => exact ⟨_, (represents.remove id).2⟩
  | purge connId => exact ⟨_, (represents.purge connId).2.2⟩
  | expireRequests now => exact ⟨_, (represents.drainExpired now).2⟩
  | drop => exact ⟨[], RequestTable.represents_empty⟩
  | _ => exact ⟨l, represents⟩

/-- The table of a reactor holds the requests of a list. -/
theorem Reachable.represents {r : Reactor Handler} (reached : r.Reachable) :
    ∃ l, r.requests.Represents l := by
  induction reached with
  | start index => exact ⟨[], RequestTable.represents_empty⟩
  | adopt reached c ih => exact ih
  | next reached step ih =>
    obtain ⟨l, represents⟩ := ih
    exact step.represents represents

theorem Step.index {r next : Reactor Handler} (step : r.Step next) : next.index = r.index := by
  cases step with
  | takeUp taken => rw [eq_of_takeUp? taken]
  | update connId same => exact r.index_updateConnection connId _
  | _ => rfl

/-- A connection that is owned after a step was owned before it. -/
theorem Step.owned {r next : Reactor Handler} (step : r.Step next) {connId : UInt32}
    {c : Connection Handler} (owned : next.connection? connId = some c) :
    ∃ before, r.connection? connId = some before ∧ c.identity = before.identity := by
  cases step with
  | takeUp taken =>
    rw [eq_of_takeUp? taken] at owned
    exact ⟨c, owned, rfl⟩
  | update other same =>
    rw [connection?_updateConnection] at owned
    by_cases here : other = connId
    · subst here
      rw [if_pos rfl] at owned
      obtain ⟨before, there, rfl⟩ := Option.map_eq_some_iff.mp owned
      exact ⟨before, there, same before there⟩
    · rw [if_neg here] at owned
      exact ⟨c, owned, rfl⟩
  | forget other =>
    rw [connection?_forget] at owned
    by_cases here : other = connId
    · rw [if_pos here] at owned
      cases owned
    · rw [if_neg here] at owned
      exact ⟨c, owned, rfl⟩
  | stop =>
    have closed := Std.TreeMap.getElem?_map.symm.trans owned
    obtain ⟨before, there, rfl⟩ := Option.map_eq_some_iff.mp closed
    exact ⟨before, there, before.identity_close .shutdown⟩
  | drop =>
    have nothing := Std.TreeMap.getElem?_emptyc.symm.trans owned
    cases nothing
  | _ => exact ⟨c, owned, rfl⟩

/-- Each connection is kept under its own id. -/
theorem Reachable.keyed {r : Reactor Handler} (reached : r.Reachable) {connId : UInt32}
    {c : Connection Handler} (owned : r.connection? connId = some c) : c.id = connId := by
  induction reached generalizing c with
  | start index =>
    have nothing := Std.TreeMap.getElem?_emptyc.symm.trans owned
    cases nothing
  | adopt reached other ih =>
    rw [connection?_adopt] at owned
    by_cases here : other.id = connId
    · rw [if_pos here] at owned
      cases owned
      exact here
    · rw [if_neg here] at owned
      exact ih owned
  | next reached step ih =>
    obtain ⟨before, there, same⟩ := step.owned owned
    exact (congrArg Prod.fst same).trans (ih there)

theorem Reachable.addRequest {r : Reactor Handler} (reached : r.Reachable)
    (request : PendingRequest Handler) : (r.addRequest request).Reachable := by
  have inserted := reached.next (.insertRequest request)
  have added : r.addRequest request = { (r.insertRequest request).2 with
      wakeup := (r.insertRequest request).1 || (r.insertRequest request).2.wakeup } := rfl
  rw [added]
  cases (r.insertRequest request).1 with
  | true => exact inserted.next .notify
  | false => exact inserted

theorem Reachable.sweep {r : Reactor Handler} (reached : r.Reachable) (now : Instant) :
    (r.sweep now).2.Reachable :=
  (reached.next (.expireRequests now)).next (.expireTimers now)

theorem Reachable.dispatch {r : Reactor Handler} (reached : r.Reachable) (c : Connection Handler)
    (m : Message) : (r.dispatch c m).2.Reachable := by
  unfold Reactor.dispatch
  dsimp only
  split
  · exact reached
  · exact reached.next (.removeRequest m.header.id)

theorem Reachable.receive {r : Reactor Handler} (reached : r.Reachable) (c : Connection Handler)
    (answers : List ReadAnswer) : (r.receive c answers).reactor.Reachable := by
  have read := reached.next (.update c.id (f := fun c' =>
    { c' with reader := (c.reader.advance answers).reader }) (fun _ _ => rfl))
  unfold Reactor.receive
  dsimp only
  split
  · exact read
  · exact read
  · exact read.dispatch c _

theorem Reachable.detach {r : Reactor Handler} (reached : r.Reachable)
    (registry : Registry ConnectionRef) (c : Connection Handler) :
    (r.detach registry c).reactor.Reachable :=
  (reached.next (.forget c.id)).next (.purge c.id)

end Reactor

end MessageTransport
