import MessageTransport.Proofs.Reactor.Runs
import MessageTransport.Proofs.Registry
import MessageTransport.Reactor.Task

set_option autoImplicit false

namespace MessageTransport

variable {Handler : Type}

/-- A reactor and the registry in which its connections are found, which all reactors share. -/
structure Site (Handler : Type) where
  reactor : Reactor Handler
  registry : Registry ConnectionRef := .empty

namespace Site

/-- What may happen at a site. A connection is taken over under a reference that the registry does
not hold yet, and is registered unless a live one is there. Whatever else is done to the registry,
by this reactor or by others, brings in no reference to this reactor. -/
inductive Step (s : Site Handler) : Site Handler → Prop where
  | reactor {next : Reactor Handler} (step : s.reactor.Step next) :
    Step s { s with reactor := next }
  | install (c : Connection Handler) (live : ConnectionRef → Bool)
    (unknown : ∀ remote : Endpoint, s.registry.entries[remote]? ≠ some (s.reactor.refTo c.id)) :
    Step s ⟨s.reactor.adopt c, (s.registry.insert live c.remote (s.reactor.refTo c.id)).2⟩
  | registry {next : Registry ConnectionRef}
    (known : ∀ (remote : Endpoint) (connId : UInt32),
      next.entries[remote]? = some (s.reactor.refTo connId) →
        s.registry.entries[remote]? = some (s.reactor.refTo connId)) :
    Step s { s with registry := next }

inductive Reachable : Site Handler → Prop where
  | start (index : Nat) : Reachable ⟨{ index }, .empty⟩
  | next {s next : Site Handler} (reached : Reachable s) (step : s.Step next) : Reachable next

theorem Reachable.reactor {s : Site Handler} (reached : s.Reachable) : s.reactor.Reachable := by
  induction reached with
  | start index => exact .start index
  | next reached step ih =>
    cases step with
    | reactor step => exact ih.next step
    | install c live unknown => exact ih.adopt c
    | registry known => exact ih

/-- Each connection is registered at no endpoint but its own. -/
theorem Reachable.registered {s : Site Handler} (reached : s.Reachable) {remote : Endpoint}
    {connId : UInt32} (held : s.registry.entries[remote]? = some (s.reactor.refTo connId))
    {c : Connection Handler} (owned : s.reactor.connection? connId = some c) :
    c.remote = remote := by
  induction reached generalizing c connId with
  | start index =>
    have nothing := Std.TreeMap.getElem?_emptyc.symm.trans owned
    cases nothing
  | @next s next reached step ih =>
    cases step with
    | @reactor after step =>
      obtain ⟨before, there, same⟩ := step.owned owned
      have index : after.refTo connId = s.reactor.refTo connId := by
        rw [Reactor.refTo, step.index, Reactor.refTo]
      have kept := ih (held.trans (congrArg some index)) there
      exact (congrArg (fun identity => identity.2.1) same).trans kept
    | install fresh live unknown =>
      rw [Reactor.connection?_adopt] at owned
      by_cases here : fresh.id = connId
      · rw [if_pos here] at owned
        cases owned
        subst here
        rcases s.registry.entries_insert live c.remote remote (s.reactor.refTo c.id) with
          same | ⟨same, -⟩
        · exact absurd (same.symm.trans held) (unknown remote)
        · exact same
      · rw [if_neg here] at owned
        rcases s.registry.entries_insert live fresh.remote remote (s.reactor.refTo fresh.id) with
          same | ⟨-, own⟩
        · exact ih (same.symm.trans held) owned
        · have other := Option.some.inj (own.symm.trans held)
          exact absurd (congrArg ConnectionRef.connId other) here
    | registry known => exact ih (known remote connId held) owned

/-- What a connection leaves behind that has been taken out of a site: it is closed and nowhere
found, none of its requests is pending, and everything else is as it was. -/
structure Settled (s : Site Handler) (l : Ledger Handler) (c : Connection Handler)
    (d : Reactor.Detached Handler) : Prop where
  closed : d.connection.state = .closed
  emptied : d.connection.outbound.isEmpty = true
  disowned : d.reactor.connection? c.id = none
  unregistered : ∀ remote : Endpoint, d.registry.entries[remote]? ≠ some (s.reactor.refTo c.id)
  requests : d.reactor.requests.Represents (l.ofOthers c.id)
  unswept : ∀ now, ∀ told ∈ (d.reactor.sweep now).1, told.event.connId? ≠ some c.id
  connections : ∀ connId, connId ≠ c.id →
    d.reactor.connection? connId = s.reactor.connection? connId
  registrations : ∀ (remote : Endpoint) (ref : ConnectionRef), ref ≠ s.reactor.refTo c.id →
    (d.registry.entries[remote]? = some ref ↔ s.registry.entries[remote]? = some ref)
  others : d.reactor = { s.reactor with
    requests := d.reactor.requests
    connections := d.reactor.connections }

/-- A sweep tells of no connection that has no request pending. -/
theorem connId?_sweep {r : Reactor Handler} {l : Ledger Handler}
    (represents : r.requests.Represents l) {connId : UInt32} (none : ∀ q ∈ l, q.connId ≠ connId)
    {now : Instant} {told : Delivery Handler} (member : told ∈ (r.sweep now).1) :
    told.event.connId? ≠ some connId := by
  rcases List.mem_append.mp member with expired | due
  · obtain ⟨q, drained, rfl⟩ := List.mem_map.mp expired
    rw [(represents.drainExpired now).1] at drained
    have apart := none q (Ledger.mem_expired.mp drained).1
    exact fun same => apart (Option.some.inj same)
  · obtain ⟨handler, -, rfl⟩ := List.mem_map.mp due
    exact Option.some_ne_none connId ∘ Eq.symm

theorem settled_detach {s : Site Handler} {l : Ledger Handler}
    (represents : s.reactor.requests.Represents l) {c : Connection Handler}
    (registered : ∀ remote : Endpoint, s.registry.entries[remote]? = some (s.reactor.refTo c.id) →
      c.remote = remote) : s.Settled l c (s.reactor.detach s.registry c) := by
  have left : (s.reactor.detach s.registry c).reactor.requests.Represents (l.ofOthers c.id) :=
    (represents.purge c.id).2.2
  have entries (remote : Endpoint) := s.registry.entries_removeHandle c.remote remote
    (s.reactor.refTo c.id)
  have owned (connId : UInt32) := getElem?_erased s.reactor.connections c.id connId
  refine ⟨rfl, rfl, ?_, ?_, left, ?_, ?_, ?_, rfl⟩
  · exact (owned c.id).trans (if_pos rfl)
  · intro remote held
    have found := (entries remote).symm.trans held
    split at found
    · cases found
    · rename_i kept
      obtain rfl := registered remote found
      exact kept ⟨rfl, found⟩
  · intro now told member
    exact connId?_sweep left (fun q there => (Ledger.mem_ofOthers.mp there).2) member
  · intro connId apart
    exact (owned connId).trans (if_neg apart.symm)
  · intro remote ref apart
    show (s.registry.removeHandle c.remote (s.reactor.refTo c.id)).2.entries[remote]? = some ref ↔ _
    rw [entries]
    split
    · rename_i taken
      obtain ⟨rfl, held⟩ := taken
      rw [held]
      exact iff_of_false (fun none => by cases none) (fun same => apart (Option.some.inj same).symm)
    · rfl

/-- Whatever connections a reactor has and whatever is pending on it: if the handlers that it calls
return, the teardown of a connection tells each request of this connection and no other, in order of
expiry, that it has failed, and in the end the connection's handler why it closed. When the first of
them is told, the connection has been taken out, and everything else is as it was. -/
theorem teardown_settles {s : Site Handler} (reached : s.Reachable) {connId : UInt32}
    {c : Connection Handler} (owned : s.reactor.connection? connId = some c) (reason : ErrorCode)
    (panics : Handler → Event → Bool)
    (quiet : ∀ told ∈ (s.reactor.detach s.registry c).deliveries reason,
      panics told.handler told.event = false) :
    ∃ l lost : Ledger Handler, s.reactor.requests.Represents l ∧ lost.Perm (l.ofConnection c.id) ∧
      lost.Pairwise (fun a b => a.expiry ≤ b.expiry) ∧
      s.reactor.teardownCalls panics s.registry c reason =
        lost.map (fun q => ⟨q.handler, .failed c.remote c.id q.id .brokenConnection⟩) ++
          [⟨c.handler, .disconnected c.remote c.id reason⟩] ∧
      s.Settled l c (s.reactor.detach s.registry c) := by
  obtain ⟨l, represents⟩ := reached.reactor.represents
  obtain ⟨purged, sorted, -⟩ := represents.purge c.id
  refine ⟨l, (s.reactor.requests.purge c.id).1, represents, purged, sorted, ?_, ?_⟩
  · exact Delivery.calls_unguarded_of_quiet quiet
  · apply settled_detach represents
    intro remote held
    apply reached.registered held
    rw [reached.reactor.keyed owned]
    exact owned

def peer : Endpoint := ⟨.v4 1, 80⟩

def started (id : UInt32) (remote : Endpoint) (handler : Nat) : Connection Nat where
  id
  remote
  handler
  requestTimeout := 30
  reader := .start 100

def asking (id connId : UInt32) (handler : Nat) (expiry : Instant) : PendingRequest Nat :=
  ⟨id, connId, peer, handler, expiry⟩

/-- Two connections with requests pending on them. -/
def busy : Site Nat where
  reactor := (((((({ index := 0 } : Reactor Nat).adopt (started 1 peer 11)).adopt
    (started 2 ⟨.v4 2, 80⟩ 12)).insertRequest (asking 1 1 21 20)).2.insertRequest
    (asking 2 2 22 15)).2.insertRequest (asking 3 1 23 10)).2
  registry := ((Registry.empty.insert (fun _ => true) peer ⟨0, 1⟩).2.insert (fun _ => true)
    ⟨.v4 2, 80⟩ ⟨0, 2⟩).2

/-- The first of them is no longer registered, and its endpoint has a new one. -/
def replaced : Site Nat where
  reactor := busy.reactor.adopt (started 3 peer 13)
  registry := ((busy.registry.removeHandle peer ⟨0, 1⟩).2.insert (fun _ => true) peer ⟨0, 3⟩).2

theorem busy_reachable : busy.Reachable := by
  have empty : Reachable (⟨{ index := 0 }, .empty⟩ : Site Nat) := .start 0
  have one := empty.next (.install (started 1 peer 11) (fun _ => true)
    (Registry.unknown_of_toList (by decide +kernel)))
  have two := one.next (.install (started 2 ⟨.v4 2, 80⟩ 12) (fun _ => true)
    (Registry.unknown_of_toList (by decide +kernel)))
  have first := two.next (.reactor (.insertRequest (asking 1 1 21 20)))
  have second := first.next (.reactor (.insertRequest (asking 2 2 22 15)))
  exact second.next (.reactor (.insertRequest (asking 3 1 23 10)))

theorem replaced_reachable : replaced.Reachable := by
  have released : Reachable ⟨busy.reactor, (busy.registry.removeHandle peer ⟨0, 1⟩).2⟩ := by
    refine busy_reachable.next (.registry ?_)
    intro remote connId held
    rw [Registry.entries_removeHandle] at held
    split at held
    · cases held
    · exact held
  exact released.next (.install (started 3 peer 13) (fun _ => true)
    (Registry.unknown_of_toList (by decide +kernel)))

theorem teardown_settles_replaced :
    replaced.reactor.connection? 1 = some (started 1 peer 11) ∧
      replaced.registry.entries[peer]? = some ⟨0, 3⟩ ∧
      [1, 2, 3].map (fun id => (replaced.reactor.requests.pending? id).map PendingRequest.connId) =
        [some 1, some 2, some 1] ∧
      ∃ l lost : Ledger Nat, lost.Perm (l.ofConnection 1) ∧
        replaced.reactor.teardownCalls (fun _ _ => false) replaced.registry (started 1 peer 11)
          .shutdown = lost.map (fun q => ⟨q.handler, .failed peer 1 q.id .brokenConnection⟩) ++
            [⟨11, .disconnected peer 1 .shutdown⟩] ∧
        replaced.Settled l (started 1 peer 11)
          (replaced.reactor.detach replaced.registry (started 1 peer 11)) := by
  have owned : replaced.reactor.connection? 1 = some (started 1 peer 11) := rfl
  obtain ⟨l, lost, -, purged, -, told, settled⟩ :=
    teardown_settles replaced_reachable owned .shutdown (fun _ _ => false) (fun _ _ => rfl)
  exact ⟨owned, by decide +kernel, by decide +kernel, l, lost, purged, told, settled⟩

end Site

end MessageTransport
