import MessageTransport.Proofs.Reactor.Teardown
import MessageTransport.Proofs.TimerQueue

set_option autoImplicit false

namespace MessageTransport

variable {Handler : Type}

/-- Calls without a guard go as far as the first that panics. -/
theorem Delivery.calls_unguarded (panics : Handler → Event → Bool) (ds : List (Delivery Handler)) :
    calls .unguarded panics ds = ds.take (ds.findIdx (fun d => panics d.handler d.event) + 1) := by
  induction ds with
  | nil => rfl
  | cons d rest ih =>
    rw [List.findIdx_cons, List.take_succ_cons]
    cases loud : panics d.handler d.event with
    | true => simp only [calls, loud, ↓reduceIte, cond_true, List.take_zero]
    | false => simp only [calls, loud, Bool.false_eq_true, ↓reduceIte, cond_false, ih]

/-- All calls without a guard are made if and only if none panics that has others behind it. -/
theorem Delivery.calls_unguarded_eq_self_iff (panics : Handler → Event → Bool)
    (front : List (Delivery Handler)) (last : Delivery Handler) :
    calls .unguarded panics (front ++ [last]) = front ++ [last] ↔
      ∀ d ∈ front, panics d.handler d.event = false := by
  induction front with
  | nil =>
    have one : calls .unguarded panics [last] = [last] := by
      simp only [calls, ite_self]
    exact iff_of_true one (fun d member => by cases member)
  | cons d rest ih =>
    rw [List.cons_append, List.forall_mem_cons]
    cases loud : panics d.handler d.event with
    | true =>
      have stops : calls .unguarded panics (d :: (rest ++ [last])) = [d] := by
        simp only [calls, loud, ↓reduceIte]
      rw [stops]
      refine iff_of_false ?_ (fun quiet => by cases quiet.1)
      intro same
      exact List.concat_ne_nil _ _ (List.cons.inj same).2.symm
    | false =>
      have goes : calls .unguarded panics (d :: (rest ++ [last])) =
          d :: calls .unguarded panics (rest ++ [last]) := by
        simp only [calls, loud, Bool.false_eq_true, ↓reduceIte]
      rw [goes, List.cons.injEq, eq_self, true_and, ih, eq_self, true_and]

namespace Reactor

/-- Whoever is to be told something by a reactor is told, if certain handlers panic. -/
structure Notifies (r : Reactor Handler) (panics : Handler → Event → Bool) : Prop where
  expired : ∀ now id q, r.requests.pending? id = some q → q.expiry ≤ now →
    timedOut q ∈ r.sweepCalls panics now
  timers : ∀ now, ∀ timer ∈ r.timers.dueBy now, ⟨timer.2, .timer⟩ ∈ r.sweepCalls panics now
  lost : ∀ registry connId c reason, r.connection? connId = some c →
    ∀ id q, r.requests.pending? id = some q → q.connId = connId →
      lostWith c q ∈ r.teardownCalls panics registry c reason
  disconnected : ∀ registry connId c reason, r.connection? connId = some c →
    ⟨c.handler, .disconnected c.remote c.id reason⟩ ∈ r.teardownCalls panics registry c reason

/-- Whatever is pending on a reactor and whichever handlers panic: a sweep tells every request that
has expired and every timer that is due. A teardown tells the requests of its connection one by one,
and then the connection's handler, but stops with the first that panics; so it tells all of them if
and only if no handler of a request panics. -/
theorem notices_of_reachable {r : Reactor Handler} (reached : r.Reachable)
    (panics : Handler → Event → Bool) :
    ∃ l, r.requests.Represents l ∧
      (∀ now, r.sweepCalls panics now = (l.expired now).map timedOut ++
        (r.timers.dueBy now).map (fun timer => ⟨timer.2, .timer⟩)) ∧
      ∀ registry (c : Connection Handler) reason,
        ∃ (lost : Ledger Handler) (told : List (Delivery Handler)),
          lost.Perm (l.ofConnection c.id) ∧
          told = lost.map (lostWith c) ++ [⟨c.handler, .disconnected c.remote c.id reason⟩] ∧
          r.teardownCalls panics registry c reason =
            told.take (told.findIdx (fun d => panics d.handler d.event) + 1) ∧
          (r.teardownCalls panics registry c reason = told ↔
            ∀ q ∈ lost, panics q.handler (lostWith c q).event = false) := by
  obtain ⟨l, represents⟩ := reached.represents
  refine ⟨l, represents, ?_, ?_⟩
  · intro now
    rw [sweepCalls, Delivery.calls_guarded, sweep]
    dsimp only
    rw [(represents.drainExpired now).1, (r.timers.drainExpired_eq now).1, List.map_map]
    rfl
  · intro registry c reason
    obtain ⟨purged, -, -⟩ := represents.purge c.id
    refine ⟨(r.requests.purge c.id).1, (r.detach registry c).deliveries reason, purged, rfl,
      Delivery.calls_unguarded panics _, ?_⟩
    refine (Delivery.calls_unguarded_eq_self_iff panics _ _).trans ?_
    exact List.forall_mem_map

/-- A reactor with requests of two connections and a timer. -/
def alarmed : Reactor Nat := Site.busy.reactor.insertTimer 5 31

theorem alarmed_reachable : alarmed.Reachable :=
  Site.busy_reachable.reactor.next (.insertTimer 5 31)

theorem notices_of_reachable_alarmed :
    ∃ l, alarmed.requests.Represents l ∧ alarmed.sweepCalls (fun _ _ => true) 15 =
      (l.expired 15).map timedOut ++ [⟨31, .timer⟩] := by
  obtain ⟨l, represents, swept, -⟩ := notices_of_reachable alarmed_reachable (fun _ _ => true)
  have due : (alarmed.timers.dueBy 15).map (fun timer => (⟨timer.2, .timer⟩ : Delivery Nat)) =
      [⟨31, .timer⟩] := by decide +kernel
  exact ⟨l, represents, by rw [swept, due]⟩

/-- If every handler panics, that of a connection with a request pending on it is never told. -/
theorem disconnected_of_panics {r : Reactor Handler} (reached : r.Reachable)
    (c : Connection Handler) (registry : Registry ConnectionRef) (reason : ErrorCode) {id : UInt32}
    {q : PendingRequest Handler} (pending : r.requests.pending? id = some q)
    (own : q.connId = c.id) : ⟨c.handler, .disconnected c.remote c.id reason⟩ ∉
      r.teardownCalls (fun _ _ => true) registry c reason := by
  obtain ⟨l, represents⟩ := reached.represents
  obtain ⟨purged, -, -⟩ := represents.purge c.id
  have there := Ledger.of_lookUp ((represents.lookUp id).trans pending)
  have lost := purged.mem_iff.mpr (Ledger.mem_ofConnection.mpr ⟨there.1, own⟩)
  obtain ⟨first, rest, split⟩ := List.exists_cons_of_ne_nil (List.ne_nil_of_mem lost)
  have one : r.teardownCalls (fun _ _ => true) registry c reason = [lostWith c first] := by
    show Delivery.calls _ _ ((r.requests.purge c.id).1.map (lostWith c) ++ _) = _
    rw [split, List.map_cons, List.cons_append]
    rfl
  rw [one]
  intro told
  have same := congrArg Delivery.event (List.mem_singleton.mp told)
  cases same

/-- A handler that panics can cost others what they were to be told. -/
theorem not_notifies : ¬ ∀ r : Reactor Nat, r.Reachable → ∀ panics, r.Notifies panics := by
  intro notifies
  have owned : alarmed.connection? 1 = some (Site.started 1 Site.peer 11) := rfl
  have pending : alarmed.requests.pending? 1 = some (Site.asking 1 1 21 20) := by decide +kernel
  exact disconnected_of_panics alarmed_reachable (Site.started 1 Site.peer 11) Site.busy.registry
    .brokenConnection pending rfl
    ((notifies alarmed alarmed_reachable (fun _ _ => true)).disconnected Site.busy.registry 1
      (Site.started 1 Site.peer 11) .brokenConnection owned)

end Reactor

end MessageTransport
