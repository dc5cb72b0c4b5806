import MessageTransport.Proofs.LinkManager.Operations

set_option autoImplicit false

namespace MessageTransport.LinkManager

variable {Handler : Type} {horizon : Instant} {before : Endpoint → LinkManager Handler}
  {m next : LinkManager Handler}

/-- The states of a manager, beside what it was when it last took on each endpoint. No retry has
been scheduled later than at `horizon`. -/
inductive Reachable (horizon : Instant) :
    (Endpoint → LinkManager Handler) → LinkManager Handler → Prop where
  | start : Reachable horizon (fun _ => empty) empty
  | add {before : Endpoint → LinkManager Handler} {m : LinkManager Handler}
      (reached : Reachable horizon before m) (remote : Endpoint) (retryInterval : Nat)
      (service : String) (handler : Option Handler) :
      Reachable horizon
        (if (m.add remote retryInterval service handler).1 then Function.update before remote m
          else before)
        (m.add remote retryInterval service handler).2
  | remove {before : Endpoint → LinkManager Handler} {m : LinkManager Handler}
      (reached : Reachable horizon before m) (remote : Endpoint) :
      Reachable horizon before (m.remove remote).2
  | attempted {before : Endpoint → LinkManager Handler} {m : LinkManager Handler}
      (reached : Reachable horizon before m) {now : Instant} (early : now ≤ horizon)
      (remote : Endpoint) (outcome : Except ErrorCode Unit) :
      Reachable horizon before (m.attempted now remote outcome).2
  | event {before : Endpoint → LinkManager Handler} {m : LinkManager Handler}
      (reached : Reachable horizon before m) {now : Instant} (early : now ≤ horizon)
      (remote : Endpoint) (e : Event) : Reachable horizon before (m.onEvent now remote e).2
  | retry {before : Endpoint → LinkManager Handler} {m : LinkManager Handler}
      (reached : Reachable horizon before m) (now : Instant) :
      Reachable horizon before (m.popRetry now).2
  | shutdown {before : Endpoint → LinkManager Handler} {m : LinkManager Handler}
      (reached : Reachable horizon before m) : Reachable horizon before m.shutdown

/-- The retries of an endpoint beyond the one that its mark accounts for were in the queue when it
was taken on. -/
structure Balanced (horizon : Instant) (before : Endpoint → LinkManager Handler)
    (m : LinkManager Handler) : Prop where
  sound : m.Sound horizon
  since : ∀ remote, (before remote).nextSerial ≤ m.nextSerial
  few : ∀ remote, m.isManaged remote = true →
    m.pending remote ≤ (m.isRetrying remote).toNat + (before remote).pending remote
  origin : ∀ remote, m.isManaged remote = true → ∀ key : Deadline,
    m.retries[key]? = some remote →
      (before remote).nextSerial ≤ key.serial ∨ (before remote).retries[key]? = some remote

theorem Balanced.scheduleRetry (balanced : Balanced horizon before m) {now : Instant}
    (early : now ≤ horizon) (remote : Endpoint) :
    Balanced horizon before (m.scheduleRetry now remote).2 := by
  refine ⟨balanced.sound.scheduleRetry early remote, ?_, ?_, ?_⟩
  · intro other
    exact (balanced.since other).trans (m.nextSerial_le_scheduleRetry now remote)
  · intro other managed
    obtain ⟨sameManaged, -, -, mark⟩ := m.scheduleRetry_marks now remote other
    rw [sameManaged] at managed
    have few := balanced.few other managed
    rw [balanced.sound.numbered.pending_scheduleRetry, mark, managed]
    by_cases here : remote = other
    · rw [if_pos here, LinkManager.queues]
      cases retrying : m.isRetrying other with
      | true =>
        rw [retrying] at few
        simpa only [Bool.not_true, Bool.and_false, Bool.false_and, Bool.false_eq_true, and_false,
          ↓reduceIte, Nat.add_zero] using few
      | false =>
        rw [retrying, Bool.toNat_false, Nat.zero_add] at few
        rw [Bool.toNat_true]
        split <;> omega
    · simpa only [here, false_and, ↓reduceIte, Nat.add_zero] using few
  · intro other managed key there
    rw [(m.scheduleRetry_marks now remote other).1] at managed
    rcases retries_scheduleRetry there with old | ⟨-, number, -⟩
    · exact balanced.origin other managed key old
    · exact .inl (number ▸ balanced.since other)

/-- A step that takes on no endpoint and leaves the queue as it is keeps the balance. -/
theorem Balanced.of_marks (balanced : Balanced horizon before m)
    (same : next.retries = m.retries ∧ next.nextSerial = m.nextSerial)
    (marks : ∀ other, next.isManaged other = true →
      m.isManaged other = true ∧ next.overflows horizon other = m.overflows horizon other ∧
        next.isRetrying other = m.isRetrying other) :
    Balanced horizon before next := by
  refine ⟨balanced.sound.of_marks same ?_, ?_, ?_, ?_⟩
  · intro other retrying
    obtain ⟨-, bound, mark⟩ := marks other (isManaged_of_isRetrying retrying)
    exact ⟨mark.symm.trans retrying, bound⟩
  · intro other
    exact same.2 ▸ balanced.since other
  · intro other managed
    rw [pending, same.1, (marks other managed).2.2]
    exact balanced.few other (marks other managed).1
  · intro other managed key there
    rw [same.1] at there
    exact balanced.origin other (marks other managed).1 key there

theorem Balanced.setConnected (balanced : Balanced horizon before m) (remote : Endpoint)
    (connected : Bool) :
    Balanced horizon before (m.updateLink remote (fun link => { link with connected })) := by
  refine balanced.of_marks ⟨retries_updateLink .., nextSerial_updateLink ..⟩ ?_
  intro other managed
  rw [isManaged_updateLink] at managed
  exact ⟨managed, overflows_setConnected .., isRetrying_setConnected ..⟩

theorem Balanced.notes (balanced : Balanced horizon before m) {now : Instant}
    (early : now ≤ horizon) {remote : Endpoint} (notes : m.Notes now remote next) :
    Balanced horizon before next := by
  cases notes with
  | nothing => exact balanced
  | connected => exact balanced.setConnected remote true
  | failed => exact balanced.scheduleRetry early remote
  | lost => exact (balanced.setConnected remote false).scheduleRetry early remote

/-- A retry that is taken out clears the mark of its endpoint, also if it was left behind there and
the one that the mark stands for is still in the queue. -/
theorem Balanced.popped (balanced : Balanced horizon before m) {key : Deadline} {remote : Endpoint}
    (first : m.retries.toList = (key, remote) :: (m.retries.erase key).toList) :
    Balanced horizon before (m.popped key remote) := by
  refine ⟨balanced.sound.popped first, ?_, ?_, ?_⟩
  · intro other
    rw [LinkManager.popped, nextSerial_updateLink]
    exact balanced.since other
  · intro other managed
    obtain ⟨sameManaged, -, -, mark⟩ := m.popped_marks key remote other
    rw [sameManaged] at managed
    have few := balanced.few other managed
    have counted := pending_popped first other
    rw [mark]
    by_cases here : remote = other
    · have one := Bool.toNat_le (m.isRetrying other)
      simp only [here, ↓reduceIte, Bool.toNat_false] at counted ⊢
      omega
    · simp only [here, ↓reduceIte] at counted ⊢
      omega
  · intro other managed number there
    rw [(m.popped_marks key remote other).1] at managed
    exact balanced.origin other managed number (retries_popped there)

/-- An endpoint that is taken on finds in the queue just what was left behind there. -/
theorem Balanced.joined (balanced : Balanced horizon before m) (remote : Endpoint)
    (retryInterval : Nat) (service : String) (handler : Option Handler) :
    Balanced horizon (Function.update before remote m)
      (m.joined remote retryInterval service handler) := by
  have marks := m.joined_marks remote retryInterval service handler
  refine ⟨balanced.sound.of_marks ⟨rfl, rfl⟩ ?_, ?_, ?_, ?_⟩
  · intro other retrying
    obtain ⟨-, -, bound, mark⟩ := marks other
    rw [mark] at retrying
    obtain ⟨elsewhere, retrying⟩ := Bool.and_eq_true_iff.mp retrying
    rw [Bool.not_eq_true', decide_eq_false_iff_not] at elsewhere
    exact ⟨retrying, bound elsewhere horizon⟩
  · intro other
    by_cases here : remote = other
    · rw [here, Function.update_self]
      exact Nat.le_refl _
    · rw [Function.update_of_ne (Ne.symm here)]
      exact balanced.since other
  · intro other managed
    by_cases here : remote = other
    · rw [here, Function.update_self]
      exact Nat.le_add_left _ _
    · rw [(marks other).1, decide_eq_false here, Bool.false_or] at managed
      rw [Function.update_of_ne (Ne.symm here), (marks other).2.2.2, decide_eq_false here]
      exact balanced.few other managed
  · intro other managed key there
    by_cases here : remote = other
    · rw [here, Function.update_self]
      exact .inr there
    · rw [(marks other).1, decide_eq_false here, Bool.false_or] at managed
      rw [Function.update_of_ne (Ne.symm here)]
      exact balanced.origin other managed key there

theorem Reachable.balanced (reached : Reachable horizon before m) : Balanced horizon before m := by
  induction reached with
  | start =>
    refine ⟨⟨?_, ?_⟩, fun _ => Nat.le_refl _, ?_, ?_⟩
    · intro key remote there
      cases Std.TreeMap.getElem?_emptyc.symm.trans there
    · intro remote _ retrying
      cases retrying
    · intro remote managed
      cases managed
    · intro remote managed
      cases managed
  | @add before m _ remote retryInterval service handler ih =>
    rcases m.add_cases remote retryInterval service handler with refused | ⟨-, added⟩
    · rw [refused]
      exact ih
    · rw [added]
      exact ih.joined remote retryInterval service handler
  | @remove before m _ remote ih =>
    refine ih.of_marks ⟨rfl, rfl⟩ (fun other managed => ?_)
    obtain ⟨sameManaged, -, bound, mark⟩ := m.remove_marks remote other
    rw [sameManaged] at managed
    obtain ⟨elsewhere, managed⟩ := Bool.and_eq_true_iff.mp managed
    rw [bound, mark, elsewhere]
    exact ⟨managed, rfl, rfl⟩
  | @attempted before m _ now early remote outcome ih =>
    exact ih.notes early (m.attempted_notes now remote outcome)
  | @event before m _ now early remote e ih => exact ih.notes early (m.onEvent_notes now remote e)
  | @retry before m _ now ih =>
    rcases m.popRetry_cases now with none | ⟨key, remote, first, one⟩
    · rw [none]
      exact ih
    · rw [one]
      exact ih.popped first
  | shutdown _ ih => exact ih.of_marks ⟨rfl, rfl⟩ (fun _ managed => ⟨managed, rfl, rfl⟩)

/-- In every state of a manager a managed endpoint that left no retry behind when it was taken on
has one retry in the queue if it is marked and none if it is not, and that one was queued since. One
that left some behind has no others than these and the one of its mark, which is there if it is
marked. That one is there for a mark takes it that none of its retries comes after the last instant:
then the manager panics behind the mark, and there are fewer. -/
theorem retries_of_reachable (reached : Reachable horizon before m) (remote : Endpoint)
    (managed : m.isManaged remote = true) :
    ((before remote).pending remote = 0 →
      (m.overflows horizon remote = false → m.pending remote = (m.isRetrying remote).toNat) ∧
        ∀ key : Deadline, m.retries[key]? = some remote →
          (before remote).nextSerial ≤ key.serial) ∧
      m.pending remote ≤ (m.isRetrying remote).toNat + (before remote).pending remote ∧
      (m.overflows horizon remote = false → m.isRetrying remote = true → 0 < m.pending remote) ∧
      ∀ key : Deadline, m.retries[key]? = some remote →
        (before remote).nextSerial ≤ key.serial ∨
          (before remote).retries[key]? = some remote := by
  have balanced := reached.balanced
  have few := balanced.few remote managed
  have scheduled := balanced.sound.scheduled remote
  have origin := balanced.origin remote managed
  refine ⟨fun clear => ⟨?_, ?_⟩, few, scheduled, origin⟩
  · intro fits
    rw [clear] at few
    cases retrying : m.isRetrying remote with
    | false =>
      rw [retrying] at few
      exact Nat.eq_zero_of_le_zero few
    | true =>
      rw [retrying] at few
      exact Nat.le_antisymm few (scheduled fits retrying)
  · intro key there
    rcases origin key there with since | left
    · exact since
    · have some := pending_pos_iff.mpr ⟨key, left⟩
      omega

def peer : Endpoint := ⟨.v4 1, 80⟩

/-- The first attempt at an endpoint has failed. -/
def failing : LinkManager Unit :=
  ((empty.add peer 5000 "" none).2.onEvent 0 peer (.disconnected peer 1 .connectError)).2

/-- The retry of that failure is taken out. -/
def retried : LinkManager Unit := failing.popped ⟨5000, 0⟩ peer

/-- The endpoint is given up, taken on again, and fails again. -/
def rejoined (m : LinkManager Unit) (now : Instant) : LinkManager Unit :=
  (((m.remove peer).2.add peer 5000 "" none).2.onEvent now peer
    (.disconnected peer 2 .connectError)).2

theorem failing_reachable :
    Reachable 6000 (Function.update (fun _ => empty) peer empty) failing :=
  (Reachable.start.add peer 5000 "" none).event (show (0 : Instant) ≤ 6000 by decide) peer
    (.disconnected peer 1 .connectError)

theorem retried_reachable :
    Reachable 6000 (Function.update (fun _ => empty) peer empty) retried := by
  have first : Deadline.earliest? failing.retries = some (⟨5000, 0⟩, peer) :=
    Deadline.earliest?_singleton ..
  have taken : failing.popRetry 5000 = (some (peer, true), retried) := by
    simp only [popRetry, first]
    rfl
  have reached := failing_reachable.retry 5000
  rwa [taken] at reached

theorem rejoined_reachable {before : Endpoint → LinkManager Unit} {m : LinkManager Unit}
    (reached : Reachable horizon before m)
    (taken : ((m.remove peer).2.add peer 5000 "" none).1 = true) {now : Instant}
    (early : now ≤ horizon) :
    Reachable horizon (Function.update before peer (m.remove peer).2) (m.rejoined now) := by
  have added := (reached.remove peer).add peer 5000 "" none
  rw [if_pos taken] at added
  exact added.event early peer (.disconnected peer 2 .connectError)

theorem retries_of_reachable_rejoined :
    (retried.rejoined 6000).isManaged peer = true ∧ (retried.remove peer).2.pending peer = 0 ∧
      (retried.rejoined 6000).overflows 6000 peer = false ∧
      (retried.rejoined 6000).isRetrying peer = true ∧ (retried.rejoined 6000).pending peer = 1 ∧
        ∀ key : Deadline, (retried.rejoined 6000).retries[key]? = some peer → 1 ≤ key.serial := by
  have reached := rejoined_reachable retried_reachable (by decide +kernel) (Int.le_refl 6000)
  have managed : (retried.rejoined 6000).isManaged peer = true := by decide +kernel
  have clear : (retried.remove peer).2.pending peer = 0 := by decide +kernel
  have fits : (retried.rejoined 6000).overflows 6000 peer = false := by decide +kernel
  have number : (retried.remove peer).2.nextSerial = 1 := by decide +kernel
  have marked : (retried.rejoined 6000).isRetrying peer = true := by decide +kernel
  obtain ⟨pending, since⟩ := (retries_of_reachable reached peer managed).1
    (by rwa [Function.update_self])
  have one := pending fits
  rw [marked] at one
  rw [Function.update_self] at since
  exact ⟨managed, clear, fits, marked, one, fun key there => number ▸ since key there⟩

/-- A retry that was left behind stays in the queue beside the one of the endpoint that was taken on
again. -/
theorem not_single_retry :
    ¬ ∀ horizon before (m : LinkManager Unit), Reachable horizon before m → ∀ remote,
      m.isManaged remote = true → m.overflows horizon remote = false →
        m.pending remote ≤ 1 ∧ (m.pending remote = 1 ↔ m.isRetrying remote = true) := by
  intro single
  have reached := rejoined_reachable failing_reachable (by decide +kernel)
    (show (100 : Instant) ≤ 6000 by decide)
  have few := (single _ _ _ reached peer (by decide +kernel) (by decide +kernel)).1
  have two : (failing.rejoined 100).pending peer = 2 := by decide +kernel
  omega

end MessageTransport.LinkManager
