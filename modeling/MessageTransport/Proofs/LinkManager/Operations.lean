import MessageTransport.LinkManager
import MessageTransport.Proofs.TimerQueue

set_option autoImplicit false

namespace MessageTransport.LinkManager

variable {Handler : Type}

/-- Whether an endpoint is managed and marked as one that will be retried. -/
def isRetrying (m : LinkManager Handler) (remote : Endpoint) : Bool :=
  (m.links[remote]?).any (fun link => link.retryScheduled)

/-- A retry of an endpoint that fails now would come after the last instant. -/
def overflows (m : LinkManager Handler) (now : Instant) (remote : Endpoint) : Bool :=
  (m.links[remote]?).any (fun link => (Instant.later? now link.retryInterval).isNone)

/-- A failure of an endpoint queues a retry now. -/
def queues (m : LinkManager Handler) (now : Instant) (remote : Endpoint) : Bool :=
  m.isManaged remote && !m.isRetrying remote && !m.overflows now remote

/-- How many retries of an endpoint are in the queue. -/
def pending (m : LinkManager Handler) (remote : Endpoint) : Nat :=
  m.retries.toList.countP (fun entry => entry.2 = remote)

theorem pending_pos_iff {m : LinkManager Handler} {remote : Endpoint} :
    0 < m.pending remote ↔ ∃ key : Deadline, m.retries[key]? = some remote := by
  rw [pending, List.countP_pos_iff]
  constructor
  · rintro ⟨⟨key, other⟩, member, same⟩
    obtain rfl : other = remote := of_decide_eq_true same
    exact ⟨key, Std.TreeMap.mem_toList_iff_getElem?_eq_some.mp member⟩
  · rintro ⟨key, there⟩
    exact ⟨(key, remote), Std.TreeMap.mem_toList_iff_getElem?_eq_some.mpr there,
      decide_eq_true rfl⟩

theorem isManaged_eq (m : LinkManager Handler) (remote : Endpoint) :
    m.isManaged remote = (m.links[remote]?).isSome :=
  Std.TreeMap.contains_eq_isSome_getElem?

theorem isManaged_of_isRetrying {m : LinkManager Handler} {remote : Endpoint}
    (retrying : m.isRetrying remote = true) : m.isManaged remote = true := by
  rw [isManaged_eq]
  exact Option.isSome_of_any retrying

theorem isManaged_of_isConnected {m : LinkManager Handler} {remote : Endpoint}
    (connected : m.isConnected remote = true) : m.isManaged remote = true := by
  rw [isManaged_eq]
  exact Option.isSome_of_any connected

/-- What is too long for an instant is too long for a later one. -/
theorem overflows_of_le {m : LinkManager Handler} {now other : Instant} {remote : Endpoint}
    (order : now ≤ other) (late : m.overflows now remote = true) :
    m.overflows other remote = true := by
  unfold overflows at late ⊢
  cases found : m.links[remote]? with
  | none => cases (found ▸ late)
  | some link =>
    rw [found] at late
    exact Instant.isNone_later?_of_le order late

theorem links_updateLink (m : LinkManager Handler) (remote other : Endpoint)
    (f : ManagedLink Handler → ManagedLink Handler) :
    (m.updateLink remote f).links[other]? =
      if remote = other then (m.links[other]?).map f else m.links[other]? := by
  unfold updateLink
  cases found : m.links[remote]? with
  | none =>
    by_cases here : remote = other
    · rw [if_pos here, ← here, found]
      rfl
    · rw [if_neg here]
  | some link =>
    refine (getElem?_inserted m.links remote other (f link)).trans ?_
    by_cases here : remote = other
    · rw [if_pos here, if_pos here, ← here, found, Option.map_some]
    · rw [if_neg here, if_neg here]

@[simp] theorem retries_updateLink (m : LinkManager Handler) (remote : Endpoint)
    (f : ManagedLink Handler → ManagedLink Handler) :
    (m.updateLink remote f).retries = m.retries := by
  unfold updateLink
  split <;> rfl

@[simp] theorem nextSerial_updateLink (m : LinkManager Handler) (remote : Endpoint)
    (f : ManagedLink Handler → ManagedLink Handler) :
    (m.updateLink remote f).nextSerial = m.nextSerial := by
  unfold updateLink
  split <;> rfl

@[simp] theorem pending_updateLink (m : LinkManager Handler) (remote other : Endpoint)
    (f : ManagedLink Handler → ManagedLink Handler) :
    (m.updateLink remote f).pending other = m.pending other := by
  rw [pending, retries_updateLink]
  rfl

@[simp] theorem isManaged_updateLink (m : LinkManager Handler) (remote other : Endpoint)
    (f : ManagedLink Handler → ManagedLink Handler) :
    (m.updateLink remote f).isManaged other = m.isManaged other := by
  rw [isManaged_eq, isManaged_eq, links_updateLink]
  split
  · exact Option.isSome_map
  · rfl

/-- What is said of a link that an update does not touch. -/
theorem any_updateLink (m : LinkManager Handler) (remote other : Endpoint)
    {f : ManagedLink Handler → ManagedLink Handler} {p : ManagedLink Handler → Bool}
    (same : ∀ link, p (f link) = p link) :
    ((m.updateLink remote f).links[other]?).any p = (m.links[other]?).any p := by
  rw [links_updateLink]
  split
  · rw [Option.any_map]
    exact congrArg (m.links[other]?).any (funext same)
  · rfl

/-- What an update says of a link. -/
theorem any_updateLink_const (m : LinkManager Handler) (remote other : Endpoint)
    {f : ManagedLink Handler → ManagedLink Handler} {p : ManagedLink Handler → Bool} {value : Bool}
    (gives : ∀ link, p (f link) = value) :
    ((m.updateLink remote f).links[other]?).any p =
      if remote = other then m.isManaged other && value else (m.links[other]?).any p := by
  rw [links_updateLink, isManaged_eq]
  split
  · cases m.links[other]? with
    | none => rfl
    | some link => exact gives link
  · rfl

theorem overflows_setConnected (m : LinkManager Handler) (now : Instant) (remote other : Endpoint)
    (connected : Bool) :
    (m.updateLink remote (fun link => { link with connected })).overflows now other =
      m.overflows now other :=
  m.any_updateLink remote other (fun _ => rfl)

theorem overflows_setRetrying (m : LinkManager Handler) (now : Instant) (remote other : Endpoint)
    (retryScheduled : Bool) :
    (m.updateLink remote (fun link => { link with retryScheduled })).overflows now other =
      m.overflows now other :=
  m.any_updateLink remote other (fun _ => rfl)

theorem isRetrying_setConnected (m : LinkManager Handler) (remote other : Endpoint)
    (connected : Bool) :
    (m.updateLink remote (fun link => { link with connected })).isRetrying other =
      m.isRetrying other :=
  m.any_updateLink remote other (fun _ => rfl)

theorem isConnected_setConnected (m : LinkManager Handler) (remote other : Endpoint)
    (connected : Bool) :
    (m.updateLink remote (fun link => { link with connected })).isConnected other =
      if remote = other then m.isManaged other && connected else m.isConnected other :=
  m.any_updateLink_const remote other (fun _ => rfl)

theorem isRetrying_setRetrying (m : LinkManager Handler) (remote other : Endpoint)
    (retryScheduled : Bool) :
    (m.updateLink remote (fun link => { link with retryScheduled })).isRetrying other =
      if remote = other then m.isManaged other && retryScheduled else m.isRetrying other :=
  m.any_updateLink_const remote other (fun _ => rfl)

theorem isConnected_setRetrying (m : LinkManager Handler) (remote other : Endpoint)
    (retryScheduled : Bool) :
    (m.updateLink remote (fun link => { link with retryScheduled })).isConnected other =
      m.isConnected other :=
  m.any_updateLink remote other (fun _ => rfl)

/-- The manager with an endpoint marked as one to be retried. -/
def marked (m : LinkManager Handler) (remote : Endpoint) : LinkManager Handler :=
  m.updateLink remote (fun link => { link with retryScheduled := true })

/-- A managed endpoint that is not marked is marked. A retry is queued for it then, unless that
would come after the last instant: then the manager panics. -/
theorem scheduleRetry_cases (m : LinkManager Handler) (now : Instant) (remote : Endpoint) :
    m.scheduleRetry now remote = (false, m) ∧ m.isRetrying remote = m.isManaged remote ∨
      m.isManaged remote = true ∧ m.isRetrying remote = false ∧
        ((∃ due, m.overflows now remote = false ∧ m.scheduleRetry now remote =
            (false, { m.marked remote with
              retries := m.retries.insert ⟨due, m.nextSerial⟩ remote
              nextSerial := m.nextSerial + 1 })) ∨
          m.overflows now remote = true ∧ m.scheduleRetry now remote = (true, m.marked remote)) := by
  cases found : m.links[remote]? with
  | none =>
    refine .inl ⟨?_, ?_⟩
    · rw [scheduleRetry, found]
    · rw [isRetrying, isManaged_eq, found]
      rfl
  | some link =>
    cases mark : link.retryScheduled with
    | true =>
      refine .inl ⟨?_, ?_⟩
      · simp only [scheduleRetry, found, mark, ↓reduceIte]
      · rw [isRetrying, isManaged_eq, found]
        exact mark
    | false =>
      refine .inr ⟨?_, ?_, ?_⟩
      · rw [isManaged_eq, found]
        rfl
      · rw [isRetrying, found]
        exact mark
      · cases fits : Instant.later? now link.retryInterval with
        | none =>
          refine .inr ⟨?_, ?_⟩
          · simp only [overflows, found, Option.any_some, fits, Option.isNone_none]
          · simp only [scheduleRetry, marked, updateLink, found, mark, fits, Bool.false_eq_true,
              ↓reduceIte]
        | some due =>
          refine .inl ⟨due, ?_, ?_⟩
          · simp only [overflows, found, Option.any_some, fits, Option.isNone_some]
          · simp only [scheduleRetry, marked, updateLink, found, mark, fits, Bool.false_eq_true,
              ↓reduceIte]

theorem marked_marks (m : LinkManager Handler) (remote other : Endpoint) :
    (m.marked remote).isManaged other = m.isManaged other ∧
      (m.marked remote).isConnected other = m.isConnected other ∧
      (∀ instant, (m.marked remote).overflows instant other = m.overflows instant other) ∧
      (m.marked remote).isRetrying other =
        if remote = other then m.isManaged other else m.isRetrying other := by
  have retrying := m.isRetrying_setRetrying remote other true
  rw [Bool.and_true] at retrying
  exact ⟨m.isManaged_updateLink remote other _, m.isConnected_setRetrying remote other true,
    fun instant => m.overflows_setRetrying instant remote other true, retrying⟩

/-- The manager without the retry that has been taken out of its queue. -/
def popped (m : LinkManager Handler) (key : Deadline) (remote : Endpoint) : LinkManager Handler :=
  { m with retries := m.retries.erase key }.updateLink remote
    (fun link => { link with retryScheduled := false })

/-- The retry that is taken out heads the queue. Its endpoint is connected if it is managed and not
connected, and is marked no longer. -/
theorem popRetry_cases (m : LinkManager Handler) (now : Instant) :
    m.popRetry now = (none, m) ∨
      ∃ key remote, m.retries.toList = (key, remote) :: (m.retries.erase key).toList ∧
        m.popRetry now =
          (some (remote, m.isManaged remote && !m.isConnected remote), m.popped key remote) := by
  unfold popRetry popped
  cases first : Deadline.earliest? m.retries with
  | none => exact .inl rfl
  | some entry =>
    by_cases early : m.isShutDown ∨ now < entry.1.due
    · left
      simp only [early, ↓reduceIte]
    · refine .inr ⟨entry.1, entry.2, Deadline.toList_of_earliest? first, ?_⟩
      rw [isManaged_eq, isConnected]
      simp only [early, ↓reduceIte]
      cases found : m.links[entry.2]? with
      | none => simp only [updateLink, found, Option.isSome_none, Bool.false_and]
      | some link => simp only [Option.isSome_some, Option.any_some, Bool.true_and]

/-- No retry has a number that is still to be given out. -/
def Numbered (m : LinkManager Handler) : Prop :=
  ∀ (key : Deadline) remote, m.retries[key]? = some remote → key.serial < m.nextSerial

/-- A retry under a new number stands beside all those there. -/
theorem Numbered.toList_insert {m : LinkManager Handler} (numbered : m.Numbered) (due : Instant)
    (remote : Endpoint) : (m.retries.insert ⟨due, m.nextSerial⟩ remote).toList.Perm
      ((⟨due, m.nextSerial⟩, remote) :: m.retries.toList) := by
  have others : m.retries.toList.filter
      (fun entry => ¬((⟨due, m.nextSerial⟩ : Deadline) == entry.1)) = m.retries.toList := by
    apply List.filter_eq_self.mpr
    rintro ⟨key, other⟩ member
    have below := numbered key other (Std.TreeMap.mem_toList_iff_getElem?_eq_some.mp member)
    rw [decide_eq_true_iff, beq_iff_eq]
    rintro rfl
    exact Nat.lt_irrefl _ below
  have added := Std.TreeMap.toList_insert_perm (t := m.retries)
    (k := (⟨due, m.nextSerial⟩ : Deadline)) (v := remote)
  rwa [others] at added

theorem Numbered.pending_scheduleRetry {m : LinkManager Handler} (numbered : m.Numbered)
    (now : Instant) (remote other : Endpoint) :
    (m.scheduleRetry now remote).2.pending other =
      m.pending other + if remote = other ∧ m.queues now other = true then 1 else 0 := by
  have idle (none : m.queues now remote = false) :
      ¬(remote = other ∧ m.queues now other = true) := by
    rintro ⟨rfl, queued⟩
    cases none.symm.trans queued
  rcases m.scheduleRetry_cases now remote with
    ⟨same, settled⟩ | ⟨managed, unmarked, ⟨due, fits, next⟩ | ⟨late, next⟩⟩
  · have none : m.queues now remote = false := by
      rw [queues, settled, Bool.and_not_self, Bool.false_and]
    rw [same, if_neg (idle none), Nat.add_zero]
  · have counted := (numbered.toList_insert due remote).countP_eq (fun entry => entry.2 = other)
    rw [List.countP_cons] at counted
    rw [next]
    refine counted.trans ?_
    by_cases here : remote = other
    · subst here
      have queued : m.queues now remote = true := by
        rw [queues, managed, unmarked, fits]
        rfl
      rw [if_pos (decide_eq_true rfl), if_pos ⟨rfl, queued⟩]
      rfl
    · rw [if_neg (fun same => here (of_decide_eq_true same)), if_neg (fun all => here all.1)]
      rfl
  · have none : m.queues now remote = false := by
      rw [queues, late, Bool.not_true, Bool.and_false]
    rw [next, if_neg (idle none), Nat.add_zero]
    exact m.pending_updateLink remote other _

/-- Scheduling a retry says no more of the endpoints than that one of them will be retried. -/
theorem scheduleRetry_marks (m : LinkManager Handler) (now : Instant) (remote other : Endpoint) :
    (m.scheduleRetry now remote).2.isManaged other = m.isManaged other ∧
      (m.scheduleRetry now remote).2.isConnected other = m.isConnected other ∧
      (∀ instant,
        (m.scheduleRetry now remote).2.overflows instant other = m.overflows instant other) ∧
      (m.scheduleRetry now remote).2.isRetrying other =
        if remote = other then m.isManaged other else m.isRetrying other := by
  rcases m.scheduleRetry_cases now remote with
    ⟨same, settled⟩ | ⟨-, -, ⟨due, -, next⟩ | ⟨-, next⟩⟩
  · rw [same]
    refine ⟨rfl, rfl, fun _ => rfl, ?_⟩
    by_cases here : remote = other
    · subst here
      rw [if_pos rfl, settled]
    · rw [if_neg here]
  · rw [next]
    exact m.marked_marks remote other
  · rw [next]
    exact m.marked_marks remote other

theorem Numbered.pending_le_scheduleRetry {m : LinkManager Handler} (numbered : m.Numbered)
    (now : Instant) (remote other : Endpoint) :
    m.pending other ≤ (m.scheduleRetry now remote).2.pending other := by
  rw [numbered.pending_scheduleRetry]
  exact Nat.le_add_right _ _

theorem pending_popped {m : LinkManager Handler} {key : Deadline} {remote : Endpoint}
    (first : m.retries.toList = (key, remote) :: (m.retries.erase key).toList) (other : Endpoint) :
    m.pending other = (m.popped key remote).pending other + if remote = other then 1 else 0 := by
  have counted := congrArg (List.countP (fun entry => entry.2 = other)) first
  rw [List.countP_cons] at counted
  simp only [decide_eq_true_eq] at counted
  rw [popped, pending_updateLink]
  exact counted

theorem popped_marks (m : LinkManager Handler) (key : Deadline) (remote other : Endpoint) :
    (m.popped key remote).isManaged other = m.isManaged other ∧
      (m.popped key remote).isConnected other = m.isConnected other ∧
      (∀ instant, (m.popped key remote).overflows instant other = m.overflows instant other) ∧
      (m.popped key remote).isRetrying other =
        if remote = other then false else m.isRetrying other := by
  have retrying := isRetrying_setRetrying { m with retries := m.retries.erase key } remote other
    false
  rw [Bool.and_false] at retrying
  exact ⟨isManaged_updateLink .., isConnected_setRetrying .., fun _ => overflows_setRetrying ..,
    retrying⟩

theorem retries_popped {m : LinkManager Handler} {key other : Deadline} {remote owner : Endpoint}
    (there : (m.popped key remote).retries[other]? = some owner) :
    m.retries[other]? = some owner := by
  rw [popped, retries_updateLink, getElem?_erased] at there
  split at there
  · cases there
  · exact there

/-- A new retry is the only one that was not in the queue before. -/
theorem retries_scheduleRetry {m : LinkManager Handler} {now : Instant} {remote owner : Endpoint}
    {key : Deadline} (there : (m.scheduleRetry now remote).2.retries[key]? = some owner) :
    m.retries[key]? = some owner ∨ remote = owner ∧ key.serial = m.nextSerial ∧
      (m.scheduleRetry now remote).2.nextSerial = m.nextSerial + 1 := by
  rcases m.scheduleRetry_cases now remote with
    ⟨same, -⟩ | ⟨-, -, ⟨due, -, next⟩ | ⟨-, next⟩⟩
  · rw [same] at there
    exact .inl there
  · rw [next] at there ⊢
    have found := (getElem?_inserted m.retries ⟨due, m.nextSerial⟩ key remote).symm.trans there
    split at found
    · rename_i here
      exact .inr ⟨Option.some.inj found, here ▸ rfl, rfl⟩
    · exact .inl found
  · rw [next, marked, retries_updateLink] at there
    exact .inl there

theorem nextSerial_le_scheduleRetry (m : LinkManager Handler) (now : Instant)
    (remote : Endpoint) : m.nextSerial ≤ (m.scheduleRetry now remote).2.nextSerial := by
  rcases m.scheduleRetry_cases now remote with
    ⟨same, -⟩ | ⟨-, -, ⟨due, -, next⟩ | ⟨-, next⟩⟩
  · rw [same]
  · rw [next]
    exact Nat.le_succ _
  · rw [next, marked, nextSerial_updateLink]

/-- Every endpoint that is marked as one to be retried has a retry in the queue, unless a retry of
it may have come after the last instant by now. -/
structure Sound (now : Instant) (m : LinkManager Handler) : Prop where
  numbered : m.Numbered
  scheduled : ∀ remote, m.overflows now remote = false → m.isRetrying remote = true →
    0 < m.pending remote

variable {horizon : Instant}

theorem Sound.scheduleRetry {m : LinkManager Handler} (sound : m.Sound horizon) {now : Instant}
    (early : now ≤ horizon) (remote : Endpoint) : (m.scheduleRetry now remote).2.Sound horizon := by
  refine ⟨?_, ?_⟩
  · intro key owner there
    rcases retries_scheduleRetry there with before | ⟨-, number, after⟩
    · exact Nat.lt_of_lt_of_le (sound.numbered key owner before)
        (m.nextSerial_le_scheduleRetry now remote)
    · rw [number, after]
      exact Nat.lt_succ_self _
  · intro other fits retrying
    obtain ⟨-, -, bound, mark⟩ := m.scheduleRetry_marks now remote other
    rw [bound] at fits
    rw [mark] at retrying
    rw [sound.numbered.pending_scheduleRetry]
    cases before : m.isRetrying other with
    | true => exact Nat.add_pos_left (sound.scheduled other fits before) _
    | false =>
      split at retrying
      · rename_i here
        have queued : m.queues now other = true := by
          rw [queues, retrying, before, Bool.not_false, Bool.true_and, Bool.true_and,
            Bool.not_eq_true']
          apply Bool.eq_false_iff.mpr
          intro late
          cases fits.symm.trans (overflows_of_le early late)
        rw [if_pos ⟨here, queued⟩]
        exact Nat.succ_pos _
      · cases before.symm.trans retrying

/-- A step that marks no endpoint and leaves the queue as it is keeps the manager sound. -/
theorem Sound.of_marks {m next : LinkManager Handler} (sound : m.Sound horizon)
    (same : next.retries = m.retries ∧ next.nextSerial = m.nextSerial)
    (fewer : ∀ other, next.isRetrying other = true →
      m.isRetrying other = true ∧ next.overflows horizon other = m.overflows horizon other) :
    next.Sound horizon := by
  refine ⟨?_, ?_⟩
  · intro key owner there
    rw [same.1] at there
    rw [same.2]
    exact sound.numbered key owner there
  · intro other fits retrying
    obtain ⟨before, bound⟩ := fewer other retrying
    rw [pending, same.1]
    exact sound.scheduled other (bound.symm.trans fits) before

/-- An endpoint for which a retry has been asked has one in the queue if it is managed and the retry
does not come after the last instant. -/
theorem Sound.pending_scheduleRetry_pos {m : LinkManager Handler} (sound : m.Sound horizon)
    {now : Instant} (early : now ≤ horizon) {remote : Endpoint}
    (managed : m.isManaged remote = true) (fits : m.overflows horizon remote = false) :
    0 < (m.scheduleRetry now remote).2.pending remote := by
  obtain ⟨-, -, bound, mark⟩ := m.scheduleRetry_marks now remote remote
  apply (sound.scheduleRetry early remote).scheduled remote ((bound horizon).trans fits)
  rw [mark, if_pos rfl, managed]

theorem Sound.setConnected {m : LinkManager Handler} (sound : m.Sound horizon) (remote : Endpoint)
    (connected : Bool) :
    (m.updateLink remote (fun link => { link with connected })).Sound horizon := by
  refine sound.of_marks ⟨retries_updateLink .., nextSerial_updateLink ..⟩ (fun other mark => ?_)
  rw [isRetrying_setConnected] at mark
  exact ⟨mark, overflows_setConnected ..⟩

theorem Sound.popped {m : LinkManager Handler} (sound : m.Sound horizon) {key : Deadline}
    {remote : Endpoint} (first : m.retries.toList = (key, remote) :: (m.retries.erase key).toList) :
    (m.popped key remote).Sound horizon := by
  refine ⟨?_, ?_⟩
  · intro other owner there
    rw [LinkManager.popped, nextSerial_updateLink]
    exact sound.numbered other owner (retries_popped there)
  · intro other fits retrying
    have counted := pending_popped first other
    obtain ⟨-, -, bound, mark⟩ := m.popped_marks key remote other
    rw [mark] at retrying
    split at retrying
    · cases retrying
    · rename_i elsewhere
      have some := sound.scheduled other ((bound horizon).symm.trans fits) retrying
      rw [if_neg elsewhere] at counted
      omega

/-- The manager with an endpoint taken on. -/
def joined (m : LinkManager Handler) (remote : Endpoint) (retryInterval : Nat) (service : String)
    (handler : Option Handler) : LinkManager Handler :=
  { m with links := m.links.insert remote { retryInterval, service, handler } }

theorem add_cases (m : LinkManager Handler) (remote : Endpoint) (retryInterval : Nat)
    (service : String) (handler : Option Handler) :
    m.add remote retryInterval service handler = (false, m) ∨
      m.isManaged remote = false ∧ m.add remote retryInterval service handler =
        (true, m.joined remote retryInterval service handler) := by
  unfold add
  by_cases refused : m.isShutDown ∨ m.isManaged remote
  · rw [if_pos refused]
    exact .inl rfl
  · rw [if_neg refused]
    exact .inr ⟨Bool.eq_false_iff.mpr (fun managed => refused (.inr managed)), rfl⟩

/-- An endpoint is taken on as one that is neither connected nor to be retried. -/
theorem joined_marks (m : LinkManager Handler) (remote : Endpoint) (retryInterval : Nat)
    (service : String) (handler : Option Handler) (other : Endpoint) :
    (m.joined remote retryInterval service handler).isManaged other =
        (decide (remote = other) || m.isManaged other) ∧
      (m.joined remote retryInterval service handler).isConnected other =
        (!decide (remote = other) && m.isConnected other) ∧
      (remote ≠ other → ∀ instant,
        (m.joined remote retryInterval service handler).overflows instant other =
          m.overflows instant other) ∧
      (m.joined remote retryInterval service handler).isRetrying other =
        (!decide (remote = other) && m.isRetrying other) := by
  rw [isManaged_eq, isManaged_eq]
  unfold isConnected isRetrying overflows joined
  dsimp only
  rw [getElem?_inserted]
  by_cases here : remote = other
  · simp only [here, ↓reduceIte, decide_true, Option.isSome_some, Option.any_some, Bool.true_or,
      Bool.not_true, Bool.false_and, ne_eq, not_true_eq_false, false_implies, and_self]
  · simp only [here, ↓reduceIte, decide_false, Bool.false_or, Bool.not_false, Bool.true_and,
      implies_true, and_self]

theorem remove_marks (m : LinkManager Handler) (remote other : Endpoint) :
    (m.remove remote).2.isManaged other = (!decide (remote = other) && m.isManaged other) ∧
      (m.remove remote).2.isConnected other = (!decide (remote = other) && m.isConnected other) ∧
      (∀ instant, (m.remove remote).2.overflows instant other =
        (!decide (remote = other) && m.overflows instant other)) ∧
      (m.remove remote).2.isRetrying other =
        (!decide (remote = other) && m.isRetrying other) := by
  rw [isManaged_eq, isManaged_eq]
  unfold isConnected isRetrying overflows remove
  dsimp only
  rw [getElem?_erased]
  by_cases here : remote = other
  · simp only [here, ↓reduceIte, decide_true, Option.isSome_none, Option.any_none,
      Bool.not_true, Bool.false_and, implies_true, and_self]
  · simp only [here, ↓reduceIte, decide_false, Bool.not_false, Bool.true_and, implies_true,
      and_self]

/-- What a manager makes of an attempt to connect or of an event. -/
inductive Notes (m : LinkManager Handler) (now : Instant) (remote : Endpoint) :
    LinkManager Handler → Prop where
  | nothing : Notes m now remote m
  | connected :
      Notes m now remote (m.updateLink remote (fun link => { link with connected := true }))
  | failed : Notes m now remote (m.scheduleRetry now remote).2
  | lost : Notes m now remote
      ((m.updateLink remote (fun link => { link with connected := false })).scheduleRetry now
        remote).2

/-- Whatever a manager takes note of, it neither takes on nor gives up an endpoint. -/
theorem Notes.isManaged {m next : LinkManager Handler} {now : Instant} {remote : Endpoint}
    (notes : m.Notes now remote next) (other : Endpoint) :
    next.isManaged other = m.isManaged other := by
  cases notes with
  | nothing => rfl
  | connected => exact m.isManaged_updateLink remote other _
  | failed => exact (m.scheduleRetry_marks now remote other).1
  | lost => exact (scheduleRetry_marks _ now remote other).1.trans (isManaged_updateLink ..)

theorem attempted_notes (m : LinkManager Handler) (now : Instant) (remote : Endpoint)
    (outcome : Except ErrorCode Unit) : m.Notes now remote (m.attempted now remote outcome).2 := by
  unfold attempted
  split
  · exact .nothing
  · exact .connected
  · exact .failed

theorem attempted_failed (m : LinkManager Handler) (now : Instant) (remote : Endpoint)
    {code : ErrorCode} (other : code ≠ .alreadyConnected) :
    (m.attempted now remote (.error code)).2 = (m.scheduleRetry now remote).2 := by
  unfold attempted
  split
  · rename_i same
    cases same
  · rename_i same
    exact absurd (Except.error.inj same) other
  · rfl

theorem onEvent_notes (m : LinkManager Handler) (now : Instant) (remote : Endpoint) (e : Event) :
    m.Notes now remote (m.onEvent now remote e).2 := by
  unfold onEvent
  cases e with
  | established => exact .connected
  | disconnected => exact .lost
  | _ => exact .nothing

end MessageTransport.LinkManager
