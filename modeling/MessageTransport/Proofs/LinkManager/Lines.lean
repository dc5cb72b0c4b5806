import MessageTransport.Proofs.LinkManager.Retries

set_option autoImplicit false

namespace MessageTransport

variable {Handler : Type}

/-- A connection that the manager has opened and not yet been told to be gone. -/
structure Line where
  remote : Endpoint
  registered : Bool
deriving DecidableEq, Repr

/-- A manager beside the connections that it has opened, each from its start until the manager is
told that it is gone. -/
structure Switchboard (Handler : Type) where
  manager : LinkManager Handler := .empty
  lines : List Line := []

namespace Switchboard

def empty : Switchboard Handler := {}

/-- A connection to an endpoint is open, or its end has not been told yet. -/
def Linked (lines : List Line) (remote : Endpoint) : Prop :=
  ∃ line ∈ lines, line.remote = remote

/-- An attempt of the manager to connect. Nobody else connects a managed endpoint, so that a
connection which stands in the way there is one of the manager. -/
inductive Attempt (s : Switchboard Handler) (now : Instant) (remote : Endpoint) :
    Switchboard Handler → Prop where
  | opened : Attempt s now remote
      ⟨(s.manager.attempted now remote (.ok ())).2, ⟨remote, true⟩ :: s.lines⟩
  | known (owned : s.manager.isManaged remote = true →
        ∃ line ∈ s.lines, line.remote = remote ∧ line.registered = true) :
      Attempt s now remote
        { s with manager := (s.manager.attempted now remote (.error .alreadyConnected)).2 }
  | failed (code : ErrorCode) (other : code ≠ .alreadyConnected) : Attempt s now remote
      { s with manager := (s.manager.attempted now remote (.error code)).2 }

/-- What can happen next, up to `horizon`. An addition and a retry are one step with the attempt to
connect that they make, and attempts are made at other times as well. A connection leaves the
registry, whoever has closed it, before the manager is told that it is gone, and after that the
manager hears no more of it. -/
inductive Step (horizon : Instant) (s : Switchboard Handler) : Switchboard Handler → Prop where
  | added {next : Switchboard Handler} {now : Instant} (early : now ≤ horizon) (remote : Endpoint)
      (retryInterval : Nat) (service : String) (handler : Option Handler)
      (taken : (s.manager.add remote retryInterval service handler).1 = true)
      (tried : Attempt ⟨(s.manager.add remote retryInterval service handler).2, s.lines⟩ now remote
        next) : Step horizon s next
  | refused (remote : Endpoint) (retryInterval : Nat) (service : String) (handler : Option Handler)
      (refused : (s.manager.add remote retryInterval service handler).1 = false) :
      Step horizon s { s with manager := (s.manager.add remote retryInterval service handler).2 }
  | removed (remote : Endpoint) : Step horizon s { s with manager := (s.manager.remove remote).2 }
  | retried {next : Switchboard Handler} {now : Instant} (early : now ≤ horizon) (remote : Endpoint)
      (due : (s.manager.popRetry now).1 = some (remote, true))
      (tried : Attempt { s with manager := (s.manager.popRetry now).2 } now remote next) :
      Step horizon s next
  | passedOver (now : Instant) (remote : Endpoint)
      (due : (s.manager.popRetry now).1 = some (remote, false)) :
      Step horizon s { s with manager := (s.manager.popRetry now).2 }
  | attempted {next : Switchboard Handler} {now : Instant} (early : now ≤ horizon)
      (remote : Endpoint) (tried : s.Attempt now remote next) : Step horizon s next
  | left {line : Line} (there : line ∈ s.lines) :
      Step horizon s { s with lines := { line with registered := false } :: s.lines.erase line }
  | told {line : Line} (there : line ∈ s.lines) {now : Instant} (early : now ≤ horizon) (e : Event)
      (stays : ∀ remote id reason, e ≠ .disconnected remote id reason) :
      Step horizon s { s with manager := (s.manager.onEvent now line.remote e).2 }
  | lost {line : Line} (there : line ∈ s.lines) (gone : line.registered = false)
      {now : Instant} (early : now ≤ horizon) (remote : Endpoint) (id : UInt32)
      (reason : ErrorCode) :
      Step horizon s ⟨(s.manager.onEvent now line.remote (.disconnected remote id reason)).2,
        s.lines.erase line⟩
  | shutdown : Step horizon s { s with manager := s.manager.shutdown }

inductive Reachable (horizon : Instant) : Switchboard Handler → Prop where
  | start : Reachable horizon empty
  | next {s next : Switchboard Handler} (reached : Reachable horizon s)
    (step : s.Step horizon next) : Reachable horizon next

/-- An endpoint that is managed has a connection or a retry, unless a retry of it may have come
after the last instant, and one that is marked as connected has a connection. -/
structure Tended (horizon : Instant) (s : Switchboard Handler) (remote : Endpoint) : Prop where
  kept : s.manager.overflows horizon remote = false → s.manager.isManaged remote = true →
    Linked s.lines remote ∨ 0 < s.manager.pending remote
  live : s.manager.isConnected remote = true → Linked s.lines remote

variable {horizon : Instant} {s next : Switchboard Handler}

theorem Attempt.manager {now : Instant} {remote : Endpoint} (tried : s.Attempt now remote next) :
    ∃ outcome, next.manager = (s.manager.attempted now remote outcome).2 := by
  cases tried with
  | opened => exact ⟨_, rfl⟩
  | known owned => exact ⟨_, rfl⟩
  | failed code other => exact ⟨_, rfl⟩

theorem Reachable.manager (reached : s.Reachable horizon) :
    ∃ before, LinkManager.Reachable horizon before s.manager := by
  induction reached with
  | start => exact ⟨_, .start⟩
  | next reached step ih =>
    obtain ⟨before, ih⟩ := ih
    cases step with
    | added early remote retryInterval service handler taken tried =>
      obtain ⟨outcome, same⟩ := tried.manager
      rw [same]
      exact ⟨_, (ih.add remote retryInterval service handler).attempted early remote outcome⟩
    | refused remote retryInterval service handler =>
      exact ⟨_, ih.add remote retryInterval service handler⟩
    | removed remote => exact ⟨_, ih.remove remote⟩
    | retried early remote due tried =>
      obtain ⟨outcome, same⟩ := tried.manager
      rw [same]
      exact ⟨_, (ih.retry _).attempted early remote outcome⟩
    | passedOver now => exact ⟨_, ih.retry now⟩
    | attempted early remote tried =>
      obtain ⟨outcome, same⟩ := tried.manager
      rw [same]
      exact ⟨_, ih.attempted early remote outcome⟩
    | left there => exact ⟨_, ih⟩
    | told there early e => exact ⟨_, ih.event early _ e⟩
    | lost there gone early remote id reason => exact ⟨_, ih.event early _ _⟩
    | shutdown => exact ⟨_, ih.shutdown⟩

theorem Linked.cons {lines : List Line} {remote : Endpoint} (linked : Linked lines remote)
    (line : Line) : Linked (line :: lines) remote := by
  obtain ⟨other, there, same⟩ := linked
  exact ⟨other, List.mem_cons_of_mem _ there, same⟩

theorem Linked.erase {lines : List Line} {line : Line} {remote : Endpoint}
    (linked : Linked lines remote) (elsewhere : line.remote ≠ remote) :
    Linked (lines.erase line) remote := by
  obtain ⟨other, there, rfl⟩ := linked
  refine ⟨other, (List.mem_erase_of_ne ?_).mpr there, rfl⟩
  rintro rfl
  exact elsewhere rfl

/-- What an endpoint has stays with it as long as it gains no mark and loses no retry. -/
theorem Tended.of_marks {remote : Endpoint} (tended : s.Tended horizon remote)
    (linked : Linked s.lines remote → Linked next.lines remote)
    (managed : next.manager.isManaged remote = true → s.manager.isManaged remote = true)
    (connected : next.manager.isConnected remote = true → s.manager.isConnected remote = true)
    (bound : next.manager.isManaged remote = true →
      next.manager.overflows horizon remote = s.manager.overflows horizon remote)
    (pending : s.manager.pending remote ≤ next.manager.pending remote) :
    next.Tended horizon remote := by
  refine ⟨?_, fun marked => linked (tended.live (connected marked))⟩
  intro fits still
  rcases tended.kept ((bound still).symm.trans fits) (managed still) with line | retry
  · exact .inl (linked line)
  · exact .inr (Nat.lt_of_lt_of_le retry pending)

/-- A link that is marked as connected has to have a connection, and no other is touched. -/
theorem tended_setConnected {remote : Endpoint}
    (tended : ∀ other, other ≠ remote → s.Tended horizon other)
    (linked : s.manager.isManaged remote = true → Linked s.lines remote) (other : Endpoint) :
    Tended horizon
      ⟨s.manager.updateLink remote (fun link => { link with connected := true }), s.lines⟩
      other := by
  by_cases here : other = remote
  · subst here
    refine ⟨?_, ?_⟩
    · intro _ managed
      rw [LinkManager.isManaged_updateLink] at managed
      exact .inl (linked managed)
    · intro connected
      have managed := LinkManager.isManaged_of_isConnected connected
      rw [LinkManager.isManaged_updateLink] at managed
      exact linked managed
  · have marks := s.manager.isConnected_setConnected remote other true
    rw [if_neg (Ne.symm here)] at marks
    refine (tended other here).of_marks id ?_ ?_ ?_ ?_
    · intro managed
      rwa [LinkManager.isManaged_updateLink] at managed
    · intro connected
      rwa [marks] at connected
    · intro _
      exact s.manager.overflows_setConnected horizon remote other true
    · rw [LinkManager.pending_updateLink]

/-- A failure leaves a retry in the queue, if that does not come after the last instant, and touches
no other endpoint. -/
theorem tended_scheduleRetry {remote : Endpoint} (sound : s.manager.Sound horizon) {now : Instant}
    (early : now ≤ horizon) (tended : ∀ other, other ≠ remote → s.Tended horizon other)
    (live : s.manager.isConnected remote = true → Linked s.lines remote) (other : Endpoint) :
    Tended horizon ⟨(s.manager.scheduleRetry now remote).2, s.lines⟩ other := by
  obtain ⟨sameManaged, sameConnected, bound, -⟩ := s.manager.scheduleRetry_marks now remote other
  by_cases here : other = remote
  · subst here
    refine ⟨?_, ?_⟩
    · intro fits managed
      rw [bound] at fits
      rw [sameManaged] at managed
      exact .inr (sound.pending_scheduleRetry_pos early managed fits)
    · intro connected
      rw [sameConnected] at connected
      exact live connected
  · refine (tended other here).of_marks id ?_ ?_ (fun _ => bound horizon) ?_
    · intro managed
      rwa [sameManaged] at managed
    · intro connected
      rwa [sameConnected] at connected
    · exact sound.numbered.pending_le_scheduleRetry now remote other

theorem Attempt.tended {now : Instant} {remote : Endpoint} (tried : s.Attempt now remote next)
    (early : now ≤ horizon) (sound : s.manager.Sound horizon)
    (tended : ∀ other, other ≠ remote → s.Tended horizon other)
    (live : s.manager.isConnected remote = true → Linked s.lines remote) (other : Endpoint) :
    next.Tended horizon other := by
  cases tried with
  | opened =>
    by_cases here : other = remote
    · have linked : Linked (⟨remote, true⟩ :: s.lines) other :=
        ⟨_, List.mem_cons_self, here.symm⟩
      exact ⟨fun _ _ => .inl linked, fun _ => linked⟩
    · exact (tended other here).of_marks (fun linked => linked.cons _) id id (fun _ => rfl)
        (Nat.le_refl _)
  | known owned =>
    refine tended_setConnected tended (fun managed => ?_) other
    obtain ⟨line, there, same, -⟩ := owned managed
    exact ⟨line, there, same⟩
  | failed code unlike =>
    rw [s.manager.attempted_failed now remote unlike]
    exact tended_scheduleRetry sound early tended live other

theorem tended_joined (tended : ∀ other, s.Tended horizon other) (remote : Endpoint)
    (retryInterval : Nat) (service : String) (handler : Option Handler) (other : Endpoint)
    (elsewhere : other ≠ remote) :
    Tended horizon ⟨s.manager.joined remote retryInterval service handler, s.lines⟩ other := by
  obtain ⟨managed, connected, bound, -⟩ :=
    s.manager.joined_marks remote retryInterval service handler other
  rw [decide_eq_false (Ne.symm elsewhere)] at managed connected
  exact (tended other).of_marks id managed.symm.trans connected.symm.trans
    (fun _ => bound (Ne.symm elsewhere) horizon) (Nat.le_refl _)

theorem tended_removed (tended : ∀ other, s.Tended horizon other) (remote other : Endpoint) :
    Tended horizon ⟨(s.manager.remove remote).2, s.lines⟩ other := by
  obtain ⟨managed, connected, bound, -⟩ := s.manager.remove_marks remote other
  refine (tended other).of_marks id ?_ ?_ ?_ (Nat.le_refl _)
  · intro still
    rw [managed] at still
    exact (Bool.and_eq_true_iff.mp still).2
  · intro still
    rw [connected] at still
    exact (Bool.and_eq_true_iff.mp still).2
  · intro still
    rw [managed] at still
    rw [bound, (Bool.and_eq_true_iff.mp still).1, Bool.true_and]

/-- A retry that is taken out leaves only its own endpoint in want of something. -/
theorem tended_popped {key : Deadline} {remote : Endpoint}
    (first : s.manager.retries.toList = (key, remote) :: (s.manager.retries.erase key).toList)
    (tended : ∀ other, s.Tended horizon other) (other : Endpoint) (elsewhere : other ≠ remote) :
    Tended horizon ⟨s.manager.popped key remote, s.lines⟩ other := by
  obtain ⟨managed, connected, bound, -⟩ := s.manager.popped_marks key remote other
  have counted := LinkManager.pending_popped first other
  rw [if_neg (Ne.symm elsewhere), Nat.add_zero] at counted
  exact (tended other).of_marks id managed.symm.trans connected.symm.trans (fun _ => bound horizon)
    (Nat.le_of_eq counted)

/-- A managed endpoint is passed over only if it is marked as connected. -/
theorem tended_passedOver {key : Deadline} {remote : Endpoint}
    (first : s.manager.retries.toList = (key, remote) :: (s.manager.retries.erase key).toList)
    (tended : ∀ other, s.Tended horizon other)
    (passed : (s.manager.isManaged remote && !s.manager.isConnected remote) = false)
    (other : Endpoint) : Tended horizon ⟨s.manager.popped key remote, s.lines⟩ other := by
  by_cases here : other = remote
  · subst here
    obtain ⟨managed, connected, -⟩ := s.manager.popped_marks key other other
    have live := (tended other).live
    refine ⟨?_, fun still => live (connected.symm.trans still)⟩
    intro _ still
    rw [← managed, still, Bool.true_and, Bool.not_eq_false'] at passed
    exact .inl (live passed)
  · exact tended_popped first tended other here

/-- An end that is told takes one connection away, and leaves a retry of its endpoint. -/
theorem tended_lost (tended : ∀ other, s.Tended horizon other) (sound : s.manager.Sound horizon)
    (line : Line) {now : Instant} (early : now ≤ horizon) (other : Endpoint) :
    Tended horizon
      ⟨((s.manager.updateLink line.remote (fun link => { link with connected := false }))
        |>.scheduleRetry now line.remote).2, s.lines.erase line⟩ other := by
  have down := s.manager.isConnected_setConnected line.remote
  refine tended_scheduleRetry (s := ⟨s.manager.updateLink line.remote _, s.lines.erase line⟩)
    (sound.setConnected line.remote false) early ?_ ?_ other
  · intro third apart
    have connected := down third false
    rw [if_neg (Ne.symm apart)] at connected
    exact (tended third).of_marks (fun linked => linked.erase (Ne.symm apart))
      (LinkManager.isManaged_updateLink ..).symm.trans connected.symm.trans
      (fun _ => LinkManager.overflows_setConnected ..)
      (Nat.le_of_eq (LinkManager.pending_updateLink ..).symm)
  · intro connected
    rw [down line.remote false, if_pos rfl, Bool.and_false] at connected
    cases connected

theorem Step.tended (step : s.Step horizon next) {before : Endpoint → LinkManager Handler}
    (reached : LinkManager.Reachable horizon before s.manager)
    (tended : ∀ remote, s.Tended horizon remote) (other : Endpoint) :
    next.Tended horizon other := by
  have sound := reached.balanced.sound
  cases step with
  | added early remote retryInterval service handler taken tried =>
    have sound := (reached.add remote retryInterval service handler).balanced.sound
    rcases s.manager.add_cases remote retryInterval service handler with refused | ⟨-, joined⟩
    · rw [refused] at taken
      cases taken
    · rw [joined] at tried sound
      refine tried.tended early sound
        (tended_joined tended remote retryInterval service handler) ?_ other
      intro connected
      have marks := s.manager.joined_marks remote retryInterval service handler remote
      rw [marks.2.1, decide_eq_true rfl] at connected
      cases connected
  | refused remote retryInterval service handler refused =>
    rcases s.manager.add_cases remote retryInterval service handler with same | ⟨-, joined⟩
    · rw [same]
      exact tended other
    · rw [joined] at refused
      cases refused
  | removed remote => exact tended_removed tended remote other
  | @retried _ now early remote due tried =>
    have sound := (reached.retry now).balanced.sound
    rcases s.manager.popRetry_cases now with none | ⟨key, owner, first, one⟩
    · rw [none] at due
      cases due
    · rw [one] at due tried sound
      obtain rfl : owner = remote := congrArg Prod.fst (Option.some.inj due)
      refine tried.tended early sound (tended_popped first tended) ?_ other
      intro connected
      rw [(s.manager.popped_marks key owner owner).2.1] at connected
      exact (tended owner).live connected
  | passedOver now remote due =>
    rcases s.manager.popRetry_cases now with none | ⟨key, owner, first, one⟩
    · rw [none] at due
      cases due
    · rw [one] at due ⊢
      exact tended_passedOver first tended (congrArg Prod.snd (Option.some.inj due)) other
  | attempted early remote tried =>
    exact tried.tended early sound (fun other _ => tended other) (tended remote).live other
  | @left line there =>
    refine (tended other).of_marks ?_ id id (fun _ => rfl) (Nat.le_refl _)
    intro linked
    by_cases here : line.remote = other
    · exact ⟨_, List.mem_cons_self, here⟩
    · exact (linked.erase here).cons _
  | @told line there now _ e stays =>
    cases e with
    | established =>
      exact tended_setConnected (fun other _ => tended other) (fun _ => ⟨line, there, rfl⟩) other
    | disconnected remote id reason => exact absurd rfl (stays remote id reason)
    | _ => exact tended other
  | @lost line _ _ now early => exact tended_lost tended sound line early other
  | shutdown => exact (tended other).of_marks id id id (fun _ => rfl) (Nat.le_refl _)

theorem Reachable.tended (reached : s.Reachable horizon) (remote : Endpoint) :
    s.Tended horizon remote := by
  induction reached generalizing remote with
  | start =>
    refine ⟨?_, ?_⟩
    · intro _ managed
      cases managed
    · intro connected
      cases connected
  | next reached step ih =>
    obtain ⟨before, managed⟩ := reached.manager
    exact step.tended managed ih remote

/-- In every state an endpoint that is marked as connected has a connection, of which the manager will
be told that it is gone. As long as no retry of an endpoint can have come after the last instant, it
has such a connection or a retry in the queue if it is managed, and a retry if it is marked as one to
be retried. -/
theorem sustained_of_reachable (reached : s.Reachable horizon) (remote : Endpoint) :
    (s.manager.isConnected remote = true → ∃ line ∈ s.lines, line.remote = remote) ∧
      (s.manager.overflows horizon remote = false →
        (s.manager.isManaged remote = true →
          (∃ line ∈ s.lines, line.remote = remote) ∨
            ∃ key : Deadline, s.manager.retries[key]? = some remote) ∧
          (s.manager.isRetrying remote = true →
            ∃ key : Deadline, s.manager.retries[key]? = some remote)) := by
  obtain ⟨kept, live⟩ := reached.tended remote
  obtain ⟨before, managed⟩ := reached.manager
  refine ⟨live, fun fits => ⟨?_, ?_⟩⟩
  · intro still
    exact (kept fits still).imp_right LinkManager.pending_pos_iff.mp
  · intro marked
    exact LinkManager.pending_pos_iff.mp (managed.balanced.sound.scheduled remote fits marked)

open LinkManager (peer)

/-- An endpoint is given up, and taken on again before its connection has left the registry. -/
def retaken : LinkManager Unit :=
  let first := (LinkManager.empty.add peer 5000 "" none).2
  let connected := (first.onEvent 10 peer (.established peer 1)).2
  (((connected.remove peer).2.add peer 5000 "" none).2.attempted 20 peer
    (.error .alreadyConnected)).2

/-- The end of that connection is told to the link that was taken on again. -/
def late : Switchboard Unit :=
  ⟨(retaken.onEvent 30 peer (.disconnected peer 1 .brokenConnection)).2, []⟩

theorem late_reachable : late.Reachable 30 := by
  have opened : Reachable 30 (⟨(LinkManager.empty.add peer 5000 "" none).2, [⟨peer, true⟩]⟩ :
      Switchboard Unit) :=
    .next .start (.added (show (0 : Instant) ≤ 30 by decide) peer 5000 "" none (by decide +kernel)
      .opened)
  have told := opened.next (.told List.mem_cons_self (show (10 : Instant) ≤ 30 by decide)
    (.established peer 1) (by rintro _ _ _ ⟨⟩))
  have known : Reachable 30 ⟨retaken, [⟨peer, true⟩]⟩ := by
    refine (told.next (.removed peer)).next
      (.added (show (20 : Instant) ≤ 30 by decide) peer 5000 "" none (by decide +kernel) ?_)
    exact .known (fun _ => ⟨_, List.mem_cons_self, rfl, rfl⟩)
  have left := known.next (.left List.mem_cons_self)
  have lost := left.next (.lost List.mem_cons_self rfl (Int.le_refl 30) peer 1 .brokenConnection)
  rwa [List.erase_cons_head, List.erase_cons_head] at lost

theorem sustained_of_reachable_late :
    retaken.isConnected peer = true ∧ late.manager.isManaged peer = true ∧ late.lines = [] ∧
      late.manager.isRetrying peer = true ∧
        ∃ key : Deadline, late.manager.retries[key]? = some peer := by
  have managed : late.manager.isManaged peer = true := by decide +kernel
  have marked : late.manager.isRetrying peer = true := by decide +kernel
  have fits : late.manager.overflows 30 peer = false := by decide +kernel
  obtain ⟨kept, scheduled⟩ := (sustained_of_reachable late_reachable peer).2 fits
  refine ⟨by decide +kernel, managed, rfl, marked, ?_⟩
  rcases kept managed with ⟨line, there, -⟩ | retry
  · cases there
  · exact retry

/-- An endpoint is taken on with the longest interval that can be asked for, in milliseconds, and
the first attempt to connect fails. -/
def stranded : Switchboard Unit :=
  ⟨((LinkManager.empty.add peer (18446744073709551615 * 1000 + 999) "" none).2.attempted 0 peer
    (.error .connectError)).2, []⟩

/-- The manager panics behind the mark, and the endpoint has neither a connection nor a retry. -/
theorem not_sustained :
    ¬ ∀ horizon (s : Switchboard Unit), s.Reachable horizon → ∀ remote,
      (s.manager.isManaged remote = true →
        (∃ line ∈ s.lines, line.remote = remote) ∨
          ∃ key : Deadline, s.manager.retries[key]? = some remote) ∧
        (s.manager.isConnected remote = true → ∃ line ∈ s.lines, line.remote = remote) ∧
        (s.manager.isRetrying remote = true →
          ∃ key : Deadline, s.manager.retries[key]? = some remote) := by
  intro sustained
  have reached : stranded.Reachable 0 := .next .start
    (.added (Int.le_refl 0) peer (18446744073709551615 * 1000 + 999) "" none (by decide +kernel)
      (.failed .connectError (by decide)))
  have managed : stranded.manager.isManaged peer = true := by decide +kernel
  have none : stranded.manager.pending peer = 0 := by decide +kernel
  rcases (sustained 0 stranded reached peer).1 managed with ⟨line, there, -⟩ | retry
  · cases there
  · have some := LinkManager.pending_pos_iff.mpr retry
    omega

end Switchboard

end MessageTransport
