import MessageTransport.Proofs.Drive.Steps

set_option autoImplicit false

namespace MessageTransport

variable {Handler : Type}

/-- Reading takes a request out only to tell its handler of a response. -/
theorem Reactor.pending?_receive (r : Reactor Handler) (c : Connection Handler)
    (answers : List ReadAnswer) (q : PendingRequest Handler) :
    (r.receive c answers).reactor.requests.pending? q.id = r.requests.pending? q.id ∨
      (r.receive c answers).reactor.requests.pending? q.id = none ∧
        (r.requests.pending? q.id = some q →
          ∃ m : Message, m.header.isRequest = false ∧ m.header.id = q.id ∧
            (r.receive c answers).delivery = some ⟨q.handler, c.received m⟩) := by
  have table := r.requests_updateConnection c.id
    (fun c' => { c' with reader := (c.reader.advance answers).reader })
  unfold receive
  dsimp only
  split
  · exact .inl (by rw [table])
  · exact .inl (by rw [table])
  · rename_i m _
    unfold dispatch
    dsimp only
    split
    · exact .inl (by rw [table])
    · rename_i response
      simp only [removeRequest, table]
      obtain ⟨found, left⟩ := r.requests.remove_pending m.header.id
      rw [found, left]
      by_cases same : m.header.id = q.id
      · rw [if_pos same]
        refine .inr ⟨rfl, ?_⟩
        intro pending
        refine ⟨m, Bool.eq_false_iff.mpr response, same, ?_⟩
        rw [same, pending]
        rfl
      · rw [if_neg same]
        exact .inl rfl

namespace Drive

/-- What the task has taken out and has still to tell. -/
def Phase.left : Phase Handler → List (Delivery Handler)
  | telling left => left
  | _ => []

/-- What has been told and what has been taken out to be told. -/
def news (d : Drive Handler) : List (Delivery Handler) :=
  d.told ++ d.swept ++ d.due ++ d.phase.left

/-- The handler of a request has been told of a response to it that came in on the connection. -/
def Answered (d : Drive Handler) (q : PendingRequest Handler) : Prop :=
  ∃ m : Message, m.header.isRequest = false ∧ m.header.id = q.id ∧
    ⟨q.handler, d.origin.received m⟩ ∈ d.told

/-- The connection is closed. -/
def Phase.isShut : Phase Handler → Bool
  | closed _ => true
  | disowned _ => true
  | unregistered _ => true
  | telling _ => true
  | _ => false

/-- What was pending on the connection has been taken out. -/
def Phase.isPurged : Phase Handler → Bool
  | telling _ => true
  | _ => false

/-- Nothing is taken out before the connection is closed. -/
theorem Phase.isPurged_of_isShut {phase : Phase Handler} (early : phase.isShut = false) :
    phase.isPurged = false := by
  cases phase with
  | telling left => cases early
  | _ => rfl

theorem isShut_phaseAfter (writes panics : Bool) (outcome : Except ErrorCode Bool) :
    (phaseAfter writes panics outcome : Phase Handler).isShut = false := by
  cases outcome with
  | error code => rfl
  | ok more =>
    cases more with
    | false => rfl
    | true => cases panics <;> rfl

theorem isShut_flush (d : Drive Handler) (c : Connection Handler) (answers : List WriteAnswer) :
    (d.flush c answers).phase.isShut = false := by
  rcases d.phase_flush c answers with failed | written
  · rw [failed]
    rfl
  · rw [written]
    rfl

/-- What is pending under the id of a request. -/
def pending? (d : Drive Handler) (q : PendingRequest Handler) : Option (PendingRequest Handler) :=
  d.reactor.requests.pending? q.id

/-- A request is over, and its handler is told so or will be. -/
structure Over (d : Drive Handler) (q : PendingRequest Handler) : Prop where
  gone : d.pending? q = none
  known : d.Answered q ∨
    ∃ code, ⟨q.handler, .failed q.remote q.connId q.id code⟩ ∈ d.news

/-- How a request stands when its call has come to a stage. -/
def Standing (d : Drive Handler) (q : PendingRequest Handler) : Call.Stage → Prop
  | .found => d.pending? q = none
  | .recorded => d.pending? q = some q ∨ d.Over q
  | .appended _ => d.pending? q = some q ∧ d.phase.isPurged = false ∨ d.Over q
  | .refused _ => d.pending? q = none ∨ d.pending? q = some q
  | .withdrawn _ => d.pending? q = none
  | .returned (.ok _) => d.pending? q = some q ∧ d.phase.isPurged = false ∨ d.Over q
  | .returned (.error _) => d.pending? q = none

/-- What a step does to a request that it does not belong to. -/
structure Carries (d next : Drive Handler) (q : PendingRequest Handler) : Prop where
  origin : next.origin = d.origin
  told : ∀ x ∈ d.told, x ∈ next.told
  news : ∀ x ∈ d.news, x ∈ next.news
  fate : next.pending? q = d.pending? q ∧ next.phase.isPurged = d.phase.isPurged ∨
    next.pending? q = none ∧ (d.pending? q = some q → next.Over q)

/-- Every request names the connection, has an id of its own and stands as its call has come. -/
structure Accounted (d : Drive Handler) : Prop where
  fits : ∀ call ∈ d.calls, ∀ q ∈ call.request, q.connId = d.origin.id ∧ q.remote = d.origin.remote
  apart : ∀ (i j : Nat) (a b : Call Handler), d.calls[i]? = some a → d.calls[j]? = some b →
    i ≠ j → ∀ p ∈ a.request, ∀ q ∈ b.request, p.id ≠ q.id
  standing : ∀ call ∈ d.calls, ∀ q ∈ call.request, d.Standing q call.stage

variable {d next : Drive Handler} {q : PendingRequest Handler}

theorem Over.carried (ended : d.Over q) (carries : d.Carries next q) : next.Over q := by
  refine ⟨?_, ?_⟩
  · rcases carries.fate with ⟨same, -⟩ | ⟨gone, -⟩
    · exact same.trans ended.gone
    · exact gone
  · rcases ended.known with ⟨m, kind, own, told⟩ | ⟨code, known⟩
    · exact .inl ⟨m, kind, own, carries.origin.symm ▸ carries.told _ told⟩
    · exact .inr ⟨code, carries.news _ known⟩

theorem Carries.gone (carries : d.Carries next q) (gone : d.pending? q = none) :
    next.pending? q = none := by
  rcases carries.fate with ⟨same, -⟩ | ⟨gone, -⟩
  · exact same.trans gone
  · exact gone

/-- Nothing but the request itself is pending under its id. -/
theorem Standing.alone {stage : Call.Stage} (standing : d.Standing q stage) :
    d.pending? q = none ∨ d.pending? q = some q := by
  cases stage with
  | found => exact .inl standing
  | recorded => exact standing.elim .inr (fun ended => .inl ended.gone)
  | appended follow => exact standing.elim (fun held => .inr held.1) (fun ended => .inl ended.gone)
  | refused code => exact standing
  | withdrawn code => exact .inl standing
  | returned outcome =>
    cases outcome with
    | ok _ => exact standing.elim (fun held => .inr held.1) (fun ended => .inl ended.gone)
    | error code => exact .inl standing

/-- A request stands as it stood, or is over by now. -/
theorem Standing.carried {stage : Call.Stage} (standing : d.Standing q stage)
    (carries : d.Carries next q) : next.Standing q stage := by
  have sent (before : d.pending? q = some q ∧ d.phase.isPurged = false ∨ d.Over q) :
      next.pending? q = some q ∧ next.phase.isPurged = false ∨ next.Over q := by
    rcases before with ⟨pending, early⟩ | ended
    · rcases carries.fate with ⟨same, purged⟩ | ⟨-, ended⟩
      · exact .inl ⟨same.trans pending, purged.trans early⟩
      · exact .inr (ended pending)
    · exact .inr (ended.carried carries)
  cases stage with
  | found => exact carries.gone standing
  | recorded =>
    rcases standing with pending | ended
    · rcases carries.fate with ⟨same, -⟩ | ⟨-, ended⟩
      · exact .inl (same.trans pending)
      · exact .inr (ended pending)
    · exact .inr (ended.carried carries)
  | appended follow => exact sent standing
  | refused code =>
    rcases carries.fate with ⟨same, -⟩ | ⟨gone, -⟩
    · exact standing.imp same.trans same.trans
    · exact .inl gone
  | withdrawn code => exact carries.gone standing
  | returned outcome =>
    cases outcome with
    | ok _ => exact sent standing
    | error code => exact carries.gone standing

theorem Accounted.carried (accounted : d.Accounted) (origin : next.origin = d.origin)
    (calls : next.calls = d.calls)
    (carries : ∀ call ∈ d.calls, ∀ q ∈ call.request, d.Carries next q) : next.Accounted := by
  refine ⟨?_, ?_, ?_⟩
  · rw [calls, origin]
    exact accounted.fits
  · rw [calls]
    exact accounted.apart
  · rw [calls]
    intro call member q own
    exact (accounted.standing call member q own).carried (carries call member q own)

/-- When a call goes on, the others stand as they stood. -/
theorem Accounted.advance (accounted : d.Accounted) {i : Nat} {call : Call Handler}
    (there : d.calls[i]? = some call) {stage : Call.Stage} (origin : next.origin = d.origin)
    (calls : next.calls = Call.advance d.calls i stage)
    (carries : ∀ q, (∀ p ∈ call.request, p.id ≠ q.id) → d.Carries next q)
    (standing : ∀ q ∈ call.request, next.Standing q stage) : next.Accounted := by
  -- A call of the next state is one of this state, at another stage if it is the one that goes on.
  have before {j : Nat} {other : Call Handler} (found : next.calls[j]? = some other) :
      ∃ old, d.calls[j]? = some old ∧ other.request = old.request ∧
        (i ≠ j → other.stage = old.stage) ∧ (i = j → other.stage = stage) := by
    rw [calls, Call.getElem?_advance] at found
    obtain ⟨old, held, rfl⟩ := Option.map_eq_some_iff.mp found
    refine ⟨old, held, ?_, ?_, ?_⟩
    · split <;> rfl
    · intro apart
      rw [if_neg apart]
    · intro same
      rw [if_pos same]
  refine ⟨?_, ?_, ?_⟩
  · intro other member q own
    obtain ⟨j, found⟩ := List.mem_iff_getElem?.mp member
    obtain ⟨old, held, request, -, -⟩ := before found
    rw [origin]
    exact accounted.fits old (List.mem_of_getElem? held) q (request ▸ own)
  · intro j k a b foundA foundB apart p ownA q ownB
    obtain ⟨oldA, heldA, requestA, -, -⟩ := before foundA
    obtain ⟨oldB, heldB, requestB, -, -⟩ := before foundB
    exact accounted.apart j k oldA oldB heldA heldB apart p (requestA ▸ ownA) q (requestB ▸ ownB)
  · intro other member q own
    obtain ⟨j, found⟩ := List.mem_iff_getElem?.mp member
    obtain ⟨old, held, request, stays, moves⟩ := before found
    rw [request] at own
    by_cases same : i = j
    · subst same
      obtain rfl := Option.some.inj (there.symm.trans held)
      rw [moves rfl]
      exact standing q own
    · rw [stays same]
      exact (accounted.standing old (List.mem_of_getElem? held) q own).carried
        (carries q (fun p other => accounted.apart i j call old there held same p other q own))

theorem mem_news {x : Delivery Handler} :
    x ∈ d.news ↔ x ∈ d.told ∨ x ∈ d.swept ∨ x ∈ d.due ∨ x ∈ d.phase.left := by
  rw [news, List.mem_append, List.mem_append, List.mem_append, or_assoc, or_assoc]

/-- No news is forgotten if what was due is due or has been told, and what the task had still to
tell it has still to tell or has told. -/
theorem news_subset (told : ∀ x ∈ d.told, x ∈ next.told) (swept : ∀ x ∈ d.swept, x ∈ next.swept)
    (due : ∀ x ∈ d.due, x ∈ next.swept ∨ x ∈ next.due)
    (left : ∀ x ∈ d.phase.left, x ∈ next.told ∨ x ∈ next.phase.left) :
    ∀ x ∈ d.news, x ∈ next.news := by
  intro x known
  rw [mem_news] at known ⊢
  rcases known with said | warned | waiting | rest
  · exact .inl (told x said)
  · exact .inr (.inl (swept x warned))
  · exact .inr ((due x waiting).imp_right .inl)
  · exact (left x rest).imp_right (fun later => .inr (.inr later))

/-- A step that leaves the requests alone and forgets no news. -/
theorem carries_of_same (d next : Drive Handler) (origin : next.origin = d.origin)
    (requests : next.reactor.requests = d.reactor.requests)
    (purged : next.phase.isPurged = d.phase.isPurged) (told : ∀ x ∈ d.told, x ∈ next.told)
    (news : ∀ x ∈ d.news, x ∈ next.news) (q : PendingRequest Handler) : d.Carries next q :=
  ⟨origin, told, news, .inl ⟨by rw [pending?, pending?, requests], purged⟩⟩

theorem Accounted.enter (accounted : d.Accounted) (request : Option (PendingRequest Handler))
    (chunks : List Bytes) (fits : ∀ q ∈ request, d.Fits q) : (d.enter request chunks).Accounted := by
  have newest {i : Nat} {call : Call Handler} (found : (d.enter request chunks).calls[i]? = some call) :
      d.calls[i]? = some call ∨ i = d.calls.length ∧ call = { request, chunks } := by
    rcases Nat.lt_or_ge i d.calls.length with old | new
    · exact .inl ((List.getElem?_append_left old).symm.trans found)
    · have last := (List.getElem?_append_right new).symm.trans found
      obtain ⟨at0, same⟩ := List.getElem?_eq_some_iff.mp last
      have zero : i - d.calls.length < 1 := at0
      refine .inr ⟨by omega, ?_⟩
      rw [← same, List.getElem_singleton]
  refine ⟨?_, ?_, ?_⟩
  · intro call member q own
    rcases List.mem_append.mp member with old | new
    · exact accounted.fits call old q own
    · obtain rfl := List.mem_singleton.mp new
      exact ⟨(fits q own).connId, (fits q own).remote⟩
  · intro i j a b foundA foundB apart p ownA q ownB
    rcases newest foundA with oldA | ⟨lastA, rfl⟩
    · rcases newest foundB with oldB | ⟨-, rfl⟩
      · exact accounted.apart i j a b oldA oldB apart p ownA q ownB
      · exact (fits q ownB).unused.called a (List.mem_of_getElem? oldA) p ownA
    · rcases newest foundB with oldB | ⟨lastB, -⟩
      · exact ((fits p ownA).unused.called b (List.mem_of_getElem? oldB) q ownB).symm
      · exact absurd (lastA.trans lastB.symm) apart
  · intro call member q own
    rcases List.mem_append.mp member with old | new
    · exact (accounted.standing call old q own).carried
        (d.carries_of_same (d.enter request chunks) rfl rfl rfl (fun _ => id) (fun _ => id) q)
    · obtain rfl := List.mem_singleton.mp new
      exact (fits q own).unused.pending

theorem Accounted.record (accounted : d.Accounted) {i : Nat} {call : Call Handler}
    (there : d.calls[i]? = some call) : (d.record i call).Accounted := by
  have requests : (d.record i call).reactor.requests =
      call.request.elim d.reactor.requests d.reactor.requests.insert := by
    unfold Drive.record
    cases call.request with
    | none => rfl
    | some q => rfl
  refine accounted.advance there rfl rfl ?_ ?_
  · intro q apart
    refine ⟨rfl, fun _ => id, fun _ => id, .inl ⟨?_, rfl⟩⟩
    rw [pending?, requests]
    cases request : call.request with
    | none => rfl
    | some p =>
      rw [Option.elim_some, RequestTable.pending?_insert, if_neg (apart p request)]
      rfl
  · intro q own
    refine .inl ?_
    rw [pending?, requests, Option.mem_def.mp own, Option.elim_some, RequestTable.pending?_insert,
      if_pos rfl]

theorem Accounted.withdraw (accounted : d.Accounted) {i : Nat} {call : Call Handler}
    (there : d.calls[i]? = some call) (code : ErrorCode) : (d.withdraw i call code).Accounted := by
  have requests : (d.withdraw i call code).reactor.requests =
      call.request.elim d.reactor.requests (fun q => (d.reactor.requests.remove q.id).2) := by
    unfold Drive.withdraw
    cases call.request with
    | none => rfl
    | some q => rfl
  refine accounted.advance there rfl rfl ?_ ?_
  · intro q apart
    refine ⟨rfl, fun _ => id, fun _ => id, .inl ⟨?_, rfl⟩⟩
    rw [pending?, requests]
    cases request : call.request with
    | none => rfl
    | some p =>
      rw [Option.elim_some, (d.reactor.requests.remove_pending p.id).2, if_neg (apart p request)]
      rfl
  · intro q own
    show pending? _ q = none
    rw [pending?, requests, Option.mem_def.mp own, Option.elim_some,
      (d.reactor.requests.remove_pending q.id).2, if_pos rfl]

/-- Chunks are taken only as long as the connection is not closed, and until then nothing is taken
out of what is pending on it. -/
theorem Accounted.append (accounted : d.Accounted) {i : Nat} {call : Call Handler}
    (there : d.calls[i]? = some call) (stage : call.stage = .recorded) {c : Connection Handler}
    (closed : d.phase.isShut = true → c.state = .closed)
    (answers : List WriteAnswer) : (d.append i call c answers).Accounted := by
  have requests : (d.append i call c answers).reactor.requests = d.reactor.requests :=
    d.reactor.requests_updateConnection _ _
  have carries (q : PendingRequest Handler) : d.Carries (d.append i call c answers) q :=
    d.carries_of_same (d.append i call c answers) rfl requests rfl (fun _ => id) (fun _ => id) q
  refine accounted.advance there rfl rfl (fun q _ => carries q) ?_
  intro q own
  have before := accounted.standing call (List.mem_of_getElem? there) q own
  rw [stage] at before
  cases followUp : (c.enqueue call.chunks answers).followUp with
  | error code => exact (Standing.carried before (carries q)).alone
  | ok next =>
    have open' : d.phase.isShut = false := by
      cases shut : d.phase.isShut with
      | false => rfl
      | true =>
        simp only [Connection.enqueue, closed shut] at followUp
        cases followUp
    rcases before with pending | ended
    · refine .inl ⟨?_, Phase.isPurged_of_isShut open'⟩
      rw [pending?, requests]
      exact pending
    · exact .inr (ended.carried (carries q))

theorem Accounted.follow (accounted : d.Accounted) {i : Nat} {call : Call Handler}
    (there : d.calls[i]? = some call) {follow : Connection.FollowUp}
    (stage : call.stage = .appended follow) : (d.follow i follow).Accounted := by
  have requests : (d.follow i follow).reactor.requests = d.reactor.requests :=
    d.reactor.requests_updateConnection _ _
  have carries (q : PendingRequest Handler) : d.Carries (d.follow i follow) q :=
    d.carries_of_same (d.follow i follow) rfl requests rfl (fun _ => id) (fun _ => id) q
  refine accounted.advance there rfl rfl (fun q _ => carries q) ?_
  intro q own
  have before := accounted.standing call (List.mem_of_getElem? there) q own
  rw [stage] at before
  have after := Standing.carried before (carries q)
  cases follow with
  | giveUp => exact after.alone
  | _ => exact after

theorem Accounted.sweep (accounted : d.Accounted) {l : Ledger Handler}
    (represents : d.reactor.requests.Represents l) (now : Instant) : (d.sweep now).Accounted := by
  refine accounted.carried rfl rfl ?_
  intro call member q own
  have left : (d.sweep now).pending? q =
      (d.pending? q).filter (fun other => now < other.expiry) :=
    represents.pending?_drainExpired now q.id
  refine ⟨rfl, fun _ => id, ?_, ?_⟩
  · exact news_subset (fun _ => id) (fun _ => id)
      (fun x due => .inr (List.mem_append_left _ due)) (fun _ => .inr)
  · cases pending : d.pending? q with
    | none =>
      rw [left, pending]
      exact .inl ⟨rfl, rfl⟩
    | some other =>
      rw [pending] at left
      by_cases later : now < other.expiry
      · rw [Option.filter_some, if_pos (decide_eq_true later)] at left
        exact .inl ⟨left, rfl⟩
      · rw [Option.filter_some, if_neg (fun now => later (of_decide_eq_true now))] at left
        refine .inr ⟨left, ?_⟩
        intro same
        obtain rfl := Option.some.inj same
        have expired := represents.mem_drainExpired pending (Int.not_lt.mp later)
        have due : Reactor.timedOut other ∈ (d.sweep now).due :=
          List.mem_append_right _ (List.mem_map_of_mem expired)
        exact ⟨left, .inr ⟨.requestTimeout, mem_news.mpr (.inr (.inr (.inl due)))⟩⟩

theorem Accounted.tellDue (accounted : d.Accounted) {x : Delivery Handler}
    {left : List (Delivery Handler)} (due : d.due = x :: left) : (d.tellDue x left).Accounted := by
  refine accounted.carried rfl rfl (fun call _ q _ =>
    d.carries_of_same (d.tellDue x left) rfl rfl rfl (fun _ => id) ?_ q)
  refine news_subset (fun _ => id) (fun x told => List.mem_append_left _ told) ?_
    (fun _ => .inr)
  intro y taken
  rw [due] at taken
  rcases List.mem_cons.mp taken with rfl | later
  · exact .inl (List.mem_append_right _ List.mem_cons_self)
  · exact .inr later

theorem Accounted.around (accounted : d.Accounted) (reached : d.reactor.Reachable)
    (closed : d.phase.isShut = true → ∀ c, d.shared? = some c → c.state = .closed)
    (around : d.Around next) : next.Accounted := by
  cases around with
  | enter request chunks fits => exact accounted.enter request chunks fits
  | record there stage => exact accounted.record there
  | append answers there stage held =>
    exact accounted.append there stage (fun shut => closed shut _ held) answers
  | follow there stage => exact accounted.follow there stage
  | withdraw there stage => exact accounted.withdraw there _
  | fail there stage =>
    rename_i i call code
    have carries (q : PendingRequest Handler) : d.Carries (d.fail i code) q :=
      d.carries_of_same (d.fail i code) rfl rfl rfl (fun _ => id) (fun _ => id) q
    refine accounted.advance there rfl rfl (fun q _ => carries q) ?_
    intro q own
    have before := accounted.standing call (List.mem_of_getElem? there) q own
    rw [stage] at before
    exact (carries q).gone before
  | close reason =>
    exact accounted.carried rfl rfl (fun call _ q _ => d.carries_of_same (d.close reason) rfl
      (d.reactor.requests_updateConnection _ _) rfl (fun _ => id) (fun _ => id) q)
  | sweep now =>
    obtain ⟨l, represents⟩ := reached.represents
    exact accounted.sweep represents now
  | tellDue due => exact accounted.tellDue due
  | elsewhere registry reached same spared =>
    refine accounted.carried rfl rfl ?_
    intro call member q own
    exact ⟨rfl, fun _ => id, fun _ => id, .inl ⟨spared call member q own, rfl⟩⟩

theorem left_of_isPurged {phase : Phase Handler} (early : phase.isPurged = false) :
    phase.left = [] := by
  cases phase with
  | telling left => cases early
  | _ => rfl

/-- A move of a task that has not taken anything out, and still has not. -/
theorem Accounted.early (accounted : d.Accounted) (origin : next.origin = d.origin)
    (calls : next.calls = d.calls) (requests : next.reactor.requests = d.reactor.requests)
    (told : ∀ x ∈ d.told, x ∈ next.told) (swept : next.swept = d.swept) (due : next.due = d.due)
    (before : d.phase.isPurged = false) (after : next.phase.isPurged = false) :
    next.Accounted := by
  refine accounted.carried origin calls (fun call _ q _ =>
    d.carries_of_same next origin requests (after.trans before.symm) told ?_ q)
  refine news_subset told (fun x warned => swept ▸ warned) (fun x waiting => .inr (due ▸ waiting)) ?_
  rw [left_of_isPurged before]
  nofun

theorem Accounted.read (accounted : d.Accounted) {c : Connection Handler} {writes : Bool}
    (same : c.identity = d.origin.identity) (phase : d.phase = .serving true writes)
    (panics : Bool) : (d.read c writes panics).Accounted := by
  refine accounted.carried rfl rfl ?_
  intro call member q own
  have after : (d.read c writes panics).phase.isPurged = false :=
    Phase.isPurged_of_isShut (isShut_phaseAfter _ _ _)
  refine ⟨rfl, fun x told => List.mem_append_left _ told, ?_, ?_⟩
  · refine news_subset (fun x told => List.mem_append_left _ told) (fun _ => id)
      (fun _ => .inr) ?_
    rw [phase]
    nofun
  · rcases d.reactor.pending?_receive c d.inbox q with same | ⟨gone, answered⟩
    · refine .inl ⟨same, ?_⟩
      rw [after, phase]
      rfl
    · refine .inr ⟨gone, ?_⟩
      intro pending
      obtain ⟨m, response, id, told⟩ := answered pending
      refine ⟨gone, .inl ⟨m, response, id, List.mem_append_right _ ?_⟩⟩
      rw [told, Connection.received_of_identity same]
      exact List.mem_cons_self

/-- What is pending on the connection is taken out, and its handlers are told of it. -/
theorem Accounted.purge (accounted : d.Accounted) {l : Ledger Handler}
    (represents : d.reactor.requests.Represents l) {reason : ErrorCode}
    (phase : d.phase = .unregistered reason) : (d.purge reason).Accounted := by
  refine accounted.carried rfl rfl ?_
  intro call member q own
  obtain ⟨connId, remote⟩ := accounted.fits call member q own
  have left : (d.purge reason).pending? q =
      (d.pending? q).filter (fun other => other.connId ≠ d.origin.id) :=
    represents.pending?_purge d.origin.id q.id
  have gone : (d.purge reason).pending? q = none := by
    rw [left]
    rcases (accounted.standing call member q own).alone with none | pending
    · rw [none]
      rfl
    · rw [pending, Option.filter_some, if_neg]
      rw [decide_eq_true_eq, not_not]
      exact connId
  refine ⟨rfl, fun _ => id, ?_, .inr ⟨gone, ?_⟩⟩
  · refine news_subset (fun _ => id) (fun _ => id) (fun _ => .inr) ?_
    rw [phase]
    nofun
  · intro pending
    have taken := represents.mem_purge pending connId
    refine ⟨gone, .inr ⟨.brokenConnection, mem_news.mpr (.inr (.inr (.inr ?_)))⟩⟩
    apply List.mem_append_left
    rw [connId, remote]
    exact List.mem_map_of_mem (f := Reactor.lostWith d.origin.markClosed) taken

theorem Accounted.tell (accounted : d.Accounted) {x : Delivery Handler}
    {left : List (Delivery Handler)} (phase : d.phase = .telling (x :: left)) :
    (d.tell x left).Accounted := by
  refine accounted.carried rfl rfl (fun call _ q _ =>
    d.carries_of_same (d.tell x left) rfl rfl ?_ (fun x told => List.mem_append_left _ told) ?_ q)
  · rw [phase]
    rfl
  · refine news_subset (fun x told => List.mem_append_left _ told) (fun _ => id)
      (fun _ => .inr) ?_
    intro y next
    rw [phase] at next
    rcases List.mem_cons.mp next with rfl | later
    · exact .inl (List.mem_append_right _ List.mem_cons_self)
    · exact .inr later

theorem Accounted.move (accounted : d.Accounted) (reached : d.reactor.Reachable)
    (same : ∀ c, d.connection? = some c → c.identity = d.origin.identity) (move : d.Move next) :
    next.Accounted := by
  have updated := d.reactor.requests_updateConnection
  have before {phase : Phase Handler} (same : d.phase = phase) (early : phase.isPurged = false) :
      d.phase.isPurged = false := by rw [same, early]
  cases move with
  | connect socket localAddress phase owned =>
    exact accounted.early rfl rfl (updated _ _) (fun _ => id) rfl rfl (before phase rfl) rfl
  | cancel phase owned asked =>
    exact accounted.early rfl rfl (updated _ _) (fun _ => id) rfl rfl (before phase rfl) rfl
  | announce panics phase =>
    exact accounted.early rfl rfl rfl (fun x told => List.mem_append_left _ told) rfl rfl
      (before phase rfl) (by cases panics <;> rfl)
  | heed phase owned woken =>
    exact accounted.early rfl rfl (updated _ _) (fun _ => id) rfl rfl (before phase rfl) rfl
  | obey phase owned asked =>
    exact accounted.early rfl rfl (updated _ _) (fun _ => id) rfl rfl (before phase rfl) rfl
  | read panics phase owned => exact accounted.read (same _ owned) phase panics
  | flush answers phase owned =>
    exact accounted.early rfl rfl (updated _ _) (fun _ => id) rfl rfl (before phase rfl)
      (Phase.isPurged_of_isShut (d.isShut_flush _ _))
  | shut phase =>
    exact accounted.early rfl rfl (updated _ _) (fun _ => id) rfl rfl (before phase rfl) rfl
  | purge phase =>
    obtain ⟨l, represents⟩ := reached.represents
    exact accounted.purge represents phase
  | tell phase => exact accounted.tell phase
  | _ =>
    exact accounted.early rfl rfl rfl (fun _ => id) rfl rfl (before ‹d.phase = _› rfl) rfl

/-- A connection is closed by the first step of its teardown. -/
theorem Move.closed (move : d.Move next) (shut : next.phase.isShut = true) :
    (∀ c, next.shared? = some c → c.state = .closed) ∨ d.phase.isShut = true := by
  cases move with
  | shut phase =>
    refine .inl ?_
    intro c' held
    have after := (d.shared?_change Connection.markClosed).symm.trans held
    obtain ⟨c, -, rfl⟩ := Option.map_eq_some_iff.mp after
    rfl
  | disown phase => exact .inr (by rw [phase]; rfl)
  | unregister phase => exact .inr (by rw [phase]; rfl)
  | purge phase => exact .inr (by rw [phase]; rfl)
  | tell phase => exact .inr (by rw [phase]; rfl)
  | announce panics phase => cases panics <;> cases shut
  | read panics phase owned => exact absurd ((isShut_phaseAfter _ _ _).symm.trans shut) nofun
  | flush answers phase owned => exact absurd ((d.isShut_flush _ _).symm.trans shut) nofun
  | _ => cases shut

/-- From the first step of its teardown on, callers find the connection closed, whether its reactor
has let go of it or not. -/
theorem Reachable.closed {limit : Nat} {script : List ReadAnswer}
    (reached : Reachable limit script d) (shut : d.phase.isShut = true) :
    ∀ c, d.shared? = some c → c.state = .closed := by
  induction reached with
  | start registry reached owned connecting unread => cases shut
  | @next d next reached step ih =>
    -- A connection that was closed before the step is closed behind it.
    have stays (before : d.phase.isShut = true) : ∀ c, next.shared? = some c → c.state = .closed := by
      intro c' after
      obtain ⟨c, held, -⟩ := reached.held
      obtain ⟨still, there, -, closed⟩ := step.held reached.reactor held
      obtain rfl := Option.some.inj (there.symm.trans after)
      exact closed (ih before c held)
    cases step with
    | around around => exact stays (around.phase ▸ shut)
    | move move =>
      rcases move.closed shut with closed | before
      · exact closed
      · exact stays before

theorem accounted_start (r : Reactor Handler) (registry : Registry ConnectionRef)
    (c : Connection Handler) (script : List ReadAnswer) : (start r registry c script).Accounted := by
  refine ⟨?_, ?_, ?_⟩
  · intro call member
    cases member
  · intro i j a b found
    cases found
  · intro call member
    cases member

theorem Reachable.accounted {limit : Nat} {script : List ReadAnswer}
    (reached : Reachable limit script d) : d.Accounted := by
  induction reached with
  | start registry reached owned connecting unread => exact accounted_start _ _ _ _
  | next reached step ih =>
    cases step with
    | around around =>
      exact ih.around reached.reactor reached.closed around
    | move move => exact ih.move reached.reactor (fun c => reached.identity) move

/-- However the calls that send on a connection, the teardown of the connection and the sweeps of
its reactor come between each other: once all is done, a request that a call recorded is no longer
pending, and its response has been told, or the call has returned an error, or the request's handler
has been told that it failed. -/
theorem reported_of_reachable {limit : Nat} {script : List ReadAnswer}
    (reached : Reachable limit script d) (ended : d.phase = .telling []) (swept : d.due = [])
    {call : Call Handler} (called : call ∈ d.calls) {outcome : Except ErrorCode Unit}
    (returned : call.stage = .returned outcome) (own : call.request = some q) :
    d.reactor.requests.pending? q.id = none ∧
      (d.Answered q ∨ (∃ code, outcome = .error code) ∨
        ∃ code, ⟨q.handler, .failed q.remote q.connId q.id code⟩ ∈ d.told ++ d.swept) := by
  have standing := reached.accounted.standing call called q own
  rw [returned] at standing
  cases outcome with
  | error code => exact ⟨standing, .inr (.inl ⟨code, rfl⟩)⟩
  | ok _ =>
    rcases standing with ⟨-, early⟩ | settled
    · rw [ended] at early
      cases early
    · refine ⟨settled.gone, settled.known.imp_right (fun failed => .inr ?_)⟩
      obtain ⟨code, known⟩ := failed
      rw [news, swept, ended] at known
      simp only [Phase.left, List.append_nil] at known
      exact ⟨code, known⟩

/-- One request has been sent while the connection is being made. -/
def sent : Drive Nat :=
  ((((begun []).enter (some ordered) [[1]]).record 0 ⟨some ordered, [[1]], .found⟩).append 0
    ⟨some ordered, [[1]], .recorded⟩ caller []).follow 0 .nothing

/-- Another call has found the connection, which could not be made, and what was pending on it has
been taken out. -/
def wrecked : Drive Nat :=
  (((((sent.enter (some belated) [[2]]).giveUp .connectError).shut .connectError).disown
    .connectError).unregister .connectError).purge .connectError

/-- What the call still holds, with what had been sent while it was being made thrown away. -/
def buried : Connection Nat := { caller with state := .closed }

/-- Then the call has recorded its request and found the connection closed. -/
def cleared : Drive Nat :=
  (((((wrecked.record 1 ⟨some belated, [[2]], .found⟩).append 1 ⟨some belated, [[2]], .recorded⟩
    buried []).withdraw 1
    ⟨some belated, [[2]], .refused .brokenConnection⟩ .brokenConnection).fail 1
    .brokenConnection).tell ⟨21, .failed caller.remote 1 1 .brokenConnection⟩
    [⟨11, .disconnected caller.remote 1 .connectError⟩]).tell
    ⟨11, .disconnected caller.remote 1 .connectError⟩ []

theorem sent_reachable : Reachable 100 [] sent := by
  have fits : ∀ q ∈ some ordered, (begun []).Fits q := by
    intro q own
    obtain rfl := Option.some.inj own
    exact ⟨rfl, rfl, by decide +kernel, nofun⟩
  have entered := (begun_reachable []).next (.around (.enter (some ordered) [[1]] fits))
  have recorded := entered.next (.around (.record (i := 0) rfl rfl))
  have appended := recorded.next (.around (.append (i := 0) [] rfl rfl rfl))
  exact appended.next (.around (.follow (i := 0) rfl rfl))

theorem cleared_reachable : Reachable 100 [] cleared := by
  have fits : ∀ q ∈ some belated, sent.Fits q := by
    intro q own
    obtain rfl := Option.some.inj own
    refine ⟨rfl, rfl, by decide +kernel, ?_⟩
    intro call member p request
    obtain rfl := List.mem_singleton.mp member
    obtain rfl := Option.some.inj request
    decide
  have entered := sent_reachable.next (.around (.enter (some belated) [[2]] fits))
  have shut := (entered.next (.move (.refuse .connectError rfl))).next (.move (.shut rfl))
  have unregistered := (shut.next (.move (.disown rfl))).next (.move (.unregister rfl))
  have purged : Reachable 100 [] wrecked := unregistered.next (.move (.purge rfl))
  have recorded := purged.next (.around (.record (i := 1) rfl rfl))
  have held : (wrecked.record 1 ⟨some belated, [[2]], .found⟩).shared? = some buried := rfl
  have refused := recorded.next (.around (.append (i := 1) [] rfl rfl held))
  have withdrawn := refused.next (.around (.withdraw (i := 1) rfl rfl))
  have failed := withdrawn.next (.around (.fail (i := 1) rfl rfl))
  exact (failed.next (.move (.tell (by decide +kernel)))).next (.move (.tell rfl))

theorem reported_of_reachable_cleared :
    cleared.phase = .telling [] ∧ cleared.due = [] ∧
      cleared.calls = [⟨some ordered, [[1]], .returned (.ok ())⟩,
        ⟨some belated, [[2]], .returned (.error .brokenConnection)⟩] ∧
      cleared.reactor.requests.pending? 1 = none ∧ cleared.reactor.requests.pending? 2 = none ∧
      ∃ code, ⟨21, .failed caller.remote 1 1 code⟩ ∈ cleared.told ++ cleared.swept := by
  have calls : cleared.calls = [⟨some ordered, [[1]], .returned (.ok ())⟩,
    ⟨some belated, [[2]], .returned (.error .brokenConnection)⟩] := rfl
  have told : cleared.told = [⟨21, .failed caller.remote 1 1 .brokenConnection⟩,
    ⟨11, .disconnected caller.remote 1 .connectError⟩] := rfl
  have kept : ⟨some ordered, [[1]], .returned (.ok ())⟩ ∈ cleared.calls := by
    rw [calls]
    exact List.mem_cons_self
  have failed : ⟨some belated, [[2]], .returned (.error .brokenConnection)⟩ ∈ cleared.calls := by
    rw [calls]
    exact List.mem_cons_of_mem _ List.mem_cons_self
  obtain ⟨first, report⟩ := reported_of_reachable cleared_reachable rfl rfl kept rfl rfl
  obtain ⟨second, -⟩ := reported_of_reachable cleared_reachable rfl rfl failed rfl rfl
  refine ⟨rfl, rfl, calls, first, second, ?_⟩
  rcases report with ⟨m, -, -, answered⟩ | ⟨code, refused⟩ | ⟨code, lost⟩
  · rw [told] at answered
    simp only [Connection.received, List.mem_cons, Delivery.mk.injEq, reduceCtorEq, and_false,
      List.not_mem_nil, or_self] at answered
  · cases refused
  · exact ⟨code, lost⟩

end Drive

end MessageTransport
