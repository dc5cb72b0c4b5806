import MessageTransport.Proofs.RequestTable.Refinement
import MessageTransport.Reactor.Task

set_option autoImplicit false

namespace MessageTransport

namespace Event

/-- The id of the request that an event puts an end to. -/
def requestId? : Event → Option UInt32
  | message _ _ header _ => if header.isRequest then none else some header.id
  | failed _ _ requestId _ => some requestId
  | _ => none

/-- The ways in which a request is over: by a response with its id, because it has expired, and
because its connection is lost. -/
inductive Settles (id : UInt32) : Event → Prop where
  | response {header : Header} (remote : Endpoint) (connId : UInt32) (payload : Bytes)
      (reply : header.isRequest = false) (own : header.id = id) :
      Settles id (.message remote connId header payload)
  | timeout (remote : Endpoint) (connId : UInt32) :
      Settles id (.failed remote connId id .requestTimeout)
  | broken (remote : Endpoint) (connId : UInt32) :
      Settles id (.failed remote connId id .brokenConnection)

theorem Settles.requestId? {id : UInt32} {e : Event} (settles : e.Settles id) :
    e.requestId? = some id := by
  cases settles with
  | response remote connId payload reply own =>
    simp only [Event.requestId?, reply, Bool.false_eq_true, ↓reduceIte, own]
  | timeout remote connId => rfl
  | broken remote connId => rfl

end Event

variable {Handler : Type}

namespace Delivery

/-- The events that put an end to the request with an id. -/
def about (ds : List (Delivery Handler)) (id : UInt32) : List (Delivery Handler) :=
  ds.filter (fun d => d.event.requestId? = some id)

theorem about_append (front back : List (Delivery Handler)) (id : UInt32) :
    about (front ++ back) id = about front id ++ about back id := List.filter_append front back

theorem mem_about {ds : List (Delivery Handler)} {id : UInt32} {d : Delivery Handler} :
    d ∈ about ds id ↔ d ∈ ds ∧ d.event.requestId? = some id := by
  rw [about, List.mem_filter, decide_eq_true_eq]

theorem about_eq_nil {ds : List (Delivery Handler)} {id : UInt32}
    (none : ∀ d ∈ ds, d.event.requestId? ≠ some id) : about ds id = [] := by
  apply List.eq_nil_iff_forall_not_mem.mpr
  intro d member
  obtain ⟨there, same⟩ := mem_about.mp member
  exact none d there same

/-- Of the events told to the handlers of some requests, one is about each of them. -/
theorem about_map {out : Ledger Handler} (once : out.Distinct)
    {tell : PendingRequest Handler → Delivery Handler}
    (settles : ∀ r ∈ out, (tell r).event.Settles r.id) {r : PendingRequest Handler}
    (member : r ∈ out) : about (out.map tell) r.id = [tell r] := by
  have own : out.filter (fun other => other.id = r.id) = [r] := by
    apply List.perm_singleton.mp
    apply (List.perm_ext_iff_of_nodup (once.filter _).nodup (List.nodup_singleton r)).mpr
    intro other
    rw [List.mem_filter, decide_eq_true_eq, List.mem_singleton]
    constructor
    · intro ⟨there, same⟩
      exact once.eq_of_id there member same
    · rintro rfl
      exact ⟨member, rfl⟩
  have named : out.filter (fun other => (tell other).event.requestId? = some r.id) =
      out.filter (fun other => other.id = r.id) := by
    apply List.filter_congr
    intro other there
    rw [(settles other there).requestId?, decide_eq_decide, Option.some.injEq]
  calc about (out.map tell) r.id
      = (out.filter (fun other => (tell other).event.requestId? = some r.id)).map tell :=
        List.filter_map
    _ = [tell r] := by rw [named, own]; rfl

end Delivery

/-- What becomes of pending requests: the rest stays and nothing is said about it, and of every
other request its handler is told once that it is over. -/
structure Ends (l rest : Ledger Handler) (ds : List (Delivery Handler)) : Prop where
  fewer : ∀ r ∈ rest, r ∈ l
  pending : ∀ r ∈ rest, Delivery.about ds r.id = []
  told : ∀ r ∈ l, r ∉ rest →
    ∃ e : Event, Delivery.about ds r.id = [⟨r.handler, e⟩] ∧ e.Settles r.id
  known : ∀ d ∈ ds, ∀ id, d.event.requestId? = some id → ∃ r ∈ l, r.id = id

/-- Requests are split into those that are told that they are over and those that stay. -/
theorem Ends.of_told {l out rest : Ledger Handler} (distinct : l.Distinct) (once : out.Distinct)
    (split : ∀ r, r ∈ l ↔ r ∈ out ∨ r ∈ rest) (apart : ∀ r ∈ rest, r ∉ out)
    {tell : PendingRequest Handler → Delivery Handler}
    (handler : ∀ r ∈ out, (tell r).handler = r.handler)
    (settles : ∀ r ∈ out, (tell r).event.Settles r.id) {others : List (Delivery Handler)}
    (quiet : ∀ d ∈ others, d.event.requestId? = none) : Ends l rest (out.map tell ++ others) := by
  have silent (id : UInt32) : Delivery.about others id = [] := by
    apply Delivery.about_eq_nil
    intro d member same
    rw [quiet d member] at same
    cases same
  have known : ∀ d ∈ out.map tell ++ others, ∀ id, d.event.requestId? = some id →
      ∃ r ∈ out, r.id = id := by
    intro d member id same
    rcases List.mem_append.mp member with told | other
    · obtain ⟨r, there, rfl⟩ := List.mem_map.mp told
      rw [(settles r there).requestId?] at same
      exact ⟨r, there, Option.some.inj same⟩
    · rw [quiet d other] at same
      cases same
  refine ⟨?_, ?_, ?_, ?_⟩
  · intro r member
    exact (split r).mpr (.inr member)
  · intro r member
    apply Delivery.about_eq_nil
    intro d told same
    obtain ⟨other, there, equal⟩ := known d told r.id same
    obtain rfl := distinct.eq_of_id ((split other).mpr (.inl there))
      ((split r).mpr (.inr member)) equal
    exact apart other member there
  · intro r member gone
    have there := ((split r).mp member).resolve_right gone
    refine ⟨(tell r).event, ?_, settles r there⟩
    rw [Delivery.about_append, silent, List.append_nil, Delivery.about_map once settles there,
      ← handler r there]
  · intro d member id same
    obtain ⟨r, there, equal⟩ := known d member id same
    exact ⟨r, (split r).mpr (.inl there), equal⟩

/-- Events that put an end to nothing leave all requests pending. -/
theorem Ends.quiet (l : Ledger Handler) {ds : List (Delivery Handler)}
    (quiet : ∀ d ∈ ds, d.event.requestId? = none) : Ends l l ds := by
  refine ⟨fun r member => member, ?_, fun r member gone => absurd member gone, ?_⟩
  · intro r _
    apply Delivery.about_eq_nil
    intro d member same
    rw [quiet d member] at same
    cases same
  · intro d member id same
    rw [quiet d member] at same
    cases same

namespace Reactor

/-- A response is told to the handler of the pending request with its id, if there is one. -/
theorem dispatch_response {r : Reactor Handler} {l : Ledger Handler}
    (represents : r.requests.Represents l) (c : Connection Handler) {m : Message}
    (response : m.header.isRequest = false) :
    (r.dispatch c m).1 = (l.lookUp m.header.id).map
        (fun request => ⟨request.handler, .message c.remote c.id m.header m.payload⟩) ∧
      (r.dispatch c m).2.requests.Represents (l.without m.header.id) := by
  obtain ⟨found, left⟩ := represents.remove m.header.id
  simp only [dispatch, response, Bool.false_eq_true, ↓reduceIte, removeRequest]
  rw [found]
  exact ⟨rfl, left⟩

theorem dispatch_ends {r : Reactor Handler} {l : Ledger Handler}
    (represents : r.requests.Represents l) (c : Connection Handler) (m : Message) :
    ∃ rest, (r.dispatch c m).2.requests.Represents rest ∧
      Ends l rest (r.dispatch c m).1.toList := by
  cases kind : m.header.isRequest with
  | true =>
    simp only [dispatch, kind, ↓reduceIte]
    refine ⟨l, represents, Ends.quiet l ?_⟩
    intro d member
    obtain rfl := List.mem_singleton.mp member
    simp only [Event.requestId?, kind, ↓reduceIte]
  | false =>
    obtain ⟨told, left⟩ := dispatch_response represents c kind
    refine ⟨l.without m.header.id, left, ?_⟩
    rw [told]
    cases found : l.lookUp m.header.id with
    | none =>
      have same : l.without m.header.id = l := by
        apply List.filter_eq_self.mpr
        intro r member
        exact decide_eq_true (Ledger.lookUp_eq_none_iff.mp found r member)
      rw [same]
      apply Ends.quiet
      intro d member
      cases member
    | some request =>
      obtain ⟨there, same⟩ := Ledger.of_lookUp found
      have distinct := represents.distinct
      have once : Ledger.Distinct [request] := List.nodup_singleton request.id
      have ends : Ends l (l.without m.header.id) ([request].map (fun request =>
          ⟨request.handler, .message c.remote c.id m.header m.payload⟩) ++ []) := by
        apply Ends.of_told distinct once
        · intro r
          rw [List.mem_singleton, Ledger.mem_without]
          constructor
          · intro member
            by_cases equal : r.id = m.header.id
            · exact .inl (distinct.eq_of_id member there (equal.trans same.symm))
            · exact .inr ⟨member, equal⟩
          · rintro (rfl | ⟨member, -⟩)
            · exact there
            · exact member
        · intro r member single
          obtain rfl := List.mem_singleton.mp single
          exact (Ledger.mem_without.mp member).2 same
        · intro r _
          rfl
        · intro r single
          obtain rfl := List.mem_singleton.mp single
          exact .response c.remote c.id m.payload kind same.symm
        · intro d member
          cases member
      exact ends

theorem sweep_ends {r : Reactor Handler} {l : Ledger Handler}
    (represents : r.requests.Represents l) (now : Instant) :
    ∃ rest, (r.sweep now).2.requests.Represents rest ∧ Ends l rest (r.sweep now).1 := by
  obtain ⟨drained, left⟩ := represents.drainExpired now
  have distinct := represents.distinct
  refine ⟨l.unexpired now, left, ?_⟩
  simp only [sweep]
  rw [drained]
  apply Ends.of_told distinct
  · have kept : Ledger.Distinct (l.filter (fun r => r.expiry ≤ now)) := distinct.filter _
    exact ((List.perm_insertionSort _ _).map PendingRequest.id).nodup_iff.mpr kept
  · intro r
    rw [Ledger.mem_expired, Ledger.mem_unexpired, ← and_or_left]
    exact (and_iff_left (le_or_gt r.expiry now)).symm
  · intro r member expired
    exact Int.not_lt.mpr (Ledger.mem_expired.mp expired).2 (Ledger.mem_unexpired.mp member).2
  · intro r _
    rfl
  · intro r _
    exact .timeout r.remote r.connId
  · intro d member
    obtain ⟨handler, -, rfl⟩ := List.mem_map.mp member
    rfl

theorem detach_ends {r : Reactor Handler} {l : Ledger Handler}
    (represents : r.requests.Represents l) (registry : Registry ConnectionRef)
    (c : Connection Handler) (reason : ErrorCode) :
    ∃ rest, (r.detach registry c).reactor.requests.Represents rest ∧
      Ends l rest ((r.detach registry c).deliveries reason) := by
  obtain ⟨purged, -, left⟩ := represents.purge c.id
  have distinct := represents.distinct
  have taken (request : PendingRequest Handler) :
      request ∈ (r.detach registry c).requests ↔ request ∈ l ∧ request.connId = c.id :=
    purged.mem_iff.trans Ledger.mem_ofConnection
  refine ⟨l.ofOthers c.id, left, ?_⟩
  apply Ends.of_told distinct
  · exact (purged.map PendingRequest.id).nodup_iff.mpr (distinct.filter _)
  · intro request
    rw [taken, Ledger.mem_ofOthers, ← and_or_left]
    exact (and_iff_left (Decidable.em (request.connId = c.id))).symm
  · intro request member lost
    exact (Ledger.mem_ofOthers.mp member).2 ((taken request).mp lost).2
  · intro request _
    rfl
  · intro request _
    exact .broken c.remote c.id
  · intro d member
    obtain rfl := List.mem_singleton.mp member
    rfl

end Reactor

end MessageTransport
