import MessageTransport.Proofs.RequestTable.Index

set_option autoImplicit false

namespace MessageTransport.RequestTable

variable {Handler : Type}

/-- A table holds the requests of a list, in the order in which they were added. -/
def Represents (t : RequestTable Handler) (l : Ledger Handler) : Prop :=
  ∃ es, t.Consistent es ∧ es.map Prod.fst = l

/-- Taking an id out gives the request that is pending under it, and leaves the others pending. -/
theorem remove_pending (t : RequestTable Handler) (taken : UInt32) :
    (t.remove taken).1 = t.pending? taken ∧
      ∀ id, (t.remove taken).2.pending? id = if taken = id then none else t.pending? id := by
  unfold remove pending?
  split
  · rename_i absent
    refine ⟨by rw [absent]; rfl, ?_⟩
    intro id
    by_cases same : taken = id
    · subst same
      rw [if_pos rfl, absent]
      rfl
    · rw [if_neg same]
  · rename_i request key present
    refine ⟨by rw [present]; rfl, ?_⟩
    intro id
    rw [getElem?_erased]
    by_cases same : taken = id
    · rw [if_pos same, if_pos same]
      rfl
    · rw [if_neg same, if_neg same]

theorem represents_empty : (empty : RequestTable Handler).Represents [] := by
  refine ⟨[], ⟨⟨List.nodup_nil, .nil, ?_, ?_, ?_⟩, ?_, ?_⟩, rfl⟩
  · intro e member
    cases member
  · intro id e
    simp only [empty, Std.TreeMap.getElem?_emptyc, reduceCtorEq, List.not_mem_nil, false_and]
  · intro key id
    simp only [empty, Std.TreeMap.getElem?_emptyc, reduceCtorEq, List.not_mem_nil, false_and,
      exists_false]
  · intro connId id
    simp only [Lists, empty, Std.TreeMap.getElem?_emptyc, reduceCtorEq, List.not_mem_nil, false_and,
      exists_false]
  · intro connId ids found
    simp only [empty, Std.TreeMap.getElem?_emptyc, reduceCtorEq] at found

theorem Represents.distinct {t : RequestTable Handler} {l : Ledger Handler}
    (represents : t.Represents l) : l.Distinct := by
  obtain ⟨es, consistent, rfl⟩ := represents
  exact consistent.filed.distinct

theorem Represents.lookUp {t : RequestTable Handler} {l : Ledger Handler}
    (represents : t.Represents l) (id : UInt32) : l.lookUp id = t.pending? id := by
  obtain ⟨es, consistent, rfl⟩ := represents
  exact consistent.lookUp id

theorem Represents.remove {t : RequestTable Handler} {l : Ledger Handler}
    (represents : t.Represents l) (id : UInt32) :
    (t.remove id).1 = l.lookUp id ∧ (t.remove id).2.Represents (l.without id) := by
  obtain ⟨es, consistent, rfl⟩ := represents
  obtain ⟨found, left⟩ := consistent.remove id
  exact ⟨found, _, left, map_filter_id es (fun r => r.id ≠ id)⟩

theorem Represents.insert {t : RequestTable Handler} {l : Ledger Handler}
    (represents : t.Represents l) (request : PendingRequest Handler) :
    (t.insert request).Represents (l.insert request) := by
  obtain ⟨es, consistent, rfl⟩ := represents
  refine ⟨_, consistent.insert request, ?_⟩
  rw [List.map_append, map_filter_id es (fun r => r.id ≠ request.id)]
  rfl

theorem Represents.purge {t : RequestTable Handler} {l : Ledger Handler}
    (represents : t.Represents l) (connId : UInt32) :
    (t.purge connId).1.Perm (l.ofConnection connId) ∧
      (t.purge connId).1.Pairwise (fun a b => a.expiry ≤ b.expiry) ∧
      (t.purge connId).2.Represents (l.ofOthers connId) := by
  obtain ⟨es, consistent, rfl⟩ := represents
  obtain ⟨purged, sorted, left⟩ := consistent.purge connId
  exact ⟨purged, sorted, _, left, map_filter_id es (fun r => r.connId ≠ connId)⟩

theorem Represents.takeListed {t : RequestTable Handler} {l : Ledger Handler}
    (represents : t.Represents l) {connId : UInt32} {ids : Std.TreeMap UInt32 Unit}
    (found : t.byConn[connId]? = some ids) {order : List UInt32} (once : order.Perm ids.keys) :
    (takeIds { t with byConn := t.byConn.erase connId } order).2.Represents (l.ofOthers connId) := by
  obtain ⟨es, consistent, rfl⟩ := represents
  obtain ⟨-, left⟩ := consistent.takeListed found once
  exact ⟨_, left, map_filter_id es (fun r => r.connId ≠ connId)⟩

/-- The index by expiry begins with the first of the requests that expire first. -/
theorem Represents.earliest? {t : RequestTable Handler} {l : Ledger Handler}
    (represents : t.Represents l) :
    l = [] ∧ Deadline.earliest? t.byExpiry = none ∨
      ∃ before r after key, l = before ++ r :: after ∧
        Deadline.earliest? t.byExpiry = some (key, r.id) ∧ key.due = r.expiry ∧
        (∀ other ∈ before, r.expiry < other.expiry) ∧
        ∀ other ∈ after, r.expiry ≤ other.expiry := by
  obtain ⟨es, consistent, rfl⟩ := represents
  have filed := consistent.filed
  rcases filed.earliest? with ⟨rfl, none⟩ | ⟨before, e, after, rfl, some, first, least⟩
  · exact .inl ⟨rfl, none⟩
  · have member : e ∈ before ++ e :: after := List.mem_append_right _ List.mem_cons_self
    refine .inr ⟨before.map Prod.fst, e.1, after.map Prod.fst, e.2, ?_, some,
      (filed.keyed e member).1, ?_, ?_⟩
    · rw [List.map_append, List.map_cons]
    · intro other there
      obtain ⟨entry, inside, rfl⟩ := List.mem_map.mp there
      exact first entry inside
    · intro other there
      obtain ⟨entry, inside, rfl⟩ := List.mem_map.mp there
      exact least entry inside

/-- Either nothing has expired and nothing is taken out, or the earliest request is. -/
theorem Represents.nextExpired {t : RequestTable Handler} {l : Ledger Handler}
    (represents : t.Represents l) (now : Instant) :
    t.nextExpired now = (none, t) ∧ l.nextExpired now = none ∧ (∀ r ∈ l, now < r.expiry) ∨
      ∃ before r after, l = before ++ r :: after ∧ r.expiry ≤ now ∧
        (∀ other ∈ before, r.expiry < other.expiry) ∧
        (∀ other ∈ after, r.expiry ≤ other.expiry) ∧
        l.nextExpired now = some r ∧ (t.nextExpired now).1 = some r ∧
        (t.nextExpired now).2.Represents (before ++ after) := by
  rcases represents.earliest? with
    ⟨rfl, none⟩ | ⟨before, r, after, key, rfl, found, due, first, least⟩
  · refine .inl ⟨?_, rfl, ?_⟩
    · simp only [RequestTable.nextExpired, none]
    · intro r member
      cases member
  · have earliest := Ledger.earliest?_eq_some first least
    by_cases later : now < r.expiry
    · refine .inl ⟨?_, ?_, ?_⟩
      · simp only [RequestTable.nextExpired, found, due, later, ↓reduceIte]
      · rw [Ledger.nextExpired, earliest, Option.filter_some, if_neg]
        rw [decide_eq_true_eq]
        exact Int.not_le.mpr later
      · intro other member
        rcases List.mem_append.mp member with front | back
        · exact Int.lt_trans later (first other front)
        · rcases List.mem_cons.mp back with rfl | behind
          · exact later
          · exact Int.lt_of_lt_of_le later (least other behind)
    · have taken : t.nextExpired now = t.remove r.id := by
        simp only [RequestTable.nextExpired, found, due, later, ↓reduceIte]
      have expired : r.expiry ≤ now := Int.not_lt.mp later
      obtain ⟨reply, left⟩ := represents.remove r.id
      have distinct := represents.distinct
      refine .inr ⟨before, r, after, rfl, expired, first, least, ?_, ?_, ?_⟩
      · rw [Ledger.nextExpired, earliest, Option.filter_some, if_pos (decide_eq_true expired)]
      · rw [taken, reply]
        exact distinct.lookUp_eq_some_iff.mpr
          ⟨List.mem_append_right _ List.mem_cons_self, rfl⟩
      · rw [taken, ← distinct.without_middle]
        exact left

/-- Draining takes out what has expired, earliest first, and leaves the rest. -/
theorem Represents.drainExpired {t : RequestTable Handler} {l : Ledger Handler}
    (represents : t.Represents l) (now : Instant) :
    (t.drainExpired now).1 = l.expired now ∧
      (t.drainExpired now).2.Represents (l.unexpired now) := by
  fun_induction RequestTable.drainExpired t now generalizing l with
  | case1 t none =>
    rcases represents.nextExpired now with ⟨-, -, later⟩ | ⟨_, r, _, -, -, -, -, -, some, -⟩
    · rw [Ledger.expired_of_later later, Ledger.unexpired_of_later later]
      exact ⟨rfl, represents⟩
    · rw [none] at some
      cases some
  | case2 t request some requests rest drained ih =>
    rcases represents.nextExpired now with
      ⟨none, -, -⟩ | ⟨before, r, after, rfl, due, first, least, -, found, left⟩
    · rw [none] at some
      cases some
    · rw [found] at some
      obtain rfl := Option.some.inj some
      obtain ⟨same, kept⟩ := ih left
      rw [drained] at same kept
      rw [Ledger.expired_earliest first least due, Ledger.unexpired_middle due]
      exact ⟨congrArg (r :: ·) same, kept⟩

/-- A request that is added is pending under its id. -/
theorem pending?_insert (t : RequestTable Handler) (request : PendingRequest Handler) (id : UInt32) :
    (t.insert request).pending? id = if request.id = id then some request else t.pending? id := by
  have rest := (t.remove_pending request.id).2 id
  unfold insert pending?
  rw [getElem?_inserted]
  by_cases same : request.id = id
  · rw [if_pos same, if_pos same]
    rfl
  · rw [if_neg same, if_neg same]
    rw [if_neg same] at rest
    exact rest

theorem Represents.pending?_eq_some_iff {t : RequestTable Handler} {l : Ledger Handler}
    (represents : t.Represents l) {id : UInt32} {q : PendingRequest Handler} :
    t.pending? id = some q ↔ q ∈ l ∧ q.id = id := by
  rw [← represents.lookUp]
  exact represents.distinct.lookUp_eq_some_iff

theorem Represents.pending?_purge {t : RequestTable Handler} {l : Ledger Handler}
    (represents : t.Represents l) (connId id : UInt32) :
    (t.purge connId).2.pending? id = (t.pending? id).filter (fun q => q.connId ≠ connId) := by
  obtain ⟨-, -, left⟩ := represents.purge connId
  ext q
  rw [left.pending?_eq_some_iff, Option.filter_eq_some_iff,
    represents.pending?_eq_some_iff, Ledger.mem_ofOthers, decide_eq_true_eq]
  exact and_right_comm

theorem Represents.mem_purge {t : RequestTable Handler} {l : Ledger Handler}
    (represents : t.Represents l) {connId : UInt32} {q : PendingRequest Handler}
    (pending : t.pending? q.id = some q) (own : q.connId = connId) : q ∈ (t.purge connId).1 := by
  obtain ⟨purged, -, -⟩ := represents.purge connId
  exact purged.mem_iff.mpr (Ledger.mem_ofConnection.mpr
    ⟨(represents.pending?_eq_some_iff.mp pending).1, own⟩)

theorem Represents.pending?_drainExpired {t : RequestTable Handler} {l : Ledger Handler}
    (represents : t.Represents l) (now : Instant) (id : UInt32) :
    (t.drainExpired now).2.pending? id = (t.pending? id).filter (fun q => now < q.expiry) := by
  obtain ⟨-, left⟩ := represents.drainExpired now
  ext q
  rw [left.pending?_eq_some_iff, Option.filter_eq_some_iff,
    represents.pending?_eq_some_iff, Ledger.mem_unexpired, decide_eq_true_eq]
  exact and_right_comm

theorem Represents.mem_drainExpired {t : RequestTable Handler} {l : Ledger Handler}
    (represents : t.Represents l) {now : Instant} {q : PendingRequest Handler}
    (pending : t.pending? q.id = some q) (due : q.expiry ≤ now) : q ∈ (t.drainExpired now).1 := by
  rw [(represents.drainExpired now).1]
  exact Ledger.mem_expired.mpr ⟨(represents.pending?_eq_some_iff.mp pending).1, due⟩

theorem Represents.size {t : RequestTable Handler} {l : Ledger Handler}
    (represents : t.Represents l) : t.size = l.length := by
  obtain ⟨es, consistent, rfl⟩ := represents
  have filed := consistent.filed
  have same : t.entries.keys.Perm ((es.map Prod.fst).map PendingRequest.id) := by
    apply (List.perm_ext_iff_of_nodup Std.TreeMap.nodup_keys filed.distinct).mpr
    intro id
    rw [mem_keys_iff]
    simp only [filed.entries, List.map_map, List.mem_map, Function.comp_apply]
  have equal := same.length_eq
  rw [Std.TreeMap.length_keys, List.length_map] at equal
  exact equal

theorem Represents.shown {t : RequestTable Handler} {l : Ledger Handler}
    (represents : t.Represents l) : l.Shown t := by
  refine ⟨?_, represents.size, ?_, ?_⟩
  · intro id
    rw [represents.lookUp, pending?, Option.isSome_map, RequestTable.contains,
      Std.TreeMap.contains_eq_isSome_getElem?]
  · have same := represents.size
    rw [Bool.eq_iff_iff, List.isEmpty_iff, ← List.length_eq_zero_iff, ← same, isEmpty,
      Std.TreeMap.isEmpty_eq_size_eq_zero, beq_iff_eq, RequestTable.size]
  · rcases represents.earliest? with
      ⟨rfl, none⟩ | ⟨before, r, after, key, rfl, found, due, first, least⟩
    · rw [nextDeadline, none]
      rfl
    · rw [nextDeadline, found, Ledger.nextDeadline_eq_some first least, Option.map_some, due]

/-- Each operation gives the reply of the list and keeps the table in step with it. -/
theorem Represents.step {t : RequestTable Handler} {l : Ledger Handler}
    (represents : t.Represents l) (op : Op Handler) :
    l.Answers op (t.step op).2 ∧ (t.step op).1.Represents (l.after op) := by
  cases op with
  | insert request => exact ⟨trivial, represents.insert request⟩
  | remove id => exact represents.remove id
  | purge connId =>
    obtain ⟨purged, sorted, left⟩ := represents.purge connId
    exact ⟨⟨purged, sorted⟩, left⟩
  | nextExpired now =>
    rcases represents.nextExpired now with
      ⟨stays, none, -⟩ | ⟨before, r, after, rfl, -, -, -, some, reply, left⟩
    · simp only [RequestTable.step, stays, Ledger.Answers, Ledger.after, none]
      exact ⟨trivial, represents⟩
    · refine ⟨reply.trans some.symm, ?_⟩
      simp only [Ledger.after, some, represents.distinct.without_middle]
      exact left
  | drainExpired now => exact represents.drainExpired now
  | contains id => exact ⟨represents.shown.contains id, represents⟩

theorem Represents.run {t : RequestTable Handler} {l : Ledger Handler}
    (represents : t.Represents l) (ops : List (Op Handler)) : l.Agrees ops (t.run ops) := by
  induction ops generalizing t l with
  | nil => trivial
  | cons op ops ih =>
    obtain ⟨answers, kept⟩ := represents.step op
    exact ⟨answers, kept.shown, ih kept⟩

/-- Every run of a table from the empty one on agrees with the list of its requests. -/
theorem run_agrees (ops : List (Op Handler)) :
    Ledger.Agrees [] ops (RequestTable.run (empty : RequestTable Handler) ops) :=
  represents_empty.run ops

end MessageTransport.RequestTable
