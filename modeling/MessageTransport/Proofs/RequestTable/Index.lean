import MessageTransport.Proofs.Lookup
import MessageTransport.Proofs.RequestTable.Ledger

set_option autoImplicit false

namespace MessageTransport

theorem Deadline.isLE_iff {a b : Deadline} :
    (compare a b).isLE = true ↔ a.due < b.due ∨ a.due = b.due ∧ a.serial ≤ b.serial := by
  have lex : compare a b = (compare a.due b.due).then (compare a.serial b.serial) := rfl
  rw [lex, Ordering.isLE_then_iff_or]
  simp only [Std.compare_eq_lt, Std.LawfulEqCmp.compare_eq_iff_eq, Std.isLE_compare]

namespace RequestTable

variable {Handler : Type}

/-- A request and the key that it is filed under. -/
abbrev Entry (Handler : Type) := PendingRequest Handler × Deadline

/-- The entries by id and the index by expiry hold the same requests. -/
structure Filed (t : RequestTable Handler) (es : List (Entry Handler)) : Prop where
  distinct : Ledger.Distinct (es.map Prod.fst)
  inOrder : es.Pairwise (fun a b => a.2.serial < b.2.serial)
  keyed : ∀ e ∈ es, e.2.due = e.1.expiry ∧ e.2.serial < t.nextSerial
  entries : ∀ id e, t.entries[id]? = some e ↔ e ∈ es ∧ e.1.id = id
  byExpiry : ∀ key id, t.byExpiry[key]? = some id ↔ ∃ e ∈ es, e.2 = key ∧ e.1.id = id

/-- Whether an id is in the list of a connection. -/
def Lists (byConn : Std.TreeMap UInt32 (Std.TreeMap UInt32 Unit)) (connId id : UInt32) : Prop :=
  ∃ ids, byConn[connId]? = some ids ∧ id ∈ ids

/-- No connection is listed without any ids. -/
def Occupied (byConn : Std.TreeMap UInt32 (Std.TreeMap UInt32 Unit)) : Prop :=
  ∀ (connId : UInt32) (ids : Std.TreeMap UInt32 Unit), byConn[connId]? = some ids →
    ids.isEmpty = false

/-- The index by connection holds the same requests, and no connection without any. -/
structure Listed (byConn : Std.TreeMap UInt32 (Std.TreeMap UInt32 Unit))
    (es : List (Entry Handler)) : Prop where
  lists : ∀ connId id, Lists byConn connId id ↔ ∃ e ∈ es, e.1.connId = connId ∧ e.1.id = id
  occupied : Occupied byConn

/-- All maps of a table hold the requests of a list. -/
structure Consistent (t : RequestTable Handler) (es : List (Entry Handler)) : Prop where
  filed : t.Filed es
  listed : Listed t.byConn es

theorem mem_erased {ids : Std.TreeMap UInt32 Unit} {id other : UInt32} :
    other ∈ ids.erase id ↔ other ∈ ids ∧ id ≠ other := by
  rw [Std.TreeMap.mem_erase, and_comm, ne_eq, Std.LawfulEqCmp.compare_eq_iff_eq]

theorem lists_dropId {byConn : Std.TreeMap UInt32 (Std.TreeMap UInt32 Unit)}
    {connId id otherConn other : UInt32} :
    Lists (dropId byConn connId id) otherConn other ↔
      Lists byConn otherConn other ∧ ¬(connId = otherConn ∧ id = other) := by
  unfold dropId
  cases found : byConn[connId]? with
  | none =>
    constructor
    · rintro ⟨ids, there, member⟩
      refine ⟨⟨ids, there, member⟩, ?_⟩
      rintro ⟨rfl, -⟩
      rw [found] at there
      cases there
    · exact And.left
  | some ids =>
    by_cases same : connId = otherConn
    · subst same
      have here (set : Std.TreeMap UInt32 Unit) :
          Lists (byConn.insert connId set) connId other ↔ other ∈ set := by
        simp only [Lists, getElem?_inserted, ↓reduceIte, Option.some.injEq, exists_eq_left']
      have before : Lists byConn connId other ↔ other ∈ ids := by
        simp only [Lists, found, Option.some.injEq, exists_eq_left']
      dsimp only
      split
      · rename_i nothing
        have gone : ¬Lists (byConn.erase connId) connId other := by
          simp only [Lists, getElem?_erased, ↓reduceIte, reduceCtorEq, false_and, exists_false,
            not_false_eq_true]
        have absent := Std.TreeMap.isEmpty_iff_forall_not_mem.mp nothing other
        rw [mem_erased] at absent
        rw [before]
        constructor
        · exact fun lists => absurd lists gone
        · rintro ⟨member, apart⟩
          exact absurd ⟨member, fun equal => apart ⟨rfl, equal⟩⟩ absent
      · rw [here, mem_erased, before]
        apply and_congr_right
        intro _
        simp only [true_and, ne_eq]
    · dsimp only
      split <;>
        simp only [Lists, getElem?_erased, getElem?_inserted, same, ↓reduceIte, false_and,
          not_false_eq_true, and_true]

theorem lists_addId {byConn : Std.TreeMap UInt32 (Std.TreeMap UInt32 Unit)}
    {connId id otherConn other : UInt32} :
    Lists (addId byConn connId id) otherConn other ↔
      Lists byConn otherConn other ∨ connId = otherConn ∧ id = other := by
  by_cases same : connId = otherConn
  · subst same
    simp only [Lists, addId, getElem?_inserted, ↓reduceIte, Option.some.injEq, exists_eq_left',
      Std.TreeMap.mem_insert, Std.LawfulEqCmp.compare_eq_iff_eq, true_and,
      Std.TreeMap.getD_eq_getD_getElem?]
    cases byConn[connId]? with
    | none => simp only [Option.getD_none, Std.TreeMap.not_mem_emptyc, or_false, reduceCtorEq,
        false_and, exists_false, false_or]
    | some ids => simp only [Option.getD_some, Option.some.injEq, exists_eq_left', or_comm]
  · simp only [Lists, addId, getElem?_inserted, same, ↓reduceIte, false_and, or_false]

theorem occupied_dropId {byConn : Std.TreeMap UInt32 (Std.TreeMap UInt32 Unit)} {connId id : UInt32}
    (occupied : Occupied byConn) : Occupied (dropId byConn connId id) := by
  intro other ids found
  unfold dropId at found
  split at found
  · exact occupied other ids found
  · split at found
    · rw [getElem?_erased] at found
      split at found
      · cases found
      · exact occupied other ids found
    · rename_i some
      rw [getElem?_inserted] at found
      split at found
      · obtain rfl := Option.some.inj found
        exact Bool.eq_false_iff.mpr some
      · exact occupied other ids found

theorem occupied_addId {byConn : Std.TreeMap UInt32 (Std.TreeMap UInt32 Unit)} {connId id : UInt32}
    (occupied : Occupied byConn) : Occupied (addId byConn connId id) := by
  intro other ids found
  rw [addId, getElem?_inserted] at found
  split at found
  · obtain rfl := Option.some.inj found
    exact Std.TreeMap.isEmpty_insert
  · exact occupied other ids found

theorem Filed.eq_of_id {t : RequestTable Handler} {es : List (Entry Handler)} (filed : t.Filed es)
    {a b : Entry Handler} (ha : a ∈ es) (hb : b ∈ es) (same : a.1.id = b.1.id) : a = b := by
  have found := (filed.entries b.1.id a).mpr ⟨ha, same⟩
  rw [(filed.entries b.1.id b).mpr ⟨hb, rfl⟩] at found
  exact (Option.some.inj found).symm

theorem Filed.eq_of_key {t : RequestTable Handler} {es : List (Entry Handler)} (filed : t.Filed es)
    {a b : Entry Handler} (ha : a ∈ es) (hb : b ∈ es) (same : a.2 = b.2) : a = b := by
  have found := (filed.byExpiry b.2 a.1.id).mpr ⟨a, ha, same, rfl⟩
  rw [(filed.byExpiry b.2 b.1.id).mpr ⟨b, hb, rfl, rfl⟩] at found
  exact filed.eq_of_id ha hb (Option.some.inj found).symm

theorem Filed.filter_of_absent {t : RequestTable Handler} {es : List (Entry Handler)}
    (filed : t.Filed es) {id : UInt32} (absent : t.entries[id]? = none) :
    es.filter (fun e => e.1.id ≠ id) = es := by
  apply List.filter_eq_self.mpr
  intro e member
  apply decide_eq_true
  intro same
  rw [(filed.entries id e).mpr ⟨member, same⟩] at absent
  cases absent

/-- An entry taken out of both maps is gone, and all others stay. -/
theorem Filed.erase {t : RequestTable Handler} {es : List (Entry Handler)} (filed : t.Filed es)
    {id : UInt32} {e : Entry Handler} (found : t.entries[id]? = some e) :
    Filed { t with entries := t.entries.erase id, byExpiry := t.byExpiry.erase e.2 }
      (es.filter (fun other => other.1.id ≠ id)) := by
  obtain ⟨there, rfl⟩ := (filed.entries id e).mp found
  have kept {other : Entry Handler} : other ∈ es.filter (fun other => other.1.id ≠ e.1.id) ↔
      other ∈ es ∧ other.1.id ≠ e.1.id := by
    rw [List.mem_filter, decide_eq_true_eq]
  refine ⟨?_, filed.inOrder.sublist List.filter_sublist, ?_, ?_, ?_⟩
  · exact List.Nodup.sublist ((List.filter_sublist.map Prod.fst).map PendingRequest.id)
      filed.distinct
  · intro other member
    exact filed.keyed other (kept.mp member).1
  · intro id other
    rw [getElem?_erased, kept]
    split
    · rename_i same
      simp only [reduceCtorEq, false_iff, not_and]
      intro ⟨_, apart⟩ equal
      exact apart (equal.trans same.symm)
    · rename_i apart
      rw [filed.entries]
      constructor
      · intro ⟨member, same⟩
        exact ⟨⟨member, fun equal => apart (equal.symm.trans same)⟩, same⟩
      · intro ⟨⟨member, _⟩, same⟩
        exact ⟨member, same⟩
  · intro key id
    rw [getElem?_erased]
    split
    · rename_i same
      simp only [reduceCtorEq, false_iff, not_exists, not_and]
      intro other member equal _
      obtain ⟨still, apart⟩ := kept.mp member
      obtain rfl := filed.eq_of_key still there (equal.trans same.symm)
      exact apart rfl
    · rename_i apart
      rw [filed.byExpiry]
      constructor
      · rintro ⟨other, member, rfl, same⟩
        refine ⟨other, kept.mpr ⟨member, ?_⟩, rfl, same⟩
        intro equal
        exact apart (congrArg Prod.snd (filed.eq_of_id there member equal.symm))
      · rintro ⟨other, member, rfl, same⟩
        exact ⟨other, (kept.mp member).1, rfl, same⟩

theorem map_filter_id (es : List (Entry Handler)) (p : PendingRequest Handler → Bool) :
    (es.filter (fun e => p e.1)).map Prod.fst = (es.map Prod.fst).filter p :=
  List.filter_map.symm

theorem nextSerial_remove (t : RequestTable Handler) (id : UInt32) :
    (t.remove id).2.nextSerial = t.nextSerial := by
  unfold remove
  split <;> rfl

theorem Consistent.lookUp {t : RequestTable Handler} {es : List (Entry Handler)}
    (consistent : t.Consistent es) (id : UInt32) :
    Ledger.lookUp (es.map Prod.fst) id = (t.entries[id]?).map Prod.fst := by
  have filed := consistent.filed
  cases found : t.entries[id]? with
  | none =>
    apply Ledger.lookUp_eq_none_iff.mpr
    intro r member same
    obtain ⟨e, there, rfl⟩ := List.mem_map.mp member
    rw [(filed.entries id e).mpr ⟨there, same⟩] at found
    cases found
  | some e =>
    obtain ⟨there, same⟩ := (filed.entries id e).mp found
    exact filed.distinct.lookUp_eq_some_iff.mpr ⟨List.mem_map.mpr ⟨e, there, rfl⟩, same⟩

theorem Consistent.remove {t : RequestTable Handler} {es : List (Entry Handler)}
    (consistent : t.Consistent es) (id : UInt32) :
    (t.remove id).1 = Ledger.lookUp (es.map Prod.fst) id ∧
      (t.remove id).2.Consistent (es.filter (fun e => e.1.id ≠ id)) := by
  have filed := consistent.filed
  rw [consistent.lookUp]
  cases found : t.entries[id]? with
  | none =>
    rw [filed.filter_of_absent found]
    simp only [RequestTable.remove, found]
    exact ⟨rfl, consistent⟩
  | some e =>
    obtain ⟨there, rfl⟩ := (filed.entries id e).mp found
    simp only [RequestTable.remove, found]
    have left := filed.erase found
    refine ⟨rfl, ⟨left.distinct, left.inOrder, left.keyed, left.entries, left.byExpiry⟩, ?_, ?_⟩
    · intro connId id
      rw [lists_dropId, consistent.listed.lists]
      constructor
      · rintro ⟨⟨other, member, rfl, rfl⟩, apart⟩
        refine ⟨other, List.mem_filter.mpr ⟨member, decide_eq_true ?_⟩, rfl, rfl⟩
        intro same
        obtain rfl := filed.eq_of_id member there same
        exact apart ⟨rfl, rfl⟩
      · rintro ⟨other, member, rfl, rfl⟩
        obtain ⟨still, apart⟩ := List.mem_filter.mp member
        have apart := of_decide_eq_true apart
        exact ⟨⟨other, still, rfl, rfl⟩, fun both => apart both.2.symm⟩
    · exact occupied_dropId consistent.listed.occupied

/-- A request with a new id is put into all maps under a new serial number. -/
theorem Consistent.push {t : RequestTable Handler} {es : List (Entry Handler)}
    (consistent : t.Consistent es) (request : PendingRequest Handler)
    (fresh : ∀ e ∈ es, e.1.id ≠ request.id) :
    Consistent
      { entries := t.entries.insert request.id (request, ⟨request.expiry, t.nextSerial⟩)
        byExpiry := t.byExpiry.insert ⟨request.expiry, t.nextSerial⟩ request.id
        byConn := addId t.byConn request.connId request.id
        nextSerial := t.nextSerial + 1 }
      (es ++ [(request, ⟨request.expiry, t.nextSerial⟩)]) := by
  have filed := consistent.filed
  have pushed {e : Entry Handler} :
      e ∈ es ++ [(request, (⟨request.expiry, t.nextSerial⟩ : Deadline))] ↔
        e ∈ es ∨ e = (request, ⟨request.expiry, t.nextSerial⟩) := by
    rw [List.mem_append, List.mem_singleton]
  refine ⟨⟨?_, ?_, ?_, ?_, ?_⟩, ?_, ?_⟩
  · have absent : request.id ∉ (es.map Prod.fst).map PendingRequest.id := by
      intro member
      obtain ⟨r, there, same⟩ := List.mem_map.mp member
      obtain ⟨e, inside, rfl⟩ := List.mem_map.mp there
      exact fresh e inside same
    unfold Ledger.Distinct
    rw [List.map_append, List.map_append]
    exact List.nodup_append_comm.mpr (List.nodup_cons.mpr ⟨absent, filed.distinct⟩)
  · apply List.pairwise_append.mpr
    refine ⟨filed.inOrder, List.pairwise_singleton _ _, ?_⟩
    intro e member last same
    obtain rfl := List.mem_singleton.mp same
    exact (filed.keyed e member).2
  · intro e member
    rcases pushed.mp member with old | rfl
    · obtain ⟨due, serial⟩ := filed.keyed e old
      exact ⟨due, Nat.lt_succ_of_lt serial⟩
    · exact ⟨rfl, Nat.lt_succ_self _⟩
  · intro id e
    rw [getElem?_inserted, pushed]
    split
    · rename_i same
      subst same
      constructor
      · intro equal
        obtain rfl := Option.some.inj equal
        exact ⟨.inr rfl, rfl⟩
      · rintro ⟨old | rfl, equal⟩
        · exact absurd equal (fresh e old)
        · rfl
    · rename_i apart
      rw [filed.entries]
      constructor
      · intro ⟨member, same⟩
        exact ⟨.inl member, same⟩
      · rintro ⟨old | rfl, same⟩
        · exact ⟨old, same⟩
        · exact absurd same apart
  · intro key id
    rw [getElem?_inserted]
    simp only [pushed]
    split
    · rename_i same
      subst same
      constructor
      · intro equal
        obtain rfl := Option.some.inj equal
        exact ⟨_, .inr rfl, rfl, rfl⟩
      · rintro ⟨e, old | rfl, equal, same⟩
        · have below := (filed.keyed e old).2
          rw [equal] at below
          exact absurd below (Nat.lt_irrefl _)
        · exact congrArg some same
    · rename_i apart
      rw [filed.byExpiry]
      constructor
      · rintro ⟨e, member, rfl, same⟩
        exact ⟨e, .inl member, rfl, same⟩
      · rintro ⟨e, old | rfl, equal, same⟩
        · exact ⟨e, old, equal, same⟩
        · exact absurd equal apart
  · intro connId id
    rw [lists_addId, consistent.listed.lists]
    simp only [pushed]
    constructor
    · rintro (⟨e, member, conn, same⟩ | ⟨rfl, rfl⟩)
      · exact ⟨e, .inl member, conn, same⟩
      · exact ⟨_, .inr rfl, rfl, rfl⟩
    · rintro ⟨e, old | rfl, conn, same⟩
      · exact .inl ⟨e, old, conn, same⟩
      · exact .inr ⟨conn, same⟩
  · exact occupied_addId consistent.listed.occupied

theorem Consistent.insert {t : RequestTable Handler} {es : List (Entry Handler)}
    (consistent : t.Consistent es) (request : PendingRequest Handler) :
    (t.insert request).Consistent (es.filter (fun e => e.1.id ≠ request.id) ++
      [(request, ⟨request.expiry, t.nextSerial⟩)]) := by
  have pushed := (consistent.remove request.id).2.push request (by
    intro e member
    exact of_decide_eq_true (List.mem_filter.mp member).2)
  rw [nextSerial_remove] at pushed
  unfold RequestTable.insert
  dsimp only
  rw [nextSerial_remove]
  exact pushed

/-- Taking ids out gives the requests that have them and leaves the others. -/
theorem Filed.takeIds {t : RequestTable Handler} {es : List (Entry Handler)} (filed : t.Filed es)
    (ids : List UInt32) :
    (t.takeIds ids).2.Filed (es.filter (fun e => e.1.id ∉ ids)) ∧
      (t.takeIds ids).2.byConn = t.byConn ∧
      (∀ r, r ∈ (t.takeIds ids).1 ↔ r ∈ es.map Prod.fst ∧ r.id ∈ ids) ∧
      ((t.takeIds ids).1.map PendingRequest.id).Sublist ids := by
  induction ids generalizing t es with
  | nil =>
    refine ⟨?_, rfl, ?_, List.Sublist.refl _⟩
    · show t.Filed (es.filter (fun e => e.1.id ∉ []))
      simpa only [List.not_mem_nil, not_false_eq_true, decide_true, List.filter_true] using filed
    · intro r
      simp only [RequestTable.takeIds, List.not_mem_nil, and_false]
  | cons id ids ih =>
    have both (es : List (Entry Handler)) :
        (es.filter (fun e => e.1.id ≠ id)).filter (fun e => e.1.id ∉ ids) =
          es.filter (fun e => e.1.id ∉ id :: ids) := by
      rw [List.filter_filter]
      apply List.filter_congr
      intro e _
      simp only [List.mem_cons, not_or, Bool.decide_and, Bool.and_comm, ne_eq]
    unfold RequestTable.takeIds
    split
    · rename_i absent
      obtain ⟨left, conn, taken, fewer⟩ := ih filed
      have same := both es
      rw [filed.filter_of_absent absent] at same
      refine ⟨same ▸ left, conn, ?_, fewer.cons id⟩
      intro r
      rw [taken, List.mem_cons]
      apply and_congr_right
      intro member
      obtain ⟨e, there, rfl⟩ := List.mem_map.mp member
      have apart : e.1.id ≠ id := by
        intro equal
        rw [(filed.entries id e).mpr ⟨there, equal⟩] at absent
        cases absent
      simp only [apart, false_or]
    · rename_i request key found
      obtain ⟨there, same⟩ := (filed.entries id (request, key)).mp found
      obtain ⟨left, conn, taken, fewer⟩ := ih (filed.erase found)
      rw [both] at left
      have same : request.id = id := same
      refine ⟨left, conn, ?_, ?_⟩
      · intro r
        rw [List.mem_cons, taken, map_filter_id es (fun r => r.id ≠ id), List.mem_filter,
          decide_eq_true_eq, List.mem_cons]
        constructor
        · rintro (rfl | ⟨⟨member, -⟩, inside⟩)
          · exact ⟨List.mem_map.mpr ⟨_, there, rfl⟩, .inl same⟩
          · exact ⟨member, .inr inside⟩
        · rintro ⟨member, rfl | inside⟩
          · exact .inl (filed.distinct.eq_of_id member (List.mem_map.mpr ⟨_, there, rfl⟩) same.symm)
          · by_cases equal : r.id = id
            · exact .inl (filed.distinct.eq_of_id member (List.mem_map.mpr ⟨_, there, rfl⟩)
                (equal.trans same.symm))
            · exact .inr ⟨⟨member, equal⟩, inside⟩
      · rw [List.map_cons, same]
        exact fewer.cons_cons id

/-- A list of ids in the index by connection is that of the entries of its connection. -/
theorem Consistent.listed_iff {t : RequestTable Handler} {es : List (Entry Handler)}
    (consistent : t.Consistent es) {connId : UInt32} {ids : Std.TreeMap UInt32 Unit}
    (found : t.byConn[connId]? = some ids) {e : Entry Handler} (member : e ∈ es) :
    e.1.id ∈ ids ↔ e.1.connId = connId := by
  constructor
  · intro inside
    obtain ⟨other, there, same, equal⟩ :=
      (consistent.listed.lists connId e.1.id).mp ⟨ids, found, inside⟩
    rw [consistent.filed.eq_of_id member there equal.symm]
    exact same
  · intro same
    obtain ⟨others, there, inside⟩ :=
      (consistent.listed.lists connId e.1.id).mpr ⟨e, member, same, rfl⟩
    rw [found] at there
    obtain rfl := Option.some.inj there
    exact inside

/-- A connection that is not listed has no entries. -/
theorem Consistent.apart_of_unlisted {t : RequestTable Handler} {es : List (Entry Handler)}
    (consistent : t.Consistent es) {connId : UInt32} (absent : t.byConn[connId]? = none)
    {e : Entry Handler} (member : e ∈ es) : e.1.connId ≠ connId := by
  intro same
  obtain ⟨ids, there, -⟩ := (consistent.listed.lists connId e.1.id).mpr ⟨e, member, same, rfl⟩
  rw [absent] at there
  cases there

theorem Listed.eraseConn {byConn : Std.TreeMap UInt32 (Std.TreeMap UInt32 Unit)}
    {es : List (Entry Handler)} (listed : Listed byConn es) (connId : UInt32) :
    Listed (byConn.erase connId) (es.filter (fun e => e.1.connId ≠ connId)) := by
  constructor
  · intro other id
    simp only [Lists, getElem?_erased, List.mem_filter, decide_eq_true_eq]
    split
    · rename_i same
      simp only [reduceCtorEq, false_and, exists_false, false_iff, not_exists, not_and]
      rintro e ⟨_, apart⟩ equal
      exact absurd (equal.trans same.symm) apart
    · rename_i apart
      rw [← Lists, listed.lists]
      constructor
      · rintro ⟨e, member, rfl, same⟩
        exact ⟨e, ⟨member, Ne.symm apart⟩, rfl, same⟩
      · rintro ⟨e, ⟨member, -⟩, equal, same⟩
        exact ⟨e, member, equal, same⟩
  · intro other ids there
    rw [getElem?_erased] at there
    split at there
    · cases there
    · exact listed.occupied other ids there

theorem mergeSort_byExpiry (requests : List (PendingRequest Handler)) :
    (requests.mergeSort (fun a b => a.expiry ≤ b.expiry)).Pairwise
      (fun a b => a.expiry ≤ b.expiry) := by
  have sorted := @List.pairwise_mergeSort _
    (fun a b : PendingRequest Handler => decide (a.expiry ≤ b.expiry))
    (by
      intro a b c first second
      exact decide_eq_true (Int.le_trans (of_decide_eq_true first) (of_decide_eq_true second)))
    (by
      intro a b
      simp only [Bool.or_eq_true, decide_eq_true_eq]
      exact Int.le_total a.expiry b.expiry)
    requests
  exact sorted.imp of_decide_eq_true

/-- Once the list of a connection is dropped, taking out the ids that were on it, in any order,
takes out just what the connection has pending and leaves the others. -/
theorem Consistent.takeListed {t : RequestTable Handler} {es : List (Entry Handler)}
    (consistent : t.Consistent es) {connId : UInt32} {ids : Std.TreeMap UInt32 Unit}
    (found : t.byConn[connId]? = some ids) {order : List UInt32} (once : order.Perm ids.keys) :
    (takeIds { t with byConn := t.byConn.erase connId } order).1.Perm
        (Ledger.ofConnection (es.map Prod.fst) connId) ∧
      (takeIds { t with byConn := t.byConn.erase connId } order).2.Consistent
        (es.filter (fun e => e.1.connId ≠ connId)) := by
  have filed := consistent.filed
  have cut : Filed { t with byConn := t.byConn.erase connId } es :=
    ⟨filed.distinct, filed.inOrder, filed.keyed, filed.entries, filed.byExpiry⟩
  obtain ⟨left, conn, taken, fewer⟩ := cut.takeIds order
  have own {e : Entry Handler} (member : e ∈ es) : e.1.id ∈ order ↔ e.1.connId = connId :=
    once.mem_iff.trans (Std.TreeMap.mem_keys.trans (consistent.listed_iff found member))
  have rest : es.filter (fun e => e.1.id ∉ order) = es.filter (fun e => e.1.connId ≠ connId) := by
    apply List.filter_congr
    intro e member
    rw [decide_eq_decide, own member]
  rw [rest] at left
  refine ⟨?_, left, ?_⟩
  · have single : order.Nodup := once.nodup_iff.mpr Std.TreeMap.nodup_keys
    have theirs : Ledger.Distinct (Ledger.ofConnection (es.map Prod.fst) connId) :=
      filed.distinct.filter _
    apply (List.perm_ext_iff_of_nodup (List.Nodup.of_map PendingRequest.id (single.sublist fewer))
      theirs.nodup).mpr
    intro r
    rw [taken, Ledger.mem_ofConnection]
    apply and_congr_right
    intro member
    obtain ⟨e, there, rfl⟩ := List.mem_map.mp member
    exact own there
  · rw [conn]
    exact consistent.listed.eraseConn connId

/-- A purge takes out just what a connection has pending, by expiry, and leaves the others. -/
theorem Consistent.purge {t : RequestTable Handler} {es : List (Entry Handler)}
    (consistent : t.Consistent es) (connId : UInt32) :
    (t.purge connId).1.Perm (Ledger.ofConnection (es.map Prod.fst) connId) ∧
      (t.purge connId).1.Pairwise (fun a b => a.expiry ≤ b.expiry) ∧
      (t.purge connId).2.Consistent (es.filter (fun e => e.1.connId ≠ connId)) := by
  unfold RequestTable.purge
  cases found : t.byConn[connId]? with
  | none =>
    have nobody : Ledger.ofConnection (es.map Prod.fst) connId = [] := by
      apply List.filter_eq_nil_iff.mpr
      intro r member same
      obtain ⟨e, there, rfl⟩ := List.mem_map.mp member
      exact consistent.apart_of_unlisted found there (of_decide_eq_true same)
    have everybody : es.filter (fun e => e.1.connId ≠ connId) = es := by
      apply List.filter_eq_self.mpr
      intro e member
      exact decide_eq_true (consistent.apart_of_unlisted found member)
    rw [nobody, everybody]
    exact ⟨List.Perm.refl _, .nil, consistent⟩
  | some ids =>
    obtain ⟨taken, left⟩ := consistent.takeListed found (List.Perm.refl ids.keys)
    exact ⟨(List.mergeSort_perm _ _).trans taken, mergeSort_byExpiry _, left⟩

/-- The first key of the index by expiry is that of the earliest request. -/
theorem Filed.earliest? {t : RequestTable Handler} {es : List (Entry Handler)} (filed : t.Filed es) :
    es = [] ∧ Deadline.earliest? t.byExpiry = none ∨
      ∃ before e after, es = before ++ e :: after ∧
        Deadline.earliest? t.byExpiry = some (e.2, e.1.id) ∧
        (∀ other ∈ before, e.1.expiry < other.1.expiry) ∧
        ∀ other ∈ after, e.1.expiry ≤ other.1.expiry := by
  cases first : Deadline.earliest? t.byExpiry with
  | none =>
    left
    refine ⟨List.eq_nil_iff_forall_not_mem.mpr ?_, rfl⟩
    intro e member
    have nothing := Std.TreeMap.isEmpty_iff_forall_not_mem.mp
      (Deadline.earliest?_eq_none_iff.mp first) e.2
    apply nothing
    rw [Std.TreeMap.mem_iff_isSome_getElem?, (filed.byExpiry e.2 e.1.id).mpr ⟨e, member, rfl, rfl⟩]
    rfl
  | some entry =>
    right
    obtain ⟨there, least⟩ := Deadline.earliest?_eq_some_iff.mp first
    obtain ⟨e, member, key, id⟩ := (filed.byExpiry entry.1 entry.2).mp there
    have order (other : Entry Handler) (inside : other ∈ es) :
        e.1.expiry < other.1.expiry ∨
          e.1.expiry = other.1.expiry ∧ e.2.serial ≤ other.2.serial := by
      have found := (filed.byExpiry other.2 other.1.id).mpr ⟨other, inside, rfl, rfl⟩
      have le := least other.2 (by
        rw [Std.TreeMap.mem_iff_isSome_getElem?, found]
        rfl)
      rw [← key, Deadline.isLE_iff, (filed.keyed e member).1, (filed.keyed other inside).1] at le
      exact le
    obtain ⟨before, after, rfl⟩ := List.append_of_mem member
    refine ⟨before, e, after, rfl, by rw [key, id], ?_, ?_⟩
    · intro other front
      have sooner := (List.pairwise_append.mp filed.inOrder).2.2 other front e List.mem_cons_self
      rcases order other (List.mem_append_left _ front) with less | ⟨-, later⟩
      · exact less
      · omega
    · intro other back
      rcases order other (List.mem_append_right _ (List.mem_cons_of_mem _ back)) with
        less | ⟨equal, -⟩
      · exact Int.le_of_lt less
      · exact Int.le_of_eq equal

end RequestTable

end MessageTransport
