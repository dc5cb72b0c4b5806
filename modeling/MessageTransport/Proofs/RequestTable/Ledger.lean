import Mathlib.Data.List.Nodup
import Mathlib.Data.List.Sort
import MessageTransport.RequestTable.Trace

set_option autoImplicit false

namespace MessageTransport

/-- Requests in the order in which they were added. -/
abbrev Ledger (Handler : Type) := List (PendingRequest Handler)

namespace Ledger

variable {Handler : Type}

/-- No two requests have the same id. -/
def Distinct (l : Ledger Handler) : Prop := (l.map PendingRequest.id).Nodup

def lookUp (l : Ledger Handler) (id : UInt32) : Option (PendingRequest Handler) :=
  l.find? (fun r => r.id = id)

def without (l : Ledger Handler) (id : UInt32) : Ledger Handler := l.filter (fun r => r.id ≠ id)

/-- A new request drops an earlier one of its id and comes last. -/
def insert (l : Ledger Handler) (request : PendingRequest Handler) : Ledger Handler :=
  l.without request.id ++ [request]

def ofConnection (l : Ledger Handler) (connId : UInt32) : Ledger Handler :=
  l.filter (fun r => r.connId = connId)

def ofOthers (l : Ledger Handler) (connId : UInt32) : Ledger Handler :=
  l.filter (fun r => r.connId ≠ connId)

/-- The first of the requests that expire first. -/
def earliest? (l : Ledger Handler) : Option (PendingRequest Handler) :=
  l.find? (fun r => l.all (fun other => r.expiry ≤ other.expiry))

def nextDeadline (l : Ledger Handler) : Option Instant := (l.map PendingRequest.expiry).min?

/-- The earliest request, if it has expired. -/
def nextExpired (l : Ledger Handler) (now : Instant) : Option (PendingRequest Handler) :=
  l.earliest?.filter (fun r => r.expiry ≤ now)

/-- The requests that have expired, by expiry and then by the order in which they were added. -/
def expired (l : Ledger Handler) (now : Instant) : Ledger Handler :=
  (l.filter (fun r => r.expiry ≤ now)).insertionSort (fun a b => a.expiry ≤ b.expiry)

def unexpired (l : Ledger Handler) (now : Instant) : Ledger Handler :=
  l.filter (fun r => now < r.expiry)

/-- The requests that are left after an operation. -/
def after (l : Ledger Handler) : RequestTable.Op Handler → Ledger Handler
  | .insert request => l.insert request
  | .remove id => l.without id
  | .purge connId => l.ofOthers connId
  | .nextExpired now =>
    match l.nextExpired now with
    | none => l
    | some request => l.without request.id
  | .drainExpired now => l.unexpired now
  | .contains _ => l

/-- Whether a reply is right for an operation. -/
def Answers (l : Ledger Handler) : RequestTable.Op Handler → RequestTable.Reply Handler → Prop
  | .insert _, .done => True
  | .remove id, .request found => found = l.lookUp id
  | .purge connId, .requests purged =>
    purged.Perm (l.ofConnection connId) ∧ purged.Pairwise (fun a b => a.expiry ≤ b.expiry)
  | .nextExpired now, .request found => found = l.nextExpired now
  | .drainExpired now, .requests drained => drained = l.expired now
  | .contains id, .flag present => present = (l.lookUp id).isSome
  | _, _ => False

/-- Whether all that can be read off a table is what the requests say. -/
structure Shown (l : Ledger Handler) (t : RequestTable Handler) : Prop where
  contains : ∀ id, t.contains id = (l.lookUp id).isSome
  size : t.size = l.length
  isEmpty : t.isEmpty = l.isEmpty
  nextDeadline : t.nextDeadline = l.nextDeadline

/-- Whether a run of a table goes as it has to from some requests on. -/
def Agrees : Ledger Handler → List (RequestTable.Op Handler) →
    List (RequestTable Handler × RequestTable.Reply Handler) → Prop
  | _, [], [] => True
  | l, op :: ops, (t, reply) :: rest =>
    l.Answers op reply ∧ (l.after op).Shown t ∧ Agrees (l.after op) ops rest
  | _, _, _ => False

theorem mem_without {l : Ledger Handler} {id : UInt32} {r : PendingRequest Handler} :
    r ∈ l.without id ↔ r ∈ l ∧ r.id ≠ id := by
  simp only [without, List.mem_filter, decide_eq_true_eq]

theorem mem_insert {l : Ledger Handler} {request r : PendingRequest Handler} :
    r ∈ l.insert request ↔ r ∈ l ∧ r.id ≠ request.id ∨ r = request := by
  rw [insert, List.mem_append, mem_without, List.mem_singleton]

theorem mem_ofConnection {l : Ledger Handler} {connId : UInt32} {r : PendingRequest Handler} :
    r ∈ l.ofConnection connId ↔ r ∈ l ∧ r.connId = connId := by
  simp only [ofConnection, List.mem_filter, decide_eq_true_eq]

theorem mem_ofOthers {l : Ledger Handler} {connId : UInt32} {r : PendingRequest Handler} :
    r ∈ l.ofOthers connId ↔ r ∈ l ∧ r.connId ≠ connId := by
  simp only [ofOthers, List.mem_filter, decide_eq_true_eq]

theorem mem_expired {l : Ledger Handler} {now : Instant} {r : PendingRequest Handler} :
    r ∈ l.expired now ↔ r ∈ l ∧ r.expiry ≤ now := by
  simp only [expired, List.mem_insertionSort, List.mem_filter, decide_eq_true_eq]

theorem mem_unexpired {l : Ledger Handler} {now : Instant} {r : PendingRequest Handler} :
    r ∈ l.unexpired now ↔ r ∈ l ∧ now < r.expiry := by
  simp only [unexpired, List.mem_filter, decide_eq_true_eq]

theorem Distinct.eq_of_id {l : Ledger Handler} (distinct : l.Distinct) {a b : PendingRequest Handler}
    (ha : a ∈ l) (hb : b ∈ l) (same : a.id = b.id) : a = b :=
  List.inj_on_of_nodup_map distinct ha hb same

theorem Distinct.nodup {l : Ledger Handler} (distinct : l.Distinct) : l.Nodup :=
  List.Nodup.of_map PendingRequest.id distinct

theorem Distinct.filter {l : Ledger Handler} (distinct : l.Distinct)
    (p : PendingRequest Handler → Bool) : Distinct (l.filter p) :=
  List.Nodup.sublist (List.filter_sublist.map PendingRequest.id) distinct

theorem of_lookUp {l : Ledger Handler} {id : UInt32} {r : PendingRequest Handler}
    (found : l.lookUp id = some r) : r ∈ l ∧ r.id = id := by
  have same := List.find?_some found
  exact ⟨List.mem_of_find?_eq_some found, of_decide_eq_true same⟩

theorem lookUp_eq_none_iff {l : Ledger Handler} {id : UInt32} :
    l.lookUp id = none ↔ ∀ r ∈ l, r.id ≠ id := by
  simp only [lookUp, List.find?_eq_none, decide_eq_true_eq, ne_eq]

theorem Distinct.lookUp_eq_some_iff {l : Ledger Handler} (distinct : l.Distinct) {id : UInt32}
    {r : PendingRequest Handler} : l.lookUp id = some r ↔ r ∈ l ∧ r.id = id := by
  constructor
  · exact of_lookUp
  · rintro ⟨member, rfl⟩
    cases found : l.lookUp r.id with
    | none => exact absurd rfl (lookUp_eq_none_iff.mp found r member)
    | some other =>
      obtain ⟨there, same⟩ := of_lookUp found
      rw [distinct.eq_of_id there member same]

/-- A request is the earliest if those before it expire later and those behind it no earlier. -/
theorem earliest?_eq_some {before after : Ledger Handler} {r : PendingRequest Handler}
    (first : ∀ other ∈ before, r.expiry < other.expiry)
    (least : ∀ other ∈ after, r.expiry ≤ other.expiry) :
    earliest? (before ++ r :: after) = some r := by
  apply List.find?_eq_some_iff_append.mpr
  refine ⟨?_, before, after, rfl, ?_⟩
  · apply List.all_eq_true.mpr
    intro other member
    apply decide_eq_true
    rcases List.mem_append.mp member with front | back
    · exact Int.le_of_lt (first other front)
    · rcases List.mem_cons.mp back with rfl | behind
      · exact Int.le_refl _
      · exact least other behind
  · intro other member
    rw [Bool.not_eq_true']
    apply List.all_eq_false.mpr
    refine ⟨r, List.mem_append_right _ List.mem_cons_self, ?_⟩
    rw [decide_eq_true_eq]
    exact Int.not_le.mpr (first other member)

theorem nextDeadline_eq_some {before after : Ledger Handler} {r : PendingRequest Handler}
    (first : ∀ other ∈ before, r.expiry < other.expiry)
    (least : ∀ other ∈ after, r.expiry ≤ other.expiry) :
    nextDeadline (before ++ r :: after) = some r.expiry := by
  apply List.min?_eq_some_iff.mpr
  refine ⟨List.mem_map.mpr ⟨r, List.mem_append_right _ List.mem_cons_self, rfl⟩, ?_⟩
  intro expiry member
  obtain ⟨other, there, rfl⟩ := List.mem_map.mp member
  rcases List.mem_append.mp there with front | back
  · exact Int.le_of_lt (first other front)
  · rcases List.mem_cons.mp back with rfl | behind
    · exact Int.le_refl _
    · exact least other behind

/-- Sorting by expiry brings the earliest request to the front. -/
theorem insertionSort_earliest {before after : Ledger Handler} {r : PendingRequest Handler}
    (first : ∀ other ∈ before, r.expiry < other.expiry)
    (least : ∀ other ∈ after, r.expiry ≤ other.expiry) :
    (before ++ r :: after).insertionSort (fun a b => a.expiry ≤ b.expiry) =
      r :: (before ++ after).insertionSort (fun a b => a.expiry ≤ b.expiry) := by
  induction before with
  | nil =>
    rw [List.nil_append, List.nil_append, List.insertionSort_cons]
    cases sorted : after.insertionSort (fun a b => a.expiry ≤ b.expiry) with
    | nil => rfl
    | cons other rest =>
      have member : other ∈ after := by
        apply (List.mem_insertionSort (fun a b : PendingRequest Handler => a.expiry ≤ b.expiry)).mp
        rw [sorted]
        exact List.mem_cons_self
      exact List.orderedInsert_cons_of_le _ rest (least other member)
  | cons other before ih =>
    have later := first other List.mem_cons_self
    have step := ih (fun other member => first other (List.mem_cons_of_mem _ member))
    rw [List.cons_append, List.insertionSort_cons, step, List.orderedInsert_cons,
      if_neg (Int.not_le.mpr later), List.cons_append, List.insertionSort_cons]

/-- The earliest request is the first of those that have expired, if it has. -/
theorem expired_earliest {before after : Ledger Handler} {r : PendingRequest Handler}
    (first : ∀ other ∈ before, r.expiry < other.expiry)
    (least : ∀ other ∈ after, r.expiry ≤ other.expiry) {now : Instant} (due : r.expiry ≤ now) :
    expired (before ++ r :: after) now = r :: expired (before ++ after) now := by
  unfold expired
  have kept : (r :: after).filter (fun other => other.expiry ≤ now) =
      r :: after.filter (fun other => other.expiry ≤ now) := by
    rw [List.filter_cons, if_pos (decide_eq_true due)]
  rw [List.filter_append, List.filter_append, kept]
  apply insertionSort_earliest
  · intro other member
    exact first other (List.mem_of_mem_filter member)
  · intro other member
    exact least other (List.mem_of_mem_filter member)

theorem Distinct.without_middle {before after : Ledger Handler} {r : PendingRequest Handler}
    (distinct : Distinct (before ++ r :: after)) :
    without (before ++ r :: after) r.id = before ++ after := by
  unfold Distinct at distinct
  rw [List.map_append, List.map_cons] at distinct
  obtain ⟨alone, -⟩ := List.nodup_cons.mp (List.nodup_middle.mp distinct)
  have apart (other : PendingRequest Handler) (member : other ∈ before ++ after) :
      other.id ≠ r.id := by
    intro same
    apply alone
    rw [← List.map_append, ← same]
    exact List.mem_map_of_mem member
  have out : (r :: after).filter (fun other => other.id ≠ r.id) =
      after.filter (fun other => other.id ≠ r.id) := by
    apply List.filter_cons_of_neg
    rw [decide_eq_true_eq, ne_eq, not_not]
  rw [without, List.filter_append, out, ← List.filter_append]
  apply List.filter_eq_self.mpr
  intro other member
  exact decide_eq_true (apart other member)

theorem expired_of_later {l : Ledger Handler} {now : Instant} (later : ∀ r ∈ l, now < r.expiry) :
    l.expired now = [] := by
  apply List.eq_nil_iff_forall_not_mem.mpr
  intro r member
  obtain ⟨there, due⟩ := mem_expired.mp member
  exact absurd (later r there) (Int.not_lt.mpr due)

theorem unexpired_of_later {l : Ledger Handler} {now : Instant} (later : ∀ r ∈ l, now < r.expiry) :
    l.unexpired now = l := by
  apply List.filter_eq_self.mpr
  intro r member
  exact decide_eq_true (later r member)

theorem unexpired_middle {before after : Ledger Handler} {r : PendingRequest Handler} {now : Instant}
    (due : r.expiry ≤ now) :
    unexpired (before ++ r :: after) now = unexpired (before ++ after) now := by
  have out : (r :: after).filter (fun other => now < other.expiry) =
      after.filter (fun other => now < other.expiry) := by
    apply List.filter_cons_of_neg
    rw [decide_eq_true_eq]
    exact Int.not_lt.mpr due
  rw [unexpired, unexpired, List.filter_append, List.filter_append, out]

end Ledger

end MessageTransport
