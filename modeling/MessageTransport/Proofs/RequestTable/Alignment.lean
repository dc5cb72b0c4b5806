import MessageTransport.Proofs.RequestTable.Refinement

set_option autoImplicit false

namespace MessageTransport.RequestTable

variable {Handler : Type} {t next : RequestTable Handler} {l : Ledger Handler}

/-- Whether the maps of a table hold the same requests. -/
structure Aligned (t : RequestTable Handler) : Prop where
  filed : ∀ (id : UInt32) (request : PendingRequest Handler) (key : Deadline),
    t.entries[id]? = some (request, key) →
      request.id = id ∧ key.due = request.expiry ∧ key.serial < t.nextSerial
  byExpiry : ∀ (key : Deadline) (id : UInt32),
    t.byExpiry[key]? = some id ↔ ∃ request, t.entries[id]? = some (request, key)
  byConn : ∀ connId id, Lists t.byConn connId id ↔
    ∃ request key, t.entries[id]? = some (request, key) ∧ request.connId = connId
  occupied : Occupied t.byConn

/-- Whether no index has an id any more. -/
def Forgotten (t : RequestTable Handler) (id : UInt32) : Prop :=
  (∀ key : Deadline, t.byExpiry[key]? ≠ some id) ∧ ∀ connId, ¬Lists t.byConn connId id

theorem Consistent.aligned {es : List (Entry Handler)} (consistent : t.Consistent es) :
    t.Aligned := by
  have filed := consistent.filed
  refine ⟨?_, ?_, ?_, consistent.listed.occupied⟩
  · intro id request key found
    obtain ⟨member, same⟩ := (filed.entries id (request, key)).mp found
    exact ⟨same, filed.keyed (request, key) member⟩
  · intro key id
    rw [filed.byExpiry]
    constructor
    · rintro ⟨⟨request, _⟩, member, rfl, same⟩
      exact ⟨request, (filed.entries id _).mpr ⟨member, same⟩⟩
    · rintro ⟨request, found⟩
      obtain ⟨member, same⟩ := (filed.entries id (request, key)).mp found
      exact ⟨(request, key), member, rfl, same⟩
  · intro connId id
    rw [consistent.listed.lists]
    constructor
    · rintro ⟨⟨request, key⟩, member, own, same⟩
      exact ⟨request, key, (filed.entries id _).mpr ⟨member, same⟩, own⟩
    · rintro ⟨request, key, found, own⟩
      obtain ⟨member, same⟩ := (filed.entries id (request, key)).mp found
      exact ⟨(request, key), member, own, same⟩

theorem Aligned.forgotten (aligned : t.Aligned) {id : UInt32} (absent : t.contains id = false) :
    t.Forgotten id := by
  have nothing (entry : Entry Handler) : t.entries[id]? ≠ some entry := by
    intro found
    rw [contains, Std.TreeMap.contains_eq_isSome_getElem?, found] at absent
    cases absent
  constructor
  · intro key there
    obtain ⟨request, found⟩ := (aligned.byExpiry key id).mp there
    exact nothing _ found
  · intro connId lists
    obtain ⟨request, key, found, -⟩ := (aligned.byConn connId id).mp lists
    exact nothing _ found

/-- The index by expiry has the id of each request once. -/
theorem Aligned.scheduled (aligned : t.Aligned) :
    (t.byExpiry.toList.map Prod.snd).Perm t.entries.keys := by
  have leads {entry : Deadline × UInt32} (member : entry ∈ t.byExpiry.toList) :
      ∃ request, t.entries[entry.2]? = some (request, entry.1) :=
    (aligned.byExpiry entry.1 entry.2).mp (Std.TreeMap.mem_toList_iff_getElem?_eq_some.mp member)
  -- An id with two keys would be filed under both.
  have once : (t.byExpiry.toList.map Prod.snd).Nodup := by
    apply (nodup_toList t.byExpiry).map_on
    rintro ⟨key, id⟩ first ⟨other, _⟩ second rfl
    obtain ⟨request, there⟩ := leads first
    obtain ⟨same, found⟩ := leads second
    rw [there] at found
    cases found
    rfl
  apply (List.perm_ext_iff_of_nodup once Std.TreeMap.nodup_keys).mpr
  intro id
  rw [List.mem_map, mem_keys_iff]
  constructor
  · rintro ⟨entry, member, rfl⟩
    obtain ⟨request, found⟩ := leads member
    exact ⟨_, found⟩
  · rintro ⟨⟨request, key⟩, found⟩
    have there := (aligned.byExpiry key id).mpr ⟨request, found⟩
    exact ⟨(key, id), Std.TreeMap.mem_toList_iff_getElem?_eq_some.mpr there, rfl⟩

/-- What a connection lists is the id of a request of its own. -/
theorem Aligned.of_listed (aligned : t.Aligned) {connId : UInt32}
    {ids : Std.TreeMap UInt32 Unit compare} (listed : (connId, ids) ∈ t.byConn.toList) {id : UInt32}
    (inside : id ∈ ids.keys) :
    ∃ request key, t.entries[id]? = some (request, key) ∧ request.connId = connId := by
  have found : t.byConn[connId]? = some ids := Std.TreeMap.mem_toList_iff_getElem?_eq_some.mp listed
  exact (aligned.byConn connId id).mp ⟨ids, found, Std.TreeMap.mem_keys.mp inside⟩

/-- The connections together list the id of each request once. -/
theorem Aligned.listed (aligned : t.Aligned) :
    (t.byConn.toList.flatMap (fun listed => listed.2.keys)).Perm t.entries.keys := by
  -- An id on two lists would belong to a request of two connections.
  have once : (t.byConn.toList.flatMap (fun listed => listed.2.keys)).Nodup := by
    apply List.nodup_flatMap.mpr
    refine ⟨fun _ _ => Std.TreeMap.nodup_keys, ?_⟩
    apply (nodup_toList t.byConn).imp_of_mem
    intro a b first second apart id inside alsoInside
    obtain ⟨request, key, found, own⟩ := aligned.of_listed first inside
    obtain ⟨other, otherKey, there, ours⟩ := aligned.of_listed second alsoInside
    rw [found] at there
    cases there
    have lists := Std.TreeMap.mem_toList_iff_getElem?_eq_some.mp first
    rw [← own, ours, Std.TreeMap.mem_toList_iff_getElem?_eq_some.mp second] at lists
    exact apart (Prod.ext (own.symm.trans ours) (Option.some.inj lists).symm)
  apply (List.perm_ext_iff_of_nodup once Std.TreeMap.nodup_keys).mpr
  intro id
  rw [List.mem_flatMap, mem_keys_iff]
  constructor
  · rintro ⟨listed, member, inside⟩
    obtain ⟨request, key, found, -⟩ := aligned.of_listed member inside
    exact ⟨_, found⟩
  · rintro ⟨⟨request, key⟩, found⟩
    obtain ⟨ids, listed, inside⟩ :=
      (aligned.byConn request.connId id).mpr ⟨request, key, found, rfl⟩
    exact ⟨(request.connId, ids), Std.TreeMap.mem_toList_iff_getElem?_eq_some.mpr listed,
      Std.TreeMap.mem_keys.mpr inside⟩

/-- What a call can leave of a table. A purge may take the ids of its connection in any order. -/
inductive Leaves (t : RequestTable Handler) : Op Handler → RequestTable Handler → Prop
  | step (op : Op Handler) : Leaves t op (t.step op).1
  | purge {connId : UInt32} {ids : Std.TreeMap UInt32 Unit} {order : List UInt32}
      (found : t.byConn[connId]? = some ids) (once : order.Perm ids.keys) :
      Leaves t (.purge connId) (takeIds { t with byConn := t.byConn.erase connId } order).2

/-- The tables that calls can bring an empty one to. -/
inductive Reached : List (Op Handler) → RequestTable Handler → Prop
  | start : Reached [] empty
  | call {ops : List (Op Handler)} {op : Op Handler} {t next : RequestTable Handler}
      (earlier : Reached ops t) (leaves : Leaves t op next) : Reached (ops ++ [op]) next

theorem Represents.leaves {op : Op Handler} (represents : t.Represents l) (leaves : Leaves t op next) :
    next.Represents (l.after op) := by
  cases leaves with
  | step op => exact (represents.step op).2
  | purge found once => exact represents.takeListed found once

/-- Calls leave a table with the requests that they leave of a list. -/
theorem Reached.represents {ops : List (Op Handler)} (reached : Reached ops t) :
    t.Represents (ops.foldl Ledger.after []) := by
  induction reached with
  | start => exact represents_empty
  | call _ leaves ih =>
    rw [List.foldl_append]
    exact ih.leaves leaves

/-- Every table that a run goes through is reached. -/
theorem Reached.run {done ops : List (Op Handler)} (reached : Reached done t) {place : Nat}
    {reply : Reply Handler} (there : (t.run ops)[place]? = some (next, reply)) :
    Reached (done ++ ops.take (place + 1)) next := by
  induction ops generalizing done t place with
  | nil => cases there
  | cons op ops ih =>
    have first : Reached (done ++ [op]) (t.step op).1 := reached.call (.step op)
    cases place with
    | zero =>
      obtain rfl : (t.step op).1 = next := congrArg Prod.fst (Option.some.inj there)
      exact first
    | succ place =>
      have later := ih first there
      rw [List.append_assoc] at later
      exact later

def Op.isInsert : Op Handler → Bool
  | .insert _ => true
  | _ => false

theorem nextSerial_takeIds (t : RequestTable Handler) (ids : List UInt32) :
    (t.takeIds ids).2.nextSerial = t.nextSerial := by
  fun_induction RequestTable.takeIds t ids with
  | case1 t => rfl
  | case2 t id ids absent ih => exact ih
  | case3 t id ids request key found requests rest taken ih =>
    rw [taken] at ih
    exact ih

theorem nextSerial_purge (t : RequestTable Handler) (connId : UInt32) :
    (t.purge connId).2.nextSerial = t.nextSerial := by
  unfold purge
  split
  · rfl
  · exact nextSerial_takeIds _ _

theorem nextSerial_nextExpired (t : RequestTable Handler) (now : Instant) :
    (t.nextExpired now).2.nextSerial = t.nextSerial := by
  unfold nextExpired
  split
  · rfl
  · split
    · rfl
    · exact nextSerial_remove _ _

theorem nextSerial_drainExpired (t : RequestTable Handler) (now : Instant) :
    (t.drainExpired now).2.nextSerial = t.nextSerial := by
  fun_induction RequestTable.drainExpired t now with
  | case1 t none => rfl
  | case2 t request some requests rest drained ih =>
    rw [drained] at ih
    exact ih.trans (t.nextSerial_nextExpired now)

/-- Only an insertion uses up a serial number, and just one. -/
theorem Leaves.nextSerial {op : Op Handler} (leaves : Leaves t op next) :
    next.nextSerial = t.nextSerial + if op.isInsert then 1 else 0 := by
  cases leaves with
  | step op =>
    cases op with
    | insert request => exact congrArg (· + 1) (t.nextSerial_remove request.id)
    | remove id => exact t.nextSerial_remove id
    | purge connId => exact t.nextSerial_purge connId
    | nextExpired now => exact t.nextSerial_nextExpired now
    | drainExpired now => exact t.nextSerial_drainExpired now
    | contains id => rfl
  | purge found once => exact nextSerial_takeIds _ _

theorem Reached.nextSerial {ops : List (Op Handler)} (reached : Reached ops t) :
    t.nextSerial = ops.countP Op.isInsert := by
  induction reached with
  | start => rfl
  | call _ leaves ih =>
    rw [leaves.nextSerial, ih, List.countP_append, List.countP_singleton]

/-- Whatever the calls, the maps of a table hold the same requests: an id is filed under a key if
and only if the key leads to the id, keys tell the expiry and a number below the next one,
connections list just the ids of their own requests, and none is listed without any. Thus an id
without a request is in no index, and each index has the other ids once. The next number counts the
insertions. -/
theorem aligned_of_reached {ops : List (Op Handler)} (reached : Reached ops t) :
    t.Aligned ∧ (∀ id, t.contains id = false → t.Forgotten id) ∧
      (t.byExpiry.toList.map Prod.snd).Perm t.entries.keys ∧
      (t.byConn.toList.flatMap (fun listed => listed.2.keys)).Perm t.entries.keys ∧
      t.nextSerial = ops.countP Op.isInsert := by
  obtain ⟨es, consistent, -⟩ := reached.represents
  have aligned := consistent.aligned
  exact ⟨aligned, fun _ absent => aligned.forgotten absent, aligned.scheduled, aligned.listed,
    reached.nextSerial⟩

/-- Two requests on each of two connections, and then the first again, on the other connection. -/
def arrivals : List (Op Nat) :=
  let near : Endpoint := ⟨.v4 1, 80⟩
  let far : Endpoint := ⟨.v4 2, 80⟩
  [.insert ⟨1, 10, near, 7, 5⟩, .insert ⟨2, 10, near, 7, 5⟩, .insert ⟨3, 20, far, 7, 5⟩,
    .insert ⟨4, 20, far, 7, 9⟩, .insert ⟨1, 20, far, 7, 3⟩]

def crowd : RequestTable Nat := arrivals.foldl (fun t op => (t.step op).1) empty

/-- The second connection is purged, and of its ids the last is taken first. -/
def thinned : RequestTable Nat :=
  (takeIds { crowd with byConn := crowd.byConn.erase 20 } [4, 1, 3]).2

theorem aligned_of_reached_thinned :
    Reached (arrivals ++ [Op.purge 20]) thinned ∧
      thinned.byExpiry.toList = [(⟨5, 1⟩, 2)] ∧ thinned.byConn.keys = [10] ∧
      thinned.contains 1 = false ∧ thinned.nextSerial = 5 ∧
      thinned.Aligned ∧ (∀ id, thinned.contains id = false → thinned.Forgotten id) ∧
      (thinned.byExpiry.toList.map Prod.snd).Perm thinned.entries.keys ∧
      (thinned.byConn.toList.flatMap (fun listed => listed.2.keys)).Perm thinned.entries.keys ∧
      thinned.nextSerial = (arrivals ++ [Op.purge 20]).countP Op.isInsert := by
  have full : Reached arrivals crowd :=
    Reached.start.run (show (empty.run arrivals)[4]? = some (crowd, .done) from rfl)
  have found : crowd.byConn[(20 : UInt32)]? = some (crowd.byConn.getD 20 ∅) := rfl
  have once : [4, 1, 3].Perm (crowd.byConn.getD 20 ∅).keys := by decide
  have reached : Reached (arrivals ++ [Op.purge 20]) thinned :=
    full.call (.purge found once)
  exact ⟨reached, by decide, by decide, by decide, by decide, aligned_of_reached reached⟩

end MessageTransport.RequestTable
