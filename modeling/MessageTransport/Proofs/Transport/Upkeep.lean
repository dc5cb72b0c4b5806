import MessageTransport.Proofs.RequestTable.Refinement
import MessageTransport.Transport

set_option autoImplicit false

namespace MessageTransport

variable {Handler : Type}

theorem ReactorPool.reactor?_update (p : ReactorPool Handler) (index other : Nat)
    (f : Reactor Handler → Reactor Handler) :
    (p.update index f).reactor? other =
      (p.reactor? other).map (fun r => if index = other then f r else r) :=
  List.getElem?_modify ..

theorem Reactor.requests_updateConnection (r : Reactor Handler) (connId : UInt32)
    (f : Connection Handler → Connection Handler) :
    (r.updateConnection connId f).requests = r.requests := by
  unfold updateConnection
  split <;> rfl

theorem Reactor.requests_takeUp? {r next : Reactor Handler} (taken : r.takeUp? = some next) :
    next.requests = r.requests := by
  unfold takeUp? at taken
  split at taken
  · cases taken
  · split at taken
    · cases taken
    · cases taken
      rfl

namespace Transport

/-- The requests pending on a reactor; none if there is no such reactor. -/
def requestsOf (t : Transport Handler) (index : Nat) : RequestTable Handler :=
  match t.pool.reactor? index with
  | none => .empty
  | some r => r.requests

theorem requestsOf_eq {t : Transport Handler} {index : Nat} {r : Reactor Handler}
    (found : t.pool.reactor? index = some r) : t.requestsOf index = r.requests := by
  rw [requestsOf, found]

theorem requestsOf_start (config : Config) (processors index : Nat) :
    (start config processors : Transport Handler).requestsOf index = .empty := by
  unfold requestsOf
  split
  · rfl
  · rename_i r found
    have member := List.mem_of_getElem? found
    obtain ⟨index, -, rfl⟩ := List.mem_map.mp member
    rfl

theorem requestsOf_updateReactor {t : Transport Handler} {index : Nat} {r : Reactor Handler}
    (found : t.pool.reactor? index = some r) (f : Reactor Handler → Reactor Handler) :
    (t.updateReactor index f).requestsOf index = (f r).requests := by
  have there : (t.updateReactor index f).pool.reactor? index = some (f r) := by
    rw [updateReactor, ReactorPool.reactor?_update, found, Option.map_some, if_pos rfl]
  exact requestsOf_eq there

theorem requestsOf_updateReactor_of_ne (t : Transport Handler) {index other : Nat}
    (apart : index ≠ other) (f : Reactor Handler → Reactor Handler) :
    (t.updateReactor index f).requestsOf other = t.requestsOf other := by
  have same : (t.updateReactor index f).pool.reactor? other = t.pool.reactor? other := by
    rw [updateReactor, ReactorPool.reactor?_update]
    simp only [if_neg apart, Option.map_id']
  rw [requestsOf, same, requestsOf]

theorem requestsOf_of_absent {t : Transport Handler} {index : Nat}
    (absent : t.pool.reactor? index = none) : t.requestsOf index = .empty := by
  rw [requestsOf, absent]

theorem requestsOf_updateReactor_of_absent {t : Transport Handler} {index : Nat}
    (absent : t.pool.reactor? index = none) (f : Reactor Handler → Reactor Handler) :
    (t.updateReactor index f).requestsOf index = .empty := by
  have still : (t.updateReactor index f).pool.reactor? index = none := by
    rw [updateReactor, ReactorPool.reactor?_update, absent, Option.map_none]
  exact requestsOf_of_absent still

theorem exists_reactor {t : Transport Handler} {ref : ConnectionRef} {c : Connection Handler}
    (owned : t.connection? ref = some c) : ∃ r, t.pool.reactor? ref.reactor = some r := by
  obtain ⟨r, found, -⟩ := Option.bind_eq_some_iff.mp owned
  exact ⟨r, found⟩

/-- No request was recorded or taken out, and no id was drawn for one. -/
structure Spared (t next : Transport Handler) : Prop where
  requests : ∀ index, next.requestsOf index = t.requestsOf index
  ids : next.requestIds = t.requestIds

theorem spared_of_pool {t next : Transport Handler} (pool : next.pool.reactors = t.pool.reactors)
    (ids : next.requestIds = t.requestIds) : t.Spared next := by
  refine ⟨?_, ids⟩
  intro index
  unfold requestsOf ReactorPool.reactor?
  rw [pool]

theorem Spared.refl (t : Transport Handler) : t.Spared t := ⟨fun _ => rfl, rfl⟩

theorem Spared.trans {a b c : Transport Handler} (first : a.Spared b) (second : b.Spared c) :
    a.Spared c :=
  ⟨fun index => (second.requests index).trans (first.requests index),
    second.ids.trans first.ids⟩

theorem spared_updateReactor (t : Transport Handler) (index : Nat)
    {f : Reactor Handler → Reactor Handler}
    (keeps : ∀ r, t.pool.reactor? index = some r → (f r).requests = r.requests) :
    t.Spared (t.updateReactor index f) := by
  refine ⟨?_, rfl⟩
  intro other
  by_cases same : index = other
  · subst same
    cases found : t.pool.reactor? index with
    | none => rw [requestsOf_updateReactor_of_absent found, requestsOf_of_absent found]
    | some r => rw [requestsOf_updateReactor found, keeps r found, requestsOf_eq found]
  · exact requestsOf_updateReactor_of_ne t same f

theorem spared_updateConnection (t : Transport Handler) (ref : ConnectionRef)
    (f : Connection Handler → Connection Handler) : t.Spared (t.updateConnection ref f) :=
  t.spared_updateReactor ref.reactor (fun r _ => r.requests_updateConnection ref.connId f)

theorem spared_lookup (t : Transport Handler) (remote : Endpoint) :
    t.Spared (t.lookup remote).2 := by
  unfold lookup
  dsimp only
  split
  · exact .refl t
  · split
    · split <;> exact spared_of_pool rfl rfl
    · exact spared_of_pool rfl rfl

/-- A connection that was found is owned by a reactor. -/
theorem connection?_of_lookup {t : Transport Handler} {remote : Endpoint} {ref : ConnectionRef}
    {c : Connection Handler} {after : Transport Handler}
    (found : t.lookup remote = (.ok (ref, c), after)) : after.connection? ref = some c := by
  unfold lookup at found
  dsimp only at found
  split at found
  · cases found
  · split at found
    · rename_i other owner present
      split at found
      · cases found
      · cases found
        obtain ⟨handle, -, known⟩ := Option.bind_eq_some_iff.mp present
        obtain ⟨owned, there, same⟩ := Option.map_eq_some_iff.mp known
        cases same
        exact there
    · cases found

theorem spared_install (t : Transport Handler) (index : Nat) (c : Connection Handler) :
    t.Spared (t.install index c).2 := by
  have owned (registry : Registry ConnectionRef) :
      t.Spared ({ t with registry }.updateReactor index (fun r => r.adopt c)) := by
    refine Spared.trans ?_ (spared_updateReactor _ index (fun _ _ => rfl))
    exact spared_of_pool rfl rfl
  unfold install
  dsimp only
  split
  · split
    · refine (owned _).trans (spared_updateReactor _ index (fun _ _ => rfl))
    · refine (owned (t.registry.insert t.isLive c.remote ⟨index, c.id⟩).2).trans ?_
      refine (spared_updateReactor _ index (f := fun r => r.forget c.id) (fun _ _ => rfl)).trans ?_
      exact spared_of_pool rfl rfl
  · exact .refl t

theorem spared_connect (t : Transport Handler) (remote : Endpoint) (timeoutMs : Nat)
    (handler : Handler) : t.Spared (t.connect remote timeoutMs handler).2 := by
  unfold connect
  dsimp only
  split
  · exact .refl t
  · split
    · exact spared_of_pool rfl rfl
    · refine Spared.trans ?_ (spared_install _ _ _)
      exact spared_of_pool rfl rfl

theorem spared_accept (t : Transport Handler) (index : Nat) (remote : Endpoint) (socket : Nat)
    (handler : Handler) : t.Spared (t.accept index remote socket handler).2 := by
  unfold accept
  dsimp only
  refine Spared.trans ?_ (spared_install _ _ _)
  exact spared_of_pool rfl rfl

theorem spared_sendChunks (t : Transport Handler) (ref : ConnectionRef) (c : Connection Handler)
    (chunks : List Bytes) (answers : List WriteAnswer) :
    t.Spared (t.sendChunks ref c chunks answers).transport := by
  have updated := t.spared_updateConnection ref (fun _ => (c.send chunks answers).connection)
  unfold sendChunks
  dsimp only
  split
  · exact updated
  · exact updated.trans (spared_of_pool rfl rfl)

theorem spared_sendResponse (t : Transport Handler) (remote : Endpoint) (draft : Draft)
    (answers : List WriteAnswer) : t.Spared (t.sendResponse remote draft answers).transport := by
  have found := t.spared_lookup remote
  unfold sendResponse
  split
  · rename_i eq
    rw [eq] at found
    exact found
  · rename_i eq
    rw [eq] at found
    split
    · exact found
    · exact found.trans (spared_sendChunks _ _ _ _ _)

theorem spared_closeSocket (t : Transport Handler) (remote : Endpoint) :
    t.Spared (t.closeSocket remote).2 := by
  have found := t.spared_lookup remote
  unfold closeSocket
  split
  · rename_i eq
    rw [eq] at found
    exact found
  · rename_i eq
    rw [eq] at found
    refine found.trans (Spared.trans ?_ (spared_updateConnection _ _ _))
    exact spared_of_pool rfl rfl

theorem spared_setTimer (t : Transport Handler) (due : Instant) (handler : Handler) :
    t.Spared (t.setTimer due handler).2 := by
  unfold setTimer
  split
  · exact .refl t
  · refine Spared.trans ?_ (spared_updateReactor _ _ (fun _ _ => rfl))
    exact spared_of_pool rfl rfl

theorem requestIds_teardown (t : Transport Handler) (ref : ConnectionRef) (c : Connection Handler)
    (reason : ErrorCode) : (t.teardown ref c reason).2.requestIds = t.requestIds := by
  unfold teardown
  split <;> rfl

/-- The id that a request gets which is sent next. -/
def nextId (t : Transport Handler) : Option Handler → UInt32
  | none => 0
  | some _ => t.requestIds.take.1

/-- What a sending can come to: the request reaches no connection, it goes out without being
recorded, it goes out and is pending from then on, or it is taken back. -/
inductive Sends (t : Transport Handler) (handler : Option Handler) (sent : Sent Handler UInt32) :
    Prop where
  | refused (nowhere : sent.ref = none)
    (spared : ∀ index, sent.transport.requestsOf index = t.requestsOf index)
  | unrecorded {ref : ConnectionRef} (reached : sent.ref = some ref) (nobody : handler = none)
    (spared : ∀ index, sent.transport.requestsOf index = t.requestsOf index)
  | kept {ref : ConnectionRef} {request : PendingRequest Handler} (reached : sent.ref = some ref)
    (whom : handler = some request.handler) (id : request.id = t.nextId handler)
    (outcome : sent.outcome = .ok request.id)
    (own : sent.transport.requestsOf ref.reactor = (t.requestsOf ref.reactor).insert request)
    (others : ∀ index, index ≠ ref.reactor →
      sent.transport.requestsOf index = t.requestsOf index)
  | withdrawn {ref : ConnectionRef} {request : PendingRequest Handler} {code : ErrorCode}
    (reached : sent.ref = some ref)
    (whom : handler = some request.handler) (id : request.id = t.nextId handler)
    (outcome : sent.outcome = .error code)
    (own : sent.transport.requestsOf ref.reactor =
      (((t.requestsOf ref.reactor).insert request).remove request.id).2)
    (others : ∀ index, index ≠ ref.reactor →
      sent.transport.requestsOf index = t.requestsOf index)

theorem requestsOf_addRequest {t : Transport Handler} {index : Nat} {r : Reactor Handler}
    (found : t.pool.reactor? index = some r) (request : PendingRequest Handler) :
    (t.updateReactor index (fun r => r.addRequest request)).requestsOf index =
      (t.requestsOf index).insert request := by
  rw [requestsOf_updateReactor found, requestsOf_eq found]
  rfl

theorem requestsOf_removeRequest (t : Transport Handler) (index : Nat) (id : UInt32) :
    (t.updateReactor index (fun r => (r.removeRequest id).2)).requestsOf index =
      ((t.requestsOf index).remove id).2 := by
  cases found : t.pool.reactor? index with
  | none =>
    have nothing : ((.empty : RequestTable Handler).remove id).2 = .empty := by
      simp only [RequestTable.remove, RequestTable.empty, Std.TreeMap.getElem?_emptyc]
    rw [requestsOf_updateReactor_of_absent found, requestsOf_of_absent found, nothing]
  | some r =>
    rw [requestsOf_updateReactor found, requestsOf_eq found]
    rfl

theorem sends_of_sendRequest (t : Transport Handler) (now : Instant) (remote : Endpoint)
    (draft : Draft) (handler : Option Handler) (answers : List WriteAnswer) :
    t.Sends handler (t.sendRequest now remote draft handler answers) := by
  have found := t.spared_lookup remote
  unfold sendRequest
  split
  · rename_i code after eq
    rw [eq] at found
    exact .refused rfl found.requests
  · rename_i ref c after eq
    obtain ⟨r, there⟩ := exists_reactor (connection?_of_lookup eq)
    rw [eq] at found
    cases handler with
    | none =>
      dsimp only
      split
      · exact .refused rfl found.requests
      · rename_i chunks framed
        have spared := found.trans (spared_sendChunks after ref c chunks answers)
        split
        · exact .unrecorded rfl rfl spared.requests
        · exact .unrecorded rfl rfl spared.requests
    | some handler =>
      have next : t.nextId (some handler) = after.requestIds.take.1 := by rw [nextId, found.ids]
      let request : PendingRequest Handler := ⟨after.requestIds.take.1, c.id, remote, handler,
        c.expiryAt now draft.header.timeoutMs⟩
      let drawn : Transport Handler := { after with requestIds := after.requestIds.take.2 }
      let added := drawn.updateReactor ref.reactor (fun r => r.addRequest request)
      have before (index : Nat) : drawn.requestsOf index = t.requestsOf index :=
        found.requests index
      have inside : added.requestsOf ref.reactor = (t.requestsOf ref.reactor).insert request := by
        rw [← before]
        exact requestsOf_addRequest there request
      have outside (index : Nat) (apart : index ≠ ref.reactor) :
          added.requestsOf index = t.requestsOf index :=
        (requestsOf_updateReactor_of_ne drawn apart.symm _).trans (before index)
      dsimp only
      split
      · exact .refused rfl found.requests
      · rename_i chunks framed
        have spared := spared_sendChunks added ref c chunks answers
        split
        · refine @Sends.kept _ _ _ _ ref request rfl rfl next.symm rfl ?_ ?_
          · exact (spared.requests _).trans inside
          · intro index apart
            exact (spared.requests index).trans (outside index apart)
        · rw [if_neg (IdAllocator.take_ne_zero _)]
          refine @Sends.withdrawn _ _ _ _ ref request _ rfl rfl next.symm rfl ?_ ?_
          · refine (requestsOf_removeRequest _ _ _).trans ?_
            rw [spared.requests, inside]
          · intro index apart
            refine (requestsOf_updateReactor_of_ne _ apart.symm _).trans ?_
            exact (spared.requests index).trans (outside index apart)

end Transport

end MessageTransport
