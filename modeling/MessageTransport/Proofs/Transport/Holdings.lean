import MessageTransport.Proofs.Registry
import MessageTransport.Proofs.Transport.Reactors

set_option autoImplicit false

namespace MessageTransport

variable {Handler : Type}

namespace Connection

/-- What a connection remains as long as a reactor owns it: itself, and not closed. -/
structure Stays (c next : Connection Handler) : Prop where
  identity : next.identity = c.identity
  state : c.state ≠ .closed → next.state ≠ .closed

theorem Stays.refl (c : Connection Handler) : c.Stays c := ⟨rfl, fun state => state⟩

theorem Stays.trans {a b c : Connection Handler} (first : a.Stays b) (second : b.Stays c) :
    a.Stays c :=
  ⟨second.identity.trans first.identity, fun state => second.state (first.state state)⟩

theorem stays_close (c : Connection Handler) (reason : ErrorCode) : c.Stays (c.close reason) := by
  refine ⟨c.identity_close reason, ?_⟩
  unfold close
  split
  · exact fun state => state
  · exact fun state => state

theorem stays_send (c : Connection Handler) (chunks : List Bytes) (answers : List WriteAnswer) :
    c.Stays (c.send chunks answers).connection := by
  have enqueued : c.Stays (c.enqueue chunks answers).connection :=
    ⟨c.identity_enqueue chunks answers, fun state => by rwa [c.state_enqueue chunks answers]⟩
  unfold send
  dsimp only
  split
  · exact enqueued
  · rename_i next _
    cases next with
    | giveUp => exact enqueued.trans (stays_close _ .brokenConnection)
    | _ => exact ⟨enqueued.identity, enqueued.state⟩

theorem stays_markConnected (c : Connection Handler) (socket : Nat)
    (localAddress : Option Endpoint) : c.Stays (c.markConnected socket localAddress) := by
  refine ⟨rfl, ?_⟩
  intro state closed
  unfold markConnected at closed
  dsimp only at closed
  split at closed
  · cases closed
  · exact state closed

end Connection

theorem ConnectionRef.mk_eq_iff (index : Nat) (id : UInt32) (ref : ConnectionRef) :
    ConnectionRef.mk index id = ref ↔ index = ref.reactor ∧ id = ref.connId := by
  cases ref
  exact iff_of_eq (ConnectionRef.mk.injEq ..)

namespace Transport

/-- The connection that is registered for an endpoint. -/
def registered? (t : Transport Handler) (remote : Endpoint) : Option ConnectionRef :=
  t.registry.entries[remote]?

/-- The registry and the reactors of a transport in use agree. -/
structure Tidy (t : Transport Handler) : Prop where
  underway : t.isShutDown = false
  indexed : ∀ index r, t.pool.reactor? index = some r → r.index = index
  owned : ∀ ref c, t.connection? ref = some c → c.id = ref.connId ∧ c.state ≠ .closed
  registered : ∀ remote ref, t.registered? remote = some ref →
    ∃ c, t.connection? ref = some c ∧ c.remote = remote

theorem Tidy.running {t : Transport Handler} (tidy : t.Tidy) : ¬t.isShutDown = true := by
  rw [tidy.underway]
  exact Bool.false_ne_true

theorem Tidy.live {t : Transport Handler} (tidy : t.Tidy) {remote : Endpoint} {ref : ConnectionRef}
    (held : t.registered? remote = some ref) : t.isLive ref = true := by
  obtain ⟨c, owned, -⟩ := tidy.registered remote ref held
  rw [isLive, owned]
  rfl

/-- What no operation changes but a shutdown. -/
structure Steady (t next : Transport Handler) : Prop where
  underway : next.isShutDown = t.isShutDown
  indexed : ∀ index r, next.pool.reactor? index = some r →
    ∃ before, t.pool.reactor? index = some before ∧ r.index = before.index

/-- The registry and the connections are as they were. -/
structure Alike (t next : Transport Handler) : Prop extends Steady t next where
  entries : ∀ remote, next.registered? remote = t.registered? remote
  connections : ∀ ref, next.connection? ref = t.connection? ref

/-- Some connections are no longer registered, and nothing else is different about the registry. -/
def Frees (t next : Transport Handler) (released : List ConnectionRef) : Prop :=
  ∀ remote ref,
    next.registered? remote = some ref ↔ t.registered? remote = some ref ∧ ref ∉ released

/-- Connections are used, and some of them are released from the registry. None is admitted and none
is lost. -/
structure Moves (t next : Transport Handler) (released : List ConnectionRef) : Prop
    extends Steady t next where
  ids : next.connIds = t.connIds
  frees : t.Frees next released
  kept : ∀ ref c, t.connection? ref = some c → ∃ c', next.connection? ref = some c' ∧ c.Stays c'
  absent : ∀ ref, t.connection? ref = none → next.connection? ref = none

/-- A connection is put under its reactor and registered. -/
structure Gains (t next : Transport Handler) (ref : ConnectionRef) (c : Connection Handler) : Prop
    extends Steady t next where
  entries : ∀ remote,
    next.registered? remote = if c.remote = remote then some ref else t.registered? remote
  connections : ∀ other,
    next.connection? other = if ref = other then some c else t.connection? other

/-- A connection is taken out of its reactor and out of the registry. -/
structure Loses (t next : Transport Handler) (ref : ConnectionRef) : Prop
    extends Steady t next where
  ids : next.connIds = t.connIds
  frees : t.Frees next [ref]
  connections : ∀ other, next.connection? other = if ref = other then none else t.connection? other

theorem Steady.trans {a b c : Transport Handler} (first : a.Steady b) (second : b.Steady c) :
    a.Steady c := by
  refine ⟨second.underway.trans first.underway, ?_⟩
  intro index r found
  obtain ⟨middle, there, same⟩ := second.indexed index r found
  obtain ⟨before, start, also⟩ := first.indexed index middle there
  exact ⟨before, start, same.trans also⟩

theorem Alike.refl (t : Transport Handler) : t.Alike t :=
  ⟨⟨rfl, fun _ r found => ⟨r, found, rfl⟩⟩, fun _ => rfl, fun _ => rfl⟩

theorem Alike.trans {a b c : Transport Handler} (first : a.Alike b) (second : b.Alike c) :
    a.Alike c :=
  ⟨first.toSteady.trans second.toSteady,
    fun remote => (second.entries remote).trans (first.entries remote),
    fun ref => (second.connections ref).trans (first.connections ref)⟩

theorem Alike.moves {t next : Transport Handler} (alike : t.Alike next)
    (ids : next.connIds = t.connIds) : t.Moves next [] := by
  refine ⟨alike.toSteady, ids, ?_, ?_, ?_⟩
  · intro remote ref
    rw [alike.entries]
    exact (and_iff_left List.not_mem_nil).symm
  · intro ref c owned
    exact ⟨c, (alike.connections ref).trans owned, .refl c⟩
  · intro ref absent
    exact (alike.connections ref).trans absent

theorem Moves.trans {a b c : Transport Handler} {first second : List ConnectionRef}
    (begins : a.Moves b first) (ends : b.Moves c second) : a.Moves c (first ++ second) := by
  refine ⟨begins.toSteady.trans ends.toSteady, ends.ids.trans begins.ids, ?_, ?_, ?_⟩
  · intro remote ref
    rw [ends.frees, begins.frees, List.mem_append, not_or, and_assoc]
  · intro ref owner owned
    obtain ⟨middle, there, stays⟩ := begins.kept ref owner owned
    obtain ⟨last, final, also⟩ := ends.kept ref middle there
    exact ⟨last, final, stays.trans also⟩
  · intro ref absent
    exact ends.absent ref (begins.absent ref absent)

/-- What is gained behind some work that touches neither registry nor connections. -/
theorem Gains.after {t drawn next : Transport Handler} (alike : t.Alike drawn) {ref : ConnectionRef}
    {c : Connection Handler} (gains : drawn.Gains next ref c) : t.Gains next ref c := by
  refine ⟨alike.toSteady.trans gains.toSteady, ?_, ?_⟩
  · intro remote
    rw [gains.entries, alike.entries]
  · intro other
    rw [gains.connections, alike.connections]

theorem Gains.before {t next after : Transport Handler} {ref : ConnectionRef}
    {c : Connection Handler} (gains : t.Gains next ref c) (alike : next.Alike after) :
    t.Gains after ref c := by
  refine ⟨gains.toSteady.trans alike.toSteady, ?_, ?_⟩
  · intro remote
    rw [alike.entries, gains.entries]
  · intro other
    rw [alike.connections, gains.connections]

theorem Tidy.numbered {t next : Transport Handler} (tidy : t.Tidy) (steady : t.Steady next)
    {index : Nat} {r : Reactor Handler} (found : next.pool.reactor? index = some r) :
    r.index = index := by
  obtain ⟨before, there, same⟩ := steady.indexed index r found
  exact same.trans (tidy.indexed index before there)

theorem Tidy.moves {t next : Transport Handler} (tidy : t.Tidy) {released : List ConnectionRef}
    (moves : t.Moves next released) : next.Tidy := by
  refine ⟨moves.underway.trans tidy.underway, fun _ _ => tidy.numbered moves.toSteady, ?_, ?_⟩
  · intro ref c' owned
    cases before : t.connection? ref with
    | none =>
      rw [moves.absent ref before] at owned
      cases owned
    | some c =>
      obtain ⟨c'', there, stays⟩ := moves.kept ref c before
      obtain rfl := Option.some.inj (there.symm.trans owned)
      obtain ⟨id, state⟩ := tidy.owned ref c before
      exact ⟨(congrArg Prod.fst stays.identity).trans id, stays.state state⟩
  · intro remote ref held
    obtain ⟨before, -⟩ := (moves.frees remote ref).mp held
    obtain ⟨c, owned, remote⟩ := tidy.registered remote ref before
    obtain ⟨c', there, stays⟩ := moves.kept ref c owned
    exact ⟨c', there, (congrArg (fun who => who.2.1) stays.identity).trans remote⟩

theorem Tidy.alike {t next : Transport Handler} (tidy : t.Tidy) (alike : t.Alike next) :
    next.Tidy := by
  refine ⟨alike.underway.trans tidy.underway, fun _ _ => tidy.numbered alike.toSteady, ?_, ?_⟩
  · intro ref c owned
    exact tidy.owned ref c ((alike.connections ref).symm.trans owned)
  · intro remote ref held
    obtain ⟨c, owned, there⟩ := tidy.registered remote ref ((alike.entries remote).symm.trans held)
    exact ⟨c, (alike.connections ref).trans owned, there⟩

/-- A connection that comes to a reactor must not take the place of another one. -/
theorem Tidy.gains {t next : Transport Handler} (tidy : t.Tidy) {ref : ConnectionRef}
    {c : Connection Handler} (gains : t.Gains next ref c) (unused : t.connection? ref = none)
    (id : c.id = ref.connId) (state : c.state ≠ .closed) : next.Tidy := by
  refine ⟨gains.underway.trans tidy.underway, fun _ _ => tidy.numbered gains.toSteady, ?_, ?_⟩
  · intro other c' owned
    rw [gains.connections] at owned
    by_cases here : ref = other
    · subst here
      rw [if_pos rfl] at owned
      obtain rfl := Option.some.inj owned
      exact ⟨id, state⟩
    · rw [if_neg here] at owned
      exact tidy.owned other c' owned
  · intro remote other held
    rw [gains.entries] at held
    rw [gains.connections]
    by_cases here : c.remote = remote
    · rw [if_pos here] at held
      obtain rfl := Option.some.inj held
      exact ⟨c, if_pos rfl, here⟩
    · rw [if_neg here] at held
      obtain ⟨c', owned, there⟩ := tidy.registered remote other held
      have apart : ref ≠ other := by
        rintro rfl
        rw [unused] at owned
        cases owned
      rw [if_neg apart]
      exact ⟨c', owned, there⟩

theorem Tidy.loses {t next : Transport Handler} (tidy : t.Tidy) {ref : ConnectionRef}
    (loses : t.Loses next ref) : next.Tidy := by
  refine ⟨loses.underway.trans tidy.underway, fun _ _ => tidy.numbered loses.toSteady, ?_, ?_⟩
  · intro other c owned
    rw [loses.connections] at owned
    split at owned
    · cases owned
    · exact tidy.owned other c owned
  · intro remote other held
    obtain ⟨before, apart⟩ := (loses.frees remote other).mp held
    obtain ⟨c, owned, there⟩ := tidy.registered remote other before
    rw [loses.connections, if_neg (fun same => apart (List.mem_singleton.mpr same.symm))]
    exact ⟨c, owned, there⟩

/-- A transport that differs in what neither the registry nor the reactors hold. -/
theorem alike_of_pool {t next : Transport Handler} (underway : next.isShutDown = t.isShutDown)
    (reactors : next.pool.reactors = t.pool.reactors) (registry : next.registry = t.registry) :
    t.Alike next := by
  have same (index : Nat) : next.pool.reactor? index = t.pool.reactor? index := by
    rw [ReactorPool.reactor?, ReactorPool.reactor?, reactors]
  refine ⟨⟨underway, ?_⟩, ?_, ?_⟩
  · intro index r found
    exact ⟨r, (same index).symm.trans found, rfl⟩
  · intro remote
    rw [registered?, registered?, registry]
  · intro ref
    rw [connection?, connection?, same]

theorem steady_updateReactor (t : Transport Handler) (index : Nat)
    {f : Reactor Handler → Reactor Handler}
    (number : ∀ r, t.pool.reactor? index = some r → (f r).index = r.index) :
    t.Steady (t.updateReactor index f) := by
  refine ⟨rfl, ?_⟩
  intro other r found
  rw [updateReactor, ReactorPool.reactor?_update] at found
  obtain ⟨before, there, rfl⟩ := Option.map_eq_some_iff.mp found
  refine ⟨before, there, ?_⟩
  by_cases here : index = other
  · subst here
    rw [if_pos rfl]
    exact number before there
  · rw [if_neg here]

theorem connection?_updateReactor_bind (t : Transport Handler) (index : Nat)
    (f : Reactor Handler → Reactor Handler) (ref : ConnectionRef) :
    (t.updateReactor index f).connection? ref =
      if index = ref.reactor then
        (t.pool.reactor? ref.reactor).bind (fun r => (f r).connection? ref.connId)
      else t.connection? ref := by
  rw [connection?, updateReactor, ReactorPool.reactor?_update]
  by_cases here : index = ref.reactor
  · simp only [here, ↓reduceIte]
    cases t.pool.reactor? ref.reactor <;> rfl
  · simp only [here, ↓reduceIte, Option.map_id']
    rfl

/-- A reactor at work on what it has under one id. -/
theorem connection?_updateReactor_at (t : Transport Handler) (index : Nat) (id : UInt32)
    (owner : Option (Connection Handler)) {f : Reactor Handler → Reactor Handler}
    (one : ∀ r, t.pool.reactor? index = some r → ∀ connId,
      (f r).connection? connId = if id = connId then owner else r.connection? connId)
    (ref : ConnectionRef) :
    (t.updateReactor index f).connection? ref = if ⟨index, id⟩ = ref
      then (t.pool.reactor? index).bind (fun _ => owner) else t.connection? ref := by
  rw [connection?_updateReactor_bind]
  by_cases here : index = ref.reactor
  · subst here
    simp only [ConnectionRef.mk_eq_iff, true_and, ↓reduceIte, connection?]
    cases found : t.pool.reactor? ref.reactor with
    | none => exact (ite_self none).symm
    | some r => exact one r found ref.connId
  · simp only [ConnectionRef.mk_eq_iff, here, false_and, ↓reduceIte]

/-- A reactor at work that does nothing to its connections. -/
theorem alike_updateReactor (t : Transport Handler) (index : Nat)
    {f : Reactor Handler → Reactor Handler}
    (number : ∀ r, t.pool.reactor? index = some r → (f r).index = r.index)
    (same : ∀ r, t.pool.reactor? index = some r → (f r).connections = r.connections) :
    t.Alike (t.updateReactor index f) := by
  refine ⟨t.steady_updateReactor index number, fun _ => rfl, ?_⟩
  intro ref
  rw [connection?_updateReactor_bind]
  by_cases here : index = ref.reactor
  · subst here
    rw [if_pos rfl, connection?]
    cases found : t.pool.reactor? ref.reactor with
    | none => rfl
    | some r =>
      rw [Option.bind_some, Option.bind_some, Reactor.connection?, same r found]
      rfl
  · rw [if_neg here]

/-- A reactor at work that uses its connections. -/
theorem moves_updateReactor (t : Transport Handler) (index : Nat)
    {f : Reactor Handler → Reactor Handler}
    (number : ∀ r, t.pool.reactor? index = some r → (f r).index = r.index)
    (kept : ∀ r, t.pool.reactor? index = some r → ∀ connId c, r.connection? connId = some c →
      ∃ c', (f r).connection? connId = some c' ∧ c.Stays c')
    (absent : ∀ r, t.pool.reactor? index = some r → ∀ connId, r.connection? connId = none →
      (f r).connection? connId = none) :
    t.Moves (t.updateReactor index f) [] := by
  refine ⟨t.steady_updateReactor index number, rfl, ?_, ?_, ?_⟩
  · intro remote ref
    exact (and_iff_left List.not_mem_nil).symm
  · intro ref c owned
    rw [connection?_updateReactor_bind]
    by_cases here : index = ref.reactor
    · subst here
      obtain ⟨r, found, there⟩ := Option.bind_eq_some_iff.mp owned
      rw [if_pos rfl, found]
      exact kept r found ref.connId c there
    · rw [if_neg here]
      exact ⟨c, owned, .refl c⟩
  · intro ref nowhere
    rw [connection?_updateReactor_bind]
    by_cases here : index = ref.reactor
    · subst here
      rw [if_pos rfl]
      cases found : t.pool.reactor? ref.reactor with
      | none => rfl
      | some r =>
        rw [connection?, found] at nowhere
        exact absent r found ref.connId nowhere
    · rw [if_neg here]
      exact nowhere

theorem moves_updateConnection (t : Transport Handler) (ref : ConnectionRef)
    {f : Connection Handler → Connection Handler}
    (stays : ∀ c, t.connection? ref = some c → c.Stays (f c)) :
    t.Moves (t.updateConnection ref f) [] := by
  apply moves_updateReactor
  · intro r _
    exact r.index_updateConnection ref.connId f
  · intro r found connId c owned
    rw [Reactor.connection?_updateConnection]
    by_cases here : ref.connId = connId
    · subst here
      rw [if_pos rfl, owned]
      refine ⟨f c, rfl, stays c ?_⟩
      rw [connection?, found]
      exact owned
    · rw [if_neg here]
      exact ⟨c, owned, .refl c⟩
  · intro r found connId nowhere
    rw [Reactor.connection?_updateConnection, nowhere]
    split <;> rfl

theorem registered?_unregister (t : Transport Handler) (remote other : Endpoint)
    (ref : ConnectionRef) : (t.unregister remote ref).registered? other =
      if remote = other ∧ t.registered? remote = some ref then none else t.registered? other :=
  t.registry.entries_removeHandle remote other ref

/-- A connection that is taken out of the registry is not registered for another endpoint. -/
theorem Tidy.frees_unregister {t : Transport Handler} (tidy : t.Tidy) {ref : ConnectionRef}
    {c : Connection Handler} (owned : t.connection? ref = some c) :
    t.Frees (t.unregister c.remote ref) [ref] := by
  intro remote other
  rw [registered?_unregister, List.mem_singleton]
  by_cases taken : c.remote = remote ∧ t.registered? c.remote = some ref
  · obtain ⟨rfl, held⟩ := taken
    rw [if_pos ⟨rfl, held⟩]
    refine ⟨nofun, ?_⟩
    rintro ⟨also, apart⟩
    exact absurd (Option.some.inj (also.symm.trans held)) apart
  · rw [if_neg taken]
    refine ⟨fun held => ⟨held, ?_⟩, And.left⟩
    rintro rfl
    obtain ⟨c', there, remote⟩ := tidy.registered remote other held
    obtain rfl := Option.some.inj (owned.symm.trans there)
    exact taken ⟨remote, remote ▸ held⟩

theorem Tidy.unregister {t : Transport Handler} (tidy : t.Tidy) {ref : ConnectionRef}
    {c : Connection Handler} (owned : t.connection? ref = some c) :
    t.Moves (t.unregister c.remote ref) [ref] :=
  ⟨⟨rfl, fun _ r found => ⟨r, found, rfl⟩⟩, rfl, tidy.frees_unregister owned,
    fun _ c' there => ⟨c', there, .refl c'⟩, fun _ absent => absent⟩

theorem get_vacant {t : Transport Handler} {remote : Endpoint}
    (vacant : t.registered? remote = none) : t.registry.get t.isLive remote = (none, t.registry) := by
  unfold Registry.get
  rw [show t.registry.entries[remote]? = none from vacant]

theorem Tidy.get_held {t : Transport Handler} (tidy : t.Tidy) {remote : Endpoint}
    {ref : ConnectionRef} (held : t.registered? remote = some ref) :
    t.registry.get t.isLive remote = (some ref, t.registry) := by
  unfold Registry.get
  rw [show t.registry.entries[remote]? = some ref from held]
  exact if_pos (tidy.live held)

/-- Nothing is found for an endpoint for which nothing is registered. -/
theorem Tidy.lookup_vacant {t : Transport Handler} (tidy : t.Tidy) {remote : Endpoint}
    (vacant : t.registered? remote = none) : t.lookup remote = (.error .notConnected, t) := by
  simp only [lookup, if_neg tidy.running, get_vacant vacant, Option.bind_none]

/-- What is registered for an endpoint is found there. -/
theorem Tidy.lookup_held {t : Transport Handler} (tidy : t.Tidy) {remote : Endpoint}
    {ref : ConnectionRef} (held : t.registered? remote = some ref) :
    ∃ c, t.connection? ref = some c ∧ c.remote = remote ∧
      t.lookup remote = (.ok (ref, c), t) := by
  obtain ⟨c, owned, there⟩ := tidy.registered remote ref held
  refine ⟨c, owned, there, ?_⟩
  simp only [lookup, if_neg tidy.running, tidy.get_held held, owned, Option.bind_some,
    Option.map_some, if_neg (tidy.owned ref c owned).2]

/-- The connection that a send had to give up. -/
def Sent.dropped {α : Type} (sent : Sent Handler α) : List ConnectionRef :=
  match sent.outcome with
  | .ok _ => []
  | .error _ => sent.ref.toList

theorem Tidy.sendChunks {t : Transport Handler} (tidy : t.Tidy) {ref : ConnectionRef}
    {c : Connection Handler} (owned : t.connection? ref = some c) (chunks : List Bytes)
    (answers : List WriteAnswer) :
    t.Moves (t.sendChunks ref c chunks answers).transport
      (t.sendChunks ref c chunks answers).dropped := by
  have sent := t.moves_updateConnection ref (f := fun _ => (c.send chunks answers).connection) (by
    intro other there
    obtain rfl := Option.some.inj (owned.symm.trans there)
    exact c.stays_send chunks answers)
  cases outcome : (c.send chunks answers).outcome with
  | ok _ =>
    simp only [Transport.sendChunks, Sent.dropped, outcome]
    exact sent
  | error code =>
    obtain ⟨c', there, stays⟩ := sent.kept ref c owned
    have remote : c'.remote = c.remote := congrArg (fun who => who.2.1) stays.identity
    have released := sent.trans ((tidy.moves sent).unregister there)
    rw [remote] at released
    simp only [Transport.sendChunks, Sent.dropped, outcome]
    exact released

theorem Tidy.sendResponse {t : Transport Handler} (tidy : t.Tidy) (remote : Endpoint)
    (draft : Draft) (answers : List WriteAnswer) :
    t.Moves (t.sendResponse remote draft answers).transport
      (t.sendResponse remote draft answers).dropped := by
  cases held : t.registered? remote with
  | none =>
    simp only [Transport.sendResponse, tidy.lookup_vacant held, Sent.dropped]
    exact (alike_of_pool rfl rfl rfl).moves rfl
  | some ref =>
    obtain ⟨c, owned, -, found⟩ := tidy.lookup_held held
    cases framed : (asResponse draft).chunks with
    | error code =>
      simp only [Transport.sendResponse, found, framed, Sent.dropped]
      exact (alike_of_pool rfl rfl rfl).moves rfl
    | ok chunks =>
      simp only [Transport.sendResponse, found, framed]
      exact tidy.sendChunks owned chunks answers

theorem dropped_of_ok {t : Transport Handler} {ref : ConnectionRef} {c : Connection Handler}
    {chunks : List Bytes} {answers : List WriteAnswer}
    (sent : (t.sendChunks ref c chunks answers).outcome = .ok ()) :
    (t.sendChunks ref c chunks answers).dropped = [] := by
  rw [Sent.dropped, sent]

theorem dropped_of_error {t : Transport Handler} {ref : ConnectionRef} {c : Connection Handler}
    {chunks : List Bytes} {answers : List WriteAnswer} {code : ErrorCode}
    (failed : (t.sendChunks ref c chunks answers).outcome = .error code) :
    (t.sendChunks ref c chunks answers).dropped = [ref] := by
  have used : (t.sendChunks ref c chunks answers).ref = some ref := by
    unfold Transport.sendChunks
    dsimp only
    split <;> rfl
  rw [Sent.dropped, failed, used]
  rfl

theorem Tidy.sendRequest {t : Transport Handler} (tidy : t.Tidy) (now : Instant) (remote : Endpoint)
    (draft : Draft) (handler : Option Handler) (answers : List WriteAnswer) :
    t.Moves (t.sendRequest now remote draft handler answers).transport
      (t.sendRequest now remote draft handler answers).dropped := by
  cases held : t.registered? remote with
  | none =>
    simp only [Transport.sendRequest, tidy.lookup_vacant held, Sent.dropped]
    exact (alike_of_pool rfl rfl rfl).moves rfl
  | some ref =>
    obtain ⟨c, owned, -, found⟩ := tidy.lookup_held held
    cases handler with
    | none =>
      cases framed : (asRequest draft 0 false).chunks with
      | error code =>
        simp only [Transport.sendRequest, found, framed, Option.isSome_none, Sent.dropped]
        exact (alike_of_pool rfl rfl rfl).moves rfl
      | ok chunks =>
        have sent := tidy.sendChunks owned chunks answers
        simp only [Transport.sendRequest, found, framed, Option.isSome_none]
        cases outcome : (t.sendChunks ref c chunks answers).outcome with
        | ok _ =>
          rw [dropped_of_ok outcome] at sent
          simp only [Sent.dropped]
          exact sent
        | error code =>
          rw [dropped_of_error outcome] at sent
          simp only [Sent.dropped, ↓reduceIte, Option.toList_some]
          exact sent
    | some handler =>
      let drawn : Transport Handler := { t with requestIds := t.requestIds.take.2 }
      let request : PendingRequest Handler := ⟨t.requestIds.take.1, c.id, remote, handler,
        c.expiryAt now draft.header.timeoutMs⟩
      let added := drawn.updateReactor ref.reactor (fun r => r.addRequest request)
      have draws : t.Alike drawn := alike_of_pool rfl rfl rfl
      have adds : t.Alike added :=
        draws.trans (drawn.alike_updateReactor _ (fun _ _ => rfl) (fun _ _ => rfl))
      have kept : added.connection? ref = some c := (adds.connections ref).trans owned
      cases framed : (asRequest draft t.requestIds.take.1 true).chunks with
      | error code =>
        simp only [Transport.sendRequest, found, framed, Option.isSome_some, Sent.dropped]
        exact draws.moves rfl
      | ok chunks =>
        have sent := (adds.moves rfl).trans ((tidy.alike adds).sendChunks kept chunks answers)
        simp only [Transport.sendRequest, found, framed, Option.isSome_some]
        cases outcome : (added.sendChunks ref c chunks answers).outcome with
        | ok _ =>
          rw [dropped_of_ok outcome] at sent
          simp only [added, drawn, request] at outcome sent ⊢
          simp only [Sent.dropped]
          exact sent
        | error code =>
          rw [dropped_of_error outcome] at sent
          have withdraws := (added.sendChunks ref c chunks answers).transport.alike_updateReactor
            ref.reactor (f := fun r => (r.removeRequest t.requestIds.take.1).2)
            (fun _ _ => rfl) (fun _ _ => rfl)
          have withdrawn := sent.trans (withdraws.moves rfl)
          simp only [added, drawn, request] at outcome withdrawn ⊢
          simp only [Sent.dropped, IdAllocator.take_ne_zero, ↓reduceIte]
          exact withdrawn

/-- The connection that was registered for an endpoint is closed and released. -/
theorem Tidy.closeSocket {t : Transport Handler} (tidy : t.Tidy) (remote : Endpoint) :
    t.Moves (t.closeSocket remote).2 (t.registered? remote).toList := by
  cases held : t.registered? remote with
  | none =>
    simp only [Transport.closeSocket, tidy.lookup_vacant held]
    exact (Alike.refl t).moves rfl
  | some ref =>
    obtain ⟨c, owned, rfl, found⟩ := tidy.lookup_held held
    have closed := (t.unregister c.remote ref).moves_updateConnection ref
      (f := fun c => c.close .brokenConnection) (fun c _ => c.stays_close .brokenConnection)
    simp only [Transport.closeSocket, found]
    exact (tidy.unregister owned).trans closed

theorem Tidy.lookup {t : Transport Handler} (tidy : t.Tidy) (remote : Endpoint) :
    (t.lookup remote).2 = t := by
  cases held : t.registered? remote with
  | none => rw [tidy.lookup_vacant held]
  | some ref =>
    obtain ⟨c, -, -, found⟩ := tidy.lookup_held held
    rw [found]

theorem Tidy.setTimer {t : Transport Handler} (tidy : t.Tidy) (due : Instant) (handler : Handler) :
    t.Moves (t.setTimer due handler).2 [] := by
  have turn : t.Alike { t with pool := t.pool.takeNext.2 } := alike_of_pool rfl rfl rfl
  have timed := alike_updateReactor { t with pool := t.pool.takeNext.2 } t.pool.takeNext.1
    (f := fun r => r.addTimer due handler) (fun _ _ => rfl) (fun _ _ => rfl)
  simp only [Transport.setTimer, if_neg tidy.running]
  exact (turn.trans timed).moves rfl

theorem alike_takeUp (t : Transport Handler) {index : Nat} {r next : Reactor Handler}
    (found : t.pool.reactor? index = some r) (taken : r.takeUp? = some next) :
    t.Alike (t.updateReactor index (fun _ => next)) := by
  apply t.alike_updateReactor index
  · intro other there
    obtain rfl := Option.some.inj (found.symm.trans there)
    rw [Reactor.eq_of_takeUp? taken]
  · intro other there
    obtain rfl := Option.some.inj (found.symm.trans there)
    rw [Reactor.eq_of_takeUp? taken]

theorem moves_receive (t : Transport Handler) (index : Nat) (c : Connection Handler)
    (answers : List ReadAnswer) :
    t.Moves (t.updateReactor index (fun r => (r.receive c answers).reactor)) [] := by
  have read (r : Reactor Handler) (connId : UInt32) :
      (r.receive c answers).reactor.connection? connId = if c.id = connId
        then (r.connection? connId).map (fun c' =>
          { c' with reader := (c.reader.advance answers).reader })
        else r.connection? connId :=
    (r.connection?_receive c answers connId).trans (r.connection?_updateConnection c.id connId _)
  apply t.moves_updateReactor index
  · intro r _
    exact r.index_receive c answers
  · intro r _ connId c' owned
    rw [read, owned]
    split
    · exact ⟨_, rfl, rfl, fun state => state⟩
    · exact ⟨c', rfl, .refl c'⟩
  · intro r _ connId nowhere
    rw [read, nowhere]
    split <;> rfl

/-- A connection that is taken apart was known to its reactor and to the registry alone. -/
theorem Tidy.teardown {t : Transport Handler} (tidy : t.Tidy) {ref : ConnectionRef}
    {c : Connection Handler} (owned : t.connection? ref = some c) (reason : ErrorCode) :
    t.Loses (t.teardown ref c reason).2 ref := by
  obtain ⟨r, found, there⟩ := Option.bind_eq_some_iff.mp owned
  obtain ⟨id, -⟩ := tidy.owned ref c owned
  have index : r.index = ref.reactor := tidy.indexed ref.reactor r found
  have own : r.refTo c.id = ref := by rw [Reactor.refTo, index, id]
  let left : Transport Handler := { t with registry := (r.detach t.registry c).registry }
  have torn : (t.teardown ref c reason).2 =
      left.updateReactor ref.reactor (fun _ => (r.detach t.registry c).reactor) := by
    rw [Transport.teardown, found]
  have steady := left.steady_updateReactor ref.reactor
    (f := fun _ => (r.detach t.registry c).reactor) (by
      intro other there
      obtain rfl := Option.some.inj (found.symm.trans there)
      rfl)
  rw [torn]
  refine ⟨⟨steady.underway, steady.indexed⟩, rfl, ?_, ?_⟩
  · intro remote other
    refine Iff.trans ?_ (tidy.frees_unregister owned remote other)
    rw [← own]
    rfl
  · intro other
    have gone := left.connection?_updateReactor_at ref.reactor c.id none
      (f := fun _ => (r.detach t.registry c).reactor) (by
        intro other there connId
        obtain rfl := Option.some.inj (found.symm.trans there)
        exact r.connection?_forget c.id connId)
    rw [gone, Option.bind_fun_none, id]
    rfl

end Transport

end MessageTransport
