import MessageTransport.Proofs.Transport.Holdings
import MessageTransport.Proofs.Transport.Numbering

set_option autoImplicit false

namespace MessageTransport

variable {Handler : Type}

namespace Transport

/-- Whether a reactor takes in connections. -/
def accepts (t : Transport Handler) (index : Nat) : Bool :=
  (t.pool.reactor? index).any (fun r => r.running)

/-- What comes of an attempt to admit a connection. One that the reactor does not take in has been
there for a moment, in place of any with its id. -/
inductive Attempt (t : Transport Handler) (index : Nat) (c : Connection Handler) :
    Except ErrorCode ConnectionRef × Transport Handler → Prop where
  | taken {next : Transport Handler} {ref : ConnectionRef} (held : t.registered? c.remote = some ref)
      (alike : t.Alike next) : Attempt t index c (.error .alreadyConnected, next)
  | refused {next : Transport Handler} (vacant : t.registered? c.remote = none)
      (halted : t.accepts index = false)
      (alike : t.connection? ⟨index, c.id⟩ = none → t.Alike next) :
      Attempt t index c (.error .shutdown, next)
  | admitted {next : Transport Handler} (vacant : t.registered? c.remote = none)
      (accepts : t.accepts index = true) (gains : t.Gains next ⟨index, c.id⟩ c) :
      Attempt t index c (.ok ⟨index, c.id⟩, next)

theorem Attempt.after {t drawn : Transport Handler} (alike : t.Alike drawn)
    (reactors : drawn.pool.reactors = t.pool.reactors) {index : Nat} {c : Connection Handler}
    {outcome : Except ErrorCode ConnectionRef × Transport Handler}
    (attempt : drawn.Attempt index c outcome) : t.Attempt index c outcome := by
  have same : drawn.accepts index = t.accepts index := by
    rw [accepts, ReactorPool.reactor?, reactors]
    rfl
  cases attempt with
  | taken held next => exact .taken ((alike.entries _).symm.trans held) (alike.trans next)
  | refused vacant halted next =>
    refine .refused ((alike.entries _).symm.trans vacant) (same.symm.trans halted) ?_
    intro unused
    exact alike.trans (next ((alike.connections _).trans unused))
  | admitted vacant accepts gains =>
    exact .admitted ((alike.entries _).symm.trans vacant) (same.symm.trans accepts)
      (gains.after alike)

theorem Tidy.insert_held {t : Transport Handler} (tidy : t.Tidy) {remote : Endpoint}
    {ref : ConnectionRef} (held : t.registered? remote = some ref) (other : ConnectionRef) :
    t.registry.insert t.isLive remote other = (false, t.registry) := by
  have live : ((t.registry.entries[remote]?).any t.isLive) = true := by
    rw [show t.registry.entries[remote]? = some ref from held]
    exact tidy.live held
  rw [Registry.insert, if_pos live]

theorem insert_vacant {t : Transport Handler} {remote : Endpoint}
    (vacant : t.registered? remote = none) (ref : ConnectionRef) :
    t.registry.insert t.isLive remote ref = (true, ⟨t.registry.entries.insert remote ref⟩) := by
  have dead : ¬((t.registry.entries[remote]?).any t.isLive) = true := by
    rw [show t.registry.entries[remote]? = none from vacant]
    exact Bool.false_ne_true
  rw [Registry.insert, if_neg dead]

/-- A transport where a connection has been registered and put under its reactor. -/
def placed (t : Transport Handler) (index : Nat) (c : Connection Handler) : Transport Handler :=
  { t with registry := ⟨t.registry.entries.insert c.remote ⟨index, c.id⟩⟩ }.updateReactor index
    (fun r => r.adopt c)

theorem registered?_placed (t : Transport Handler) (index : Nat) (c : Connection Handler)
    (remote : Endpoint) : (t.placed index c).registered? remote =
      if c.remote = remote then some ⟨index, c.id⟩ else t.registered? remote :=
  getElem?_inserted t.registry.entries c.remote remote ⟨index, c.id⟩

theorem connection?_placed (t : Transport Handler) (index : Nat) (c : Connection Handler)
    (ref : ConnectionRef) : (t.placed index c).connection? ref = if ⟨index, c.id⟩ = ref
      then (t.pool.reactor? index).map (fun _ => c) else t.connection? ref := by
  have adopted := connection?_updateReactor_at
    { t with registry := ⟨t.registry.entries.insert c.remote ⟨index, c.id⟩⟩ } index c.id (some c)
    (f := fun r => r.adopt c) (fun r _ => r.connection?_adopt c) ref
  rw [placed, adopted, Option.map_eq_bind]
  rfl

theorem steady_placed (t : Transport Handler) (index : Nat) (c : Connection Handler) :
    t.Steady (t.placed index c) := by
  have steady := steady_updateReactor
    { t with registry := ⟨t.registry.entries.insert c.remote ⟨index, c.id⟩⟩ } index
    (f := fun r => r.adopt c) (fun _ _ => rfl)
  exact ⟨steady.underway, steady.indexed⟩

theorem gains_placed {t : Transport Handler} {index : Nat} {r : Reactor Handler}
    (found : t.pool.reactor? index = some r) (c : Connection Handler) :
    t.Gains (t.placed index c) ⟨index, c.id⟩ c := by
  refine ⟨t.steady_placed index c, t.registered?_placed index c, ?_⟩
  intro ref
  rw [connection?_placed, found]
  rfl

/-- A connection that its reactor does not take in leaves nothing behind. -/
theorem alike_withdrawn {t : Transport Handler} {index : Nat} {c : Connection Handler}
    (vacant : t.registered? c.remote = none) (unused : t.connection? ⟨index, c.id⟩ = none) :
    t.Alike (((t.placed index c).updateReactor index (fun r => r.forget c.id)).unregister
      c.remote ⟨index, c.id⟩) := by
  have steady := (t.steady_placed index c).trans
    ((t.placed index c).steady_updateReactor index (f := fun r => r.forget c.id) (fun _ _ => rfl))
  refine ⟨⟨steady.underway, steady.indexed⟩, ?_, ?_⟩
  · intro remote
    rw [registered?_unregister]
    show (if c.remote = remote ∧ (t.placed index c).registered? c.remote = some ⟨index, c.id⟩
      then none else (t.placed index c).registered? remote) = t.registered? remote
    rw [registered?_placed, registered?_placed, if_pos rfl]
    by_cases here : c.remote = remote
    · subst here
      rw [if_pos ⟨rfl, rfl⟩, vacant]
    · rw [if_neg (fun both => here both.1), if_neg here]
  · intro ref
    have forgotten := (t.placed index c).connection?_updateReactor_at index c.id none
      (f := fun r => r.forget c.id) (fun r _ => r.connection?_forget c.id) ref
    refine forgotten.trans ?_
    rw [Option.bind_fun_none, connection?_placed]
    by_cases here : ⟨index, c.id⟩ = ref
    · subst here
      rw [if_pos rfl, unused]
    · rw [if_neg here, if_neg here]

theorem Tidy.install {t : Transport Handler} (tidy : t.Tidy) (index : Nat)
    (c : Connection Handler) : t.Attempt index c (t.install index c) := by
  cases held : t.registered? c.remote with
  | some ref =>
    simp only [Transport.install, tidy.insert_held held, Bool.false_eq_true, ↓reduceIte]
    exact .taken held (.refl t)
  | none =>
    cases takes : t.accepts index with
    | true =>
      have running : (t.pool.reactor? index).any (fun r => r.running) = true := takes
      have gains : t.Gains (t.placed index c) ⟨index, c.id⟩ c := by
        cases found : t.pool.reactor? index with
        | none =>
          rw [found] at running
          cases running
        | some r => exact gains_placed found c
      simp only [Transport.install, insert_vacant held, ↓reduceIte, running]
      exact .admitted held takes (gains.before (alike_updateReactor _ _ (fun _ _ => rfl)
        (fun _ _ => rfl)))
    | false =>
      have halted : (t.pool.reactor? index).any (fun r => r.running) = false := takes
      simp only [Transport.install, insert_vacant held, ↓reduceIte, halted, Bool.false_eq_true]
      exact .refused held takes (alike_withdrawn held)

theorem Tidy.connect {t : Transport Handler} (tidy : t.Tidy) (remote : Endpoint) (timeoutMs : Nat)
    (handler : Handler) :
    t.Attempt t.pool.takeNext.1
      (t.newConnection t.connIds.take.1 remote handler timeoutMs none)
      (t.connect remote timeoutMs handler) := by
  let drawn : Transport Handler :=
    { t with pool := t.pool.takeNext.2, connIds := t.connIds.take.2 }
  have draws : t.Alike drawn := alike_of_pool rfl rfl rfl
  have installed := (tidy.alike draws).install t.pool.takeNext.1
    (t.newConnection t.connIds.take.1 remote handler timeoutMs none)
  cases held : t.registered? remote with
  | some ref =>
    have known : t.registry.contains t.isLive remote = (true, t.registry) := by
      rw [Registry.contains, tidy.get_held held]
      rfl
    simp only [Transport.connect, if_neg tidy.running, known, ↓reduceIte]
    exact .taken held (.refl t)
  | none =>
    have unknown : t.registry.contains t.isLive remote = (false, t.registry) := by
      rw [Registry.contains, get_vacant held]
      rfl
    simp only [Transport.connect, if_neg tidy.running, unknown, Bool.false_eq_true, ↓reduceIte]
    exact installed.after draws rfl

theorem Tidy.accept {t : Transport Handler} (tidy : t.Tidy) (index : Nat) (remote : Endpoint)
    (socket : Nat) (handler : Handler) :
    t.Attempt index (t.newConnection t.connIds.take.1 remote handler
      t.config.requestTimeout.toMillis (some socket)) (t.accept index remote socket handler) := by
  have draws : t.Alike { t with connIds := t.connIds.take.2 } := alike_of_pool rfl rfl rfl
  exact ((tidy.alike draws).install index _).after draws rfl

/-- The id that is drawn next is not that of a connection which the reactor owns. -/
def Fresh (t : Transport Handler) (index : Nat) : Prop :=
  t.connection? ⟨index, t.connIds.take.1⟩ = none

/-- So many ids have been drawn for connections, and the connections there are have some of them. -/
structure Issued (t : Transport Handler) (drawn : Nat) : Prop where
  next : t.connIds.next = UInt32.ofNat (drawn + 1)
  bounded : ∀ ref c, t.connection? ref = some c → ref.connId.toNat ≤ drawn

theorem Issued.take {t : Transport Handler} {drawn : Nat} (issued : t.Issued drawn)
    (few : drawn + 1 < UInt32.size) :
    t.connIds.take = (UInt32.ofNat (drawn + 1), ⟨UInt32.ofNat (drawn + 2)⟩) :=
  IdAllocator.take_below few (Nat.succ_pos drawn) issued.next

/-- Ids are not drawn again before all of them have been drawn. -/
theorem Issued.fresh {t : Transport Handler} {drawn : Nat} (issued : t.Issued drawn)
    (few : drawn + 1 < UInt32.size) (index : Nat) : t.Fresh index := by
  have number : t.connIds.take.1.toNat = drawn + 1 := by
    rw [issued.take few, UInt32.toNat_ofNat', Nat.mod_eq_of_lt few]
  cases owned : t.connection? ⟨index, t.connIds.take.1⟩ with
  | none => exact owned
  | some c =>
    have bound := issued.bounded _ c owned
    rw [number] at bound
    omega

theorem Issued.moves {t next : Transport Handler} {drawn : Nat} (issued : t.Issued drawn)
    {released : List ConnectionRef} (moves : t.Moves next released) : next.Issued drawn := by
  refine ⟨moves.ids ▸ issued.next, ?_⟩
  intro ref c' owned
  cases before : t.connection? ref with
  | none =>
    rw [moves.absent ref before] at owned
    cases owned
  | some c => exact issued.bounded ref c before

theorem Issued.loses {t next : Transport Handler} {drawn : Nat} (issued : t.Issued drawn)
    {ref : ConnectionRef} (loses : t.Loses next ref) : next.Issued drawn := by
  refine ⟨loses.ids ▸ issued.next, ?_⟩
  intro other c owned
  rw [loses.connections] at owned
  split at owned
  · cases owned
  · exact issued.bounded other c owned

theorem connIds_install (t : Transport Handler) (index : Nat) (c : Connection Handler) :
    (t.install index c).2.connIds = t.connIds := by
  unfold install
  dsimp only
  split
  · split <;> rfl
  · rfl

/-- An attempt to connect draws an id if nothing is registered for the endpoint. -/
theorem Tidy.connIds_connect {t : Transport Handler} (tidy : t.Tidy) (remote : Endpoint)
    (timeoutMs : Nat) (handler : Handler) :
    (t.connect remote timeoutMs handler).2.connIds =
      if (t.registered? remote).isSome then t.connIds else t.connIds.take.2 := by
  cases held : t.registered? remote with
  | some ref =>
    simp only [Transport.connect, if_neg tidy.running, Registry.contains, tidy.get_held held,
      Option.isSome_some, ↓reduceIte]
  | none =>
    simp only [Transport.connect, if_neg tidy.running, Registry.contains, get_vacant held,
      Option.isSome_none, Bool.false_eq_true, ↓reduceIte]
    exact connIds_install ..

theorem Issued.attempt {t : Transport Handler} {drawn : Nat} (issued : t.Issued drawn)
    (few : drawn + 1 < UInt32.size) {index : Nat} {c : Connection Handler}
    (id : c.id = t.connIds.take.1) {outcome : Except ErrorCode ConnectionRef × Transport Handler}
    (attempt : t.Attempt index c outcome)
    (ids : outcome.2.connIds = t.connIds.take.2 ∨
      outcome.2.connIds = t.connIds ∧ t.registered? c.remote ≠ none) :
    ∃ more ≤ drawn + 1, outcome.2.Issued more := by
  have taken := issued.take few
  have number : c.id.toNat = drawn + 1 := by
    rw [id, taken, UInt32.toNat_ofNat', Nat.mod_eq_of_lt few]
  have unused : t.connection? ⟨index, c.id⟩ = none := id ▸ issued.fresh few index
  have alike {next : Transport Handler} (alike : t.Alike next)
      (ids : next.connIds = t.connIds.take.2 ∨ next.connIds = t.connIds) :
      ∃ more ≤ drawn + 1, next.Issued more := by
    have bounded (ref : ConnectionRef) (c' : Connection Handler)
        (owned : next.connection? ref = some c') : ref.connId.toNat ≤ drawn :=
      issued.bounded ref c' ((alike.connections ref).symm.trans owned)
    rcases ids with drew | kept
    · refine ⟨drawn + 1, Nat.le_refl _, by rw [drew, taken], ?_⟩
      intro ref c' owned
      exact Nat.le_succ_of_le (bounded ref c' owned)
    · exact ⟨drawn, Nat.le_succ drawn, kept ▸ issued.next, bounded⟩
  cases attempt with
  | taken held next => exact alike next (ids.imp_right And.left)
  | refused vacant halted next => exact alike (next unused) (ids.imp_right And.left)
  | admitted vacant accepts gains =>
    rcases ids with drew | ⟨-, held⟩
    · refine ⟨drawn + 1, Nat.le_refl _, by rw [drew, taken], ?_⟩
      intro ref c' owned
      rw [gains.connections] at owned
      split at owned
      · rename_i here
        rw [← here]
        exact Nat.le_of_eq number
      · exact Nat.le_succ_of_le (issued.bounded ref c' owned)
    · exact absurd vacant held

end Transport

end MessageTransport
