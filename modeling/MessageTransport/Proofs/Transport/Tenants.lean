import MessageTransport.Proofs.Transport.Admissions

set_option autoImplicit false

namespace MessageTransport

variable {Handler : Type}

/-- What becomes of a connection. -/
inductive Incident where
  | admitted (remote : Endpoint) (ref : ConnectionRef)
  /-- It was not admitted. -/
  | turnedAway (remote : Endpoint)
  /-- It was told to close. -/
  | closed (ref : ConnectionRef)
  /-- It was given up by a send that failed. -/
  | dropped (ref : ConnectionRef)
  | tornDown (ref : ConnectionRef)

namespace Incident

/-- The tenants of an endpoint after an incident, the latest one last. -/
def after (remote : Endpoint) (tenants : List ConnectionRef) : Incident → List ConnectionRef
  | admitted other ref => if other = remote then tenants ++ [ref] else tenants
  | turnedAway _ => tenants
  | closed ref | dropped ref | tornDown ref => tenants.filter (fun tenant => tenant ≠ ref)

/-- What an attempt to admit a connection comes to. -/
def ofAttempt (remote : Endpoint) : Except ErrorCode ConnectionRef → Incident
  | .ok ref => admitted remote ref
  | .error _ => turnedAway remote

/-- What becomes of a connection that is found and closed. -/
def ofLookup : Except ErrorCode (ConnectionRef × Connection Handler) → List Incident
  | .ok (ref, _) => [closed ref]
  | .error _ => []

end Incident

/-- The connections that were admitted for an endpoint and have not been given up since, the latest
one last. -/
def tenants (log : List Incident) (remote : Endpoint) : List ConnectionRef :=
  log.foldl (Incident.after remote) []

theorem tenants_append (log incidents : List Incident) (remote : Endpoint) :
    tenants (log ++ incidents) remote =
      incidents.foldl (Incident.after remote) (tenants log remote) :=
  List.foldl_append

/-- Some connections are given up, and nothing else becomes of any. -/
def Releases (incidents : List Incident) (released : List ConnectionRef) : Prop :=
  ∀ remote held, incidents.foldl (Incident.after remote) held =
    held.filter (fun ref => ref ∉ released)

theorem releases_dropped (released : List ConnectionRef) :
    Releases (released.map .dropped) released := by
  intro remote held
  induction released generalizing held with
  | nil =>
    simp only [List.map_nil, List.foldl_nil, List.not_mem_nil, not_false_eq_true, decide_true,
      List.filter_true]
  | cons ref rest ih =>
    rw [List.map_cons, List.foldl_cons, ih, Incident.after, List.filter_filter]
    apply List.filter_congr
    intro tenant _
    have both : tenant ∉ rest ∧ tenant ≠ ref ↔ tenant ∉ ref :: rest := by
      rw [List.mem_cons, not_or, and_comm]
    rw [← Bool.decide_and]
    exact decide_eq_decide.mpr both

theorem releases_nil : Releases [] [] := releases_dropped []

theorem releases_closed (ref : ConnectionRef) : Releases [.closed ref] [ref] :=
  releases_dropped [ref]

theorem releases_tornDown (ref : ConnectionRef) : Releases [.tornDown ref] [ref] :=
  releases_dropped [ref]

namespace Transport

/-- One step, with what becomes of connections in it. No reactor is given a connection with the id
of one that it owns. -/
inductive Step (t : Transport Handler) : List Incident → Transport Handler → Prop where
  | connect (remote : Endpoint) (timeoutMs : Nat) (handler : Handler)
      (fresh : t.Fresh t.pool.takeNext.1) :
      Step t [.ofAttempt remote (t.connect remote timeoutMs handler).1]
        (t.connect remote timeoutMs handler).2
  | accept (index : Nat) (remote : Endpoint) (socket : Nat) (handler : Handler)
      (fresh : t.Fresh index) :
      Step t [.ofAttempt remote (t.accept index remote socket handler).1]
        (t.accept index remote socket handler).2
  | closeSocket (remote : Endpoint) :
      Step t (Incident.ofLookup (t.lookup remote).1) (t.closeSocket remote).2
  | sendRequest (now : Instant) (remote : Endpoint) (draft : Draft) (handler : Option Handler)
      (answers : List WriteAnswer) :
      Step t ((t.sendRequest now remote draft handler answers).dropped.map .dropped)
        (t.sendRequest now remote draft handler answers).transport
  | sendResponse (remote : Endpoint) (draft : Draft) (answers : List WriteAnswer) :
      Step t ((t.sendResponse remote draft answers).dropped.map .dropped)
        (t.sendResponse remote draft answers).transport
  | teardown {ref : ConnectionRef} {c : Connection Handler} (owned : t.connection? ref = some c)
      (reason : ErrorCode) : Step t [.tornDown ref] (t.teardown ref c reason).2
  | lookup (remote : Endpoint) : Step t [] (t.lookup remote).2
  | setTimer (due : Instant) (handler : Handler) : Step t [] (t.setTimer due handler).2
  | takeUp {index : Nat} {r next : Reactor Handler} (found : t.pool.reactor? index = some r)
      (taken : r.takeUp? = some next) : Step t [] (t.updateReactor index (fun _ => next))
  | establish {ref : ConnectionRef} {c : Connection Handler} (owned : t.connection? ref = some c)
      (socket : Nat) (localAddress : Option Endpoint) :
      Step t [] (t.updateReactor ref.reactor (fun r => (r.establish c socket localAddress).2))
  | receive {ref : ConnectionRef} {c : Connection Handler} (owned : t.connection? ref = some c)
      (answers : List ReadAnswer) :
      Step t [] (t.updateReactor ref.reactor (fun r => (r.receive c answers).reactor))
  | flush (ref : ConnectionRef) (answers : List WriteAnswer) :
      Step t [] (t.updateConnection ref (fun c => (c.flush answers).1))
  | sweep (index : Nat) (now : Instant) :
      Step t [] (t.updateReactor index (fun r => (r.sweep now).2))
  /-- A reactor takes in no more connections. -/
  | halt (index : Nat) : Step t [] (t.updateReactor index (fun r => { r with running := false }))

/-- The transports that steps lead to from the start, each with the log of its run. -/
inductive Reachable (config : Config) (processors : Nat) :
    List Incident → Transport Handler → Prop where
  | start : Reachable config processors [] (start config processors)
  | next {log incidents : List Incident} {t next : Transport Handler}
    (reached : Reachable config processors log t) (step : t.Step incidents next) :
    Reachable config processors (log ++ incidents) next

/-- The registry and the reactors agree, and the tenant of an endpoint is what is registered for
it. -/
structure Housed (t : Transport Handler) (log : List Incident) : Prop extends Tidy t where
  tenants : ∀ remote, tenants log remote = (t.registered? remote).toList

theorem reactor?_start {config : Config} {processors index : Nat} {r : Reactor Handler}
    (found : (start config processors : Transport Handler).pool.reactor? index = some r) :
    r = { index } := by
  obtain ⟨other, there, rfl⟩ := Option.map_eq_some_iff.mp (List.getElem?_map.symm.trans found)
  obtain ⟨-, rfl⟩ := List.getElem?_eq_some_iff.mp there
  rw [List.getElem_range]

theorem unowned_start (config : Config) (processors : Nat) (ref : ConnectionRef) :
    (start config processors : Transport Handler).connection? ref = none := by
  cases found : (start config processors : Transport Handler).pool.reactor? ref.reactor with
  | none => rw [connection?, found, Option.bind_none]
  | some r =>
    rw [connection?, found, Option.bind_some, reactor?_start found]
    exact Std.TreeMap.getElem?_emptyc

theorem tidy_start (config : Config) (processors : Nat) :
    (start config processors : Transport Handler).Tidy := by
  refine ⟨rfl, ?_, ?_, ?_⟩
  · intro index r found
    rw [reactor?_start found]
  · intro ref c owned
    rw [unowned_start] at owned
    cases owned
  · intro remote ref held
    cases Std.TreeMap.getElem?_emptyc.symm.trans held

theorem housed_start (config : Config) (processors : Nat) :
    (start config processors : Transport Handler).Housed [] := by
  refine ⟨tidy_start config processors, ?_⟩
  intro remote
  have nothing : (start config processors : Transport Handler).registered? remote = none :=
    Std.TreeMap.getElem?_emptyc
  rw [nothing]
  rfl

/-- All that a step can do to the registry and to the connections. -/
inductive Change (t : Transport Handler) : List Incident → Transport Handler → Prop where
  | attempt {index : Nat} {c : Connection Handler}
    {outcome : Except ErrorCode ConnectionRef × Transport Handler}
    (attempt : t.Attempt index c outcome) (id : c.id = t.connIds.take.1)
    (fresh : t.Fresh index) (state : c.state ≠ .closed)
    (ids : outcome.2.connIds = t.connIds.take.2 ∨
      outcome.2.connIds = t.connIds ∧ t.registered? c.remote ≠ none) :
    Change t [.ofAttempt c.remote outcome.1] outcome.2
  | moves {incidents : List Incident} {next : Transport Handler} {released : List ConnectionRef}
    (moves : t.Moves next released) (given : Releases incidents released) : Change t incidents next
  | loses {next : Transport Handler} {ref : ConnectionRef} (loses : t.Loses next ref) :
    Change t [.tornDown ref] next

theorem Step.change {t next : Transport Handler} {incidents : List Incident}
    (step : t.Step incidents next) (tidy : t.Tidy) : t.Change incidents next := by
  cases step with
  | connect remote timeoutMs handler fresh =>
    refine .attempt (tidy.connect remote timeoutMs handler) rfl fresh nofun ?_
    rw [tidy.connIds_connect]
    cases held : t.registered? remote with
    | none => exact .inl rfl
    | some ref => exact .inr ⟨rfl, held ▸ nofun⟩
  | accept index remote socket handler fresh =>
    exact .attempt (tidy.accept index remote socket handler) rfl fresh nofun
      (.inl (connIds_install ..))
  | closeSocket remote =>
    have moves := tidy.closeSocket remote
    cases held : t.registered? remote with
    | none =>
      rw [held] at moves
      rw [tidy.lookup_vacant held]
      exact .moves moves releases_nil
    | some ref =>
      obtain ⟨c, -, -, found⟩ := tidy.lookup_held held
      rw [held] at moves
      rw [found]
      exact .moves moves (releases_closed ref)
  | sendRequest now remote draft handler answers =>
    exact .moves (tidy.sendRequest now remote draft handler answers) (releases_dropped _)
  | sendResponse remote draft answers =>
    exact .moves (tidy.sendResponse remote draft answers) (releases_dropped _)
  | teardown owned reason => exact .loses (tidy.teardown owned reason)
  | lookup remote =>
    rw [tidy.lookup remote]
    exact .moves ((Alike.refl t).moves rfl) releases_nil
  | setTimer due handler => exact .moves (tidy.setTimer due handler) releases_nil
  | takeUp found taken => exact .moves ((t.alike_takeUp found taken).moves rfl) releases_nil
  | @establish ref c owned socket localAddress =>
    exact .moves (t.moves_updateConnection ⟨ref.reactor, c.id⟩
      (fun c' _ => c'.stays_markConnected socket localAddress)) releases_nil
  | @receive ref c owned answers =>
    exact .moves (t.moves_receive ref.reactor c answers) releases_nil
  | flush ref answers =>
    exact .moves (t.moves_updateConnection ref (fun _ _ => ⟨rfl, fun state => state⟩))
      releases_nil
  | sweep index now =>
    have swept := t.alike_updateReactor index (f := fun r => (r.sweep now).2) (fun _ _ => rfl)
      (fun _ _ => rfl)
    exact .moves (swept.moves rfl) releases_nil
  | halt index =>
    have halted := t.alike_updateReactor index (f := fun r => { r with running := false })
      (fun _ _ => rfl) (fun _ _ => rfl)
    exact .moves (halted.moves rfl) releases_nil

/-- Connections are given up, and nothing else is different about the registry. -/
theorem Housed.frees {t next : Transport Handler} {log incidents : List Incident}
    (housed : t.Housed log) (tidy : next.Tidy) {released : List ConnectionRef}
    (frees : t.Frees next released) (given : Releases incidents released) :
    next.Housed (log ++ incidents) := by
  refine ⟨tidy, ?_⟩
  intro remote
  have left : next.registered? remote =
      (t.registered? remote).filter (fun ref => ref ∉ released) := by
    ext ref
    rw [frees, Option.filter_eq_some_iff, decide_eq_true_iff]
  rw [tenants_append, given, housed.tenants, left, Option.toList_filter]

theorem Housed.turnedAway {t next : Transport Handler} {log : List Incident}
    (housed : t.Housed log) (alike : t.Alike next) (remote : Endpoint) :
    next.Housed (log ++ [.turnedAway remote]) := by
  refine ⟨housed.toTidy.alike alike, ?_⟩
  intro other
  rw [tenants_append, alike.entries]
  exact housed.tenants other

theorem Housed.gains {t next : Transport Handler} {log : List Incident} (housed : t.Housed log)
    {ref : ConnectionRef} {c : Connection Handler} (tidy : next.Tidy) (gains : t.Gains next ref c)
    (vacant : t.registered? c.remote = none) :
    next.Housed (log ++ [.admitted c.remote ref]) := by
  refine ⟨tidy, ?_⟩
  intro remote
  rw [tenants_append, List.foldl_cons, List.foldl_nil, Incident.after, housed.tenants,
    gains.entries]
  by_cases here : c.remote = remote
  · subst here
    rw [if_pos rfl, if_pos rfl, vacant]
    rfl
  · rw [if_neg here, if_neg here]

/-- Whatever a step does, the tenants of endpoints stay registered, and no others are. -/
theorem Change.housed {t next : Transport Handler} {log incidents : List Incident}
    (change : t.Change incidents next) (housed : t.Housed log) :
    next.Housed (log ++ incidents) := by
  cases change with
  | @attempt index c outcome attempt id fresh state ids =>
    have unused : t.connection? ⟨index, c.id⟩ = none := id ▸ fresh
    cases attempt with
    | taken held alike => exact housed.turnedAway alike c.remote
    | refused vacant halted alike => exact housed.turnedAway (alike unused) c.remote
    | admitted vacant accepts gains =>
      exact housed.gains (housed.toTidy.gains gains unused rfl state) gains vacant
  | moves moves given => exact housed.frees (housed.toTidy.moves moves) moves.frees given
  | loses loses =>
    exact housed.frees (housed.toTidy.loses loses) loses.frees (releases_tornDown _)

theorem Reachable.housed {config : Config} {processors : Nat} {log : List Incident}
    {t : Transport Handler} (reached : Reachable config processors log t) : t.Housed log := by
  induction reached with
  | start => exact housed_start config processors
  | next reached step ih => exact (step.change ih.toTidy).housed ih

theorem Change.issued {t next : Transport Handler} {incidents : List Incident}
    (change : t.Change incidents next) {drawn : Nat} (issued : t.Issued drawn)
    (few : drawn + incidents.length < UInt32.size) :
    ∃ more ≤ drawn + incidents.length, next.Issued more := by
  cases change with
  | attempt attempt id fresh state ids => exact issued.attempt few id attempt ids
  | moves moves given => exact ⟨drawn, Nat.le_add_right .., issued.moves moves⟩
  | loses loses => exact ⟨drawn, Nat.le_add_right .., issued.loses loses⟩

theorem Reachable.issued {config : Config} {processors : Nat} {log : List Incident}
    {t : Transport Handler} (reached : Reachable config processors log t)
    (few : log.length < UInt32.size) : ∃ drawn ≤ log.length, t.Issued drawn := by
  induction reached with
  | start =>
    refine ⟨0, Nat.le_refl 0, rfl, ?_⟩
    intro ref c owned
    rw [unowned_start] at owned
    cases owned
  | @next log incidents t next reached step ih =>
    rw [List.length_append] at few ⊢
    obtain ⟨drawn, bound, issued⟩ := ih (by omega)
    have change := step.change reached.housed.toTidy
    obtain ⟨more, above, issued⟩ := change.issued issued (by omega)
    exact ⟨more, by omega, issued⟩

/-- The guard on new ids holds by itself in a run that is not long enough to use them up. -/
theorem Reachable.fresh {config : Config} {processors : Nat} {log : List Incident}
    {t : Transport Handler} (reached : Reachable config processors log t)
    (few : log.length + 1 < UInt32.size) (index : Nat) : t.Fresh index := by
  obtain ⟨drawn, bound, issued⟩ := reached.issued (by omega)
  exact issued.fresh (by omega) index

/-- What a look-up finds for an endpoint that has these tenants. -/
structure Finds (t : Transport Handler) (remote : Endpoint) (tenants : List ConnectionRef) :
    Prop where
  latest : ∀ ref, (∃ c, (t.lookup remote).1 = .ok (ref, c)) ↔ tenants.getLast? = some ref
  nobody : (t.lookup remote).1 = .error .notConnected ↔ tenants = []
  owned : ∀ ref c, (t.lookup remote).1 = .ok (ref, c) →
    t.connection? ref = some c ∧ c.remote = remote

/-- When an attempt to admit a connection succeeds, and what it leaves behind when it fails. -/
structure Lets (t : Transport Handler) (index : Nat) (remote : Endpoint)
    (outcome : Except ErrorCode ConnectionRef × Transport Handler) : Prop where
  admits : (∃ ref, outcome.1 = .ok ref) ↔
    (t.registered? remote).any t.isLive = false ∧ t.accepts index = true
  fails : t.Fresh index → ∀ code, outcome.1 = .error code →
    (∀ other, (outcome.2.registered? other).filter outcome.2.isLive =
      (t.registered? other).filter t.isLive) ∧
    ∀ ref, outcome.2.connection? ref = t.connection? ref

theorem Housed.finds {t : Transport Handler} {log : List Incident} (housed : t.Housed log)
    (remote : Endpoint) : t.Finds remote (MessageTransport.tenants log remote) := by
  rw [housed.tenants]
  cases held : t.registered? remote with
  | none =>
    have nothing : (t.lookup remote).1 = .error .notConnected := by
      rw [housed.toTidy.lookup_vacant held]
    refine ⟨?_, iff_of_true nothing rfl, ?_⟩
    · intro ref
      refine iff_of_false ?_ (Option.some_ne_none ref).symm
      rintro ⟨c, found⟩
      rw [nothing] at found
      cases found
    · intro ref c found
      rw [nothing] at found
      cases found
  | some ref =>
    obtain ⟨c, owned, there, looked⟩ := housed.toTidy.lookup_held held
    have found : (t.lookup remote).1 = .ok (ref, c) := by rw [looked]
    refine ⟨?_, iff_of_false ?_ (List.cons_ne_nil ref []), ?_⟩
    · intro other
      refine ⟨?_, ?_⟩
      · rintro ⟨c', same⟩
        rw [found] at same
        cases same
        rfl
      · intro same
        cases same
        exact ⟨c, found⟩
    · rw [found]
      nofun
    · intro other c' same
      rw [found] at same
      cases same
      exact ⟨owned, there⟩

theorem Alike.isLive {t next : Transport Handler} (alike : t.Alike next) :
    next.isLive = t.isLive := by
  funext ref
  rw [Transport.isLive, alike.connections, Transport.isLive]

/-- An attempt that fails changes neither what is registered nor what the reactors own. -/
theorem lets_of_alike {t next : Transport Handler} {index : Nat} (remote : Endpoint)
    (code : ErrorCode) (alike : t.Fresh index → t.Alike next)
    (shut : (t.registered? remote).any t.isLive = true ∨ t.accepts index = false) :
    t.Lets index remote (.error code, next) := by
  refine ⟨⟨nofun, ?_⟩, ?_⟩
  · rintro ⟨vacant, accepts⟩
    rcases shut with live | halted
    · rw [live] at vacant
      cases vacant
    · rw [halted] at accepts
      cases accepts
  · intro fresh _ _
    refine ⟨?_, (alike fresh).connections⟩
    intro other
    rw [(alike fresh).entries, (alike fresh).isLive]

theorem Tidy.lets {t : Transport Handler} (tidy : t.Tidy) {index : Nat} {c : Connection Handler}
    {outcome : Except ErrorCode ConnectionRef × Transport Handler}
    (attempt : t.Attempt index c outcome) (id : c.id = t.connIds.take.1) :
    t.Lets index c.remote outcome := by
  cases attempt with
  | taken held alike =>
    refine lets_of_alike c.remote _ (fun _ => alike) (.inl ?_)
    rw [held]
    exact tidy.live held
  | refused vacant halted alike =>
    exact lets_of_alike c.remote _ (fun fresh => alike (id ▸ fresh)) (.inr halted)
  | admitted vacant accepts gains =>
    refine ⟨⟨fun _ => ⟨?_, accepts⟩, fun _ => ⟨_, rfl⟩⟩, fun _ => nofun⟩
    rw [vacant]
    rfl

/-- Whatever is connected, accepted, closed, sent and torn down: a look-up finds the latest tenant
of an endpoint, which its reactor owns, and nothing if there is none; a connection is admitted just
if no live one is registered for its endpoint and its reactor takes in connections; and one that is
not admitted leaves what is registered and what the reactors own as they were. The steps `connect`
and `accept` of a run are guarded by `Fresh`: the id that is drawn is not that of a connection which
the reactor still owns. By `Reachable.fresh` this holds by itself unless a run is so long that all
ids have been drawn. -/
theorem tenancy_of_reachable {config : Config} {processors : Nat} {log : List Incident}
    {t : Transport Handler} (reached : Reachable config processors log t) :
    (∀ remote, t.Finds remote (tenants log remote)) ∧
    (∀ remote timeoutMs handler,
      t.Lets t.pool.takeNext.1 remote (t.connect remote timeoutMs handler)) ∧
    ∀ index remote socket handler,
      t.Lets index remote (t.accept index remote socket handler) := by
  have housed := reached.housed
  refine ⟨housed.finds, ?_, ?_⟩
  · intro remote timeoutMs handler
    exact housed.toTidy.lets (housed.toTidy.connect remote timeoutMs handler) rfl
  · intro index remote socket handler
    exact housed.toTidy.lets (housed.toTidy.accept index remote socket handler) rfl

def home : Endpoint := ⟨.v4 1, 80⟩

def rented : Transport Nat := ((start {} 2).connect home 30 0).2

def vacated : Transport Nat := (rented.closeSocket home).2

/-- The endpoint is connected to again while its first connection is still there. -/
def relet : Transport Nat := (vacated.connect home 30 1).2

def former : Connection Nat := (relet.connection? ⟨0, 1⟩).get (by decide +kernel)

/-- The first connection is gone. -/
def settled : Transport Nat := (relet.teardown ⟨0, 1⟩ former .brokenConnection).2

def settledLog : List Incident :=
  [] ++ [.ofAttempt home ((start {} 2).connect home 30 0).1] ++
    Incident.ofLookup (rented.lookup home).1 ++
    [.ofAttempt home (vacated.connect home 30 1).1] ++ [.tornDown ⟨0, 1⟩]

theorem settled_reachable : Reachable {} 2 settledLog settled := by
  have first : Reachable {} 2 _ rented := Reachable.start.next
    (.connect home 30 0 (unowned_start {} 2 _))
  have second : Reachable {} 2 _ vacated := first.next (.closeSocket home)
  have third : Reachable {} 2 _ relet := second.next
    (.connect home 30 1 (second.fresh (by decide +kernel) _))
  have owned : relet.connection? ⟨0, 1⟩ = some former := (Option.some_get _).symm
  exact third.next (.teardown owned .brokenConnection)

theorem tenancy_of_reachable_settled :
    tenants settledLog home = [⟨1, 2⟩] ∧ settled.Finds home [⟨1, 2⟩] ∧
      settled.Lets 0 home (settled.connect home 30 2) ∧
      settled.Lets 1 home (settled.accept 1 home 5 3) := by
  obtain ⟨finds, connects, accepts⟩ := tenancy_of_reachable settled_reachable
  have tenant : tenants settledLog home = [⟨1, 2⟩] := by decide +kernel
  have turn : settled.pool.takeNext.1 = 0 := by decide +kernel
  refine ⟨tenant, tenant ▸ finds home, ?_, accepts 1 home 5 3⟩
  rw [← turn]
  exact connects home 30 2

end Transport

end MessageTransport
