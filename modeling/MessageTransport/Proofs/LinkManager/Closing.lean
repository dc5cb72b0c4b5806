import MessageTransport.Proofs.LinkManager.Operations
import MessageTransport.Proofs.Transport.Tenants

set_option autoImplicit false

namespace MessageTransport

variable {Handler Sink : Type}

namespace Transport

/-- A connection with this handler is registered for an endpoint. -/
def Holds (t : Transport Handler) (remote : Endpoint) (handler : Handler) : Prop :=
  ∃ ref c, t.registered? remote = some ref ∧ t.connection? ref = some c ∧ c.handler = handler

/-- The connections that are there now and were not have other handlers. -/
def Foreign (own : Endpoint → Handler) (t next : Transport Handler) : Prop :=
  ∀ ref c, t.connection? ref = none → next.connection? ref = some c →
    ∀ remote, c.handler ≠ own remote

variable {t next : Transport Handler} {remote : Endpoint} {handler : Handler}

theorem Alike.holds (alike : t.Alike next) (holds : next.Holds remote handler) :
    t.Holds remote handler := by
  obtain ⟨ref, c, held, owned, same⟩ := holds
  rw [alike.entries] at held
  rw [alike.connections] at owned
  exact ⟨ref, c, held, owned, same⟩

theorem Moves.holds {released : List ConnectionRef} (moves : t.Moves next released)
    (tidy : t.Tidy) (holds : next.Holds remote handler) : t.Holds remote handler := by
  obtain ⟨ref, c', held, owned, same⟩ := holds
  have before := ((moves.frees remote ref).mp held).1
  obtain ⟨c, there, -⟩ := tidy.registered remote ref before
  obtain ⟨c'', after, stays⟩ := moves.kept ref c there
  obtain rfl := Option.some.inj (after.symm.trans owned)
  exact ⟨ref, c, before, there, (congrArg (fun who => who.2.2) stays.identity).symm.trans same⟩

theorem Loses.holds {ref : ConnectionRef} (loses : t.Loses next ref)
    (holds : next.Holds remote handler) : t.Holds remote handler := by
  obtain ⟨other, c, held, owned, same⟩ := holds
  rw [loses.connections] at owned
  split at owned
  · cases owned
  · exact ⟨other, c, ((loses.frees remote other).mp held).1, owned, same⟩

/-- Only an attempt that succeeds puts a connection there. -/
theorem Attempt.holds {index : Nat} {c : Connection Handler}
    {outcome : Except ErrorCode ConnectionRef × Transport Handler}
    (attempt : t.Attempt index c outcome) (tidy : t.Tidy)
    (unused : t.connection? ⟨index, c.id⟩ = none) (holds : outcome.2.Holds remote handler) :
    t.Holds remote handler ∨ c.remote = remote ∧ c.handler = handler ∧
      outcome.1 = .ok ⟨index, c.id⟩ ∧ outcome.2.connection? ⟨index, c.id⟩ = some c := by
  cases attempt with
  | taken held alike => exact .inl (alike.holds holds)
  | refused vacant halted alike => exact .inl ((alike unused).holds holds)
  | admitted vacant accepts gains =>
    obtain ⟨ref, c', held, owned, same⟩ := holds
    rw [gains.entries] at held
    rw [gains.connections] at owned
    by_cases here : c.remote = remote
    · rw [if_pos here] at held
      obtain rfl := Option.some.inj held
      rw [if_pos rfl] at owned
      obtain rfl := Option.some.inj owned
      refine .inr ⟨here, same, rfl, ?_⟩
      rw [gains.connections, if_pos rfl]
    · rw [if_neg here] at held
      obtain ⟨c'', there, -⟩ := tidy.registered remote ref held
      split at owned
      · rename_i new
        rw [new, there] at unused
        cases unused
      · exact .inl ⟨ref, c', held, owned, same⟩

/-- Who connects with a handler of his own brings none of the manager's. -/
theorem Attempt.foreign {index : Nat} {c : Connection Handler}
    {outcome : Except ErrorCode ConnectionRef × Transport Handler}
    (attempt : t.Attempt index c outcome) (unused : t.connection? ⟨index, c.id⟩ = none)
    {own : Endpoint → Handler} (other : ∀ remote, c.handler ≠ own remote) :
    Foreign own t outcome.2 := by
  have alike {next : Transport Handler} (alike : t.Alike next) : Foreign own t next := by
    intro ref c' absent owned
    rw [alike.connections, absent] at owned
    cases owned
  cases attempt with
  | taken held same => exact alike same
  | refused vacant halted same => exact alike (same unused)
  | admitted vacant accepts gains =>
    intro ref c' absent owned
    rw [gains.connections] at owned
    split at owned
    · obtain rfl := Option.some.inj owned
      exact other
    · rw [absent] at owned
      cases owned

theorem Change.holds {incidents : List Incident} (change : t.Change incidents next) (tidy : t.Tidy)
    {own : Endpoint → Handler} (foreign : Foreign own t next)
    (holds : next.Holds remote (own remote)) : t.Holds remote (own remote) := by
  cases change with
  | @attempt index c outcome attempt id fresh =>
    have unused : t.connection? ⟨index, c.id⟩ = none := id ▸ fresh
    rcases attempt.holds tidy unused holds with before | ⟨-, same, -, owned⟩
    · exact before
    · exact absurd same (foreign _ c unused owned remote)
  | moves moves => exact moves.holds tidy holds
  | loses loses => exact loses.holds holds

theorem Tidy.not_holds_closeSocket (tidy : t.Tidy) :
    ¬ (t.closeSocket remote).2.Holds remote handler := by
  rintro ⟨ref, c, held, -⟩
  obtain ⟨before, apart⟩ := ((tidy.closeSocket remote).frees remote ref).mp held
  exact apart (Option.mem_toList.mpr before)

end Transport

/-- What a call of a manager does for an endpoint, by the step that it takes next. -/
inductive LinkManager.Errand where
  /-- The transport is asked for a connection. -/
  | connecting (remote : Endpoint)
  /-- The transport has answered, and the manager takes note of it. -/
  | answered (remote : Endpoint) (outcome : Except ErrorCode Unit)
  /-- The connection is closed. -/
  | closing (remote : Endpoint)
deriving DecidableEq

def LinkManager.Errand.remote : LinkManager.Errand → Endpoint
  | connecting remote | answered remote _ | closing remote => remote

/-- A manager over a transport that others use as well, with the errands that are under way. The
record of an endpoint and the registry of the transport change in separate steps, and errands
overlap in any way. -/
structure Deployment (Handler Sink : Type) where
  manager : LinkManager Sink
  transport : Transport Handler
  errands : List LinkManager.Errand

namespace Deployment

open LinkManager (Errand)

def start (config : Config) (processors : Nat) : Deployment Handler Sink :=
  ⟨.empty, .start config processors, []⟩

/-- The errands under way when one more may have begun. -/
def begun (errands : List Errand) (begins : Bool) (errand : Errand) : List Errand :=
  if begins then errand :: errands else errands

/-- What can happen next. An errand that is under way takes its next step, or one begins;
connections tell their events; and others use the transport, but with none of the handlers that the
manager connects with. -/
inductive Step (own : Endpoint → Handler) (s : Deployment Handler Sink) :
    Deployment Handler Sink → Prop where
  | add (remote : Endpoint) (retryInterval : Nat) (service : String) (sink : Option Sink) :
      Step own s
        { s with
          manager := (s.manager.add remote retryInterval service sink).2
          errands := begun s.errands (s.manager.add remote retryInterval service sink).1
            (.connecting remote) }
  | remove (remote : Endpoint) :
      Step own s
        { s with
          manager := (s.manager.remove remote).2
          errands := begun s.errands (s.manager.remove remote).1 (.closing remote) }
  | retry (now : Instant) (remote : Endpoint) (connects : Bool)
      (due : (s.manager.popRetry now).1 = some (remote, connects)) :
      Step own s
        { s with
          manager := (s.manager.popRetry now).2
          errands := begun s.errands connects (.connecting remote) }
  | connect {remote : Endpoint} (there : .connecting remote ∈ s.errands) (timeoutMs : Nat)
      (fresh : s.transport.Fresh s.transport.pool.takeNext.1) :
      Step own s
        { s with
          transport := (s.transport.connect remote timeoutMs (own remote)).2
          errands := .answered remote
              ((s.transport.connect remote timeoutMs (own remote)).1.map (fun _ => ())) ::
            s.errands.erase (.connecting remote) }
  | note {remote : Endpoint} {outcome : Except ErrorCode Unit}
      (there : .answered remote outcome ∈ s.errands) (now : Instant) :
      Step own s
        { s with
          manager := (s.manager.attempted now remote outcome).2
          errands := begun (s.errands.erase (.answered remote outcome))
            (s.manager.attempted now remote outcome).1.closes (.closing remote) }
  | close {remote : Endpoint} (there : .closing remote ∈ s.errands) :
      Step own s
        { s with
          transport := (s.transport.closeSocket remote).2
          errands := s.errands.erase (.closing remote) }
  | event (now : Instant) (remote : Endpoint) (e : Event) :
      Step own s { s with manager := (s.manager.onEvent now remote e).2 }
  | others {incidents : List Incident} {transport : Transport Handler}
      (step : s.transport.Step incidents transport)
      (foreign : Transport.Foreign own s.transport transport) : Step own s { s with transport }
  | shutdown : Step own s { s with manager := s.manager.shutdown }

inductive Reachable (own : Endpoint → Handler) (config : Config) (processors : Nat) :
    Deployment Handler Sink → Prop where
  | start : Reachable own config processors (start config processors)
  | next {s next : Deployment Handler Sink} (reached : Reachable own config processors s)
    (step : s.Step own next) : Reachable own config processors next

variable {own : Endpoint → Handler} {config : Config} {processors : Nat}
  {s next : Deployment Handler Sink}

theorem Reachable.transport (reached : s.Reachable own config processors) :
    ∃ log, Transport.Reachable config processors log s.transport := by
  induction reached with
  | start => exact ⟨_, .start⟩
  | next reached step ih =>
    obtain ⟨log, ih⟩ := ih
    cases step with
    | connect there timeoutMs fresh => exact ⟨_, ih.next (.connect _ timeoutMs _ fresh)⟩
    | close there => exact ⟨_, ih.next (.closeSocket _)⟩
    | others step foreign => exact ⟨_, ih.next step⟩
    | _ => exact ⟨log, ih⟩

/-- An errand is under way that closes what is registered for an endpoint which is not managed. -/
def Closes (errands : List Errand) (remote : Endpoint) : Prop :=
  .answered remote (.ok ()) ∈ errands ∨ .closing remote ∈ errands

theorem Closes.cons {errands : List Errand} {remote : Endpoint} (closes : Closes errands remote)
    (errand : Errand) : Closes (errand :: errands) remote :=
  closes.imp (List.mem_cons_of_mem errand) (List.mem_cons_of_mem errand)

theorem Closes.begun {errands : List Errand} {remote : Endpoint} (closes : Closes errands remote)
    (begins : Bool) (errand : Errand) : Closes (begun errands begins errand) remote := by
  cases begins with
  | false => exact closes
  | true => exact closes.cons errand

/-- Only the next step of such an errand ends that. -/
theorem Closes.erase {errands : List Errand} {remote : Endpoint} (closes : Closes errands remote)
    {errand : Errand} (goesOn : errand ≠ .answered remote (.ok ()))
    (stays : errand ≠ .closing remote) : Closes (errands.erase errand) remote :=
  closes.imp (List.mem_erase_of_ne goesOn.symm).mpr (List.mem_erase_of_ne stays.symm).mpr

/-- A connection of the manager that is registered for an endpoint which is not managed is going to
be closed. -/
def Owing (own : Endpoint → Handler) (s : Deployment Handler Sink) (remote : Endpoint) : Prop :=
  s.manager.isManaged remote = false → s.transport.Holds remote (own remote) →
    Closes s.errands remote

theorem Owing.of_step {remote : Endpoint} (owing : s.Owing own remote)
    (managed : next.manager.isManaged remote = false → s.manager.isManaged remote = false)
    (holds : next.transport.Holds remote (own remote) → s.transport.Holds remote (own remote))
    (errands : Closes s.errands remote → Closes next.errands remote) : next.Owing own remote := by
  intro unmanaged held
  exact errands (owing (managed unmanaged) (holds held))

/-- A connection that the transport has made stays to be noted. -/
theorem Owing.connect {remote other : Endpoint} (owing : s.Owing own other)
    (tidy : s.transport.Tidy) (timeoutMs : Nat)
    (fresh : s.transport.Fresh s.transport.pool.takeNext.1) :
    Owing own
      { s with
        transport := (s.transport.connect remote timeoutMs (own remote)).2
        errands := .answered remote
            ((s.transport.connect remote timeoutMs (own remote)).1.map (fun _ => ())) ::
          s.errands.erase (.connecting remote) } other := by
  have attempt := tidy.connect remote timeoutMs (own remote)
  intro unmanaged held
  rcases attempt.holds tidy fresh held with before | ⟨rfl, -, ok, -⟩
  · exact ((owing unmanaged before).erase (by nofun) (by nofun)).cons _
  · left
    dsimp only
    rw [ok]
    exact List.mem_cons_self

/-- A connection that is noted when its endpoint is not managed is closed. -/
theorem Owing.note {remote other : Endpoint} (owing : s.Owing own other)
    (outcome : Except ErrorCode Unit) (now : Instant) :
    Owing own
      { s with
        manager := (s.manager.attempted now remote outcome).2
        errands := begun (s.errands.erase (.answered remote outcome))
          (s.manager.attempted now remote outcome).1.closes (.closing remote) } other := by
  intro unmanaged held
  have before : s.manager.isManaged other = false :=
    ((s.manager.attempted_notes now remote outcome).isManaged other).symm.trans unmanaged
  by_cases own : Errand.answered remote outcome = .answered other (.ok ())
  · obtain ⟨rfl, rfl⟩ := Errand.answered.inj own
    have closes : (s.manager.attempted now remote (.ok ())).1.closes = true := by
      rw [LinkManager.attempted, before]
      rfl
    right
    dsimp only
    rw [closes]
    exact List.mem_cons_self
  · exact ((owing before held).erase own (by nofun)).begun _ _

theorem Owing.close {remote other : Endpoint} (owing : s.Owing own other)
    (tidy : s.transport.Tidy) :
    Owing own
      { s with
        transport := (s.transport.closeSocket remote).2
        errands := s.errands.erase (.closing remote) } other := by
  intro unmanaged held
  by_cases here : remote = other
  · subst here
    exact absurd held tidy.not_holds_closeSocket
  · refine (owing unmanaged ((tidy.closeSocket remote).holds tidy held)).erase (by nofun) ?_
    rintro ⟨⟩
    exact here rfl

/-- An endpoint that is given up is closed. -/
theorem Owing.remove {other : Endpoint} (owing : s.Owing own other) (remote : Endpoint) :
    Owing own
      { s with
        manager := (s.manager.remove remote).2
        errands := begun s.errands (s.manager.remove remote).1 (.closing remote) } other := by
  intro unmanaged held
  cases managed : s.manager.isManaged other with
  | false => exact (owing managed held).begun _ _
  | true =>
    have here : remote = other := by
      by_contra elsewhere
      have still := (s.manager.remove_marks remote other).1
      rw [decide_eq_false elsewhere, managed] at still
      cases unmanaged.symm.trans still
    subst here
    right
    dsimp only [LinkManager.remove]
    rw [managed]
    exact List.mem_cons_self

theorem Step.owing (step : s.Step own next) (tidy : s.transport.Tidy) {remote : Endpoint}
    (owing : s.Owing own remote) : next.Owing own remote := by
  cases step with
  | add other retryInterval service sink =>
    refine owing.of_step ?_ id (fun closes => closes.begun _ _)
    intro unmanaged
    rcases s.manager.add_cases other retryInterval service sink with refused | ⟨-, joined⟩
    · rw [refused] at unmanaged
      exact unmanaged
    · rw [joined] at unmanaged
      have marks := (s.manager.joined_marks other retryInterval service sink remote).1
      exact (Bool.or_eq_false_iff.mp (marks.symm.trans unmanaged)).2
  | remove other => exact owing.remove other
  | retry now other connects due =>
    refine owing.of_step ?_ id (fun closes => closes.begun _ _)
    intro unmanaged
    rcases s.manager.popRetry_cases now with none | ⟨key, owner, -, one⟩
    · rw [none] at unmanaged
      exact unmanaged
    · rw [one] at unmanaged
      exact (s.manager.popped_marks key owner remote).1.symm.trans unmanaged
  | connect there timeoutMs fresh => exact owing.connect tidy timeoutMs fresh
  | note there now => exact owing.note _ now
  | close there => exact owing.close tidy
  | event now other e =>
    exact owing.of_step ((s.manager.onEvent_notes now other e).isManaged remote).symm.trans id id
  | others step foreign =>
    exact owing.of_step id ((step.change tidy).holds tidy foreign) id
  | shutdown => exact owing.of_step id id id

theorem Reachable.owing (reached : s.Reachable own config processors) (remote : Endpoint) :
    s.Owing own remote := by
  induction reached with
  | start =>
    rintro - ⟨ref, c, held, -⟩
    cases Std.TreeMap.getElem?_emptyc.symm.trans held
  | next reached step ih =>
    obtain ⟨log, transport⟩ := reached.transport
    exact step.owing transport.housed.toTidy ih

/-- However the errands overlap: when none on an endpoint is under way and the endpoint is not
managed, what is registered for it in the transport, if anything is, is no connection of the
manager. -/
theorem closed_of_reachable (reached : s.Reachable own config processors) (remote : Endpoint)
    (idle : ∀ errand ∈ s.errands, errand.remote ≠ remote)
    (unmanaged : s.manager.isManaged remote = false) :
    ∀ ref, s.transport.registered? remote = some ref →
      ∃ c, s.transport.connection? ref = some c ∧ c.remote = remote ∧
        c.handler ≠ own remote := by
  intro ref held
  obtain ⟨log, transport⟩ := reached.transport
  obtain ⟨c, owned, there⟩ := transport.housed.registered remote ref held
  refine ⟨c, owned, there, ?_⟩
  intro same
  rcases reached.owing remote unmanaged ⟨ref, c, held, owned, same⟩ with noted | closing
  · exact idle _ noted rfl
  · exact idle _ closing rfl

open Transport (home)

/-- An endpoint that is given up between its addition and the attempt to connect it. -/
def dropped : Deployment Nat Unit :=
  let added := LinkManager.empty.add home 100 "" none
  let removed := added.2.remove home
  let errands := begun (begun [] added.1 (.connecting home)) removed.1 (.closing home)
  ⟨removed.2, .start {} 2, errands⟩

/-- Nothing was there to be closed, and the connection comes afterwards. -/
def crossed : Deployment Nat Unit :=
  let first := (dropped.transport.closeSocket home).2
  let made := first.connect home 30 7
  let noted := dropped.manager.attempted 5 home (made.1.map (fun _ => ()))
  let errands := (dropped.errands.erase (.closing home)).erase (.connecting home)
  ⟨noted.2, made.2, begun errands noted.1.closes (.closing home)⟩

/-- That is closed too, and somebody else connects to the endpoint. -/
def resold : Deployment Nat Unit :=
  let closed := (crossed.transport.closeSocket home).2
  ⟨crossed.manager, (closed.connect home 30 9).2, crossed.errands.erase (.closing home)⟩

theorem dropped_reachable : dropped.Reachable (fun _ => 7) {} 2 :=
  (Reachable.start.next (.add home 100 "" none)).next (.remove home)

theorem crossed_reachable : crossed.Reachable (fun _ => 7) {} 2 := by
  have closed := dropped_reachable.next (.close (by decide +kernel : Errand.closing home ∈ _))
  have made := closed.next (.connect (by decide +kernel : Errand.connecting home ∈ _) 30
    (Option.isNone_iff_eq_none.mp (by decide +kernel)))
  have noted := made.next (.note List.mem_cons_self 5)
  rwa [List.erase_cons_head] at noted

theorem resold_reachable : resold.Reachable (fun _ => 7) {} 2 := by
  have closed := crossed_reachable.next (.close (by decide +kernel : Errand.closing home ∈ _))
  obtain ⟨log, transport⟩ := closed.transport
  have unused : (crossed.transport.closeSocket home).2.Fresh
      (crossed.transport.closeSocket home).2.pool.takeNext.1 :=
    Option.isNone_iff_eq_none.mp (by decide +kernel)
  have attempt := transport.housed.toTidy.connect home 30 9
  exact closed.next (.others (.connect home 30 9 unused)
    (attempt.foreign unused (fun _ => by decide)))

theorem closed_of_reachable_resold :
    resold.errands = [] ∧ resold.manager.isManaged home = false ∧
      resold.transport.registered? home = some ⟨1, 2⟩ ∧
        ∃ c, resold.transport.connection? ⟨1, 2⟩ = some c ∧ c.remote = home ∧
          c.handler ≠ 7 := by
  have errands : resold.errands = [] := by decide +kernel
  have unmanaged : resold.manager.isManaged home = false := by decide +kernel
  have held : resold.transport.registered? home = some ⟨1, 2⟩ := by decide +kernel
  have idle : ∀ errand ∈ resold.errands, errand.remote ≠ home := by
    rw [errands]
    nofun
  exact ⟨errands, unmanaged, held, closed_of_reachable resold_reachable home idle unmanaged _ held⟩

end Deployment

end MessageTransport
