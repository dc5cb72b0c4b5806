import Mathlib.Logic.Relation
import MessageTransport.Proofs.Transport.Traffic

set_option autoImplicit false

namespace MessageTransport.Traffic

variable {Handler : Type}

/-- What a request has in the table of its reactor. -/
def pendingOf (s : Traffic Handler) (request : Sending Handler) : Option (PendingRequest Handler) :=
  (s.transport.requestsOf request.ref.reactor).pending? request.id

/-- What its reactor has told of a request. -/
def toldOf (s : Traffic Handler) (request : Sending Handler) : List (Delivery Handler) :=
  Delivery.about (s.toldBy request.ref.reactor) request.id

/-- Whether a request stands in a certain way, as its reactor's table and the events told say. -/
def Stands (s : Traffic Handler) (request : Sending Handler) (handler : Handler) :
    Situation → Prop
  | .pending =>
    (∃ r, s.pendingOf request = some r ∧ r.handler = handler) ∧
      request.outcome = .ok request.id ∧ s.toldOf request = []
  | .withdrawn =>
    s.pendingOf request = none ∧ (∃ code, request.outcome = .error code) ∧ s.toldOf request = []
  | .settled =>
    s.pendingOf request = none ∧ request.outcome = .ok request.id ∧
      ∃ e : Event, s.toldOf request = [⟨handler, e⟩] ∧ e.Settles request.id

/-- No two requests with a handler were sent over a reactor under one id. -/
def Fresh (s : Traffic Handler) (index : Nat) : Prop := ((s.sentOver index).map Sending.id).Nodup

theorem Keeps.pendingOf {s : Traffic Handler} {request : Sending Handler} {a : Account Handler}
    (keeps : s.Keeps request.ref.reactor a) :
    s.pendingOf request = a.pending.lookUp request.id :=
  (keeps.represents.lookUp request.id).symm

theorem Keeps.stands_iff {s : Traffic Handler} {request : Sending Handler} {a : Account Handler}
    (keeps : s.Keeps request.ref.reactor a) {handler : Handler} {situation : Situation} :
    s.Stands request handler situation ↔ a.Stands request handler situation := by
  have distinct := keeps.represents.distinct
  have told : s.toldOf request = Delivery.about a.told request.id := by rw [toldOf, keeps.told]
  cases situation with
  | pending =>
    simp only [Stands, Account.Stands, told, keeps.pendingOf, distinct.lookUp_eq_some_iff, and_assoc]
  | withdrawn =>
    simp only [Stands, Account.Stands, told, keeps.pendingOf, Ledger.lookUp_eq_none_iff]
  | settled =>
    simp only [Stands, Account.Stands, told, keeps.pendingOf, Ledger.lookUp_eq_none_iff]

theorem Keeps.fresh {s : Traffic Handler} {index : Nat} {a : Account Handler}
    (keeps : s.Keeps index a) (fresh : s.Fresh index) : a.Fresh := by
  rw [Account.Fresh, keeps.sent]
  exact fresh

theorem mem_sentOver {s : Traffic Handler} {index : Nat} {request : Sending Handler} :
    request ∈ s.sentOver index ↔
      request ∈ s.sendings ∧ request.ref.reactor = index ∧ request.handler.isSome = true := by
  rw [sentOver, List.mem_filter, Bool.and_eq_true_iff, decide_eq_true_eq]

theorem Reachable.stands {config : Config} {processors : Nat} {s : Traffic Handler}
    (reached : Reachable config processors s) {request : Sending Handler}
    (fresh : s.Fresh request.ref.reactor) (member : request ∈ s.sendings) {handler : Handler}
    (whom : request.handler = some handler) : ∃! situation, s.Stands request handler situation := by
  obtain ⟨a, keeps, lawful⟩ := reached.account request.ref.reactor
  have counted : request ∈ a.sent := by
    rw [keeps.sent]
    exact mem_sentOver.mpr ⟨member, rfl, congrArg Option.isSome whom⟩
  obtain ⟨situation, stands⟩ := lawful.stands (keeps.fresh fresh) request counted handler whom
  refine ⟨situation, keeps.stands_iff.mpr stands, ?_⟩
  intro other too
  exact (keeps.stands_iff.mp too).unique stands

/-- What has been sent and told stays as it is. -/
theorem Step.history {s s' : Traffic Handler} (step : s.Step s') :
    s.sendings <+: s'.sendings ∧ s.told <+: s'.told := by
  cases step with
  | send => exact ⟨List.prefix_append _ _, List.prefix_rfl⟩
  | hear => exact ⟨List.prefix_rfl, List.prefix_append _ _⟩
  | reply => exact ⟨List.prefix_rfl, List.prefix_append _ _⟩
  | establish => exact ⟨List.prefix_rfl, List.prefix_append _ _⟩
  | sweep => exact ⟨List.prefix_rfl, List.prefix_append _ _⟩
  | teardown => exact ⟨List.prefix_rfl, List.prefix_append _ _⟩
  | _ => exact ⟨List.prefix_rfl, List.prefix_rfl⟩

theorem toldOf_grows {s s' : Traffic Handler} (told : s.told <+: s'.told)
    (request : Sending Handler) : s.toldOf request <+: s'.toldOf request := by
  obtain ⟨more, append⟩ := told
  refine ⟨Delivery.about ((more.filter (fun d => d.1 = request.ref.reactor)).map Prod.snd)
    request.id, ?_⟩
  rw [toldOf, ← Delivery.about_append, toldOf, toldBy, toldBy, ← append, List.filter_append,
    List.map_append]

def peer : Endpoint := ⟨.v4 1, 80⟩

/-- Two requests are sent while their connection is being made. -/
def begun : Traffic Nat :=
  let opened := ((start {} 1).transport.connect peer 30 0).2
  (({ start {} 1 with transport := opened } : Traffic Nat).send 0 peer
    (.ofHeader (.withTimeout 1 10)) (some 7) []).send 0 peer (.ofHeader (.ofCommand 2)) (some 8) []

def owner : Reactor Nat := (begun.transport.pool.reactor? 0).get (by decide +kernel)

def connection : Connection Nat := (owner.connection? 1).get (by decide +kernel)

/-- The first of the two requests is answered. -/
def answered : Traffic Nat :=
  begun.hear ⟨0, 1⟩ owner connection ⟨{ Header.empty with id := 1 }, [5]⟩

theorem begun_reachable : Reachable {} 1 begun := by
  have empty : Reachable {} 1 (start {} 1 : Traffic Nat) := .start
  have opened := empty.next (.connect peer 30 0)
  have first := opened.next (.send 0 peer (.ofHeader (.withTimeout 1 10)) (some 7) [])
  exact first.next (.send 0 peer (.ofHeader (.ofCommand 2)) (some 8) [])

end MessageTransport.Traffic
