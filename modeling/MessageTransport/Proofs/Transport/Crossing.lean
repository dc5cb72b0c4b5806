import MessageTransport.Proofs.Transport.Reactors
import MessageTransport.Proofs.Transport.Requests

set_option autoImplicit false

namespace MessageTransport

variable {Handler : Type}

namespace Reactor

/-- A response on a connection is for the requests that were sent on it: it reaches none of another
connection, and leaves each such request pending. -/
structure Confined (r : Reactor Handler) (c : Connection Handler) (m : Message) : Prop where
  own : ∀ told, (r.dispatch c m).1 = some told → ∃ q, r.requests.pending? m.header.id = some q ∧
    q.connId = c.id ∧ told.handler = q.handler
  others : ∀ q, r.requests.pending? m.header.id = some q → q.connId ≠ c.id →
    (r.dispatch c m).1 = none ∧ (r.dispatch c m).2.requests.pending? m.header.id = some q

/-- Whatever connections a reactor has and whatever is pending on it: a response reaches the handler
of the pending request with its id, on whichever connection that was sent, and is dropped if there
is none; it takes this request out and nothing else. It is confined to its connection if and only if
no request of another connection bears its id. -/
theorem dispatch_by_id (r : Reactor Handler) (c : Connection Handler) {m : Message}
    (response : m.header.isRequest = false) :
    (r.dispatch c m).1 = (r.requests.pending? m.header.id).map
        (fun q => ⟨q.handler, .message c.remote c.id m.header m.payload⟩) ∧
      (∀ id, (r.dispatch c m).2.requests.pending? id =
        if m.header.id = id then none else r.requests.pending? id) ∧
      (r.dispatch c m).2 = { r with requests := (r.dispatch c m).2.requests } ∧
      (r.Confined c m ↔
        ∀ q, r.requests.pending? m.header.id = some q → q.connId = c.id) := by
  obtain ⟨found, left⟩ := r.requests.remove_pending m.header.id
  have split : r.dispatch c m = ((r.requests.pending? m.header.id).map
      (fun q => ⟨q.handler, .message c.remote c.id m.header m.payload⟩),
      { r with requests := (r.requests.remove m.header.id).2 }) := by
    simp only [dispatch, response, Bool.false_eq_true, ↓reduceIte, removeRequest, found]
  have told := congrArg Prod.fst split
  have after (id : UInt32) : (r.dispatch c m).2.requests.pending? id =
      if m.header.id = id then none else r.requests.pending? id := by
    rw [split]
    exact left id
  refine ⟨told, after, by rw [split], ?_, ?_⟩
  · intro confined q pending
    rw [pending] at told
    obtain ⟨other, also, own, -⟩ := confined.own _ told
    rw [pending] at also
    rw [Option.some.inj also]
    exact own
  · intro same
    refine ⟨?_, ?_⟩
    · intro d reaches
      rw [told] at reaches
      obtain ⟨q, pending, rfl⟩ := Option.map_eq_some_iff.mp reaches
      exact ⟨q, pending, same q pending, rfl⟩
    · intro q pending apart
      exact absurd (same q pending) apart

end Reactor

namespace Traffic

/-- Beside the connection with two requests pending there is one to another peer. -/
def joined : Traffic Nat :=
  { begun with transport := (begun.transport.connect ⟨.v4 2, 80⟩ 30 1).2 }

def joinedOwner : Reactor Nat := (joined.transport.pool.reactor? 0).get (by decide +kernel)

def stranger : Connection Nat := (joinedOwner.connection? 2).get (by decide +kernel)

def met : Traffic Nat := joined.establish ⟨0, 2⟩ joinedOwner stranger 5 none

theorem met_reachable : Reachable {} 1 met := by
  have connected := begun_reachable.next (.connect ⟨.v4 2, 80⟩ 30 1)
  exact connected.next (.establish ⟨(Option.some_get _).symm, (Option.some_get _).symm⟩ 5 none)

def metOwner : Reactor Nat := (met.transport.pool.reactor? 0).get (by decide +kernel)

def metStranger : Connection Nat := (metOwner.connection? 2).get (by decide +kernel)

/-- The other peer answers a request that it has not been sent. -/
def forged : Message := ⟨{ Header.empty with id := 1 }, [5]⟩

theorem pending_met : (metOwner.requests.pending? 1).map PendingRequest.connId = some 1 := by
  decide +kernel

theorem id_metStranger : metStranger.id = 2 := by decide +kernel

theorem dispatch_by_id_forged :
    forged.header.isRequest = false ∧ ¬ metOwner.Confined metStranger forged ∧
      (metOwner.dispatch metStranger forged).1 = (metOwner.requests.pending? 1).map
        (fun q => ⟨q.handler, .message metStranger.remote metStranger.id forged.header [5]⟩) := by
  have response : forged.header.isRequest = false := by decide
  obtain ⟨told, -, -, confined⟩ := metOwner.dispatch_by_id metStranger response
  refine ⟨response, ?_, told⟩
  intro kept
  obtain ⟨q, pending, own⟩ := Option.map_eq_some_iff.mp pending_met
  have same := confined.mp kept q pending
  rw [own, id_metStranger] at same
  cases same

/-- A response can reach a request that was sent on another connection than its own. -/
theorem not_confined : ¬ ∀ r : Reactor Nat, r.Reachable →
    ∀ connId c, r.connection? connId = some c →
      ∀ m : Message, m.header.isRequest = false → r.Confined c m := by
  intro confined
  have reached : metOwner.Reachable := met_reachable.sound 0 metOwner (Option.some_get _).symm
  have owned : metOwner.connection? 2 = some metStranger := (Option.some_get _).symm
  have told : (metOwner.dispatch metStranger forged).1 =
      some ⟨7, .message ⟨.v4 2, 80⟩ 2 forged.header [5]⟩ := by decide +kernel
  obtain ⟨q, pending, own, -⟩ :=
    (confined metOwner reached 2 metStranger owned forged (by decide)).own _ told
  have here : metOwner.requests.pending? 1 = some q := pending
  have sent := pending_met
  rw [here, Option.map_some, own, id_metStranger] at sent
  cases sent

end Traffic

end MessageTransport
