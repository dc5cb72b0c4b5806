import MessageTransport.Proofs.Reactor.Runs
import MessageTransport.Reactor.Drive

set_option autoImplicit false

namespace MessageTransport

variable {Handler : Type}

namespace Connection

/-- A message that has come in, as handlers are told of it. -/
def received (c : Connection Handler) (m : Message) : Event :=
  .message c.remote c.id m.header m.payload

theorem received_of_identity {c other : Connection Handler} (same : c.identity = other.identity)
    (m : Message) : c.received m = other.received m := by
  simp only [identity, Prod.mk.injEq] at same
  rw [received, same.1, same.2.1, received]

/-- What stays when a connection is used by anybody but its reader: who it is and what its reader
has read, and that it is closed if it is. -/
structure Keeps (c next : Connection Handler) : Prop where
  identity : next.identity = c.identity
  reader : next.reader = c.reader
  closed : c.state = .closed → next.state = .closed

theorem Keeps.refl (c : Connection Handler) : c.Keeps c := ⟨rfl, rfl, fun closed => closed⟩

theorem keeps_close (c : Connection Handler) (reason : ErrorCode) : c.Keeps (c.close reason) := by
  unfold close
  split
  · exact .refl c
  · exact ⟨rfl, rfl, fun closed => closed⟩

theorem keeps_follow (c : Connection Handler) (next : FollowUp) : c.Keeps (c.follow next) := by
  cases next with
  | nothing => exact .refl c
  | wakeWriter => exact ⟨rfl, rfl, fun closed => closed⟩
  | giveUp => exact c.keeps_close .brokenConnection

theorem keeps_enqueue (c : Connection Handler) (chunks : List Bytes) (answers : List WriteAnswer) :
    c.Keeps (c.enqueue chunks answers).connection := by
  unfold enqueue
  dsimp only
  split
  · exact .refl c
  · exact ⟨rfl, rfl, fun closed => closed⟩
  · split
    · exact ⟨rfl, rfl, fun closed => closed⟩
    · exact ⟨rfl, rfl, fun closed => closed⟩

theorem keeps_markConnected (c : Connection Handler) (socket : Nat)
    (localAddress : Option Endpoint) : c.Keeps (c.markConnected socket localAddress) := by
  refine ⟨rfl, rfl, ?_⟩
  intro closed
  simp only [markConnected, closed, reduceCtorEq, ↓reduceIte]

end Connection

namespace Call

theorem getElem?_advance (calls : List (Call Handler)) (i j : Nat) (stage : Stage) :
    (advance calls i stage)[j]? =
      calls[j]?.map (fun call => if i = j then { call with stage } else call) := by
  rw [advance, List.getElem?_modify]
  cases calls[j]? with
  | none => rfl
  | some call => by_cases same : i = j <;> simp only [same, ↓reduceIte] <;> rfl

theorem getElem?_advance_self {calls : List (Call Handler)} {i : Nat} {call : Call Handler}
    (there : calls[i]? = some call) (stage : Stage) :
    (advance calls i stage)[i]? = some { call with stage } := by
  rw [getElem?_advance, there, Option.map_some, if_pos rfl]

theorem getElem?_advance_of_ne (calls : List (Call Handler)) {i j : Nat} (apart : i ≠ j)
    (stage : Stage) : (advance calls i stage)[j]? = calls[j]? := by
  rw [getElem?_advance]
  simp only [apart, ↓reduceIte, Option.map_id']

end Call

namespace Drive

/-- No request goes by an id, neither on the reactor nor among the calls. -/
structure Unused (d : Drive Handler) (id : UInt32) : Prop where
  pending : d.reactor.requests.pending? id = none
  called : ∀ call ∈ d.calls, ∀ request ∈ call.request, request.id ≠ id

/-- A request to be sent on the connection has an id of its own. -/
structure Fits (d : Drive Handler) (request : PendingRequest Handler) : Prop where
  connId : request.connId = d.origin.id
  remote : request.remote = d.origin.remote
  unused : d.Unused request.id

/-- What may happen between two steps of the task. -/
inductive Around (d : Drive Handler) : Drive Handler → Prop where
  | enter (request : Option (PendingRequest Handler)) (chunks : List Bytes)
      (fits : ∀ q ∈ request, d.Fits q) : Around d (d.enter request chunks)
  | record {i : Nat} {call : Call Handler} (there : d.calls[i]? = some call)
      (stage : call.stage = .found) : Around d (d.record i call)
  | append {i : Nat} {call : Call Handler} {c : Connection Handler} (answers : List WriteAnswer)
      (there : d.calls[i]? = some call) (stage : call.stage = .recorded)
      (held : d.shared? = some c) : Around d (d.append i call c answers)
  | follow {i : Nat} {call : Call Handler} {next : Connection.FollowUp}
      (there : d.calls[i]? = some call) (stage : call.stage = .appended next) :
      Around d (d.follow i next)
  | withdraw {i : Nat} {call : Call Handler} {code : ErrorCode} (there : d.calls[i]? = some call)
      (stage : call.stage = .refused code) : Around d (d.withdraw i call code)
  | fail {i : Nat} {call : Call Handler} {code : ErrorCode} (there : d.calls[i]? = some call)
      (stage : call.stage = .withdrawn code) : Around d (d.fail i code)
  | close (reason : ErrorCode) : Around d (d.close reason)
  | sweep (now : Instant) : Around d (d.sweep now)
  | tellDue {news : Delivery Handler} {left : List (Delivery Handler)}
      (due : d.due = news :: left) : Around d (d.tellDue news left)
  /-- The reactor and the registry are used by others, who leave the connection and the requests of
  the calls alone. -/
  | elsewhere {reactor : Reactor Handler} (registry : Registry ConnectionRef)
      (reached : reactor.Reachable) (same : reactor.connection? d.origin.id = d.connection?)
      (spared : ∀ call ∈ d.calls, ∀ q ∈ call.request,
        reactor.requests.pending? q.id = d.reactor.requests.pending? q.id) :
      Around d { d with reactor, registry }

/-- What the task may do. -/
inductive Move (d : Drive Handler) : Drive Handler → Prop where
  | connect {c : Connection Handler} (socket : Nat) (localAddress : Option Endpoint)
      (phase : d.phase = .opening) (owned : d.connection? = some c) :
      Move d (d.connect c socket localAddress)
  /-- There is no socket to be had. -/
  | refuse (reason : ErrorCode) (phase : d.phase = .opening) : Move d (d.giveUp reason)
  | cancel {c : Connection Handler} (phase : d.phase = .opening) (owned : d.connection? = some c)
      (asked : c.closeWakeup = true) : Move d (d.obey c .shutdown)
  | announce {news : Delivery Handler} (panics : Bool) (phase : d.phase = .announcing news) :
      Move d (d.announce news panics)
  | plan {c : Connection Handler} (phase : d.phase = .planning) (owned : d.connection? = some c) :
      Move d (d.plan c)
  | heed {c : Connection Handler} (phase : d.phase = .waiting false)
      (owned : d.connection? = some c) (woken : c.writeWakeup = true) : Move d d.heed
  | obey {c : Connection Handler} {forOutput : Bool} (phase : d.phase = .waiting forOutput)
      (owned : d.connection? = some c) (asked : c.closeWakeup = true) :
      Move d (d.obey c .brokenConnection)
  /-- The socket cannot be waited for. -/
  | lose {forOutput : Bool} (phase : d.phase = .waiting forOutput) :
      Move d (d.giveUp .brokenConnection)
  | serve {forOutput : Bool} (reads writes : Bool) (phase : d.phase = .waiting forOutput) :
      Move d (d.serve reads writes)
  | read {c : Connection Handler} {writes : Bool} (panics : Bool)
      (phase : d.phase = .serving true writes) (owned : d.connection? = some c) :
      Move d (d.read c writes panics)
  | flush {c : Connection Handler} (answers : List WriteAnswer)
      (phase : d.phase = .serving false true) (owned : d.connection? = some c) :
      Move d (d.flush c answers)
  | goAround (phase : d.phase = .serving false false) : Move d d.goAround
  | shut {reason : ErrorCode} (phase : d.phase = .leaving reason) : Move d (d.shut reason)
  | disown {reason : ErrorCode} (phase : d.phase = .closed reason) : Move d (d.disown reason)
  | unregister {reason : ErrorCode} (phase : d.phase = .disowned reason) :
      Move d (d.unregister reason)
  | purge {reason : ErrorCode} (phase : d.phase = .unregistered reason) : Move d (d.purge reason)
  | tell {news : Delivery Handler} {left : List (Delivery Handler)}
      (phase : d.phase = .telling (news :: left)) : Move d (d.tell news left)

inductive Step (d next : Drive Handler) : Prop where
  | around (around : d.Around next)
  | move (move : d.Move next)

/-- The states that any steps lead to from the start of a task for a connection that is to be made,
has read nothing and takes messages up to a limit. `script` is how its socket answers its reads. -/
inductive Reachable (limit : Nat) (script : List ReadAnswer) : Drive Handler → Prop where
  | start {r : Reactor Handler} {c : Connection Handler} (registry : Registry ConnectionRef)
      (reached : r.Reachable) (owned : r.connection? c.id = some c)
      (connecting : c.state = .connecting) (unread : c.reader = .start limit) :
      Reachable limit script (start r registry c script)
  | next {d next : Drive Handler} (reached : Reachable limit script d) (step : d.Step next) :
      Reachable limit script next

theorem connection?_change (d : Drive Handler) (f : Connection Handler → Connection Handler) :
    (d.change f).connection? = d.connection?.map f := by
  show (d.reactor.updateConnection d.origin.id f).connection? d.origin.id = _
  rw [Reactor.connection?_updateConnection, if_pos rfl]
  rfl

theorem shared?_change (d : Drive Handler) (f : Connection Handler → Connection Handler) :
    (d.change f).shared? = d.shared?.map f := by
  rw [shared?, connection?_change, shared?]
  exact Option.map_or.symm

/-- As long as its reactor owns a connection, its callers hold what the reactor owns. -/
theorem shared?_of_owned {d : Drive Handler} {c : Connection Handler}
    (owned : d.connection? = some c) : d.shared? = some c := by
  rw [shared?, owned, Option.some_or]

theorem reachable_change {d : Drive Handler} (reached : d.reactor.Reachable)
    {f : Connection Handler → Connection Handler}
    (same : ∀ c, d.shared? = some c → (f c).identity = c.identity) :
    (d.change f).reactor.Reachable :=
  reached.next (.update d.origin.id (fun c owned => same c (shared?_of_owned owned)))

theorem connection?_record (d : Drive Handler) (i : Nat) (call : Call Handler) :
    (d.record i call).connection? = d.connection? := by
  unfold connection? record
  cases call.request with
  | none => rfl
  | some q => rfl

theorem connection?_withdraw (d : Drive Handler) (i : Nat) (call : Call Handler)
    (code : ErrorCode) : (d.withdraw i call code).connection? = d.connection? := by
  unfold connection? withdraw
  cases call.request with
  | none => rfl
  | some q => rfl

/-- What whoever does not read leaves alone. -/
structure Spares (d next : Drive Handler) : Prop where
  origin : next.origin = d.origin
  inbox : next.inbox = d.inbox
  opened : next.opened = d.opened
  heard : next.heard = d.heard
  connection : ∀ c', next.connection? = some c' → ∃ c, d.connection? = some c ∧ c.Keeps c'
  shared : ∀ c, d.shared? = some c → ∃ c', next.shared? = some c' ∧ c.Keeps c'

theorem spares_of_same {d next : Drive Handler} (origin : next.origin = d.origin)
    (inbox : next.inbox = d.inbox) (opened : next.opened = d.opened) (heard : next.heard = d.heard)
    (same : next.connection? = d.connection?) (behind : next.behind = d.behind) :
    d.Spares next := by
  have held : next.shared? = d.shared? := by rw [shared?, same, behind, shared?]
  exact ⟨origin, inbox, opened, heard, fun c' owned => ⟨c', same ▸ owned, .refl c'⟩,
    fun c there => ⟨c, held.trans there, .refl c⟩⟩

/-- A change of the connection leaves alone what it keeps. -/
theorem spares_of_changed {d next : Drive Handler} {f : Connection Handler → Connection Handler}
    (reactor : next.reactor = (d.change f).reactor) (behind : next.behind = (d.change f).behind)
    (origin : next.origin = d.origin) (inbox : next.inbox = d.inbox)
    (opened : next.opened = d.opened) (heard : next.heard = d.heard)
    (keeps : ∀ c, d.shared? = some c → c.Keeps (f c)) : d.Spares next := by
  have owner : next.connection? = d.connection?.map f := by
    rw [connection?, reactor, origin]
    exact d.connection?_change f
  have holder : next.shared? = d.shared?.map f := by
    rw [shared?, owner, behind, ← d.connection?_change f]
    exact d.shared?_change f
  refine ⟨origin, inbox, opened, heard, ?_, ?_⟩
  · intro c' owned
    obtain ⟨c, there, rfl⟩ := Option.map_eq_some_iff.mp (owner.symm.trans owned)
    exact ⟨c, there, keeps c (shared?_of_owned there)⟩
  · intro c there
    refine ⟨f c, ?_, keeps c there⟩
    rw [holder, there, Option.map_some]

/-- What chunks are appended to is the connection as callers hold it. -/
theorem keeps_appended {d : Drive Handler} {c : Connection Handler} (held : d.shared? = some c)
    (chunks : List Bytes) (answers : List WriteAnswer) :
    ∀ before, d.shared? = some before → before.Keeps (c.enqueue chunks answers).connection := by
  intro before there
  obtain rfl := Option.some.inj (held.symm.trans there)
  exact c.keeps_enqueue chunks answers

theorem Around.spares {d next : Drive Handler} (around : d.Around next) : d.Spares next := by
  cases around with
  | record there stage => exact spares_of_same rfl rfl rfl rfl (d.connection?_record _ _) rfl
  | append answers there stage held =>
    exact spares_of_changed rfl rfl rfl rfl rfl rfl (keeps_appended held _ answers)
  | follow there stage =>
    exact spares_of_changed rfl rfl rfl rfl rfl rfl (fun c _ => c.keeps_follow _)
  | withdraw there stage => exact spares_of_same rfl rfl rfl rfl (d.connection?_withdraw _ _ _) rfl
  | close reason =>
    exact spares_of_changed rfl rfl rfl rfl rfl rfl (fun c _ => c.keeps_close reason)
  | elsewhere registry reached same spared => exact spares_of_same rfl rfl rfl rfl same rfl
  | _ => exact spares_of_same rfl rfl rfl rfl rfl rfl

theorem Around.phase {d next : Drive Handler} (around : d.Around next) : next.phase = d.phase := by
  cases around with
  | _ => rfl

theorem Around.reactor {d next : Drive Handler} (around : d.Around next)
    (reached : d.reactor.Reachable) : next.reactor.Reachable := by
  cases around with
  | record there stage =>
    rename_i i call
    show (call.request.elim d.reactor d.reactor.addRequest).Reachable
    cases call.request with
    | none => exact reached
    | some q => exact reached.addRequest q
  | append answers there stage held =>
    exact reachable_change reached (fun c there => (keeps_appended held _ answers c there).identity)
  | follow there stage => exact reachable_change reached (fun c _ => (c.keeps_follow _).identity)
  | withdraw there stage =>
    rename_i i call code
    show (call.request.elim d.reactor (fun q => (d.reactor.removeRequest q.id).2)).Reachable
    cases call.request with
    | none => exact reached
    | some q => exact reached.next (.removeRequest q.id)
  | close reason => exact reachable_change reached (fun c _ => (c.keeps_close reason).identity)
  | sweep now => exact reached.next (.expireRequests now)
  | elsewhere registry reached same spared => exact reached
  | _ => exact reached

theorem Move.origin {d next : Drive Handler} (move : d.Move next) : next.origin = d.origin := by
  cases move with
  | _ => rfl

theorem Move.reactor {d next : Drive Handler} (move : d.Move next)
    (reached : d.reactor.Reachable) : next.reactor.Reachable := by
  cases move with
  | connect socket localAddress phase owned => exact reached.next (.update _ (fun _ _ => rfl))
  | cancel phase owned asked => exact reached.next (.update _ (fun _ _ => rfl))
  | heed phase owned woken => exact reached.next (.update _ (fun _ _ => rfl))
  | obey phase owned asked => exact reached.next (.update _ (fun _ _ => rfl))
  | read panics phase owned => exact reached.receive _ _
  | flush answers phase owned =>
    refine reached.next (.update _ ?_)
    intro before there
    obtain rfl := Option.some.inj (owned.symm.trans there)
    rfl
  | shut phase => exact reached.next (.update _ (fun _ _ => rfl))
  | disown phase => exact reached.next (.forget d.origin.id)
  | purge phase => exact reached.next (.purge d.origin.id)
  | _ => exact reached

theorem Step.origin {d next : Drive Handler} (step : d.Step next) : next.origin = d.origin := by
  cases step with
  | around around => exact around.spares.origin
  | move move => exact move.origin

theorem Step.reactor {d next : Drive Handler} (step : d.Step next)
    (reached : d.reactor.Reachable) : next.reactor.Reachable := by
  cases step with
  | around around => exact around.reactor reached
  | move move => exact move.reactor reached

theorem Reachable.reactor {limit : Nat} {script : List ReadAnswer} {d : Drive Handler}
    (reached : Reachable limit script d) : d.reactor.Reachable := by
  induction reached with
  | start registry reached owned connecting unread => exact reached
  | next reached step ih => exact step.reactor ih

theorem connection?_connect {d : Drive Handler} (reached : d.reactor.Reachable)
    {c : Connection Handler} (owned : d.connection? = some c) (socket : Nat)
    (localAddress : Option Endpoint) :
    (d.connect c socket localAddress).connection? = some (c.markConnected socket localAddress) := by
  have keyed : c.id = d.origin.id := reached.keyed owned
  have after := d.connection?_change (fun c => c.markConnected socket localAddress)
  rw [owned] at after
  show (d.reactor.updateConnection c.id _).connection? d.origin.id = _
  rw [keyed]
  exact after

theorem connection?_read {d : Drive Handler} (reached : d.reactor.Reachable)
    {c : Connection Handler} (owned : d.connection? = some c) (writes panics : Bool) :
    (d.read c writes panics).connection? =
      some { c with reader := (c.reader.advance d.inbox).reader } := by
  have keyed : c.id = d.origin.id := reached.keyed owned
  have after := d.connection?_change (fun c' =>
    { c' with reader := (c.reader.advance d.inbox).reader })
  rw [owned, connection?, change, ← keyed] at after
  show (d.reactor.receive c d.inbox).reactor.connection? d.origin.id = _
  rw [← keyed]
  exact (Reactor.connection?_receive _ _ _ _).trans after

theorem spares_heed (d : Drive Handler) : d.Spares d.heed :=
  spares_of_changed rfl rfl rfl rfl rfl rfl (fun _ _ => ⟨rfl, rfl, fun closed => closed⟩)

theorem spares_obey (d : Drive Handler) (c : Connection Handler) (reason : ErrorCode) :
    d.Spares (d.obey c reason) :=
  spares_of_changed rfl rfl rfl rfl rfl rfl (fun _ _ => ⟨rfl, rfl, fun closed => closed⟩)

theorem phase_flush (d : Drive Handler) (c : Connection Handler) (answers : List WriteAnswer) :
    (d.flush c answers).phase = .leaving .brokenConnection ∨
      (d.flush c answers).phase = .planning := by
  unfold flush
  dsimp only
  split
  · exact .inl rfl
  · exact .inr rfl

theorem spares_flush {d : Drive Handler} {c : Connection Handler} (owned : d.connection? = some c)
    (answers : List WriteAnswer) : d.Spares (d.flush c answers) := by
  refine spares_of_changed rfl rfl rfl rfl rfl rfl ?_
  intro before there
  obtain rfl := Option.some.inj ((shared?_of_owned owned).symm.trans there)
  exact ⟨rfl, rfl, fun closed => closed⟩

theorem spares_shut (d : Drive Handler) (reason : ErrorCode) : d.Spares (d.shut reason) :=
  spares_of_changed rfl rfl rfl rfl rfl rfl (fun _ _ => ⟨rfl, rfl, fun _ => rfl⟩)

theorem connection?_disown (d : Drive Handler) (reason : ErrorCode) :
    (d.disown reason).connection? = none := by
  have erased := getElem?_erased d.reactor.connections d.origin.id d.origin.id
  rw [if_pos rfl] at erased
  exact erased

/-- Its callers hold the connection as it was when its reactor let go of it. -/
theorem shared?_disown (d : Drive Handler) (reason : ErrorCode) :
    (d.disown reason).shared? = d.shared? := by
  rw [shared?, connection?_disown, Option.none_or]
  rfl

/-- What callers hold is the same connection after each move of its task, and closed if it was. -/
theorem Move.held {d next : Drive Handler} (move : d.Move next) (reached : d.reactor.Reachable)
    {c : Connection Handler} (held : d.shared? = some c) :
    ∃ c', next.shared? = some c' ∧ c'.identity = c.identity ∧
      (c.state = .closed → c'.state = .closed) := by
  have spared (spares : d.Spares next) : ∃ c', next.shared? = some c' ∧
      c'.identity = c.identity ∧ (c.state = .closed → c'.state = .closed) := by
    obtain ⟨c', there, keeps⟩ := spares.shared c held
    exact ⟨c', there, keeps.identity, keeps.closed⟩
  cases move with
  | connect socket localAddress phase there =>
    obtain rfl := Option.some.inj (held.symm.trans (shared?_of_owned there))
    have keeps := c.keeps_markConnected socket localAddress
    exact ⟨_, shared?_of_owned (connection?_connect reached there socket localAddress),
      keeps.identity, keeps.closed⟩
  | cancel phase there asked => exact spared (d.spares_obey _ _)
  | heed phase there woken => exact spared d.spares_heed
  | obey phase there asked => exact spared (d.spares_obey _ _)
  | read panics phase there =>
    obtain rfl := Option.some.inj (held.symm.trans (shared?_of_owned there))
    exact ⟨_, shared?_of_owned (connection?_read reached there _ panics), rfl, fun closed => closed⟩
  | flush answers phase there => exact spared (spares_flush there answers)
  | shut phase => exact spared (d.spares_shut _)
  | disown phase => exact ⟨c, (d.shared?_disown _).trans held, rfl, fun closed => closed⟩
  | _ => exact ⟨c, held, rfl, fun closed => closed⟩

theorem Step.held {d next : Drive Handler} (step : d.Step next) (reached : d.reactor.Reachable)
    {c : Connection Handler} (held : d.shared? = some c) :
    ∃ c', next.shared? = some c' ∧ c'.identity = c.identity ∧
      (c.state = .closed → c'.state = .closed) := by
  cases step with
  | around around =>
    obtain ⟨c', there, keeps⟩ := around.spares.shared c held
    exact ⟨c', there, keeps.identity, keeps.closed⟩
  | move move => exact move.held reached held

/-- Callers always hold the connection that the task was started for, so that none of them is
stuck. -/
theorem Reachable.held {limit : Nat} {script : List ReadAnswer} {d : Drive Handler}
    (reached : Reachable limit script d) :
    ∃ c, d.shared? = some c ∧ c.identity = d.origin.identity := by
  induction reached with
  | start registry reached owned connecting unread => exact ⟨_, shared?_of_owned owned, rfl⟩
  | next reached step ih =>
    obtain ⟨c, held, same⟩ := ih
    obtain ⟨c', after, still, -⟩ := step.held reached.reactor held
    exact ⟨c', after, by rw [still, same, step.origin]⟩

/-- The connection of a task stays the one that the task was started for. -/
theorem Reachable.identity {limit : Nat} {script : List ReadAnswer} {d : Drive Handler}
    (reached : Reachable limit script d) {c : Connection Handler} (owned : d.connection? = some c) :
    c.identity = d.origin.identity := by
  obtain ⟨before, held, same⟩ := reached.held
  obtain rfl := Option.some.inj ((shared?_of_owned owned).symm.trans held)
  exact same

/-- A connection to be made, alone on its reactor. -/
def caller : Connection Nat where
  id := 1
  remote := ⟨.v4 1, 80⟩
  handler := 11
  requestTimeout := 30
  reader := .start 100

def ordered : PendingRequest Nat := ⟨1, 1, caller.remote, 21, 50⟩

def belated : PendingRequest Nat := ⟨2, 1, caller.remote, 22, 60⟩

def begun (script : List ReadAnswer) : Drive Nat :=
  start (({ index := 0 } : Reactor Nat).adopt caller) .empty caller script

theorem begun_reachable (script : List ReadAnswer) : Reachable 100 script (begun script) :=
  .start .empty ((Reactor.Reachable.start 0).adopt caller) rfl rfl rfl

/-- It has its socket and waits for input. -/
def settled (script : List ReadAnswer) : Drive Nat :=
  (((begun script).connect caller 7 none).announce
    ⟨11, .established caller.remote 1⟩ false).plan (caller.markConnected 7 none)

theorem settled_reachable (script : List ReadAnswer) : Reachable 100 script (settled script) := by
  have connected := (begun_reachable script).next (.move (.connect 7 none rfl rfl))
  exact (connected.next (.move (.announce false rfl))).next (.move (.plan rfl rfl))

end Drive

end MessageTransport
