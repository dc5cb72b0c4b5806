import MessageTransport.Proofs.Framing
import MessageTransport.Proofs.Transport.Accounts
import MessageTransport.Proofs.Transport.Upkeep

set_option autoImplicit false

namespace MessageTransport

variable {Handler : Type}

/-- A peer's reply that was delivered: the number of the request that it answers, the draft that the
peer sent, and who was told. -/
structure Answer (Handler : Type) where
  request : Nat
  draft : Draft
  delivery : Delivery Handler

/-- A transport and what has happened on it so far. -/
structure Traffic (Handler : Type) where
  transport : Transport Handler
  /-- The requests that were handed to a connection, in order. -/
  sendings : List (Sending Handler) := []
  /-- The events that were told, each with the reactor that told it. -/
  told : List (Nat × Delivery Handler) := []
  /-- How many ids were drawn for requests. -/
  drawn : Nat := 0
  answers : List (Answer Handler) := []

namespace Traffic

def start (config : Config) (processors : Nat) : Traffic Handler where
  transport := .start config processors

/-- The reactor of a connection, and the connection as it owns it. -/
structure Holds (s : Traffic Handler) (ref : ConnectionRef) (r : Reactor Handler)
    (c : Connection Handler) : Prop where
  reactor : s.transport.pool.reactor? ref.reactor = some r
  connection : r.connection? ref.connId = some c

/-- The record of a request that is sent. -/
def sending (s : Traffic Handler) (draft : Draft) (handler : Option Handler)
    (outcome : Except ErrorCode UInt32) (ref : ConnectionRef) : Sending Handler :=
  let id := s.transport.nextId handler
  ⟨ref, id, handler, Transport.asRequest draft id handler.isSome, outcome⟩

def send (s : Traffic Handler) (now : Instant) (remote : Endpoint) (draft : Draft)
    (handler : Option Handler) (answers : List WriteAnswer) : Traffic Handler :=
  let sent := s.transport.sendRequest now remote draft handler answers
  { s with
    transport := sent.transport
    sendings := s.sendings ++ (sent.ref.map (s.sending draft handler sent.outcome)).toList
    drawn :=
      if (s.transport.isConnected remote).1 && handler.isSome then s.drawn + 1 else s.drawn }

/-- A reactor tells some events, and the transport changes. -/
def tell (s : Traffic Handler) (index : Nat) (ds : List (Delivery Handler))
    (next : Transport Handler) : Traffic Handler :=
  { s with transport := next, told := s.told ++ ds.map (fun d => (index, d)) }

def establish (s : Traffic Handler) (ref : ConnectionRef) (r : Reactor Handler)
    (c : Connection Handler) (socket : Nat) (localAddress : Option Endpoint) : Traffic Handler :=
  let (delivery, next) := r.establish c socket localAddress
  s.tell ref.reactor [delivery] (s.transport.updateReactor ref.reactor (fun _ => next))

/-- A message arrives on a connection. -/
def hear (s : Traffic Handler) (ref : ConnectionRef) (r : Reactor Handler)
    (c : Connection Handler) (m : Message) : Traffic Handler :=
  let (delivery, next) := r.dispatch c m
  s.tell ref.reactor delivery.toList (s.transport.updateReactor ref.reactor (fun _ => next))

/-- A reply to a request arrives on the connection that the request went out on. -/
def hearReply (s : Traffic Handler) (number : Nat) (request : Sending Handler) (r : Reactor Handler)
    (c : Connection Handler) (draft : Draft) (m : Message) : Traffic Handler :=
  { s.hear request.ref r c m with
    answers := s.answers ++ ((r.dispatch c m).1.map (fun d => ⟨number, draft, d⟩)).toList }

def sweep (s : Traffic Handler) (index : Nat) (r : Reactor Handler) (now : Instant) :
    Traffic Handler :=
  let (ds, next) := r.sweep now
  s.tell index ds (s.transport.updateReactor index (fun _ => next))

def teardown (s : Traffic Handler) (ref : ConnectionRef) (c : Connection Handler)
    (reason : ErrorCode) : Traffic Handler :=
  let (ds, next) := s.transport.teardown ref c reason
  s.tell ref.reactor ds next

/-- What a peer sends back for a request that it has received: its draft with a header prepared from
the one received, as it goes out as a response. -/
def replyTo (asked : Message) (draft : Draft) : Except ErrorCode Message :=
  (Transport.asResponse (draft.setHeader (draft.header.inReplyTo asked.header))).message

/-- One step. Any message may arrive on any connection at any time; a reply is one that a peer sends
back for a request that went out to it. -/
inductive Step (s : Traffic Handler) : Traffic Handler → Prop where
  | connect (remote : Endpoint) (timeoutMs : Nat) (handler : Handler) :
    Step s { s with transport := (s.transport.connect remote timeoutMs handler).2 }
  | accept (index : Nat) (remote : Endpoint) (socket : Nat) (handler : Handler) :
    Step s { s with transport := (s.transport.accept index remote socket handler).2 }
  | takeUp {index : Nat} {r next : Reactor Handler}
    (found : s.transport.pool.reactor? index = some r) (taken : r.takeUp? = some next) :
    Step s { s with transport := s.transport.updateReactor index (fun _ => next) }
  | establish {ref : ConnectionRef} {r : Reactor Handler} {c : Connection Handler}
    (holds : s.Holds ref r c) (socket : Nat) (localAddress : Option Endpoint) :
    Step s (s.establish ref r c socket localAddress)
  | flush (ref : ConnectionRef) (answers : List WriteAnswer) :
    Step s { s with
      transport := s.transport.updateConnection ref (fun c => (c.flush answers).1) }
  | close (remote : Endpoint) : Step s { s with transport := (s.transport.closeSocket remote).2 }
  | setTimer (due : Instant) (handler : Handler) :
    Step s { s with transport := (s.transport.setTimer due handler).2 }
  | respond (remote : Endpoint) (draft : Draft) (answers : List WriteAnswer) :
    Step s { s with transport := (s.transport.sendResponse remote draft answers).transport }
  | send (now : Instant) (remote : Endpoint) (draft : Draft) (handler : Option Handler)
    (answers : List WriteAnswer) : Step s (s.send now remote draft handler answers)
  | hear {ref : ConnectionRef} {r : Reactor Handler} {c : Connection Handler}
    (holds : s.Holds ref r c) (m : Message) : Step s (s.hear ref r c m)
  | reply {number : Nat} {request : Sending Handler} {r : Reactor Handler} {c : Connection Handler}
    {asked answer : Message} (sent : s.sendings[number]? = some request)
    (received : request.draft.message = .ok asked) (draft : Draft)
    (framed : replyTo asked draft = .ok answer) (holds : s.Holds request.ref r c) :
    Step s (s.hearReply number request r c draft answer)
  | sweep {index : Nat} {r : Reactor Handler}
    (found : s.transport.pool.reactor? index = some r) (now : Instant) :
    Step s (s.sweep index r now)
  | teardown {ref : ConnectionRef} {r : Reactor Handler} {c : Connection Handler}
    (holds : s.Holds ref r c) (reason : ErrorCode) : Step s (s.teardown ref c reason)

inductive Reachable (config : Config) (processors : Nat) : Traffic Handler → Prop where
  | start : Reachable config processors (start config processors)
  | next {s s' : Traffic Handler} (reached : Reachable config processors s) (step : s.Step s') :
    Reachable config processors s'

/-- The requests that were sent with a handler over a reactor. -/
def sentOver (s : Traffic Handler) (index : Nat) : List (Sending Handler) :=
  s.sendings.filter (fun k => k.ref.reactor = index && k.handler.isSome)

def toldBy (s : Traffic Handler) (index : Nat) : List (Delivery Handler) :=
  (s.told.filter (fun d => d.1 = index)).map Prod.snd

/-- An account says of a reactor what it has pending, what was sent over it and what it told. -/
structure Keeps (s : Traffic Handler) (index : Nat) (a : Account Handler) : Prop where
  represents : (s.transport.requestsOf index).Represents a.pending
  sent : a.sent = s.sentOver index
  told : a.told = s.toldBy index

theorem toldBy_tell (s : Traffic Handler) (index : Nat) (ds : List (Delivery Handler))
    (next : Transport Handler) : (s.tell index ds next).toldBy index = s.toldBy index ++ ds := by
  have own : (ds.map (fun d => (index, d))).filter (fun d => d.1 = index) =
      ds.map (fun d => (index, d)) := by
    apply List.filter_eq_self.mpr
    intro d member
    obtain ⟨delivery, -, rfl⟩ := List.mem_map.mp member
    exact decide_eq_true rfl
  rw [toldBy, tell, List.filter_append, own, List.map_append, List.map_map]
  congr 1
  exact List.map_id ds

theorem toldBy_tell_of_ne (s : Traffic Handler) {index other : Nat} (apart : index ≠ other)
    (ds : List (Delivery Handler)) (next : Transport Handler) :
    (s.tell index ds next).toldBy other = s.toldBy other := by
  have nothing : (ds.map (fun d => (index, d))).filter (fun d => d.1 = other) = [] := by
    apply List.filter_eq_nil_iff.mpr
    intro d member same
    obtain ⟨delivery, -, rfl⟩ := List.mem_map.mp member
    exact apart (of_decide_eq_true same)
  rw [toldBy, tell, List.filter_append, nothing, List.append_nil, toldBy]

theorem keeps_start (config : Config) (processors index : Nat) :
    (start config processors : Traffic Handler).Keeps index ⟨[], [], []⟩ := by
  refine ⟨?_, rfl, rfl⟩
  show (Transport.requestsOf (.start config processors) index).Represents []
  rw [Transport.requestsOf_start]
  exact RequestTable.represents_empty

/-- A transport that spares its requests goes on with the same accounts. -/
theorem Keeps.spared {s : Traffic Handler} {index : Nat} {a : Account Handler}
    (keeps : s.Keeps index a) {next : Transport Handler} (spared : s.transport.Spared next) :
    ∃ b, { s with transport := next }.Keeps index b ∧ a.Step b := by
  refine ⟨a, ⟨?_, keeps.sent, keeps.told⟩, .refl a⟩
  rw [spared.requests]
  exact keeps.represents

/-- A reactor puts an end to some of its requests, and the other reactors go on as before. -/
theorem Keeps.tell {s : Traffic Handler} {index : Nat} {a : Account Handler}
    (keeps : s.Keeps index a) {reactor : Nat} {r next : Reactor Handler}
    {ds : List (Delivery Handler)} (found : s.transport.pool.reactor? reactor = some r)
    (ends : ∀ l, r.requests.Represents l → ∃ rest, next.requests.Represents rest ∧ Ends l rest ds)
    {t : Transport Handler} (same : ∀ index, t.requestsOf index =
      (s.transport.updateReactor reactor (fun _ => next)).requestsOf index) :
    ∃ b, (s.tell reactor ds t).Keeps index b ∧ a.Step b := by
  by_cases here : reactor = index
  · subst here
    have represents := keeps.represents
    rw [Transport.requestsOf_eq found] at represents
    obtain ⟨rest, left, ends⟩ := ends a.pending represents
    refine ⟨⟨rest, a.sent, a.told ++ ds⟩, ⟨?_, keeps.sent, ?_⟩, .ends ends⟩
    · show (t.requestsOf reactor).Represents rest
      rw [same, Transport.requestsOf_updateReactor found]
      exact left
    · rw [toldBy_tell, ← keeps.told]
  · refine ⟨a, ⟨?_, keeps.sent, ?_⟩, .refl a⟩
    · show (t.requestsOf index).Represents a.pending
      rw [same, Transport.requestsOf_updateReactor_of_ne _ here]
      exact keeps.represents
    · rw [toldBy_tell_of_ne s here, ← keeps.told]

theorem sentOver_push {s next : Traffic Handler} {index : Nat} {k : Sending Handler}
    (more : next.sendings = s.sendings ++ [k]) (here : k.ref.reactor = index)
    (whom : k.handler.isSome = true) : next.sentOver index = s.sentOver index ++ [k] := by
  have counted : (decide (k.ref.reactor = index) && k.handler.isSome) = true :=
    Bool.and_eq_true_iff.mpr ⟨decide_eq_true here, whom⟩
  rw [sentOver, more, List.filter_append, List.filter_cons, if_pos counted, List.filter_nil,
    sentOver]

/-- A request without a handler, or over another reactor, does not count. -/
theorem sentOver_of_uncounted {s next : Traffic Handler} {index : Nat} {k : Sending Handler}
    (more : next.sendings = s.sendings ++ [k])
    (uncounted : k.ref.reactor = index → k.handler = none) :
    next.sentOver index = s.sentOver index := by
  have apart : ¬(decide (k.ref.reactor = index) && k.handler.isSome) = true := by
    intro counted
    obtain ⟨here, whom⟩ := Bool.and_eq_true_iff.mp counted
    rw [uncounted (of_decide_eq_true here)] at whom
    cases whom
  rw [sentOver, more, List.filter_append, List.filter_cons, if_neg apart, List.filter_nil,
    List.append_nil, sentOver]

/-- A request that was sent is entered in the account of its reactor. -/
theorem Keeps.push {s next : Traffic Handler} {index : Nat} {a : Account Handler}
    (keeps : s.Keeps index a) {k : Sending Handler} (more : next.sendings = s.sendings ++ [k])
    (here : k.ref.reactor = index) (whom : k.handler.isSome = true) (told : next.told = s.told)
    {pending : Ledger Handler}
    (represents : (next.transport.requestsOf index).Represents pending) :
    next.Keeps index ⟨pending, a.sent ++ [k], a.told⟩ := by
  refine ⟨represents, ?_, ?_⟩
  · show a.sent ++ [k] = next.sentOver index
    rw [sentOver_push more here whom, keeps.sent]
  · show a.told = next.toldBy index
    rw [keeps.told, toldBy, toldBy, told]

theorem Keeps.send {s : Traffic Handler} {index : Nat} {a : Account Handler}
    (keeps : s.Keeps index a) (now : Instant) (remote : Endpoint) (draft : Draft)
    (handler : Option Handler) (answers : List WriteAnswer) :
    ∃ b, (s.send now remote draft handler answers).Keeps index b ∧ a.Step b := by
  have sends := s.transport.sends_of_sendRequest now remote draft handler answers
  generalize sent : s.transport.sendRequest now remote draft handler answers = result at sends
  have pool : (s.send now remote draft handler answers).transport = result.transport :=
    congrArg Transport.Sent.transport sent
  have more : (s.send now remote draft handler answers).sendings = s.sendings ++
      (result.ref.map (s.sending draft handler result.outcome)).toList := by
    rw [← sent]
    rfl
  have unchanged (spared : result.transport.requestsOf index = s.transport.requestsOf index)
      (uncounted : (s.send now remote draft handler answers).sentOver index = s.sentOver index) :
      ∃ b, (s.send now remote draft handler answers).Keeps index b ∧ a.Step b := by
    refine ⟨a, ⟨?_, keeps.sent.trans uncounted.symm, keeps.told⟩, .refl a⟩
    rw [pool, spared]
    exact keeps.represents
  have records {ref : ConnectionRef} {request : PendingRequest Handler}
      (whom : handler = some request.handler) (id : request.id = s.transport.nextId handler) :
      (s.sending draft handler result.outcome ref).Records request := by
    refine ⟨id.symm, whom, ?_⟩
    show s.transport.nextId handler ≠ 0
    rw [whom]
    exact IdAllocator.take_ne_zero _
  cases sends with
  | refused nowhere spared =>
    rw [nowhere] at more
    refine unchanged (spared index) ?_
    rw [sentOver, more, sentOver]
    exact congrArg (List.filter _) (List.append_nil s.sendings)
  | unrecorded reached nobody spared =>
    rw [reached] at more
    exact unchanged (spared index) (sentOver_of_uncounted more (fun _ => nobody))
  | @kept ref request reached whom id outcome own others =>
    rw [reached] at more
    by_cases here : index = ref.reactor
    · subst here
      refine ⟨_, keeps.push more rfl (congrArg Option.isSome whom) rfl ?_,
        .kept (records whom id) (outcome.trans (congrArg Except.ok id))⟩
      rw [pool, own]
      exact keeps.represents.insert request
    · exact unchanged (others index here)
        (sentOver_of_uncounted more (fun same => absurd same.symm here))
  | @withdrawn ref request code reached whom id outcome own others =>
    rw [reached] at more
    by_cases here : index = ref.reactor
    · subst here
      refine ⟨_, keeps.push more rfl (congrArg Option.isSome whom) rfl ?_,
        .withdrawn (records whom id) outcome⟩
      rw [pool, own]
      exact ((keeps.represents.insert request).remove request.id).2
    · exact unchanged (others index here)
        (sentOver_of_uncounted more (fun same => absurd same.symm here))

theorem Step.keeps {s s' : Traffic Handler} (step : s.Step s') {index : Nat} {a : Account Handler}
    (keeps : s.Keeps index a) : ∃ b, s'.Keeps index b ∧ a.Step b := by
  cases step with
  | connect remote timeoutMs handler => exact keeps.spared (Transport.spared_connect ..)
  | accept index remote socket handler => exact keeps.spared (Transport.spared_accept ..)
  | takeUp found taken =>
    refine keeps.spared (Transport.spared_updateReactor _ _ ?_)
    intro r present
    obtain rfl := Option.some.inj (found.symm.trans present)
    exact Reactor.requests_takeUp? taken
  | @establish ref r c holds socket localAddress =>
    apply keeps.tell holds.reactor
    · intro l represents
      refine ⟨l, ?_, Ends.quiet l ?_⟩
      · rw [Reactor.requests_updateConnection]
        exact represents
      · intro d member
        obtain rfl := List.mem_singleton.mp member
        rfl
    · intro index
      rfl
  | flush ref answers => exact keeps.spared (Transport.spared_updateConnection ..)
  | close remote => exact keeps.spared (Transport.spared_closeSocket ..)
  | setTimer due handler => exact keeps.spared (Transport.spared_setTimer ..)
  | respond remote draft answers => exact keeps.spared (Transport.spared_sendResponse ..)
  | send now remote draft handler answers => exact keeps.send now remote draft handler answers
  | @hear ref r c holds m =>
    exact keeps.tell holds.reactor (fun l represents => r.dispatch_ends represents c m)
      (fun index => rfl)
  | @reply number request r c asked answer sent received draft framed holds =>
    obtain ⟨b, kept, step⟩ := keeps.tell holds.reactor
      (fun l represents => Reactor.dispatch_ends represents c answer) (fun index => rfl)
    exact ⟨b, ⟨kept.represents, kept.sent, kept.told⟩, step⟩
  | @sweep reactor r found now =>
    exact keeps.tell found (fun l represents => Reactor.sweep_ends represents now)
      (fun index => rfl)
  | @teardown ref r c holds reason =>
    have taken : s.teardown ref c reason = s.tell ref.reactor
        ((r.detach s.transport.registry c).deliveries reason)
        ({ s.transport with registry := (r.detach s.transport.registry c).registry }.updateReactor
          ref.reactor (fun _ => (r.detach s.transport.registry c).reactor)) := by
      rw [Traffic.teardown, Transport.teardown, holds.reactor]
    rw [taken]
    exact keeps.tell holds.reactor
      (fun l represents => Reactor.detach_ends represents s.transport.registry c reason)
      (fun index => rfl)

theorem Reachable.account {config : Config} {processors : Nat} {s : Traffic Handler}
    (reached : Reachable config processors s) (index : Nat) :
    ∃ a, s.Keeps index a ∧ a.Lawful := by
  induction reached with
  | start => exact ⟨_, keeps_start config processors index, Account.lawful_empty⟩
  | next reached step ih =>
    obtain ⟨a, keeps, lawful⟩ := ih
    obtain ⟨b, kept, changed⟩ := step.keeps keeps
    exact ⟨b, kept, lawful.step changed kept.represents.distinct⟩

end Traffic

end MessageTransport
