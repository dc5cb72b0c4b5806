import Mathlib.Logic.Relation
import MessageTransport.Proofs.Drive.Steps
import MessageTransport.Proofs.Reassembly

set_option autoImplicit false

namespace MessageTransport

variable {Handler : Type}

namespace Transcript

/-- A transcript behind all that was got before it. -/
def behind (got : List Message) (t : Transcript) : Transcript :=
  { t with messages := got ++ t.messages }

theorem behind_after (got : List Message) (message : Option Message) (t : Transcript) :
    (t.after message).behind got = t.behind (got ++ message.toList) := by
  simp only [behind, after, List.append_assoc]

end Transcript

namespace Connection

/-- Whom a message is for: the handler of the connection if it is a request, and otherwise the
handler of the request that is pending under its id, if there is one. -/
def addressee (c : Connection Handler) (m : Message)
    (pending : Option (PendingRequest Handler)) : Option Handler :=
  if m.header.isRequest then some c.handler else pending.map PendingRequest.handler

/-- What is told of a message that has come in. -/
def relay (c : Connection Handler) (m : Message) (pending : Option (PendingRequest Handler)) :
    Option (Delivery Handler) :=
  (c.addressee m pending).map (fun handler => ⟨handler, c.received m⟩)

/-- What is told of messages that have come in one after another, each with what was pending under
its id at that moment. -/
def relayed (c : Connection Handler)
    (heard : List (Message × Option (PendingRequest Handler))) : List (Delivery Handler) :=
  heard.filterMap (fun entry => c.relay entry.1 entry.2)

/-- The requests among them, of which the handler of the connection is told. -/
def asked (c : Connection Handler)
    (heard : List (Message × Option (PendingRequest Handler))) : List (Delivery Handler) :=
  (heard.filter (fun entry => entry.1.header.isRequest)).map
    (fun entry => ⟨c.handler, c.received entry.1⟩)

theorem relayed_append (c : Connection Handler)
    (heard : List (Message × Option (PendingRequest Handler))) (m : Message)
    (pending : Option (PendingRequest Handler)) :
    c.relayed (heard ++ [(m, pending)]) = c.relayed heard ++ (c.relay m pending).toList := by
  rw [relayed, List.filterMap_append, relayed]
  refine congrArg (_ ++ ·) ?_
  cases told : c.relay m pending with
  | none => simp only [List.filterMap_cons, told, List.filterMap_nil, Option.toList_none]
  | some news => simp only [List.filterMap_cons, told, List.filterMap_nil, Option.toList_some]

theorem relay_of_identity {c other : Connection Handler} (same : c.identity = other.identity)
    (m : Message) (pending : Option (PendingRequest Handler)) :
    c.relay m pending = other.relay m pending := by
  have handler : c.handler = other.handler := congrArg (fun who => who.2.2) same
  rw [relay, addressee, handler, received_of_identity same, relay, addressee]

/-- Where no response is awaited by the handler of the connection, this handler is told of requests
alone. -/
theorem filter_relayed [DecidableEq Handler] (c : Connection Handler)
    {heard : List (Message × Option (PendingRequest Handler))}
    (others : ∀ entry ∈ heard, ∀ q ∈ entry.2, q.handler ≠ c.handler) :
    (c.relayed heard).filter (fun news => news.handler = c.handler) = c.asked heard := by
  induction heard with
  | nil => rfl
  | cons entry rest ih =>
    have later := ih (fun other member => others other (List.mem_cons_of_mem _ member))
    have others := others entry List.mem_cons_self
    obtain ⟨m, pending⟩ := entry
    unfold relayed asked relay addressee at later ⊢
    cases kind : m.header.isRequest with
    | true =>
      simp only [List.filterMap_cons, List.filter_cons, kind, ↓reduceIte, Option.map_some,
        decide_true, List.map_cons, later]
    | false =>
      cases pending with
      | none =>
        simp only [List.filterMap_cons, List.filter_cons, kind, Bool.false_eq_true, ↓reduceIte,
          Option.map_none, later]
      | some q =>
        have other := others q rfl
        simp only [List.filterMap_cons, List.filter_cons, kind, Bool.false_eq_true, ↓reduceIte,
          Option.map_some, decide_eq_true_eq, other, later]

end Connection

namespace Reactor

theorem rest_receive (r : Reactor Handler) (c : Connection Handler) (answers : List ReadAnswer) :
    (r.receive c answers).rest = (c.reader.advance answers).rest := by
  unfold receive
  dsimp only
  split <;> rfl

theorem receive_error (r : Reactor Handler) {c : Connection Handler} {answers : List ReadAnswer}
    {code : ErrorCode} (refused : (c.reader.advance answers).outcome = .error code) :
    (r.receive c answers).delivery = none ∧ (r.receive c answers).outcome = .error code := by
  simp only [receive, refused, and_self]

theorem receive_none (r : Reactor Handler) {c : Connection Handler} {answers : List ReadAnswer}
    (pending : (c.reader.advance answers).outcome = .ok none) :
    (r.receive c answers).delivery = none ∧ (r.receive c answers).outcome = .ok false := by
  simp only [receive, pending, and_self]

/-- A message that has come in is told to whom it is for as things stood before. -/
theorem receive_some (r : Reactor Handler) {c : Connection Handler} {answers : List ReadAnswer}
    {m : Message} (ended : (c.reader.advance answers).outcome = .ok (some m)) :
    (r.receive c answers).delivery = c.relay m (r.requests.pending? m.header.id) ∧
      (r.receive c answers).outcome = .ok true := by
  have table := r.requests_updateConnection c.id
    (fun c' => { c' with reader := (c.reader.advance answers).reader })
  simp only [receive, ended, and_true, dispatch, removeRequest, table]
  rw [(r.requests.remove_pending m.header.id).1, Connection.relay, Connection.addressee]
  cases m.header.isRequest with
  | true => rfl
  | false => rw [if_neg Bool.false_ne_true, if_neg Bool.false_ne_true, Option.map_map]; rfl

end Reactor

namespace Drive

def established (d : Drive Handler) : Delivery Handler :=
  ⟨d.origin.handler, .established d.origin.remote d.origin.id⟩

def disconnected (d : Drive Handler) (reason : ErrorCode) : Delivery Handler :=
  ⟨d.origin.handler, .disconnected d.origin.remote d.origin.id reason⟩

/-- What a task tells before the end: that the connection is established, if it is, and then the
messages it reads. -/
def spoken (d : Drive Handler) : List (Delivery Handler) :=
  if d.opened then d.established :: d.origin.relayed d.heard else []

/-- What a task tells in the end: that the requests which were pending have failed, and then that
the connection is gone. -/
def ending (d : Drive Handler) (reason : ErrorCode) : List (Delivery Handler) :=
  d.lost.map (Reactor.lostWith d.origin) ++ [d.disconnected reason]

/-- What the task has told the handler of the connection. -/
def own [DecidableEq Handler] (d : Drive Handler) : List (Delivery Handler) :=
  d.told.filter (fun news => news.handler = d.origin.handler)

/-- The handler of the connection has never been one that awaits a response. -/
structure Apart (d : Drive Handler) : Prop where
  heard : ∀ entry ∈ d.heard, ∀ q ∈ entry.2, q.handler ≠ d.origin.handler
  lost : ∀ q ∈ d.lost, q.handler ≠ d.origin.handler

/-- The task is at its socket. -/
def Phase.isReading : Phase Handler → Bool
  | planning => true
  | waiting _ => true
  | serving _ _ => true
  | _ => false

/-- The task has not begun to leave. -/
def Phase.isUnderWay : Phase Handler → Bool
  | opening => true
  | announcing _ => true
  | phase => phase.isReading

/-- What has been read is some messages and a part of another, and the rest is still to be read. -/
def Reads (limit : Nat) (script : List ReadAnswer) (d : Drive Handler) : Prop :=
  ∀ c, d.connection? = some c → c.reader.Midway ∧
    (MessageReader.start limit).said script = (c.reader.said d.inbox).behind (d.heard.map Prod.fst)

/-- What has been told at each phase. -/
def Stands (d : Drive Handler) : Prop :=
  match d.phase with
  | .opening => d.opened = false ∧ d.told = []
  | .announcing news => d.opened = true ∧ d.heard = [] ∧ d.told = [] ∧ news = d.established
  | .telling left => ∃ reason sofar, d.told = d.spoken ++ sofar ∧ sofar ++ left = d.ending reason
  | phase => (phase.isReading = true → d.opened = true) ∧ d.told = d.spoken

/-- What a task has read, in the order of the bytes, and told. -/
structure Course (limit : Nat) (script : List ReadAnswer) (d : Drive Handler) : Prop where
  first : d.heard.map Prod.fst <+: (Transcript.parse limit (MessageReader.stream script)).messages
  matched : ∀ entry ∈ d.heard, ∀ q ∈ entry.2, q.id = entry.1.header.id
  lost : ∀ q ∈ d.lost, q.connId = d.origin.id
  unopened : d.opened = false → d.heard = []
  reads : d.phase.isUnderWay = true → d.Reads limit script
  stands : d.Stands

variable {limit : Nat} {script : List ReadAnswer} {d next : Drive Handler}

theorem Spares.spoken (spares : d.Spares next) : next.spoken = d.spoken := by
  rw [Drive.spoken, spares.opened, spares.heard, established, spares.origin]
  rfl

theorem Reads.spared (reads : d.Reads limit script) (spares : d.Spares next) :
    next.Reads limit script := by
  intro c' owned
  obtain ⟨c, there, keeps⟩ := spares.connection c' owned
  rw [keeps.reader, spares.inbox, spares.heard]
  exact reads c there

/-- A step that neither reads nor takes anything out leaves to be shown how things stand. -/
theorem Course.spared (course : d.Course limit script) (spares : d.Spares next)
    (lost : next.lost = d.lost) (before : next.phase.isUnderWay = true → d.phase.isUnderWay = true)
    (stands : next.Stands) : next.Course limit script := by
  refine ⟨?_, ?_, ?_, ?_, fun here => (course.reads (before here)).spared spares, stands⟩
  · rw [spares.heard]
    exact course.first
  · rw [spares.heard]
    exact course.matched
  · rw [lost, spares.origin]
    exact course.lost
  · rw [spares.opened, spares.heard]
    exact course.unopened

/-- Whatever others do, the task has told what it had told. -/
theorem Stands.spared (stands : d.Stands) (spares : d.Spares next) (phase : next.phase = d.phase)
    (told : next.told = d.told) (lost : next.lost = d.lost) : next.Stands := by
  unfold Stands at stands ⊢
  rw [phase, told, spares.spoken, spares.opened, spares.heard]
  unfold ending established disconnected at *
  rw [spares.origin, lost]
  exact stands

theorem Stands.reading (stands : d.Stands) (reads : d.phase.isReading = true) :
    d.opened = true ∧ d.told = d.spoken := by
  unfold Stands at stands
  split at stands
  · rename_i phase
    rw [phase] at reads
    cases reads
  · rename_i phase
    rw [phase] at reads
    cases reads
  · rename_i phase
    rw [phase] at reads
    cases reads
  · exact ⟨stands.1 reads, stands.2⟩

/-- Nothing has been told, and nothing is to be told, of a connection that never had its socket. -/
theorem Stands.opening (stands : d.Stands) (phase : d.phase = .opening) : d.told = d.spoken := by
  simp only [Stands, phase] at stands
  rw [stands.2, spoken, stands.1]
  rfl

theorem stands_of_reading (reads : d.phase.isReading = true) (opened : d.opened = true)
    (told : d.told = d.spoken) : d.Stands := by
  unfold Stands
  split
  · rename_i phase
    rw [phase] at reads
    cases reads
  · rename_i phase
    rw [phase] at reads
    cases reads
  · rename_i phase
    rw [phase] at reads
    cases reads
  · exact ⟨fun _ => opened, told⟩

theorem stands_of_leaving {reason : ErrorCode} (phase : d.phase = .leaving reason)
    (told : d.told = d.spoken) : d.Stands := by
  simp only [Stands, phase]
  exact ⟨nofun, told⟩

theorem Phase.isUnderWay_of_isReading {phase : Phase Handler} (reads : phase.isReading = true) :
    phase.isUnderWay = true := by
  cases phase with
  | planning => rfl
  | waiting forOutput => rfl
  | serving reads writes => rfl
  | _ => cases reads

/-- A task that leaves has told what it had told. -/
theorem Course.leaves (course : d.Course limit script) (spares : d.Spares next)
    (lost : next.lost = d.lost) (spoken : d.told = d.spoken) (told : next.told = d.told)
    {reason : ErrorCode} (phase : next.phase = .leaving reason) : next.Course limit script := by
  refine course.spared spares lost ?_ (stands_of_leaving phase ?_)
  · rw [phase]
    nofun
  · rw [told, spoken, spares.spoken]

/-- A task that stays at its socket and reads nothing has told what it had told. -/
theorem Course.stays (course : d.Course limit script) (spares : d.Spares next)
    (lost : next.lost = d.lost) (told : next.told = d.told) (reads : d.phase.isReading = true)
    (still : next.phase.isReading = true) : next.Course limit script := by
  obtain ⟨opened, spoken⟩ := course.stands.reading reads
  refine course.spared spares lost (fun _ => Phase.isUnderWay_of_isReading reads) ?_
  refine stands_of_reading still (spares.opened.trans opened) ?_
  rw [told, spoken, spares.spoken]

theorem Course.connect (course : d.Course limit script) (reached : d.reactor.Reachable)
    {c : Connection Handler} (phase : d.phase = .opening) (owned : d.connection? = some c)
    (same : c.identity = d.origin.identity) (socket : Nat) (localAddress : Option Endpoint) :
    (d.connect c socket localAddress).Course limit script := by
  have stands := course.stands
  simp only [Stands, phase] at stands
  have nothing := course.unopened stands.1
  refine ⟨course.first, course.matched, course.lost, nofun, ?_, ?_⟩
  · intro _ c' owner
    rw [connection?_connect reached owned] at owner
    obtain rfl := Option.some.inj owner
    exact course.reads (by rw [phase]; rfl) c owned
  · refine ⟨rfl, nothing, stands.2, ?_⟩
    simp only [Connection.identity, Prod.mk.injEq] at same
    simp only [Reactor.establish, established, Drive.connect, same]

theorem Course.announce (course : d.Course limit script) {news : Delivery Handler}
    (phase : d.phase = .announcing news) (panics : Bool) :
    (d.announce news panics).Course limit script := by
  have stands := course.stands
  simp only [Stands, phase] at stands
  obtain ⟨opened, unheard, nothing, rfl⟩ := stands
  have told : (d.announce d.established panics).told = (d.announce d.established panics).spoken := by
    show d.told ++ [d.established] = if d.opened then d.established :: d.origin.relayed d.heard else []
    rw [nothing, opened, unheard]
    rfl
  refine ⟨course.first, course.matched, course.lost, course.unopened, ?_, ?_⟩
  · exact fun _ => course.reads (by rw [phase]; rfl)
  · cases panics with
    | true => exact stands_of_leaving rfl told
    | false => exact stands_of_reading rfl opened told

theorem Course.flush (course : d.Course limit script) {c : Connection Handler}
    (owned : d.connection? = some c) (reads : d.phase.isReading = true)
    (answers : List WriteAnswer) : (d.flush c answers).Course limit script := by
  rcases d.phase_flush c answers with failed | written
  · exact course.leaves (spares_flush owned answers) rfl (course.stands.reading reads).2 rfl failed
  · exact course.stays (spares_flush owned answers) rfl rfl reads (by rw [written]; rfl)

theorem heard_read (d : Drive Handler) {c : Connection Handler} {message : Option Message}
    (returned : (c.reader.advance d.inbox).outcome = .ok message) (writes panics : Bool) :
    (d.read c writes panics).heard =
      d.heard ++ message.toList.map (fun m => (m, d.reactor.requests.pending? m.header.id)) := by
  simp only [Drive.read, incoming, returned]

/-- What is left to be read after one go at reading. -/
theorem Reads.read (reads : d.Reads limit script) (reached : d.reactor.Reachable)
    {c : Connection Handler} (owned : d.connection? = some c) {message : Option Message}
    (returned : (c.reader.advance d.inbox).outcome = .ok message) (writes panics : Bool) :
    (d.read c writes panics).Reads limit script := by
  obtain ⟨midway, said⟩ := reads c owned
  obtain ⟨ready, rest⟩ := MessageReader.advance_ok midway returned
  intro c' owner
  rw [connection?_read reached owned] at owner
  obtain rfl := Option.some.inj owner
  refine ⟨ready, ?_⟩
  have heard : (d.read c writes panics).heard.map Prod.fst =
      d.heard.map Prod.fst ++ message.toList := by
    rw [d.heard_read returned, List.map_append, List.map_map]
    exact congrArg (_ ++ ·) (List.map_id _)
  rw [heard]
  show _ = ((c.reader.advance d.inbox).reader.said (d.reactor.receive c d.inbox).rest).behind _
  rw [Reactor.rest_receive, said, rest, Transcript.behind_after]

theorem Reads.first (reads : d.Reads limit script) {c : Connection Handler}
    (owned : d.connection? = some c) :
    d.heard.map Prod.fst <+: (Transcript.parse limit (MessageReader.stream script)).messages := by
  obtain ⟨-, said⟩ := reads c owned
  have all : (Transcript.parse limit (MessageReader.stream script)).messages =
      d.heard.map Prod.fst ++ (c.reader.said d.inbox).messages := congrArg Transcript.messages said
  rw [all]
  exact List.prefix_append _ _

/-- One go at reading ends with a message that is told to whom it is for, with nothing or with a
failure. -/
theorem Course.read (course : d.Course limit script) (reached : d.reactor.Reachable)
    {c : Connection Handler} (owned : d.connection? = some c)
    (same : c.identity = d.origin.identity) {writes : Bool}
    (phase : d.phase = .serving true writes) (panics : Bool) :
    (d.read c writes panics).Course limit script := by
  have reading : d.phase.isReading = true := by rw [phase]; rfl
  obtain ⟨opened, spoken⟩ := course.stands.reading reading
  have reads := course.reads (Phase.isUnderWay_of_isReading reading)
  cases outcome : (c.reader.advance d.inbox).outcome with
  | error code =>
    obtain ⟨nothing, fails⟩ := d.reactor.receive_error outcome
    have heard : (d.read c writes panics).heard = d.heard := by
      simp only [Drive.read, incoming, outcome, Option.toList_none, List.map_nil, List.append_nil]
    have told : (d.read c writes panics).told = (d.read c writes panics).spoken := by
      rw [Drive.spoken, heard]
      simp only [Drive.read, nothing, Option.toList_none, List.append_nil]
      exact spoken
    have leaves : (d.read c writes panics).phase = .leaving code := by
      simp only [Drive.read, fails, phaseAfter]
    refine ⟨heard ▸ course.first, heard ▸ course.matched, course.lost, heard ▸ course.unopened, ?_,
      stands_of_leaving leaves told⟩
    rw [leaves]
    nofun
  | ok message =>
    have heard := d.heard_read outcome writes panics
    have after := reads.read reached owned outcome writes panics
    refine ⟨after.first (connection?_read reached owned writes panics), ?_, course.lost, ?_,
      fun _ => after, ?_⟩
    · intro entry member q pending
      rw [heard] at member
      rcases List.mem_append.mp member with before | new
      · exact course.matched entry before q pending
      · obtain ⟨m, -, rfl⟩ := List.mem_map.mp new
        obtain ⟨l, represents⟩ := reached.represents
        exact (represents.pending?_eq_some_iff.mp pending).2
    · intro closed
      exact absurd (closed.symm.trans opened) Bool.false_ne_true
    · cases message with
      | none =>
        obtain ⟨nothing, blocks⟩ := d.reactor.receive_none outcome
        rw [Option.toList_none, List.map_nil, List.append_nil] at heard
        have goesOn : (d.read c writes panics).phase = .serving false writes := by
          simp only [Drive.read, blocks, phaseAfter]
        refine stands_of_reading (by rw [goesOn]; rfl) opened ?_
        rw [Drive.spoken, heard]
        simp only [Drive.read, nothing, Option.toList_none, List.append_nil]
        exact spoken
      | some m =>
        obtain ⟨delivery, more⟩ := d.reactor.receive_some outcome
        have told : (d.read c writes panics).told = (d.read c writes panics).spoken := by
          rw [Drive.spoken, heard]
          simp only [Drive.read, delivery, opened, ↓reduceIte, Option.toList_some, List.map_cons,
            List.map_nil]
          rw [Connection.relayed_append, spoken, Drive.spoken, if_pos opened,
            Connection.relay_of_identity same]
          rfl
        -- The task reads on, unless the handler panicked.
        have phase : (d.read c writes panics).phase = phaseAfter writes
            ((d.reactor.receive c d.inbox).delivery.isSome && panics) (.ok true) := by
          simp only [Drive.read, more]
        cases panicked : (d.reactor.receive c d.inbox).delivery.isSome && panics with
        | true =>
          rw [panicked] at phase
          exact stands_of_leaving phase told
        | false =>
          rw [panicked] at phase
          exact stands_of_reading (by rw [phase]; rfl) opened told

/-- A task that takes its connection apart tells nobody before it has taken out what is pending. -/
theorem Course.departs (course : d.Course limit script) (spares : d.Spares next)
    (lost : next.lost = d.lost) (away : next.phase.isUnderWay = false) (stands : next.Stands) :
    next.Course limit script :=
  course.spared spares lost (fun under => absurd (away.symm.trans under) Bool.false_ne_true) stands

theorem spares_disown (d : Drive Handler) (reason : ErrorCode) : d.Spares (d.disown reason) := by
  refine ⟨rfl, rfl, rfl, rfl, ?_, ?_⟩
  · intro c' owned
    rw [connection?_disown] at owned
    cases owned
  · exact fun c held => ⟨c, (d.shared?_disown reason).trans held, .refl c⟩

theorem Course.purge (course : d.Course limit script) (reached : d.reactor.Reachable)
    {reason : ErrorCode} (phase : d.phase = .unregistered reason) :
    (d.purge reason).Course limit script := by
  have stands := course.stands
  simp only [Stands, phase] at stands
  obtain ⟨l, represents⟩ := reached.represents
  obtain ⟨purged, -, -⟩ := represents.purge d.origin.id
  refine ⟨course.first, course.matched, ?_, course.unopened, nofun, ?_⟩
  · intro q member
    exact (Ledger.mem_ofConnection.mp (purged.mem_iff.mp member)).2
  · exact ⟨reason, [], stands.2.trans (List.append_nil _).symm, rfl⟩

theorem Course.tell (course : d.Course limit script) {news : Delivery Handler}
    {left : List (Delivery Handler)} (phase : d.phase = .telling (news :: left)) :
    (d.tell news left).Course limit script := by
  have stands := course.stands
  simp only [Stands, phase] at stands
  obtain ⟨reason, sofar, told, whole⟩ := stands
  refine ⟨course.first, course.matched, course.lost, course.unopened, nofun,
    reason, sofar ++ [news], ?_, ?_⟩
  · show d.told ++ [news] = _
    rw [told, List.append_assoc]
    rfl
  · rw [List.append_assoc]
    exact whole

theorem Course.move (course : d.Course limit script) (reached : d.reactor.Reachable)
    (same : ∀ c, d.connection? = some c → c.identity = d.origin.identity) (move : d.Move next) :
    next.Course limit script := by
  have stands := course.stands
  have reading {phase : Phase Handler} (here : d.phase = phase) (reads : phase.isReading = true) :
      d.phase.isReading = true := by rw [here, reads]
  cases move with
  | connect socket localAddress phase owned =>
    exact course.connect reached phase owned (same _ owned) socket localAddress
  | refuse reason phase =>
    exact course.leaves (spares_of_same rfl rfl rfl rfl rfl rfl) rfl (stands.opening phase) rfl rfl
  | cancel phase owned asked =>
    exact course.leaves (d.spares_obey _ _) rfl (stands.opening phase) rfl rfl
  | announce panics phase => exact course.announce phase panics
  | plan phase owned =>
    exact course.stays (spares_of_same rfl rfl rfl rfl rfl rfl) rfl rfl (reading phase rfl) rfl
  | heed phase owned woken => exact course.stays d.spares_heed rfl rfl (reading phase rfl) rfl
  | obey phase owned asked =>
    exact course.leaves (d.spares_obey _ _) rfl (stands.reading (reading phase rfl)).2 rfl rfl
  | lose phase =>
    exact course.leaves (spares_of_same rfl rfl rfl rfl rfl rfl) rfl
      (stands.reading (reading phase rfl)).2 rfl rfl
  | serve reads writes phase =>
    exact course.stays (spares_of_same rfl rfl rfl rfl rfl rfl) rfl rfl (reading phase rfl) rfl
  | read panics phase owned => exact course.read reached owned (same _ owned) phase panics
  | flush answers phase owned => exact course.flush owned (reading phase rfl) answers
  | goAround phase =>
    exact course.stays (spares_of_same rfl rfl rfl rfl rfl rfl) rfl rfl (reading phase rfl) rfl
  | shut phase =>
    simp only [Stands, phase] at stands
    exact course.departs (d.spares_shut _) rfl rfl
      ⟨nofun, stands.2.trans (d.spares_shut _).spoken.symm⟩
  | disown phase =>
    simp only [Stands, phase] at stands
    exact course.departs (d.spares_disown _) rfl rfl ⟨nofun, stands.2⟩
  | unregister phase =>
    simp only [Stands, phase] at stands
    exact course.departs (spares_of_same rfl rfl rfl rfl rfl rfl) rfl rfl ⟨nofun, stands.2⟩
  | purge phase => exact course.purge reached phase
  | tell phase => exact course.tell phase

theorem Around.told {d next : Drive Handler} (around : d.Around next) :
    next.told = d.told ∧ next.lost = d.lost := by
  cases around with
  | _ => exact ⟨rfl, rfl⟩

theorem course_start {r : Reactor Handler} {c : Connection Handler}
    (registry : Registry ConnectionRef) (owned : r.connection? c.id = some c)
    (unread : c.reader = .start limit) : (start r registry c script).Course limit script := by
  refine ⟨List.nil_prefix, nofun, nofun, fun _ => rfl, ?_, rfl, rfl⟩
  intro _ c' there
  obtain rfl := Option.some.inj (owned.symm.trans there)
  rw [unread]
  exact ⟨MessageReader.start_midway limit, rfl⟩

theorem Reachable.course (reached : Reachable limit script d) : d.Course limit script := by
  induction reached with
  | start registry reached owned connecting unread => exact course_start registry owned unread
  | next reached step ih =>
    cases step with
    | around around =>
      obtain ⟨told, lost⟩ := around.told
      exact ih.spared around.spares lost (fun under => around.phase ▸ under)
        (ih.stands.spared around.spares around.phase told lost)
    | move move => exact ih.move reached.reactor (fun c => reached.identity) move

theorem filter_own_cons [DecidableEq Handler] {handler : Handler} {news : Delivery Handler}
    (mine : news.handler = handler) (rest : List (Delivery Handler)) :
    (news :: rest).filter (fun news => news.handler = handler) =
      news :: rest.filter (fun news => news.handler = handler) := by
  rw [List.filter_cons, if_pos (decide_eq_true mine)]

theorem own_spoken [DecidableEq Handler] (apart : d.Apart) :
    d.spoken.filter (fun news => news.handler = d.origin.handler) =
      if d.opened then d.established :: d.origin.asked d.heard else [] := by
  rw [spoken]
  cases d.opened with
  | false => rfl
  | true =>
    refine (filter_own_cons rfl _).trans ?_
    exact congrArg (d.established :: ·) (d.origin.filter_relayed apart.heard)

theorem own_lost [DecidableEq Handler] (apart : d.Apart) {some : List (Delivery Handler)}
    (within : ∀ news ∈ some, news ∈ d.lost.map (Reactor.lostWith d.origin)) :
    some.filter (fun news => news.handler = d.origin.handler) = [] := by
  apply List.filter_eq_nil_iff.mpr
  intro news member same
  obtain ⟨q, lost, rfl⟩ := List.mem_map.mp (within news member)
  exact apart.lost q lost (of_decide_eq_true same)

/-- Where its handler awaits no responses, it is told of the connection and of the requests that
come in on it: nothing before the connection is established, and nothing once it is told that it is
gone. -/
theorem Course.own [DecidableEq Handler] (course : d.Course limit script) (apart : d.Apart) :
    d.phase ≠ .telling [] ∧ (d.own = [] ∨ d.own = d.established :: d.origin.asked d.heard) ∨
      d.phase = .telling [] ∧ ∃ reason, d.own =
        (if d.opened then d.established :: d.origin.asked d.heard else []) ++
          [d.disconnected reason] := by
  have whole := own_spoken apart
  have either : d.spoken.filter (fun news => news.handler = d.origin.handler) = [] ∨
      d.spoken.filter (fun news => news.handler = d.origin.handler) =
        d.established :: d.origin.asked d.heard := by
    rw [whole]
    cases d.opened with
    | false => exact .inl rfl
    | true => exact .inr rfl
  have stands := course.stands
  unfold Stands at stands
  split at stands
  · rename_i phase
    exact .inl ⟨by rw [phase]; nofun, .inl (by rw [Drive.own, stands.2, List.filter_nil])⟩
  · rename_i phase
    exact .inl ⟨by rw [phase]; nofun, .inl (by rw [Drive.own, stands.2.2.1, List.filter_nil])⟩
  · rename_i left phase
    obtain ⟨reason, sofar, told, all⟩ := stands
    cases left with
    | nil =>
      refine .inr ⟨phase, reason, ?_⟩
      rw [List.append_nil] at all
      rw [Drive.own, told, all, ending, List.filter_append, List.filter_append, whole,
        own_lost apart (fun _ => id), List.nil_append]
      exact congrArg (_ ++ ·) (filter_own_cons rfl [])
    | cons next left =>
      -- What has been told of the end so far is about lost requests.
      have shorter : sofar.length ≤ (d.lost.map (Reactor.lostWith d.origin)).length := by
        have lengths := congrArg List.length all
        rw [ending, List.length_append, List.length_append, List.length_cons,
          List.length_singleton] at lengths
        omega
      have sofar_lost := List.prefix_of_prefix_length_le ⟨_, all⟩ (List.prefix_append _ _) shorter
      refine .inl ⟨by rw [phase]; nofun, ?_⟩
      rw [Drive.own, told, List.filter_append,
        own_lost apart (fun news member => sofar_lost.subset member), List.append_nil]
      exact either
  · rename_i others
    refine .inl ⟨others [], ?_⟩
    rw [Drive.own, stands.2]
    exact either

/-- Before the end, nothing has been told, or that the connection is established and then each
message that has been read, to whom it is for. -/
theorem Course.before (course : d.Course limit script) (early : ∀ left, d.phase ≠ .telling left) :
    d.told = [] ∨ d.told = d.established :: d.origin.relayed d.heard := by
  have stands := course.stands
  unfold Stands at stands
  split at stands
  · exact .inl stands.2
  · exact .inl stands.2.2.1
  · rename_i left phase
    exact absurd phase (early left)
  · rw [stands.2, spoken]
    cases d.opened with
    | false => exact .inl rfl
    | true => exact .inr rfl

/-- In the end everything before it has been told, and then the end. -/
theorem Course.telling (course : d.Course limit script) {left : List (Delivery Handler)}
    (phase : d.phase = .telling left) :
    d.spoken <+: d.told ∧ ∃ reason, d.told ++ left = d.spoken ++ d.ending reason := by
  have stands := course.stands
  simp only [Stands, phase] at stands
  obtain ⟨reason, sofar, told, whole⟩ := stands
  refine ⟨⟨sofar, told.symm⟩, reason, ?_⟩
  rw [told, List.append_assoc, whole]

/-- What has still to be told is told, one after another. -/
theorem tells (left : List (Delivery Handler)) (phase : d.phase = .telling left) :
    Relation.ReflTransGen Move d { d with told := d.told ++ left, phase := .telling [] } := by
  induction left generalizing d with
  | nil =>
    have same : { d with told := d.told ++ [], phase := .telling [] } = d := by
      rw [List.append_nil, ← phase]
    rw [same]
  | cons news left ih =>
    have rest := ih (d := d.tell news left) rfl
    rw [tell, List.append_assoc] at rest
    exact .head (.tell phase) rest

/-- A task that leaves takes its connection apart and comes to its end, whatever it leaves for, and
what comes of it is what comes of taking the connection apart at once. -/
theorem departs {reason : ErrorCode} (phase : d.phase = .leaving reason) :
    let detached := d.reactor.detach d.registry d.origin
    ∃ last, Relation.ReflTransGen Move d last ∧ last.phase = .telling [] ∧
      last.heard = d.heard ∧ last.told = d.told ++ last.ending reason ∧
      last.ending reason = detached.deliveries reason ∧ last.registry = detached.registry ∧
      last.reactor.requests = detached.reactor.requests ∧ last.connection? = none := by
  have table : (d.shut reason).reactor.requests = d.reactor.requests :=
    d.reactor.requests_updateConnection _ _
  have index : (d.shut reason).reactor.index = d.reactor.index :=
    d.reactor.index_updateConnection _ _
  have shut := Relation.ReflTransGen.single (Move.shut phase)
  have disowned := shut.tail (.disown rfl)
  have unregistered := disowned.tail (.unregister rfl)
  have purged := unregistered.tail (.purge rfl)
  refine ⟨_, purged.trans (tells _ rfl), rfl, rfl, rfl, ?_, ?_, ?_,
    d.shut reason |>.connection?_disown reason⟩
  · show ((d.shut reason).reactor.requests.purge d.origin.id).1.map _ ++ _ = _
    rw [table]
    rfl
  · show (d.registry.removeHandle d.origin.remote ⟨(d.shut reason).reactor.index, _⟩).2 = _
    rw [index]
    rfl
  · show ((d.shut reason).reactor.requests.purge d.origin.id).2 = _
    rw [table]
    rfl

/-- Whatever the socket does, whoever asks for the connection to be closed, and wherever its
handlers panic: a task reads messages in the order of the bytes and without a gap. Before its end it
tells that the connection is established, if it is, and then of each message that it has read, a
request to the handler of the connection and a response to the handler of the request that was
pending under its id. In the end it tells of the requests that are lost, and last that the
connection is disconnected. Where the handler of the connection awaits no responses, it is told that
the connection is established, of the requests in their order, and as the last thing, and once, that
it is disconnected, and of nothing but this if it was never established. A task that leaves for any
reason comes to that end. -/
theorem course_of_reachable [DecidableEq Handler] (reached : Reachable limit script d) :
    (d.heard.map Prod.fst <+: (Transcript.parse limit (MessageReader.stream script)).messages ∧
      (∀ entry ∈ d.heard, ∀ q ∈ entry.2, q.id = entry.1.header.id) ∧
      ∀ q ∈ d.lost, q.connId = d.origin.id) ∧
    ((∀ left, d.phase ≠ .telling left) →
      d.told = [] ∨ d.told = d.established :: d.origin.relayed d.heard) ∧
    (d.phase.isReading = true →
      d.told = d.established :: d.origin.relayed d.heard ∧ d.Reads limit script) ∧
    (∀ left, d.phase = .telling left →
      d.spoken <+: d.told ∧ ∃ reason, d.told ++ left = d.spoken ++ d.ending reason) ∧
    (d.Apart →
      d.phase ≠ .telling [] ∧ (d.own = [] ∨ d.own = d.established :: d.origin.asked d.heard) ∨
        d.phase = .telling [] ∧ ∃ reason, d.own =
          (if d.opened then d.established :: d.origin.asked d.heard else []) ++
            [d.disconnected reason]) ∧
    ∀ reason, d.phase = .leaving reason → ∃ last, Relation.ReflTransGen Move d last ∧
      last.phase = .telling [] ∧ last.heard = d.heard ∧ last.told = d.told ++ last.ending reason := by
  have course := reached.course
  refine ⟨⟨course.first, course.matched, course.lost⟩, course.before, ?_, fun _ => course.telling,
    course.own, ?_⟩
  · intro reading
    obtain ⟨opened, told⟩ := course.stands.reading reading
    rw [spoken, if_pos opened] at told
    exact ⟨told, course.reads (Phase.isUnderWay_of_isReading reading)⟩
  · intro reason phase
    obtain ⟨last, moves, ended, heard, told, -⟩ := departs phase
    exact ⟨last, moves, ended, heard, told⟩

/-- A request of one byte. -/
def asks : Header := { (Header.ofCommand 5).setFlag Header.requestFlag with totalLength := 39 }

/-- A response of one byte. -/
def answers (id : UInt32) : Header := { Header.ofCommand 5 with id, totalLength := 39 }

/-- A request, a response that nobody awaits, one that is awaited, and then the end. -/
def passages : List ReadAnswer :=
  [.data (asks.encode ++ [3]), .data ((answers 9).encode ++ [4]), .data ((answers 1).encode ++ [5]),
    .endOfStream]

/-- Two requests are pending when the socket has something to read. -/
def awaiting : Drive Nat :=
  (((((settled passages).enter (some ordered) []).record 0 ⟨some ordered, [], .found⟩).enter
    (some belated) []).record 1 ⟨some belated, [], .found⟩).serve true false

/-- One more go at reading, with the connection behind it. -/
def listen (s : Drive Nat × Connection Nat) : Drive Nat × Connection Nat :=
  (s.1.read s.2 false false,
    { s.2 with reader := (s.2.reader.advance s.1.inbox).reader })

def drained : Drive Nat := (listen^[4] (awaiting, caller.markConnected 7 none)).1

/-- One request was still pending. -/
def gone : Drive Nat :=
  (((((drained.shut .brokenConnection).disown .brokenConnection).unregister
    .brokenConnection).purge .brokenConnection).tell
      ⟨22, .failed caller.remote 1 2 .brokenConnection⟩
      [drained.disconnected .brokenConnection]).tell (drained.disconnected .brokenConnection) []

theorem awaiting_reachable : Reachable 100 passages awaiting := by
  have fits : ∀ q ∈ some ordered, (settled passages).Fits q := by
    intro q own
    obtain rfl := Option.some.inj own
    exact ⟨rfl, rfl, by decide +kernel, nofun⟩
  have entered := (settled_reachable passages).next (.around (.enter (some ordered) [] fits))
  have recorded := entered.next (.around (.record (i := 0) rfl rfl))
  have fits : ∀ q ∈ some belated,
      (((settled passages).enter (some ordered) []).record 0 ⟨some ordered, [], .found⟩).Fits q := by
    intro q own
    obtain rfl := Option.some.inj own
    refine ⟨rfl, rfl, by decide +kernel, ?_⟩
    intro call member p request
    obtain rfl := List.mem_singleton.mp member
    obtain rfl := Option.some.inj request
    decide
  have entered := recorded.next (.around (.enter (some belated) [] fits))
  have recorded := entered.next (.around (.record (i := 1) rfl rfl))
  exact recorded.next (.move (.serve true false rfl))

theorem listen_reachable {s : Drive Nat × Connection Nat} (reached : Reachable limit script s.1)
    (phase : s.1.phase = .serving true false) (owned : s.1.connection? = some s.2) :
    Reachable limit script (listen s).1 ∧ (listen s).1.connection? = some (listen s).2 :=
  ⟨reached.next (.move (.read false phase owned)),
    connection?_read reached.reactor owned false false⟩

theorem drained_reachable : Reachable 100 passages drained := by
  obtain ⟨reached, owned⟩ := listen_reachable (s := (awaiting, caller.markConnected 7 none))
    awaiting_reachable rfl rfl
  obtain ⟨reached, owned⟩ := listen_reachable reached (by decide +kernel) owned
  obtain ⟨reached, owned⟩ := listen_reachable reached (by decide +kernel) owned
  exact (listen_reachable reached (by decide +kernel) owned).1

theorem gone_reachable : Reachable 100 passages gone := by
  have leaves : drained.phase = .leaving .brokenConnection := by decide +kernel
  have shut := drained_reachable.next (.move (.shut leaves))
  have unregistered := (shut.next (.move (.disown rfl))).next (.move (.unregister rfl))
  have purged := unregistered.next (.move (.purge rfl))
  have last : (((drained.shut .brokenConnection).disown .brokenConnection).unregister
      .brokenConnection).detached.deliveries .brokenConnection =
        [⟨22, .failed caller.remote 1 2 .brokenConnection⟩,
          drained.disconnected .brokenConnection] := by decide +kernel
  exact (purged.next (.move (.tell (congrArg Phase.telling last)))).next (.move (.tell rfl))

/-- Nobody is told of the response that nobody awaited. -/
theorem course_of_reachable_gone :
    Reachable 100 passages gone ∧ gone.phase = .telling [] ∧ gone.Apart ∧
      gone.told = [gone.established, ⟨11, caller.received ⟨asks.sealed, [3]⟩⟩,
        ⟨21, caller.received ⟨(answers 1).sealed, [5]⟩⟩,
        ⟨22, .failed caller.remote 1 2 .brokenConnection⟩, gone.disconnected .brokenConnection] ∧
      (∃ reason, gone.told ++ [] = gone.spoken ++ gone.ending reason) ∧
      ∃ reason, gone.own =
        gone.established :: gone.origin.asked gone.heard ++ [gone.disconnected reason] := by
  have apart : gone.Apart := ⟨by decide +kernel, by decide +kernel⟩
  obtain ⟨-, -, -, telling, own, -⟩ := course_of_reachable gone_reachable
  refine ⟨gone_reachable, rfl, apart, by decide +kernel, (telling [] rfl).2, ?_⟩
  rcases own apart with ⟨underway, -⟩ | ⟨-, reason, told⟩
  · exact absurd rfl underway
  · exact ⟨reason, told⟩

end Drive

end MessageTransport
