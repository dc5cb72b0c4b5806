import MessageTransport.Connection
import MessageTransport.Proofs.Framing
import MessageTransport.Proofs.OutboundQueue
import MessageTransport.Proofs.Reassembly

set_option autoImplicit false

namespace MessageTransport

/-- Whether an answer is that of a writer in good health, which takes something or cannot right
now. -/
def WriteAnswer.Healthy : WriteAnswer → Prop
  | .takesAll => True
  | .takes limit => 0 < limit
  | .fails fault => fault = .wouldBlock ∨ fault = .interrupted

theorem WriteAnswer.Healthy.not_refuses {answer : WriteAnswer} (healthy : answer.Healthy) :
    ¬answer.Refuses := by
  intro refuses
  cases answer with
  | takesAll => exact refuses
  | takes limit =>
    have willing : 0 < limit := healthy
    exact Nat.ne_of_gt willing refuses
  | fails fault =>
    rcases healthy with rfl | rfl
    · exact refuses.1 rfl
    · exact refuses.2 rfl

theorem OutboundQueue.flush_healthy {chunks : List Bytes} (filled : ∀ chunk ∈ chunks, chunk ≠ [])
    {answers : List WriteAnswer} (healthy : ∀ answer ∈ answers, answer.Healthy) :
    ∃ emptied, (flush chunks answers).outcome = .ok emptied := by
  induction answers generalizing chunks with
  | nil =>
    cases chunks with
    | nil => exact ⟨true, by rw [flush_nil]⟩
    | cons chunk rest => exact ⟨false, by rw [flush_unanswered]⟩
  | cons answer answers ih =>
    cases chunks with
    | nil => exact ⟨true, by rw [flush_nil]⟩
    | cons chunk rest =>
      obtain ⟨willing, others⟩ := List.forall_mem_cons.mp healthy
      cases firstWrite filled answer with
      | goesOn next written filled progress flushed =>
        rw [flushed]
        exact ih filled others
      | blocked blocks flushed => exact ⟨false, by rw [flushed]⟩
      | refused refuses flushed => exact absurd refuses willing.not_refuses

namespace Connection

variable {Handler : Type}

/-- A connection that nobody has given up, and whose queue is in order. -/
structure Open (c : Connection Handler) : Prop where
  live : c.state ≠ .closed
  wanted : c.closeReason = none
  filled : ∀ chunk ∈ c.outbound.chunks, chunk ≠ []

theorem Open.markConnected {c : Connection Handler} (opened : c.Open) (socket : Nat)
    (localAddress : Option Endpoint) : (c.markConnected socket localAddress).Open := by
  refine ⟨?_, opened.wanted, opened.filled⟩
  show (if c.state = .connecting then ConnectionState.connected else c.state) ≠ .closed
  split
  · decide
  · exact opened.live

/-- A flush by a healthy writer leaves the connection open, and what it wrote is what went. -/
theorem Open.flush {c : Connection Handler} (opened : c.Open) {answers : List WriteAnswer}
    (healthy : ∀ answer ∈ answers, answer.Healthy) :
    (c.flush answers).1.Open ∧ (∃ emptied, (c.flush answers).2.1 = .ok emptied) ∧
      (c.flush answers).2.2 ++ (c.flush answers).1.outbound.pending = c.outbound.pending :=
  ⟨⟨opened.live, opened.wanted, OutboundQueue.flush_ne_nil opened.filled answers⟩,
    OutboundQueue.flush_healthy opened.filled healthy,
    OutboundQueue.written_append_pending c.outbound.chunks answers⟩

/-- Chunks go behind all that was queued, and a healthy writer gives no reason to give up. -/
theorem Open.enqueue {c : Connection Handler} (opened : c.Open) (chunks : List Bytes)
    {answers : List WriteAnswer} (healthy : ∀ answer ∈ answers, answer.Healthy) :
    (c.enqueue chunks answers).connection.Open ∧
      ((c.enqueue chunks answers).followUp = .ok .nothing ∨
        (c.enqueue chunks answers).followUp = .ok .wakeWriter) ∧
      (c.enqueue chunks answers).written ++
          (c.enqueue chunks answers).connection.outbound.pending =
        c.outbound.pending ++ chunks.flatten := by
  have queued := OutboundQueue.pending_extend c.outbound chunks
  have filled := OutboundQueue.extend_ne_nil opened.filled chunks
  unfold Connection.enqueue
  dsimp only
  split
  · rename_i closed
    exact absurd closed opened.live
  · exact ⟨⟨opened.live, opened.wanted, filled⟩, .inl rfl, queued⟩
  · split
    · obtain ⟨emptied, outcome⟩ := OutboundQueue.flush_healthy filled healthy
      refine ⟨⟨opened.live, opened.wanted, OutboundQueue.flush_ne_nil filled answers⟩, ?_, ?_⟩
      · rw [outcome]
        cases emptied with
        | true => exact .inl rfl
        | false => exact .inr rfl
      · rw [← queued]
        exact OutboundQueue.written_append_pending (c.outbound.extend chunks).chunks answers
    · exact ⟨⟨opened.live, opened.wanted, filled⟩, .inr rfl, queued⟩

/-- A send to a healthy writer succeeds. -/
theorem Open.send {c : Connection Handler} (opened : c.Open) (chunks : List Bytes)
    {answers : List WriteAnswer} (healthy : ∀ answer ∈ answers, answer.Healthy) :
    (c.send chunks answers).connection.Open ∧ (c.send chunks answers).outcome = .ok () ∧
      (c.send chunks answers).written ++ (c.send chunks answers).connection.outbound.pending =
        c.outbound.pending ++ chunks.flatten := by
  obtain ⟨still, followUp, kept⟩ := opened.enqueue chunks healthy
  unfold Connection.send
  dsimp only
  rcases followUp with nothing | wake
  · rw [nothing]
    exact ⟨still, rfl, kept⟩
  · rw [wake]
    exact ⟨⟨still.live, still.wanted, still.filled⟩, rfl, kept⟩

end Connection

/-- Two ends of a connection. What is in transit has been written and not yet been read. -/
structure Link (Handler : Type) where
  /-- The sending end. -/
  connection : Connection Handler
  /-- The drafts sent so far. -/
  sent : List Draft
  transit : Bytes
  /-- The answers that the receiving end's reads have had so far. -/
  answers : List ReadAnswer

namespace Link

variable {Handler : Type}

/-- A link of a connection that has nothing behind it yet. -/
def start (c : Connection Handler) : Link Handler := ⟨c, [], [], []⟩

/-- Sends a draft. One that cannot be framed counts as sent and goes nowhere. -/
def send (l : Link Handler) (d : Draft) (answers : List WriteAnswer) : Link Handler :=
  match d.chunks with
  | .error _ => { l with sent := l.sent ++ [d] }
  | .ok chunks =>
    let done := l.connection.send chunks answers
    { l with
      connection := done.connection
      sent := l.sent ++ [d]
      transit := l.transit ++ done.written }

def connect (l : Link Handler) (socket : Nat) (localAddress : Option Endpoint) : Link Handler :=
  { l with connection := l.connection.markConnected socket localAddress }

def flush (l : Link Handler) (answers : List WriteAnswer) : Link Handler :=
  let (connection, _, written) := l.connection.flush answers
  { l with connection, transit := l.transit ++ written }

/-- Gives a read some of the bytes in transit. -/
def deliver (l : Link Handler) (count : Nat) : Link Handler :=
  { l with
    transit := l.transit.drop count
    answers := l.answers ++ [.data (l.transit.take count)] }

/-- Gives a read nothing. -/
def stall (l : Link Handler) (fault : IoFault) : Link Handler :=
  { l with answers := l.answers ++ [.fails fault] }

/-- One step of either end. Drafts can be sent while the connection is made, writers are healthy,
and reads are given something or are told to come again. -/
inductive Step (limit : Nat) (l : Link Handler) : Link Handler → Prop where
  | send (d : Draft) (answers : List WriteAnswer) (frameable : d.Frameable limit)
      (healthy : ∀ answer ∈ answers, answer.Healthy) : Step limit l (l.send d answers)
  | connect (socket : Nat) (localAddress : Option Endpoint) :
      Step limit l (l.connect socket localAddress)
  | flush (answers : List WriteAnswer) (connected : l.connection.state = .connected)
      (healthy : ∀ answer ∈ answers, answer.Healthy) : Step limit l (l.flush answers)
  | deliver (count : Nat) (some : 0 < count) (there : count ≤ l.transit.length) :
      Step limit l (l.deliver count)
  | stall (fault : IoFault) (again : fault = .wouldBlock ∨ fault = .interrupted) :
      Step limit l (l.stall fault)

/-- The states of a link, from a connection that is being made and has nothing to write. -/
inductive Reachable (limit : Nat) : Link Handler → Prop where
  | start (c : Connection Handler) (connecting : c.state = .connecting)
      (idle : c.outbound = .empty) (wanted : c.closeReason = none) : Reachable limit (start c)
  | next {l l' : Link Handler} : Reachable limit l → Step limit l l' → Reachable limit l'

/-- The calls of the receiving end's reader so far. -/
def calls (l : Link Handler) (limit : Nat) : List MessageReader.ReadCall :=
  (MessageReader.start limit).drain l.answers

/-- What holds at every moment: each byte of the messages sent has been read, is in transit or is
queued, in order, and reads have been given nothing else. -/
structure Sound (limit : Nat) (l : Link Handler) : Prop where
  opened : l.connection.Open
  undisturbed : MessageReader.ending? l.answers = none
  conserved : ∃ ms, l.sent.map Draft.message = ms.map .ok ∧ (∀ m ∈ ms, m.Intact limit) ∧
    MessageReader.stream l.answers ++ l.transit ++ l.connection.outbound.pending =
      Message.encodeAll ms

theorem sound_start (limit : Nat) {c : Connection Handler} (connecting : c.state = .connecting)
    (idle : c.outbound = .empty) (wanted : c.closeReason = none) : (start c).Sound limit := by
  have nothing : c.outbound.chunks = [] := by rw [idle]; rfl
  refine ⟨⟨?_, wanted, ?_⟩, rfl, [], rfl, ?_, ?_⟩
  · rw [start, connecting]
    decide
  · intro chunk member
    rw [start, nothing] at member
    cases member
  · intro m member
    cases member
  · simp only [start, OutboundQueue.pending, nothing]
    rfl

theorem Sound.send {limit : Nat} {l : Link Handler} (sound : l.Sound limit) {d : Draft}
    (frameable : d.Frameable limit) {answers : List WriteAnswer}
    (healthy : ∀ answer ∈ answers, answer.Healthy) : (l.send d answers).Sound limit := by
  obtain ⟨m, chunks, message, intact, split, joined⟩ := frameable.framed
  obtain ⟨opened, -, kept⟩ := sound.opened.send chunks healthy
  obtain ⟨ms, sent, allIntact, conserved⟩ := sound.conserved
  simp only [Link.send, split]
  refine ⟨opened, sound.undisturbed, ms ++ [m], ?_, ?_, ?_⟩
  · rw [List.map_append, sent, List.map_append]
    show ms.map .ok ++ [d.message] = _
    rw [message]
    rfl
  · intro other member
    rcases List.mem_append.mp member with earlier | last
    · exact allIntact other earlier
    · rw [List.mem_singleton.mp last]
      exact intact
  · calc MessageReader.stream l.answers ++ (l.transit ++ (l.connection.send chunks answers).written)
          ++ (l.connection.send chunks answers).connection.outbound.pending
        = MessageReader.stream l.answers ++ l.transit ++
            ((l.connection.send chunks answers).written ++
              (l.connection.send chunks answers).connection.outbound.pending) := by
          simp only [List.append_assoc]
      _ = MessageReader.stream l.answers ++ l.transit ++ l.connection.outbound.pending ++
            m.encode := by
          rw [kept, joined]
          simp only [List.append_assoc]
      _ = Message.encodeAll (ms ++ [m]) := by
          rw [conserved, Message.encodeAll_append, Message.encodeAll_cons, Message.encodeAll_nil,
            List.append_nil]

theorem Sound.flush {limit : Nat} {l : Link Handler} (sound : l.Sound limit)
    {answers : List WriteAnswer} (healthy : ∀ answer ∈ answers, answer.Healthy) :
    (l.flush answers).Sound limit := by
  obtain ⟨opened, -, kept⟩ := sound.opened.flush healthy
  obtain ⟨ms, sent, intact, conserved⟩ := sound.conserved
  refine ⟨opened, sound.undisturbed, ms, sent, intact, ?_⟩
  rw [← conserved, ← kept]
  simp only [Link.flush, List.append_assoc]

theorem Sound.deliver {limit : Nat} {l : Link Handler} (sound : l.Sound limit) {count : Nat}
    (some : 0 < count) (there : count ≤ l.transit.length) : (l.deliver count).Sound limit := by
  have nonempty : l.transit.take count ≠ [] := by
    intro empty
    have := congrArg List.length empty
    simp only [List.length_take, List.length_nil] at this
    omega
  obtain ⟨ending, bytes⟩ :=
    MessageReader.ending?_append sound.undisturbed [.data (l.transit.take count)]
  rw [MessageReader.ending?_data nonempty] at ending
  rw [MessageReader.stream_data nonempty] at bytes
  obtain ⟨ms, sent, intact, conserved⟩ := sound.conserved
  refine ⟨sound.opened, ending, ms, sent, intact, ?_⟩
  rw [← conserved]
  simp only [Link.deliver, bytes, MessageReader.stream, List.append_nil, List.append_assoc]
  rw [← List.append_assoc (l.transit.take count), List.take_append_drop]

theorem Sound.stall {limit : Nat} {l : Link Handler} (sound : l.Sound limit) {fault : IoFault}
    (again : fault = .wouldBlock ∨ fault = .interrupted) : (l.stall fault).Sound limit := by
  obtain ⟨ending, bytes⟩ := MessageReader.ending?_append sound.undisturbed [.fails fault]
  have nothing : MessageReader.ending? [.fails fault] = none ∧
      MessageReader.stream [.fails fault] = [] := by
    rcases again with rfl | rfl <;> exact ⟨rfl, rfl⟩
  rw [nothing.1] at ending
  rw [nothing.2, List.append_nil] at bytes
  obtain ⟨ms, sent, intact, conserved⟩ := sound.conserved
  refine ⟨sound.opened, ending, ms, sent, intact, ?_⟩
  rw [← conserved]
  simp only [Link.stall, bytes]

theorem Sound.step {limit : Nat} {l l' : Link Handler} (sound : l.Sound limit)
    (step : Step limit l l') : l'.Sound limit := by
  cases step with
  | send d answers frameable healthy => exact sound.send frameable healthy
  | connect socket localAddress =>
    exact ⟨sound.opened.markConnected socket localAddress, sound.undisturbed, sound.conserved⟩
  | flush answers connected healthy => exact sound.flush healthy
  | deliver count some there => exact sound.deliver some there
  | stall fault again => exact sound.stall again

theorem Reachable.sound {limit : Nat} {l : Link Handler} (reachable : Reachable limit l) :
    l.Sound limit := by
  induction reachable with
  | start c connecting idle wanted => exact sound_start limit connecting idle wanted
  | next _ step ih => exact ih.step step

/-- What has been read says the first of the messages sent, and all of them once nothing is left to
be written or read. -/
theorem Sound.parse_answers {limit : Nat} {l : Link Handler} (sound : l.Sound limit) :
    let got := Transcript.parse limit (MessageReader.stream l.answers)
    got.failure = none ∧ got.messages.map .ok <+: l.sent.map Draft.message ∧
      (l.connection.outbound.isEmpty = true → l.transit = [] →
        got.messages.map .ok = l.sent.map Draft.message) := by
  obtain ⟨ms, sent, intact, conserved⟩ := sound.conserved
  have whole := Transcript.parse_encodeAll intact
  rw [← conserved, List.append_assoc] at whole
  obtain ⟨first, final⟩ := Transcript.parse_append limit (MessageReader.stream l.answers)
    (l.transit ++ l.connection.outbound.pending)
  rw [whole] at first final
  rw [sent]
  refine ⟨?_, first.map _, ?_⟩
  · by_cases failed : (Transcript.parse limit (MessageReader.stream l.answers)).failure = none
    · exact failed
    · rw [← final failed]
  · intro flushed arrived
    have nothing : l.connection.outbound.chunks = [] := List.isEmpty_iff.mp flushed
    have all : l.transit ++ l.connection.outbound.pending = [] := by
      rw [arrived, OutboundQueue.pending, nothing]
      rfl
    rw [all, List.append_nil] at whole
    rw [whole]

theorem transcript_calls {limit : Nat} {l : Link Handler} (sound : l.Sound limit) :
    MessageReader.transcript (l.calls limit) =
      Transcript.parse limit (MessageReader.stream l.answers) := by
  have said := MessageReader.drain_said (MessageReader.start_midway limit) l.answers
  rw [MessageReader.said, sound.undisturbed, Transcript.endedBy_none] at said
  exact said

/-- Whatever part of the drafts is sent before the connection is there, whenever output is flushed
and however little of it is taken at once, and however the written bytes reach the reader: none of
its calls fails, the messages they return are the first of those sent, each with its finished header
and its whole payload, and once all output is written and read they are all of those sent. -/
theorem received_of_reachable {limit : Nat} {l : Link Handler} (reachable : Reachable limit l) :
    (∀ call ∈ l.calls limit, ∃ got, call.outcome = .ok got) ∧
      (MessageReader.transcript (l.calls limit)).messages.map .ok <+: l.sent.map Draft.message ∧
      (l.connection.outbound.isEmpty = true → l.transit = [] →
        (MessageReader.transcript (l.calls limit)).messages.map .ok =
          l.sent.map Draft.message) := by
  have sound := reachable.sound
  obtain ⟨fine, first, all⟩ := sound.parse_answers
  rw [transcript_calls sound]
  refine ⟨?_, first, all⟩
  intro call member
  apply MessageReader.outcome_of_mem _ member
  rw [transcript_calls sound]
  exact fine

/-- A connection to be made, with nothing to write. -/
def unopened : Connection Unit where
  id := 1
  remote := ⟨.v4 0x7f000001, 9000⟩
  handler := ()
  requestTimeout := 0
  reader := .start 100

/-- A message of 41 bytes that is sent while the connection is made and written in two parts. -/
def written : Link Unit :=
  let sent := (start unopened).send ⟨Header.ofCommand 5, [1, 2], [3]⟩ []
  let part := (sent.connect 7 none).flush [.takes 30, .fails .wouldBlock]
  part.flush [.takesAll, .takes 1, .takesAll, .takesAll]

/-- The same message, read in two parts. -/
def exchanged : Link Unit := ((written.deliver 20).stall .wouldBlock).deliver 21

theorem exchanged_reachable : Reachable 100 exchanged := by
  have started : Reachable 100 (start unopened) := .start unopened rfl rfl rfl
  have framed : Draft.Frameable 100 ⟨Header.ofCommand 5, [1, 2], [3]⟩ :=
    ⟨rfl, rfl, by decide, by decide⟩
  have sent := (started.next (.send _ [] framed (by simp))).next (.connect 7 none)
  have part := sent.next (.flush [.takes 30, .fails .wouldBlock] rfl (by simp [WriteAnswer.Healthy]))
  have whole := part.next
    (.flush [.takesAll, .takes 1, .takesAll, .takesAll] rfl (by simp [WriteAnswer.Healthy]))
  have there : written.transit.length = 41 := by cbv
  have first := (whole.next (.deliver 20 (by decide) (by rw [← written, there]; decide))).next
    (.stall .wouldBlock (.inl rfl))
  exact first.next (.deliver 21 (by decide) (by cbv))

theorem received_of_reachable_exchanged :
    Reachable 100 exchanged ∧
      (MessageReader.transcript (exchanged.calls 100)).messages.map .ok =
        exchanged.sent.map Draft.message :=
  ⟨exchanged_reachable,
    (received_of_reachable exchanged_reachable).2.2 (by cbv) (by cbv)⟩

end Link

end MessageTransport
