import MessageTransport.Proofs.Transport.Numbering

set_option autoImplicit false

namespace MessageTransport

variable {Handler : Type}

namespace Traffic

/-- A reply is no request, and it has its own payload and the id, group and command of what it
answers. -/
theorem replyTo_fields {asked answer : Message} {draft : Draft}
    (framed : replyTo asked draft = .ok answer) :
    answer.payload = draft.payload ∧ answer.header.isRequest = false ∧
      answer.header.id = asked.header.id ∧ answer.header.groupId = asked.header.groupId ∧
      answer.header.command = asked.header.command := by
  obtain ⟨payload, flags, id, groupId, command⟩ := Draft.message_fields framed
  have cleared := (draft.header.inReplyTo asked.header).isRequest_clearFlag
  refine ⟨payload, ?_, id, groupId, command⟩
  rw [Header.isRequest, Header.hasFlag, flags]
  exact cleared

/-- The draft of a request bears its id, and a request without a handler has none. -/
theorem Reachable.ids {config : Config} {processors : Nat} {s : Traffic Handler}
    (reached : Reachable config processors s) {request : Sending Handler}
    (member : request ∈ s.sendings) :
    request.draft.header.id = request.id ∧ (request.handler = none → request.id = 0) := by
  induction reached with
  | start => cases member
  | @next s s' reached step ih =>
    rcases step.idle_or_send with ⟨sendings, -, -⟩ | ⟨now, remote, draft, handler, answers, rfl⟩
    · rw [sendings] at member
      exact ih member
    · rcases List.mem_append.mp member with before | now
      · exact ih before
      · obtain ⟨ref, -, rfl⟩ := Option.map_eq_some_iff.mp (Option.mem_toList.mp now)
        refine ⟨?_, ?_⟩
        · show (Transport.asRequest _ _ handler.isSome).header.id = s.transport.nextId handler
          cases handler <;> rfl
        · rintro rfl
          rfl

/-- A reply is delivered only while its request is pending, and then to the handler of the request. -/
theorem Reachable.replied {config : Config} {processors : Nat} {s : Traffic Handler}
    (reached : Reachable config processors s) (numbered : s.Numbered) {request : Sending Handler}
    (member : request ∈ s.sendings) {r : Reactor Handler} {c : Connection Handler}
    (holds : s.Holds request.ref r c) {answer : Message}
    (response : answer.header.isRequest = false) (own : answer.header.id = request.id)
    {d : Delivery Handler} (told : (r.dispatch c answer).1 = some d) :
    request.handler = some d.handler ∧ s.toldOf request = [] ∧
      d.event = .message c.remote c.id answer.header answer.payload := by
  obtain ⟨a, keeps, lawful⟩ := reached.account request.ref.reactor
  have represents : r.requests.Represents a.pending := by
    rw [← Transport.requestsOf_eq holds.reactor]
    exact keeps.represents
  obtain ⟨dispatched, -⟩ := Reactor.dispatch_response represents c response
  rw [dispatched, own] at told
  obtain ⟨pending, found, rfl⟩ := Option.map_eq_some_iff.mp told
  obtain ⟨there, same⟩ := Ledger.of_lookUp found
  have still : s.pendingOf request = some pending := keeps.pendingOf.trans found
  cases whom : request.handler with
  | none =>
    obtain ⟨sending, -, records⟩ := lawful.recorded pending there
    have zero := (reached.ids member).2 whom
    exact absurd (records.id.trans (same.trans zero)) records.nonzero
  | some handler =>
    obtain ⟨situation, stands, -⟩ :=
      reached.stands (numbered.fresh request.ref.reactor) member whom
    cases situation with
    | pending =>
      obtain ⟨⟨other, also, belongs⟩, -, none⟩ := stands
      rw [still] at also
      obtain rfl := Option.some.inj also
      exact ⟨congrArg some belongs.symm, none, rfl⟩
    | withdrawn =>
      obtain ⟨gone, -⟩ := stands
      rw [still] at gone
      cases gone
    | settled =>
      obtain ⟨gone, -⟩ := stands
      rw [still] at gone
      cases gone

/-- An answer has reached the handler that was passed with the request it answers, and it is what
the peer sent. -/
structure Reaches (s : Traffic Handler) (a : Answer Handler) (request : Sending Handler) :
    Prop where
  asked : s.sendings[a.request]? = some request
  handler : request.handler = some a.delivery.handler
  told : a.delivery ∈ s.toldOf request
  event : ∃ remote connId header,
    a.delivery.event = .message remote connId header a.draft.payload ∧
      header.isRequest = false ∧ header.id = request.id ∧
      header.groupId = request.draft.header.groupId ∧
      header.command = request.draft.header.command

theorem Reaches.step {s s' : Traffic Handler} {a : Answer Handler} {request : Sending Handler}
    (reaches : s.Reaches a request) (step : s.Step s') : s'.Reaches a request := by
  obtain ⟨⟨more, sendings⟩, told⟩ := step.history
  refine ⟨?_, reaches.handler, (toldOf_grows told request).subset reaches.told, reaches.event⟩
  have inside := (List.getElem?_eq_some_iff.mp reaches.asked).1
  rw [← sendings, List.getElem?_append_left inside]
  exact reaches.asked

/-- Whatever requests are sent, as long as fewer than 2^32 ids are drawn for them, and whichever of
them the peers answer, in any order and even more than once: each reply that is delivered reaches
the handler passed with the request it answers, is no request, and has the id, group and command of
that request and its own payload; no request has two replies delivered, and one that was sent
without a handler has none. -/
theorem answers_of_reachable {config : Config} {processors : Nat} {s : Traffic Handler}
    (reached : Reachable config processors s) (few : s.drawn < UInt32.size) :
    (∀ a ∈ s.answers, ∃ request, s.Reaches a request) ∧ (s.answers.map Answer.request).Nodup := by
  induction reached with
  | start =>
    refine ⟨?_, List.nodup_nil⟩
    intro a member
    cases member
  | @next s s' reached step ih =>
    have few := Nat.lt_of_le_of_lt step.drawn_le few
    obtain ⟨each, once⟩ := ih few
    have kept (a : Answer Handler) (member : a ∈ s.answers) : ∃ request, s'.Reaches a request := by
      obtain ⟨request, reaches⟩ := each a member
      exact ⟨request, reaches.step step⟩
    cases step with
    | @reply number request r c asked answer sent received draft framed holds =>
      have member := List.mem_of_getElem? sent
      obtain ⟨payload, response, id, groupId, command⟩ := replyTo_fields framed
      obtain ⟨-, -, askedId, askedGroup, askedCommand⟩ := Draft.message_fields received
      have own : answer.header.id = request.id :=
        id.trans (askedId.trans (reached.ids member).1)
      cases told : (r.dispatch c answer).1 with
      | none =>
        have same : (s.hearReply number request r c draft answer).answers = s.answers := by
          rw [hearReply, told]
          exact List.append_nil _
        rw [same]
        exact ⟨kept, once⟩
      | some d =>
        have more : (s.hearReply number request r c draft answer).answers =
            s.answers ++ [⟨number, draft, d⟩] := by
          rw [hearReply, told]
          rfl
        obtain ⟨whom, silent, event⟩ :=
          reached.replied (reached.numbered few) member holds response own told
        have about : d.event.requestId? = some request.id := by
          simp only [event, Event.requestId?, response, Bool.false_eq_true, ↓reduceIte, own]
        have heard : d ∈ (s.hear request.ref r c answer).toldOf request := by
          rw [toldOf, hear, toldBy_tell, told]
          exact Delivery.mem_about.mpr ⟨List.mem_append_right _ List.mem_cons_self, about⟩
        rw [more]
        refine ⟨?_, ?_⟩
        · intro a inside
          rcases List.mem_append.mp inside with before | now
          · exact kept a before
          · obtain rfl := List.mem_singleton.mp now
            refine ⟨request, sent, whom, heard, c.remote, c.id, answer.header, ?_, response, own,
              groupId.trans askedGroup, command.trans askedCommand⟩
            rw [event, payload]
        · rw [List.map_append, List.nodup_append_comm]
          refine List.nodup_cons.mpr ⟨?_, once⟩
          intro twice
          obtain ⟨a, before, same⟩ := List.mem_map.mp twice
          obtain ⟨other, reaches⟩ := each a before
          have asked := reaches.asked
          rw [same, sent] at asked
          obtain rfl := Option.some.inj asked
          have earlier := reaches.told
          rw [silent] at earlier
          cases earlier
    | _ => exact ⟨kept, once⟩

/-- The first request that is sent before the connection is there. -/
def asking : Sending Nat := begun.sendings.head (by decide +kernel)

def response : Draft := ⟨Header.empty, [9], [8]⟩

theorem eq_ok_get {framed : Except ErrorCode Message} (whole : framed.toOption.isSome = true) :
    framed = .ok (framed.toOption.get whole) := by
  cases framed with
  | error => cases whole
  | ok => rfl

/-- What the peer receives. -/
def asked : Message := asking.draft.message.toOption.get (by decide +kernel)

/-- What the peer sends back. -/
def answer : Message := (replyTo asked response).toOption.get (by decide +kernel)

/-- The first request is answered. -/
def replied : Traffic Nat :=
  begun.hearReply 0 asking owner connection response answer

theorem replied_reachable : Reachable {} 1 replied := by
  have first : begun.sendings[0]? = some asking := (List.head?_eq_getElem? ..).symm.trans
    (List.head?_eq_some_head _)
  have here : asking.ref = ⟨0, 1⟩ := by decide +kernel
  have holds : begun.Holds asking.ref owner connection := by
    rw [here]
    exact ⟨(Option.some_get _).symm, (Option.some_get _).symm⟩
  exact begun_reachable.next
    (.reply first (eq_ok_get _) response (eq_ok_get _) holds)

theorem answers_of_reachable_replied :
    replied.drawn < UInt32.size ∧ replied.answers.map Answer.request = [0] ∧
      ∀ a ∈ replied.answers, ∃ request, replied.Reaches a request := by
  have few : replied.drawn < UInt32.size := by decide +kernel
  exact ⟨few, by decide +kernel, (answers_of_reachable replied_reachable few).1⟩

end Traffic

end MessageTransport
