import MessageTransport.Draft
import MessageTransport.Proofs.Reactor.Endings

set_option autoImplicit false

namespace MessageTransport

variable {Handler : Type}

/-- A request that was handed to a connection. -/
structure Sending (Handler : Type) where
  ref : ConnectionRef
  id : UInt32
  handler : Option Handler
  /-- The draft as it went out. -/
  draft : Draft
  /-- What its sender was told at once. -/
  outcome : Except ErrorCode UInt32

/-- A sending is the one that recorded a pending request. -/
structure Sending.Records (sending : Sending Handler) (request : PendingRequest Handler) : Prop where
  id : sending.id = request.id
  handler : sending.handler = some request.handler
  nonzero : sending.id ≠ 0

/-- How a request stands that was sent with a handler. -/
inductive Situation where
  | pending
  | withdrawn
  | settled
deriving DecidableEq, Repr

/-- The requests pending on a reactor, those sent over it with a handler, and all events told. -/
structure Account (Handler : Type) where
  pending : Ledger Handler
  sent : List (Sending Handler)
  told : List (Delivery Handler)

namespace Account

/-- Whether a request stands in a certain way: it is pending and nothing has been said about it; its
sender was told that it failed, and nobody else was told anything; or it is over and its handler has
been told so, once. -/
def Stands (a : Account Handler) (sending : Sending Handler) (handler : Handler) :
    Situation → Prop
  | .pending =>
    (∃ r ∈ a.pending, r.id = sending.id ∧ r.handler = handler) ∧
      sending.outcome = .ok sending.id ∧ Delivery.about a.told sending.id = []
  | .withdrawn =>
    (∀ r ∈ a.pending, r.id ≠ sending.id) ∧
      (∃ code, sending.outcome = .error code) ∧ Delivery.about a.told sending.id = []
  | .settled =>
    (∀ r ∈ a.pending, r.id ≠ sending.id) ∧
      sending.outcome = .ok sending.id ∧
      ∃ e : Event, Delivery.about a.told sending.id = [⟨handler, e⟩] ∧ e.Settles sending.id

/-- No id was given out twice. -/
def Fresh (a : Account Handler) : Prop := (a.sent.map Sending.id).Nodup

/-- What can happen to an account: some requests are over, or a request is sent, which is pending
from then on or is withdrawn at once. -/
inductive Step (a : Account Handler) : Account Handler → Prop where
  | ends {rest : Ledger Handler} {ds : List (Delivery Handler)} (ends : Ends a.pending rest ds) :
    Step a ⟨rest, a.sent, a.told ++ ds⟩
  | kept {sending : Sending Handler} {request : PendingRequest Handler}
    (records : sending.Records request) (outcome : sending.outcome = .ok sending.id) :
    Step a ⟨a.pending.insert request, a.sent ++ [sending], a.told⟩
  | withdrawn {sending : Sending Handler} {request : PendingRequest Handler} {code : ErrorCode}
    (records : sending.Records request) (outcome : sending.outcome = .error code) :
    Step a ⟨(a.pending.insert request).without request.id, a.sent ++ [sending], a.told⟩

theorem Step.refl (a : Account Handler) : a.Step a := by
  have nothing : a.Step ⟨a.pending, a.sent, a.told ++ []⟩ :=
    .ends (Ends.quiet a.pending (fun d member => by cases member))
  rwa [List.append_nil] at nothing

/-- What holds of an account at every moment. -/
structure Lawful (a : Account Handler) : Prop where
  distinct : a.pending.Distinct
  nonzero : ∀ sending ∈ a.sent, sending.id ≠ 0
  recorded : ∀ r ∈ a.pending, ∃ sending ∈ a.sent, sending.Records r
  known : ∀ d ∈ a.told, ∀ id, d.event.requestId? = some id → ∃ sending ∈ a.sent, sending.id = id
  stands : a.Fresh → ∀ sending ∈ a.sent, ∀ handler, sending.handler = some handler →
    ∃ situation, a.Stands sending handler situation

theorem Stands.unique {a : Account Handler} {sending : Sending Handler} {handler : Handler}
    {x y : Situation} (first : a.Stands sending handler x) (second : a.Stands sending handler y) :
    x = y := by
  have apart {e : Event} (silent : Delivery.about a.told sending.id = [])
      (told : Delivery.about a.told sending.id = [⟨handler, e⟩]) : False := by
    rw [silent] at told
    cases told
  cases x <;> cases y
  case pending.pending => rfl
  case withdrawn.withdrawn => rfl
  case settled.settled => rfl
  case pending.withdrawn =>
    obtain ⟨⟨r, member, same, -⟩, -⟩ := first
    exact absurd same (second.1 r member)
  case pending.settled =>
    obtain ⟨⟨r, member, same, -⟩, -⟩ := first
    exact absurd same (second.1 r member)
  case withdrawn.pending =>
    obtain ⟨⟨r, member, same, -⟩, -⟩ := second
    exact absurd same (first.1 r member)
  case settled.pending =>
    obtain ⟨⟨r, member, same, -⟩, -⟩ := second
    exact absurd same (first.1 r member)
  case withdrawn.settled =>
    obtain ⟨-, -, e, told, -⟩ := second
    exact (apart first.2.2 told).elim
  case settled.withdrawn =>
    obtain ⟨-, -, e, told, -⟩ := first
    exact (apart second.2.2 told).elim

theorem lawful_empty : Lawful (⟨[], [], []⟩ : Account Handler) := by
  refine ⟨List.nodup_nil, ?_, ?_, ?_, ?_⟩
  · intro sending member
    cases member
  · intro r member
    cases member
  · intro d member
    cases member
  · intro _ sending member
    cases member

/-- Requests that are over leave the pending ones, and their handlers are told. -/
theorem Lawful.ends {a : Account Handler} (lawful : a.Lawful) {rest : Ledger Handler}
    {ds : List (Delivery Handler)} (ends : Ends a.pending rest ds) (distinct : rest.Distinct) :
    Lawful ⟨rest, a.sent, a.told ++ ds⟩ := by
  refine ⟨distinct, lawful.nonzero, ?_, ?_, ?_⟩
  · intro r member
    exact lawful.recorded r (ends.fewer r member)
  · intro d member id same
    rcases List.mem_append.mp member with before | now
    · exact lawful.known d before id same
    · obtain ⟨r, there, rfl⟩ := ends.known d now id same
      obtain ⟨sending, sent, records⟩ := lawful.recorded r there
      exact ⟨sending, sent, records.id⟩
  · intro fresh sending member handler whom
    obtain ⟨situation, stands⟩ := lawful.stands fresh sending member handler whom
    have silent (gone : ∀ r ∈ a.pending, r.id ≠ sending.id) :
        Delivery.about ds sending.id = [] := by
      apply Delivery.about_eq_nil
      intro d told same
      obtain ⟨r, there, equal⟩ := ends.known d told sending.id same
      exact gone r there equal
    cases situation with
    | pending =>
      obtain ⟨⟨r, there, same, own⟩, outcome, none⟩ := stands
      by_cases stays : r ∈ rest
      · refine ⟨.pending, ⟨r, stays, same, own⟩, outcome, ?_⟩
        rw [Delivery.about_append, none, List.nil_append, ← same]
        exact ends.pending r stays
      · obtain ⟨e, told, settles⟩ := ends.told r there stays
        rw [same, own] at told
        refine ⟨.settled, ?_, outcome, e, ?_, same ▸ settles⟩
        · intro other left equal
          have both := lawful.distinct.eq_of_id (ends.fewer other left) there
            (equal.trans same.symm)
          exact stays (both ▸ left)
        · rw [Delivery.about_append, none, List.nil_append]
          exact told
    | withdrawn =>
      obtain ⟨gone, outcome, none⟩ := stands
      refine ⟨.withdrawn, fun r left => gone r (ends.fewer r left), outcome, ?_⟩
      rw [Delivery.about_append, none, silent gone, List.nil_append]
    | settled =>
      obtain ⟨gone, outcome, e, told, settles⟩ := stands
      refine ⟨.settled, fun r left => gone r (ends.fewer r left), outcome, e, ?_, settles⟩
      rw [Delivery.about_append, told, silent gone, List.append_nil]

theorem Fresh.of_append {a : Account Handler} {pending : Ledger Handler}
    {more : List (Sending Handler)} {told : List (Delivery Handler)}
    (fresh : Fresh ⟨pending, a.sent ++ more, told⟩) : a.Fresh := by
  unfold Fresh at fresh ⊢
  rw [List.map_append] at fresh
  exact fresh.of_append_left

/-- A request that is sent under a new id leaves the others as they stand. -/
theorem Lawful.sent {a : Account Handler} (lawful : a.Lawful) {sending : Sending Handler}
    {request : PendingRequest Handler} (records : sending.Records request)
    {pending : Ledger Handler} (distinct : pending.Distinct)
    (others : ∀ r, r.id ≠ request.id → (r ∈ pending ↔ r ∈ a.pending))
    (own : ∀ r ∈ pending, r.id = request.id → r = request)
    (stands : Delivery.about a.told sending.id = [] →
      ∃ situation, Stands ⟨pending, a.sent ++ [sending], a.told⟩ sending request.handler
        situation) :
    Lawful ⟨pending, a.sent ++ [sending], a.told⟩ := by
  refine ⟨distinct, ?_, ?_, ?_, ?_⟩
  · intro other member
    rcases List.mem_append.mp member with before | now
    · exact lawful.nonzero other before
    · obtain rfl := List.mem_singleton.mp now
      exact records.nonzero
  · intro r member
    by_cases same : r.id = request.id
    · obtain rfl := own r member same
      exact ⟨sending, List.mem_append_right _ List.mem_cons_self, records⟩
    · obtain ⟨other, before, records⟩ := lawful.recorded r ((others r same).mp member)
      exact ⟨other, List.mem_append_left _ before, records⟩
  · intro d member id same
    obtain ⟨other, before, equal⟩ := lawful.known d member id same
    exact ⟨other, List.mem_append_left _ before, equal⟩
  · intro fresh other member handler whom
    have new (old : Sending Handler) (before : old ∈ a.sent) : old.id ≠ request.id := by
      intro same
      unfold Fresh at fresh
      rw [List.map_append] at fresh
      apply (List.nodup_append.mp fresh).2.2 old.id (List.mem_map_of_mem before) sending.id
        (List.mem_map_of_mem List.mem_cons_self)
      rw [records.id, same]
    rcases List.mem_append.mp member with before | now
    · have apart := new other before
      obtain ⟨situation, stands⟩ := lawful.stands fresh.of_append other before handler whom
      have gone (none : ∀ r ∈ a.pending, r.id ≠ other.id) : ∀ r ∈ pending, r.id ≠ other.id := by
        intro r left same
        have different : r.id ≠ request.id := fun equal => apart (same.symm.trans equal)
        exact none r ((others r different).mp left) same
      cases situation with
      | pending =>
        obtain ⟨⟨r, there, same, own⟩, outcome, none⟩ := stands
        have different : r.id ≠ request.id := fun equal => apart (same.symm.trans equal)
        exact ⟨.pending, ⟨r, (others r different).mpr there, same, own⟩, outcome, none⟩
      | withdrawn => exact ⟨.withdrawn, gone stands.1, stands.2⟩
      | settled => exact ⟨.settled, gone stands.1, stands.2⟩
    · obtain rfl := List.mem_singleton.mp now
      obtain rfl := Option.some.inj (whom.symm.trans records.handler)
      apply stands
      apply Delivery.about_eq_nil
      intro d told same
      obtain ⟨old, before, equal⟩ := lawful.known d told other.id same
      exact new old before (equal.trans records.id)

theorem Lawful.step {a b : Account Handler} (lawful : a.Lawful) (step : a.Step b)
    (distinct : b.pending.Distinct) : b.Lawful := by
  cases step with
  | ends ends => exact lawful.ends ends distinct
  | @kept sending request records outcome =>
    apply lawful.sent records distinct
    · intro r apart
      rw [Ledger.mem_insert]
      constructor
      · rintro (⟨member, -⟩ | rfl)
        · exact member
        · exact absurd rfl apart
      · exact fun member => .inl ⟨member, apart⟩
    · intro r member same
      rcases Ledger.mem_insert.mp member with ⟨-, apart⟩ | equal
      · exact absurd same apart
      · exact equal
    · intro none
      exact ⟨.pending, ⟨request, Ledger.mem_insert.mpr (.inr rfl), records.id.symm, rfl⟩,
        outcome, none⟩
  | @withdrawn sending request code records outcome =>
    have gone (r : PendingRequest Handler) :
        r ∈ (a.pending.insert request).without request.id ↔
          r ∈ a.pending ∧ r.id ≠ request.id := by
      rw [Ledger.mem_without, Ledger.mem_insert]
      constructor
      · rintro ⟨⟨member, -⟩ | rfl, apart⟩
        · exact ⟨member, apart⟩
        · exact absurd rfl apart
      · exact fun ⟨member, apart⟩ => ⟨.inl ⟨member, apart⟩, apart⟩
    apply lawful.sent records distinct
    · intro r apart
      rw [gone]
      exact and_iff_left apart
    · intro r member same
      exact absurd same ((gone r).mp member).2
    · intro none
      refine ⟨.withdrawn, ?_, ⟨code, outcome⟩, none⟩
      intro r member same
      exact ((gone r).mp member).2 (same.trans records.id)

end Account

end MessageTransport
