import MessageTransport.Proofs.Transport.Requests

set_option autoImplicit false

namespace MessageTransport

variable {Handler : Type}

/-- A counter below its limit gives out its number and goes on to the next. -/
theorem IdAllocator.take_below {a : IdAllocator} {n : Nat} (small : n < UInt32.size)
    (positive : 0 < n) (next : a.next = UInt32.ofNat n) :
    a.take = (UInt32.ofNat n, ⟨UInt32.ofNat (n + 1)⟩) := by
  have value : (UInt32.ofNat n).toNat = n := by
    rw [UInt32.toNat_ofNat', Nat.mod_eq_of_lt small]
  have nonzero : a.next ≠ 0 := by
    intro zero
    rw [next] at zero
    rw [zero] at value
    have none : (0 : UInt32).toNat = 0 := rfl
    omega
  rw [take, if_neg nonzero, next, UInt32.ofNat_add]
  rfl

namespace Transport

theorem isConnected_of_error {t : Transport Handler} {remote : Endpoint} {code : ErrorCode}
    {after : Transport Handler} (found : t.lookup remote = (.error code, after)) :
    (t.isConnected remote).1 = false := by
  rw [isConnected, found]

theorem isConnected_of_ok {t : Transport Handler} {remote : Endpoint}
    {owned : ConnectionRef × Connection Handler} {after : Transport Handler}
    (found : t.lookup remote = (.ok owned, after)) : (t.isConnected remote).1 = true := by
  rw [isConnected, found]

/-- A request to an endpoint without a connection goes nowhere. -/
theorem ref_of_unconnected {t : Transport Handler} {remote : Endpoint}
    (unconnected : (t.isConnected remote).1 = false) (now : Instant) (draft : Draft)
    (handler : Option Handler) (answers : List WriteAnswer) :
    (t.sendRequest now remote draft handler answers).ref = none := by
  unfold sendRequest
  split
  · rfl
  · rename_i eq
    rw [isConnected_of_ok eq] at unconnected
    cases unconnected

/-- An id is drawn for a request with a handler, if there is a connection to send it on. -/
theorem requestIds_sendRequest (t : Transport Handler) (now : Instant) (remote : Endpoint)
    (draft : Draft) (handler : Option Handler) (answers : List WriteAnswer) :
    (t.sendRequest now remote draft handler answers).transport.requestIds =
      if (t.isConnected remote).1 && handler.isSome then t.requestIds.take.2
      else t.requestIds := by
  have found := (t.spared_lookup remote).ids
  unfold sendRequest
  split
  · rename_i eq
    rw [eq] at found
    rw [isConnected_of_error eq, Bool.false_and, if_neg Bool.false_ne_true]
    exact found
  · rename_i ref c after eq
    rw [eq] at found
    have found : after.requestIds = t.requestIds := found
    rw [isConnected_of_ok eq, Bool.true_and]
    cases handler with
    | none =>
      dsimp only
      rw [Option.isSome_none, if_neg Bool.false_ne_true, ← found]
      split
      · rfl
      · have spared (chunks : List Bytes) := spared_sendChunks after ref c chunks answers
        split <;> exact (spared _).ids
    | some handler =>
      dsimp only
      rw [Option.isSome_some, if_pos rfl, ← found]
      split
      · rfl
      · split
        · exact (spared_sendChunks _ _ _ _ _).ids
        · rw [if_neg (IdAllocator.take_ne_zero _)]
          exact (spared_sendChunks _ _ _ _ _).ids

end Transport

namespace Traffic

/-- A step that sends no request draws no id. -/
theorem Step.idle_or_send {s s' : Traffic Handler} (step : s.Step s') :
    s'.sendings = s.sendings ∧ s'.drawn = s.drawn ∧
        s'.transport.requestIds = s.transport.requestIds ∨
      ∃ now remote draft handler answers, s' = s.send now remote draft handler answers := by
  cases step with
  | connect => exact .inl ⟨rfl, rfl, (Transport.spared_connect ..).ids⟩
  | accept => exact .inl ⟨rfl, rfl, (Transport.spared_accept ..).ids⟩
  | close => exact .inl ⟨rfl, rfl, (Transport.spared_closeSocket ..).ids⟩
  | setTimer => exact .inl ⟨rfl, rfl, (Transport.spared_setTimer ..).ids⟩
  | respond => exact .inl ⟨rfl, rfl, (Transport.spared_sendResponse ..).ids⟩
  | send now remote draft handler answers =>
    exact .inr ⟨now, remote, draft, handler, answers, rfl⟩
  | teardown => exact .inl ⟨rfl, rfl, Transport.requestIds_teardown ..⟩
  | _ => exact .inl ⟨rfl, rfl, rfl⟩

/-- The ids of the requests that were sent with a handler, as numbers and in order. -/
def numbers (s : Traffic Handler) : List Nat :=
  (s.sendings.filter (fun k => k.handler.isSome)).map (fun k => k.id.toNat)

/-- Ids have been given out in order, and none beyond those drawn. -/
structure Numbered (s : Traffic Handler) : Prop where
  next : s.transport.requestIds.next = UInt32.ofNat (s.drawn + 1)
  increasing : s.numbers.Pairwise (· < ·)
  bounded : ∀ n ∈ s.numbers, n ≤ s.drawn

theorem numbered_start (config : Config) (processors : Nat) :
    (start config processors : Traffic Handler).Numbered := by
  refine ⟨rfl, .nil, ?_⟩
  intro n member
  cases member

/-- Whether or not an id was drawn, numbers that stay as they are remain in order. -/
theorem Numbered.keep {s s' : Traffic Handler} (numbered : s.Numbered)
    (next : s'.transport.requestIds.next = UInt32.ofNat (s'.drawn + 1))
    (same : s'.numbers = s.numbers) (drawn : s.drawn ≤ s'.drawn) : s'.Numbered := by
  refine ⟨next, ?_, ?_⟩
  · rw [same]
    exact numbered.increasing
  · intro n member
    rw [same] at member
    exact Nat.le_trans (numbered.bounded n member) drawn

theorem Numbered.push {s s' : Traffic Handler} (numbered : s.Numbered)
    (next : s'.transport.requestIds.next = UInt32.ofNat (s'.drawn + 1))
    (more : s'.numbers = s.numbers ++ [s.drawn + 1]) (drawn : s'.drawn = s.drawn + 1) :
    s'.Numbered := by
  refine ⟨next, ?_, ?_⟩
  · rw [more, List.pairwise_append]
    refine ⟨numbered.increasing, List.pairwise_singleton _ _, ?_⟩
    intro n member last single
    obtain rfl := List.mem_singleton.mp single
    exact Nat.lt_succ_of_le (numbered.bounded n member)
  · intro n member
    rw [more] at member
    rw [drawn]
    rcases List.mem_append.mp member with before | single
    · exact Nat.le_succ_of_le (numbered.bounded n before)
    · exact Nat.le_of_eq (List.mem_singleton.mp single)

/-- A request gets a number if it has a handler and goes out. -/
theorem numbers_send (s : Traffic Handler) (now : Instant) (remote : Endpoint) (draft : Draft)
    (handler : Option Handler) (answers : List WriteAnswer) :
    (s.send now remote draft handler answers).numbers = s.numbers ++
      if handler.isSome && (s.transport.sendRequest now remote draft handler answers).ref.isSome
      then [(s.transport.nextId handler).toNat] else [] := by
  rw [numbers, Traffic.send, List.filter_append, List.map_append, numbers]
  cases handler <;> cases (s.transport.sendRequest now remote draft _ answers).ref <;> rfl

theorem Numbered.send {s : Traffic Handler} (numbered : s.Numbered) (now : Instant)
    (remote : Endpoint) (draft : Draft) (handler : Option Handler) (answers : List WriteAnswer)
    (few : (s.send now remote draft handler answers).drawn < UInt32.size) :
    (s.send now remote draft handler answers).Numbered := by
  have ids : (s.send now remote draft handler answers).transport.requestIds = _ :=
    s.transport.requestIds_sendRequest now remote draft handler answers
  have more := s.numbers_send now remote draft handler answers
  cases draws : (s.transport.isConnected remote).1 && handler.isSome with
  | false =>
    rw [draws, if_neg Bool.false_ne_true] at ids
    have drawn : (s.send now remote draft handler answers).drawn = s.drawn := by
      rw [Traffic.send, draws, if_neg Bool.false_ne_true]
    have unnumbered : (handler.isSome &&
        (s.transport.sendRequest now remote draft handler answers).ref.isSome) = false := by
      cases handler with
      | none => rfl
      | some handler =>
        rw [Option.isSome_some, Bool.and_true] at draws
        rw [Transport.ref_of_unconnected draws]
        rfl
    rw [unnumbered, if_neg Bool.false_ne_true, List.append_nil] at more
    refine numbered.keep ?_ more (Nat.le_of_eq drawn.symm)
    rw [ids, drawn, numbered.next]
  | true =>
    have drawn : (s.send now remote draft handler answers).drawn = s.drawn + 1 := by
      rw [Traffic.send, draws, if_pos rfl]
    rw [drawn] at few
    have taken := IdAllocator.take_below few (Nat.succ_pos s.drawn) numbered.next
    rw [draws, if_pos rfl, taken] at ids
    have next : (s.send now remote draft handler answers).transport.requestIds.next =
        UInt32.ofNat ((s.send now remote draft handler answers).drawn + 1) := by rw [ids, drawn]
    split at more
    · have id : (s.transport.nextId handler).toNat = s.drawn + 1 := by
        obtain ⟨handler, rfl⟩ := Option.isSome_iff_exists.mp (Bool.and_eq_true_iff.mp draws).2
        rw [Transport.nextId, taken, UInt32.toNat_ofNat', Nat.mod_eq_of_lt few]
      rw [id] at more
      exact numbered.push next more drawn
    · rw [List.append_nil] at more
      exact numbered.keep next more (drawn ▸ Nat.le_succ s.drawn)

theorem drawn_le_send (s : Traffic Handler) (now : Instant) (remote : Endpoint) (draft : Draft)
    (handler : Option Handler) (answers : List WriteAnswer) :
    s.drawn ≤ (s.send now remote draft handler answers).drawn := by
  rw [Traffic.send]
  dsimp only
  split <;> omega

theorem Step.drawn_le {s s' : Traffic Handler} (step : s.Step s') : s.drawn ≤ s'.drawn := by
  rcases step.idle_or_send with ⟨-, drawn, -⟩ | ⟨now, remote, draft, handler, answers, rfl⟩
  · exact Nat.le_of_eq drawn.symm
  · exact s.drawn_le_send now remote draft handler answers

theorem Reachable.numbered {config : Config} {processors : Nat} {s : Traffic Handler}
    (reached : Reachable config processors s) (few : s.drawn < UInt32.size) : s.Numbered := by
  induction reached with
  | start => exact numbered_start config processors
  | @next s s' reached step ih =>
    have numbered := ih (Nat.lt_of_le_of_lt step.drawn_le few)
    rcases step.idle_or_send with
      ⟨sendings, drawn, ids⟩ | ⟨now, remote, draft, handler, answers, rfl⟩
    · have same : s'.numbers = s.numbers := by rw [numbers, sendings, numbers]
      refine numbered.keep ?_ same (Nat.le_of_eq drawn.symm)
      rw [ids, drawn, numbered.next]
    · exact numbered.send now remote draft handler answers few

/-- With few enough ids drawn no reactor gets one twice. -/
theorem Numbered.fresh {s : Traffic Handler} (numbered : s.Numbered) (index : Nat) :
    s.Fresh index := by
  have fewer : (s.sentOver index).Sublist (s.sendings.filter (fun k => k.handler.isSome)) := by
    have both : s.sentOver index = (s.sendings.filter (fun k => k.handler.isSome)).filter
        (fun k => k.ref.reactor = index) := by
      rw [sentOver, List.filter_filter]
    rw [both]
    exact List.filter_sublist
  have once : s.numbers.Nodup := numbered.increasing.imp Nat.ne_of_lt
  have all : ((s.sendings.filter (fun k => k.handler.isSome)).map Sending.id).Nodup := by
    apply List.Nodup.of_map UInt32.toNat
    rw [List.map_map]
    exact once
  exact all.sublist (fewer.map Sending.id)

end Traffic

end MessageTransport
