import MessageTransport.Proofs.Drive.Steps

set_option autoImplicit false

namespace MessageTransport

variable {Handler : Type}

theorem OutboundQueue.isEmpty_of_flushed {chunks : List Bytes} {answers : List WriteAnswer}
    (flushed : (flush chunks answers).outcome = .ok true) :
    (flush chunks answers).queue.isEmpty = true := by
  fun_induction flush chunks answers with
  | case1 answers => rfl
  | case2 chunk rest => cases flushed
  | case3 chunk rest answers => cases flushed
  | case4 chunk rest answers ih => exact ih flushed
  | case5 chunk rest fault answers => cases flushed
  | case6 chunk rest answer answers => cases flushed
  | case7 chunk rest answer answers _ _ _ n positive part ih => exact ih flushed
  | case8 chunk rest answer answers _ _ _ n positive whole ih => exact ih flushed

namespace Connection

/-- Whether there is something left to do that makes the task look at the output. -/
def FollowUp.rouses : FollowUp → Bool
  | nothing => false
  | wakeWriter => true
  | giveUp => true

/-- Whoever leaves output behind on a connection that is there has something left to do. -/
theorem enqueue_rouses {c : Connection Handler} (connected : c.state = .connected)
    (chunks : List Bytes) (answers : List WriteAnswer)
    (output : (c.enqueue chunks answers).connection.outbound.isEmpty = false) :
    ∃ next, (c.enqueue chunks answers).followUp = .ok next ∧ next.rouses = true := by
  cases idle : c.outbound.isEmpty with
  | false =>
    simp only [enqueue, connected, idle, Bool.false_eq_true, ↓reduceIte]
    exact ⟨.wakeWriter, rfl, rfl⟩
  | true =>
    simp only [enqueue, connected, idle, ↓reduceIte] at output ⊢
    cases outcome : (OutboundQueue.flush (c.outbound.extend chunks).chunks answers).outcome with
    | error code => exact ⟨.giveUp, rfl, rfl⟩
    | ok emptied =>
      cases emptied with
      | false => exact ⟨.wakeWriter, rfl, rfl⟩
      | true =>
        have nothing := OutboundQueue.isEmpty_of_flushed outcome
        exact absurd (output.symm.trans nothing) Bool.false_ne_true

/-- A connection that is there and is asked to close has been given a reason. -/
theorem closeReason_close {c : Connection Handler} {reason : ErrorCode}
    (connected : (c.close reason).state = .connected) : (c.close reason).closeReason ≠ none := by
  unfold close at connected ⊢
  split at connected
  · rename_i closed
    rw [closed] at connected
    cases connected
  · exact Option.some_ne_none _

end Connection

namespace Call

/-- Whether a call has still to wake the task up or to give the connection up. -/
def Owing (call : Call Handler) : Prop :=
  ∃ next : Connection.FollowUp, call.stage = .appended next ∧ next.rouses = true

/-- The calls that owe something still do when another has gone on. -/
theorem owing_of_advance {calls : List (Call Handler)} {i : Nat} {call : Call Handler}
    (there : calls[i]? = some call) (settled : ¬call.Owing) (stage : Stage)
    (owing : ∃ other ∈ calls, other.Owing) : ∃ other ∈ advance calls i stage, other.Owing := by
  obtain ⟨other, member, owes⟩ := owing
  obtain ⟨j, found⟩ := List.mem_iff_getElem?.mp member
  have apart : i ≠ j := by
    rintro rfl
    obtain rfl := Option.some.inj (there.symm.trans found)
    exact settled owes
  refine ⟨other, List.mem_of_getElem? (i := j) ?_, owes⟩
  rw [getElem?_advance_of_ne calls apart, found]

end Call

namespace Drive

/-- Somebody sees to the output of a connection: a wake-up is there or is still to be left, or the
connection is to be closed. -/
def Tended (d : Drive Handler) (c : Connection Handler) : Prop :=
  c.writeWakeup = true ∨ (∃ call ∈ d.calls, call.Owing) ∨ c.closeReason ≠ none

/-- A task that waits for input only has seen that there was no output, and whoever brings some
later sees to it. -/
def Attentive (d : Drive Handler) : Prop :=
  d.phase = .waiting false → ∀ c, d.connection? = some c → c.state = .connected →
    c.outbound.isEmpty = false → d.Tended c

theorem attentive_of_phase {d : Drive Handler} (elsewhere : d.phase ≠ .waiting false) : d.Attentive :=
  fun waiting => absurd waiting elsewhere

/-- What does not touch the connection and settles nothing leaves the output to the same calls. -/
theorem Attentive.kept {d next : Drive Handler} (attentive : d.Attentive)
    (phase : next.phase = d.phase) (same : next.connection? = d.connection?)
    (owing : (∃ call ∈ d.calls, call.Owing) → ∃ call ∈ next.calls, call.Owing) :
    next.Attentive := by
  intro waiting c owned connected output
  rcases attentive (phase ▸ waiting) c (same ▸ owned) connected output with
    woken | owed | closing
  · exact .inl woken
  · exact .inr (.inl (owing owed))
  · exact .inr (.inr closing)

/-- A call that leaves output behind owes a wake-up for it. -/
theorem attentive_append {d : Drive Handler} {i : Nat} {call : Call Handler}
    (there : d.calls[i]? = some call) {c : Connection Handler} (answers : List WriteAnswer) :
    (d.append i call c answers).Attentive := by
  intro waiting c' owner connected output
  have after := (d.connection?_change
    (fun _ => (c.enqueue call.chunks answers).connection)).symm.trans owner
  obtain ⟨-, -, rfl⟩ := Option.map_eq_some_iff.mp after
  rw [Connection.state_enqueue] at connected
  obtain ⟨next, left, rouses⟩ := Connection.enqueue_rouses connected call.chunks answers output
  have moved := Call.getElem?_advance_self there
    (Call.stageAfter (c.enqueue call.chunks answers).followUp)
  refine .inr (.inl ⟨_, List.mem_of_getElem? moved, next, ?_, rouses⟩)
  rw [left]
  rfl

theorem Attentive.follow {d : Drive Handler} (attentive : d.Attentive) {i : Nat}
    {call : Call Handler} (there : d.calls[i]? = some call) {next : Connection.FollowUp}
    (stage : call.stage = .appended next) : (d.follow i next).Attentive := by
  cases next with
  | nothing =>
    refine attentive.kept rfl ?_ ?_
    · exact (d.connection?_change (fun c => c)).trans Option.map_id'
    · apply Call.owing_of_advance there
      rintro ⟨next, same, rouses⟩
      obtain rfl := Call.Stage.appended.inj (stage.symm.trans same)
      cases rouses
  | wakeWriter =>
    intro waiting c' owner connected output
    have after := (d.connection?_change (fun c => { c with writeWakeup := true })).symm.trans owner
    obtain ⟨c, -, rfl⟩ := Option.map_eq_some_iff.mp after
    exact .inl rfl
  | giveUp =>
    intro waiting c' owner connected output
    have after := (d.connection?_change (fun c => c.close .brokenConnection)).symm.trans owner
    obtain ⟨c, -, rfl⟩ := Option.map_eq_some_iff.mp after
    exact .inr (.inr (Connection.closeReason_close connected))

theorem Attentive.around {d next : Drive Handler} (attentive : d.Attentive)
    (around : d.Around next) : next.Attentive := by
  -- A call that is not at its follow-up owes nothing.
  have settled {call : Call Handler} {stage : Call.Stage} (same : call.stage = stage)
      (other : ∀ next, stage ≠ .appended next) : ¬call.Owing := by
    rintro ⟨next, owes, -⟩
    exact other next (same.symm.trans owes)
  cases around with
  | enter request chunks fits =>
    refine attentive.kept rfl rfl ?_
    rintro ⟨call, member, owes⟩
    exact ⟨call, List.mem_append_left _ member, owes⟩
  | record there stage =>
    exact attentive.kept rfl (d.connection?_record _ _)
      (Call.owing_of_advance there (settled stage nofun) _)
  | append answers there stage held => exact attentive_append there answers
  | follow there stage => exact attentive.follow there stage
  | withdraw there stage =>
    exact attentive.kept rfl (d.connection?_withdraw _ _ _)
      (Call.owing_of_advance there (settled stage nofun) _)
  | fail there stage =>
    exact attentive.kept rfl rfl (Call.owing_of_advance there (settled stage nofun) _)
  | close reason =>
    intro waiting c' owner connected output
    have after := (d.connection?_change (fun c => c.close reason)).symm.trans owner
    obtain ⟨c, -, rfl⟩ := Option.map_eq_some_iff.mp after
    exact .inr (.inr (Connection.closeReason_close connected))
  | sweep now => exact attentive.kept rfl rfl id
  | tellDue due => exact attentive.kept rfl rfl id
  | elsewhere registry reached same spared => exact attentive.kept rfl same id

/-- The task goes to sleep only when it has seen that there is no output. -/
theorem Move.attentive {d next : Drive Handler} (move : d.Move next) : next.Attentive := by
  cases move with
  | announce panics phase =>
    apply attentive_of_phase
    cases panics <;> nofun
  | plan phase owned =>
    rename_i c
    intro waiting c' owner connected output
    obtain rfl := Option.some.inj (owned.symm.trans owner)
    have none : c.wantsToWrite = false := Phase.waiting.inj waiting
    rw [Connection.wantsToWrite, output] at none
    cases none
  | read panics phase owned =>
    rename_i c writes
    apply attentive_of_phase
    show phaseAfter _ _ (d.reactor.receive c d.inbox).outcome ≠ _
    cases (d.reactor.receive c d.inbox).outcome with
    | error code => nofun
    | ok more =>
      cases more with
      | false => nofun
      | true =>
        rw [phaseAfter]
        split <;> nofun
  | @flush c answers phase owned =>
    apply attentive_of_phase
    rcases d.phase_flush c answers with failed | written
    · rw [failed]
      nofun
    · rw [written]
      nofun
  | _ => exact attentive_of_phase nofun

theorem Reachable.attentive {limit : Nat} {script : List ReadAnswer} {d : Drive Handler}
    (reached : Reachable limit script d) : d.Attentive := by
  induction reached with
  | start registry reached owned connecting unread => exact attentive_of_phase nofun
  | next reached step ih =>
    cases step with
    | around around => exact ih.around around
    | move move => exact move.attentive

/-- However calls append, write and leave their wake-ups while the task of a connection plans,
sleeps, wakes and writes: if it sleeps without waiting for its socket to take output, and there is
output, then a wake-up is there for it, or a call is still to leave one or to give the connection
up, or somebody has asked for the connection to be closed. -/
theorem tended_of_reachable {limit : Nat} {script : List ReadAnswer} {d : Drive Handler}
    (reached : Reachable limit script d) (waiting : d.phase = .waiting false)
    {c : Connection Handler} (owned : d.connection? = some c) (connected : c.state = .connected)
    (output : c.outbound.isEmpty = false) :
    c.writeWakeup = true ∨
      (∃ call ∈ d.calls, call.stage = .appended .wakeWriter ∨ call.stage = .appended .giveUp) ∨
      c.closeReason ≠ none := by
  rcases reached.attentive waiting c owned connected output with woken | owed | closing
  · exact .inl woken
  · obtain ⟨call, member, next, stage, rouses⟩ := owed
    refine .inr (.inl ⟨call, member, ?_⟩)
    cases next with
    | nothing => cases rouses
    | wakeWriter => exact .inl stage
    | giveUp => exact .inr stage
  · exact .inr (.inr closing)

/-- Two bytes that the socket did not take while the task was asleep, and no wake-up yet. -/
def stalled : Drive Nat :=
  (((settled []).enter none [[1, 2]]).record 0 ⟨none, [[1, 2]], .found⟩).append 0
    ⟨none, [[1, 2]], .recorded⟩ (caller.markConnected 7 none) [.fails .wouldBlock]

def laden : Connection Nat := { caller.markConnected 7 none with outbound := ⟨[[1, 2]]⟩ }

theorem stalled_reachable : Reachable 100 [] stalled := by
  have entered := (settled_reachable []).next (.around (.enter none [[1, 2]] nofun))
  have recorded := entered.next (.around (.record (i := 0) rfl rfl))
  exact recorded.next (.around (.append (i := 0) [.fails .wouldBlock] rfl rfl rfl))

theorem tended_of_reachable_stalled :
    stalled.phase = .waiting false ∧ stalled.connection? = some laden ∧
      laden.outbound.isEmpty = false ∧ laden.writeWakeup = false ∧ laden.closeReason = none ∧
      ∃ call ∈ stalled.calls,
        call.stage = .appended .wakeWriter ∨ call.stage = .appended .giveUp := by
  have owned : stalled.connection? = some laden := by cbv
  refine ⟨rfl, owned, rfl, rfl, rfl, ?_⟩
  rcases tended_of_reachable stalled_reachable rfl owned rfl rfl with woken | owed | closing
  · cases woken
  · exact owed
  · exact absurd rfl closing

end Drive

end MessageTransport
