import MessageTransport.Proofs.Reactor.Runs
import MessageTransport.Proofs.Transport.Traffic

set_option autoImplicit false

namespace MessageTransport

variable {Handler : Type}

namespace Transport

/-- Each reactor is in a state that a reactor can be in. -/
def Sound (t : Transport Handler) : Prop :=
  ∀ index r, t.pool.reactor? index = some r → r.Reachable

theorem sound_start (config : Config) (processors : Nat) :
    (start config processors : Transport Handler).Sound := by
  intro index r found
  obtain ⟨other, -, rfl⟩ := List.mem_map.mp (List.mem_of_getElem? found)
  exact .start other

theorem Sound.of_pool {t next : Transport Handler} (sound : t.Sound)
    (pool : next.pool.reactors = t.pool.reactors) : next.Sound := by
  intro index r found
  apply sound index r
  rw [ReactorPool.reactor?, ← pool]
  exact found

theorem Sound.updateReactor {t : Transport Handler} (sound : t.Sound) (index : Nat)
    {f : Reactor Handler → Reactor Handler}
    (keeps : ∀ r, t.pool.reactor? index = some r → r.Reachable → (f r).Reachable) :
    (t.updateReactor index f).Sound := by
  intro other r found
  rw [Transport.updateReactor, ReactorPool.reactor?_update] at found
  obtain ⟨before, there, rfl⟩ := Option.map_eq_some_iff.mp found
  by_cases same : index = other
  · subst same
    rw [if_pos rfl]
    exact keeps before there (sound index before there)
  · rw [if_neg same]
    exact sound other before there

theorem Sound.updateConnection {t : Transport Handler} (sound : t.Sound) (ref : ConnectionRef)
    {f : Connection Handler → Connection Handler}
    (same : ∀ c, t.connection? ref = some c → (f c).identity = c.identity) :
    (t.updateConnection ref f).Sound := by
  apply sound.updateReactor
  intro r found reached
  refine reached.next (.update ref.connId ?_)
  intro c owned
  apply same
  rw [connection?, found]
  exact owned

theorem Sound.lookup {t : Transport Handler} (sound : t.Sound) (remote : Endpoint) :
    (t.lookup remote).2.Sound := by
  unfold Transport.lookup
  dsimp only
  split
  · exact sound
  · split
    · split <;> exact sound.of_pool rfl
    · exact sound.of_pool rfl

theorem Sound.install {t : Transport Handler} (sound : t.Sound) (index : Nat)
    (c : Connection Handler) : (t.install index c).2.Sound := by
  have adopted (registry : Registry ConnectionRef) :
      ({ t with registry }.updateReactor index (fun r => r.adopt c)).Sound :=
    (sound.of_pool rfl).updateReactor index (fun r _ reached => reached.adopt c)
  unfold Transport.install
  dsimp only
  split
  · split
    · exact (adopted _).updateReactor index (fun r _ reached => reached.next (.register c.id))
    · have left := (adopted (t.registry.insert t.isLive c.remote ⟨index, c.id⟩).2).updateReactor
        index (fun r _ reached => reached.next (.forget c.id))
      exact left.of_pool rfl
  · exact sound

theorem Sound.connect {t : Transport Handler} (sound : t.Sound) (remote : Endpoint)
    (timeoutMs : Nat) (handler : Handler) : (t.connect remote timeoutMs handler).2.Sound := by
  unfold Transport.connect
  dsimp only
  split
  · exact sound
  · split
    · exact sound.of_pool rfl
    · refine Sound.install ?_ _ _
      exact sound.of_pool rfl

theorem Sound.accept {t : Transport Handler} (sound : t.Sound) (index : Nat) (remote : Endpoint)
    (socket : Nat) (handler : Handler) : (t.accept index remote socket handler).2.Sound := by
  unfold Transport.accept
  refine Sound.install ?_ _ _
  exact sound.of_pool rfl

theorem Sound.closeSocket {t : Transport Handler} (sound : t.Sound) (remote : Endpoint) :
    (t.closeSocket remote).2.Sound := by
  have found := sound.lookup remote
  unfold Transport.closeSocket
  split
  · rename_i eq
    rw [eq] at found
    exact found
  · rename_i eq
    rw [eq] at found
    apply Sound.updateConnection
    · exact found.of_pool rfl
    · intro c _
      exact c.identity_close .brokenConnection

theorem Sound.setTimer {t : Transport Handler} (sound : t.Sound) (due : Instant)
    (handler : Handler) : (t.setTimer due handler).2.Sound := by
  unfold Transport.setTimer
  split
  · exact sound
  · apply Sound.updateReactor
    · exact sound.of_pool rfl
    · intro r _ reached
      exact (reached.next (.insertTimer due handler)).next .notify

theorem connection?_updateReactor (t : Transport Handler) (ref : ConnectionRef)
    (f : Reactor Handler → Reactor Handler) (same : ∀ r, (f r).connections = r.connections) :
    (t.updateReactor ref.reactor f).connection? ref = t.connection? ref := by
  rw [connection?, updateReactor, ReactorPool.reactor?_update, connection?]
  cases t.pool.reactor? ref.reactor with
  | none => rfl
  | some r =>
    simp only [Option.map_some, ↓reduceIte, Option.bind_some, Reactor.connection?, same]

/-- Chunks are handed to a connection that was found, if it is there at all. -/
theorem Sound.sendChunks {t : Transport Handler} (sound : t.Sound) {ref : ConnectionRef}
    {c : Connection Handler} (owned : t.connection? ref = some c)
    (chunks : List Bytes) (answers : List WriteAnswer) :
    (t.sendChunks ref c chunks answers).transport.Sound := by
  have updated : (t.updateConnection ref (fun _ => (c.send chunks answers).connection)).Sound := by
    apply sound.updateConnection
    intro other there
    obtain rfl := Option.some.inj (owned.symm.trans there)
    exact c.identity_send chunks answers
  unfold Transport.sendChunks
  dsimp only
  split
  · exact updated
  · exact updated.of_pool rfl

theorem Sound.sendResponse {t : Transport Handler} (sound : t.Sound) (remote : Endpoint)
    (draft : Draft) (answers : List WriteAnswer) :
    (t.sendResponse remote draft answers).transport.Sound := by
  have found := sound.lookup remote
  unfold Transport.sendResponse
  split
  · rename_i eq
    rw [eq] at found
    exact found
  · rename_i ref c after eq
    rw [eq] at found
    split
    · exact found
    · exact found.sendChunks (connection?_of_lookup eq) _ answers

theorem Sound.sendRequest {t : Transport Handler} (sound : t.Sound) (now : Instant)
    (remote : Endpoint) (draft : Draft) (handler : Option Handler) (answers : List WriteAnswer) :
    (t.sendRequest now remote draft handler answers).transport.Sound := by
  have found := sound.lookup remote
  unfold Transport.sendRequest
  split
  · rename_i eq
    rw [eq] at found
    exact found
  · rename_i ref c after eq
    rw [eq] at found
    have owned := connection?_of_lookup eq
    cases handler with
    | none =>
      dsimp only
      split
      · exact found.of_pool rfl
      · rename_i chunks framed
        have sent := found.sendChunks owned chunks answers
        split
        · exact sent
        · exact sent
    | some handler =>
      dsimp only
      split
      · exact found.of_pool rfl
      · rename_i chunks framed
        let drawn : Transport Handler := { after with requestIds := after.requestIds.take.2 }
        let request : PendingRequest Handler := ⟨after.requestIds.take.1, c.id, remote, handler,
          c.expiryAt now draft.header.timeoutMs⟩
        have before : drawn.Sound := found.of_pool rfl
        have added : (drawn.updateReactor ref.reactor (fun r => r.addRequest request)).Sound :=
          before.updateReactor _ (fun r _ reached => reached.addRequest request)
        have kept : (drawn.updateReactor ref.reactor (fun r => r.addRequest request)).connection?
            ref = some c := by
          rw [connection?_updateReactor drawn ref (fun r => r.addRequest request) (fun _ => rfl)]
          exact owned
        have sent := added.sendChunks kept chunks answers
        split
        · exact sent
        · split
          · exact sent
          · exact sent.updateReactor _ (fun r _ reached => reached.next (.removeRequest _))

theorem Sound.teardown {t : Transport Handler} (sound : t.Sound) (ref : ConnectionRef)
    (c : Connection Handler) (reason : ErrorCode) : (t.teardown ref c reason).2.Sound := by
  unfold Transport.teardown
  split
  · exact sound
  · rename_i r found
    apply Sound.updateReactor
    · exact sound.of_pool rfl
    · intro other _ _
      exact (sound ref.reactor r found).detach t.registry c

end Transport

namespace Traffic

theorem Step.sound {s next : Traffic Handler} (step : s.Step next) (sound : s.transport.Sound) :
    next.transport.Sound := by
  cases step with
  | connect remote timeoutMs handler => exact sound.connect remote timeoutMs handler
  | accept index remote socket handler => exact sound.accept index remote socket handler
  | @takeUp index r after found taken =>
    exact sound.updateReactor _ (fun _ _ _ => (sound index r found).next (.takeUp taken))
  | @establish ref r c holds socket localAddress =>
    apply sound.updateReactor
    intro _ _ _
    refine (sound ref.reactor r holds.reactor).next (.update c.id ?_)
    intro other _
    rfl
  | flush ref answers => exact sound.updateConnection ref (fun _ _ => rfl)
  | close remote => exact sound.closeSocket remote
  | setTimer due handler => exact sound.setTimer due handler
  | respond remote draft answers => exact sound.sendResponse remote draft answers
  | send now remote draft handler answers =>
    exact sound.sendRequest now remote draft handler answers
  | @hear ref r c holds m =>
    exact sound.updateReactor _ (fun _ _ _ => (sound ref.reactor r holds.reactor).dispatch c m)
  | @reply number request r c asked answer sent received draft framed holds =>
    exact sound.updateReactor _ (fun _ _ _ =>
      (sound request.ref.reactor r holds.reactor).dispatch c answer)
  | @sweep index r found now =>
    exact sound.updateReactor _ (fun _ _ _ => (sound index r found).sweep now)
  | teardown holds reason => exact sound.teardown _ _ reason

/-- Each reactor of a transport in use is in a state that a reactor can be in. -/
theorem Reachable.sound {config : Config} {processors : Nat} {s : Traffic Handler}
    (reached : Reachable config processors s) : s.transport.Sound := by
  induction reached with
  | start => exact Transport.sound_start config processors
  | next reached step ih => exact step.sound ih

end Traffic

end MessageTransport
