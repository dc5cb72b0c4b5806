import Mathlib.Data.Stream.Init
import MessageTransport.OutboundQueue

set_option autoImplicit false

namespace MessageTransport

/-- Whether an answer to a write is a failure that ends a flush. -/
def WriteAnswer.Refuses : WriteAnswer → Prop
  | .takesAll => False
  | .takes limit => limit = 0
  | .fails fault => fault ≠ .wouldBlock ∧ fault ≠ .interrupted

namespace OutboundQueue

/-- What comes of the first write of a flush: the flush goes on, with fewer bytes to write unless it
has been interrupted, or it ends there. -/
inductive FirstWrite (chunk : Bytes) (rest : List Bytes) (answer : WriteAnswer) : Prop where
  | goesOn (next : List Bytes) (written : Bytes) (filled : ∀ other ∈ next, other ≠ [])
      (progress : answer = .fails .interrupted ∧ next = chunk :: rest ∨
        next.flatten.length < (chunk :: rest).flatten.length)
      (flushed : ∀ answers, flush (chunk :: rest) (answer :: answers) =
        (flush next answers).after chunk.length written)
  | blocked (blocks : answer = .fails .wouldBlock)
      (flushed : ∀ answers, flush (chunk :: rest) (answer :: answers) =
        ⟨⟨chunk :: rest⟩, .ok false, [], [chunk.length], answers⟩)
  | refused (refuses : answer.Refuses)
      (flushed : ∀ answers, flush (chunk :: rest) (answer :: answers) =
        ⟨⟨chunk :: rest⟩, .error .sendError, [], [chunk.length], answers⟩)

theorem flush_nil (answers : List WriteAnswer) :
    flush [] answers = ⟨empty, .ok true, [], [], answers⟩ := by rw [flush]

theorem flush_unanswered (chunk : Bytes) (rest : List Bytes) :
    flush (chunk :: rest) [] = ⟨⟨chunk :: rest⟩, .ok false, [], [chunk.length], []⟩ := by rw [flush]

theorem flush_fault {fault : IoFault} (hard : (WriteAnswer.fails fault).Refuses) (chunk : Bytes)
    (rest : List Bytes) (answers : List WriteAnswer) :
    flush (chunk :: rest) (.fails fault :: answers) =
      ⟨⟨chunk :: rest⟩, .error .sendError, [], [chunk.length], answers⟩ := by
  rw [flush]
  · exact hard.1
  · exact hard.2

/-- A write that is answered by a number of bytes. -/
theorem flush_taking {answer : WriteAnswer} (taking : ∀ fault, answer ≠ .fails fault) (chunk : Bytes)
    (rest : List Bytes) (answers : List WriteAnswer) :
    flush (chunk :: rest) (answer :: answers) =
      if taken chunk.length answer = 0 then
        ⟨⟨chunk :: rest⟩, .error .sendError, [], [chunk.length], answers⟩
      else if taken chunk.length answer < chunk.length then
        (flush (chunk.drop (taken chunk.length answer) :: rest) answers).after chunk.length
          (chunk.take (taken chunk.length answer))
      else (flush rest answers).after chunk.length chunk := by
  cases answer with
  | fails fault => exact absurd rfl (taking fault)
  | takesAll => rw [flush] <;> simp
  | takes limit => rw [flush] <;> simp

/-- A write that takes nothing of a chunk has been refused. -/
theorem refuses_of_taken_eq_zero {chunk : Bytes} (filled : chunk ≠ []) {answer : WriteAnswer}
    (taking : ∀ fault, answer ≠ .fails fault) (nothing : taken chunk.length answer = 0) :
    answer.Refuses := by
  have some : 0 < chunk.length := List.length_pos_iff.mpr filled
  cases answer with
  | takesAll =>
    have nothing : chunk.length = 0 := nothing
    omega
  | takes limit =>
    have nothing : min limit chunk.length = 0 := nothing
    show limit = 0
    omega
  | fails fault => exact absurd rfl (taking fault)

theorem firstWrite {chunk : Bytes} {rest : List Bytes} (filled : ∀ other ∈ chunk :: rest, other ≠ [])
    (answer : WriteAnswer) : FirstWrite chunk rest answer := by
  have first := filled chunk List.mem_cons_self
  have others : ∀ other ∈ rest, other ≠ [] :=
    fun other member => filled other (List.mem_cons_of_mem chunk member)
  by_cases taking : ∀ fault, answer ≠ .fails fault
  · have flushed := flush_taking taking chunk rest
    by_cases nothing : taken chunk.length answer = 0
    · simp only [nothing, ↓reduceIte] at flushed
      exact .refused (refuses_of_taken_eq_zero first taking nothing) flushed
    · simp only [nothing, ↓reduceIte] at flushed
      by_cases part : taken chunk.length answer < chunk.length
      · simp only [part, ↓reduceIte] at flushed
        refine .goesOn _ _ ?_ (.inr ?_) flushed
        · rw [List.forall_mem_cons]
          refine ⟨fun none => ?_, others⟩
          have := List.drop_eq_nil_iff.mp none
          omega
        · simp only [List.flatten_cons, List.length_append, List.length_drop]
          omega
      · simp only [part, ↓reduceIte] at flushed
        refine .goesOn _ _ others (.inr ?_) flushed
        have some : 0 < chunk.length := List.length_pos_iff.mpr first
        rw [List.flatten_cons, List.length_append]
        omega
  · obtain ⟨fault, failed⟩ := not_forall.mp taking
    obtain rfl := not_not.mp failed
    by_cases blocks : fault = .wouldBlock
    · subst blocks
      exact .blocked rfl fun answers => by rw [flush]
    · by_cases interrupts : fault = .interrupted
      · subst interrupts
        exact .goesOn (chunk :: rest) [] filled (.inl ⟨rfl, rfl⟩) fun answers => by rw [flush]
      · exact .refused ⟨blocks, interrupts⟩ (flush_fault ⟨blocks, interrupts⟩ chunk rest)

/-- Nothing empty is offered to a writer. -/
theorem offered_pos {chunks : List Bytes} (filled : ∀ chunk ∈ chunks, chunk ≠ [])
    (answers : List WriteAnswer) : ∀ size ∈ (flush chunks answers).offered, 0 < size := by
  induction answers generalizing chunks with
  | nil =>
    cases chunks with
    | nil => simp [flush_nil]
    | cons chunk rest => simpa [flush_unanswered, List.length_pos_iff] using filled chunk
  | cons answer answers ih =>
    cases chunks with
    | nil => simp [flush_nil]
    | cons chunk rest =>
      have some : 0 < chunk.length := List.length_pos_iff.mpr (filled chunk List.mem_cons_self)
      cases firstWrite filled answer with
      | goesOn next written filled progress flushed =>
        rw [flushed]
        exact List.forall_mem_cons.mpr ⟨some, ih filled⟩
      | blocked blocks flushed | refused refuses flushed =>
        rw [flushed]
        exact List.forall_mem_singleton.mpr some

/-- Once it has had its last answer, a flush has written everything, or stopped at a writer that
would block, or been refused. -/
theorem outcome_cases {chunks : List Bytes} (filled : ∀ chunk ∈ chunks, chunk ≠ [])
    {answers : List WriteAnswer} (answered : (flush chunks answers).offered.length = answers.length) :
    (flush chunks answers).outcome = .ok true ∧ (flush chunks answers).queue.isEmpty = true ∨
    (flush chunks answers).queue.isEmpty = false ∧ ∃ last, answers.getLast? = some last ∧
      ((flush chunks answers).outcome = .ok false ∧ last = .fails .wouldBlock ∨
        (flush chunks answers).outcome = .error .sendError ∧ last.Refuses) := by
  induction answers generalizing chunks with
  | nil =>
    cases chunks with
    | nil => exact .inl (by rw [flush_nil]; exact ⟨rfl, rfl⟩)
    | cons chunk rest =>
      rw [flush_unanswered] at answered
      cases answered
  | cons answer answers ih =>
    cases chunks with
    | nil =>
      rw [flush_nil] at answered
      cases answered
    | cons chunk rest =>
      cases firstWrite filled answer with
      | goesOn next written filled progress flushed =>
        rw [flushed] at answered ⊢
        rcases ih filled (Nat.succ.inj answered) with done | ⟨left, last, ending, why⟩
        · exact .inl done
        · refine .inr ⟨left, last, ?_, why⟩
          rw [List.getLast?_cons, ending]
          rfl
      | blocked blocks flushed =>
        rw [flushed] at answered ⊢
        obtain rfl := List.eq_nil_of_length_eq_zero (Nat.succ.inj answered).symm
        exact .inr ⟨rfl, answer, rfl, .inl ⟨rfl, blocks⟩⟩
      | refused refuses flushed =>
        rw [flushed] at answered ⊢
        obtain rfl := List.eq_nil_of_length_eq_zero (Nat.succ.inj answered).symm
        exact .inr ⟨rfl, answer, rfl, .inr ⟨rfl, refuses⟩⟩

/-- A flush looks at no answer behind its last one. -/
theorem flush_append {chunks : List Bytes} (filled : ∀ chunk ∈ chunks, chunk ≠ [])
    {answers : List WriteAnswer} (answered : (flush chunks answers).offered.length = answers.length)
    (more : List WriteAnswer) :
    flush chunks (answers ++ more) = { flush chunks answers with unused := more } := by
  induction answers generalizing chunks with
  | nil =>
    cases chunks with
    | nil => rw [List.nil_append, flush_nil, flush_nil]
    | cons chunk rest =>
      rw [flush_unanswered] at answered
      cases answered
  | cons answer answers ih =>
    cases chunks with
    | nil =>
      rw [flush_nil] at answered
      cases answered
    | cons chunk rest =>
      rw [List.cons_append]
      cases firstWrite filled answer with
      | goesOn next written filled progress flushed =>
        rw [flushed] at answered
        rw [flushed, flushed, ih filled (Nat.succ.inj answered)]
        rfl
      | blocked blocks flushed | refused refuses flushed =>
        rw [flushed] at answered
        obtain rfl := List.eq_nil_of_length_eq_zero (Nat.succ.inj answered).symm
        rw [flushed, flushed, List.nil_append]

/-- What a flush comes to with a writer of these answers, of which each write gets the next one. -/
def Flushes (q : OutboundQueue) (answers : Stream' WriteAnswer) (f : Flush) : Prop :=
  ∃ count, f = flush q.chunks (answers.take count) ∧ f.offered.length = count

/-- Whether a writer with these answers interrupts only finitely often in a row. -/
def Relents (answers : Stream' WriteAnswer) : Prop :=
  ∀ n, ∃ m ≥ n, answers.get m ≠ .fails .interrupted

theorem Relents.tail {answers : Stream' WriteAnswer} (relents : Relents answers) :
    Relents answers.tail := by
  intro n
  obtain ⟨m, later, willing⟩ := relents (n + 1)
  obtain ⟨m, rfl⟩ := Nat.exists_eq_add_one.mpr (Nat.lt_of_lt_of_le (Nat.succ_pos n) later)
  exact ⟨m, Nat.le_of_succ_le_succ later, willing⟩

theorem Flushes.unique {q : OutboundQueue} (filled : ∀ chunk ∈ q.chunks, chunk ≠ [])
    {answers : Stream' WriteAnswer} {f g : Flush} (first : q.Flushes answers f)
    (second : q.Flushes answers g) : f = g := by
  have fewer {n m : Nat} (least : n ≤ m) (one : (flush q.chunks (answers.take n)).offered.length = n)
      (other : (flush q.chunks (answers.take m)).offered.length = m) : n = m := by
    have split : answers.take m = answers.take n ++ (answers.take m).drop n := by
      conv => lhs; rw [← List.take_append_drop n (answers.take m)]
      rw [Stream'.take_take, Nat.min_eq_right least]
    have same := flush_append filled (by rw [one, Stream'.length_take]) ((answers.take m).drop n)
    rw [← split] at same
    rw [same] at other
    exact one.symm.trans other
  obtain ⟨n, rfl, one⟩ := first
  obtain ⟨m, rfl, other⟩ := second
  rcases Nat.le_total n m with least | least
  · rw [fewer least one other]
  · rw [fewer least other one]

/-- One more write in front of a flush. -/
theorem Flushes.after {chunk : Bytes} {rest next : List Bytes} {written : Bytes}
    {answers : Stream' WriteAnswer} {f : Flush}
    (flushed : ∀ later, flush (chunk :: rest) (answers.head :: later) =
      (flush next later).after chunk.length written)
    (flushes : Flushes ⟨next⟩ answers.tail f) :
    Flushes ⟨chunk :: rest⟩ answers (f.after chunk.length written) := by
  obtain ⟨count, rfl, answered⟩ := flushes
  refine ⟨count + 1, ?_, congrArg Nat.succ answered⟩
  rw [Stream'.take_succ, flushed]

/-- A flush whose writer relents comes to an end: every write but an interrupted one makes the queue
shorter, and `wait` bounds the interruptions before the next such write. -/
theorem exists_flushes_within {chunks : List Bytes} (filled : ∀ chunk ∈ chunks, chunk ≠ [])
    {answers : Stream' WriteAnswer} (relents : Relents answers) {wait : Nat}
    (willing : answers.get wait ≠ .fails .interrupted) : ∃ f, Flushes ⟨chunks⟩ answers f := by
  match chunks, filled with
  | [], _ => exact ⟨_, 0, rfl, by rw [Stream'.take_zero, flush_nil]; rfl⟩
  | chunk :: rest, filled =>
    cases firstWrite filled answers.head with
    | goesOn next written others progress flushed =>
      rcases progress with ⟨interrupted, rfl⟩ | shorter
      · match wait with
        | 0 => exact absurd interrupted willing
        | wait + 1 =>
          have soon : answers.tail.get wait ≠ .fails .interrupted := willing
          obtain ⟨f, flushes⟩ := exists_flushes_within others relents.tail soon
          exact ⟨_, flushes.after flushed⟩
      · obtain ⟨soon, -, ready⟩ := relents.tail 0
        obtain ⟨f, flushes⟩ := exists_flushes_within others relents.tail ready
        exact ⟨_, flushes.after flushed⟩
    | blocked blocks flushed | refused refuses flushed =>
      refine ⟨_, 1, rfl, ?_⟩
      rw [Stream'.take_succ, Stream'.take_zero]
      show (flush (chunk :: rest) _).offered.length = 1
      rw [flushed]
      rfl
termination_by (chunks.flatten.length, wait)
decreasing_by
  · exact Prod.Lex.right _ (Nat.lt_succ_self wait)
  · exact Prod.Lex.left _ _ shorter

theorem exists_flushes {q : OutboundQueue} (filled : ∀ chunk ∈ q.chunks, chunk ≠ [])
    {answers : Stream' WriteAnswer} (relents : Relents answers) : ∃ f, q.Flushes answers f := by
  obtain ⟨wait, -, willing⟩ := relents 0
  exact exists_flushes_within filled relents willing

/-- What a flush of a queue in order comes to. -/
theorem Flushes.ending {q : OutboundQueue} (filled : ∀ chunk ∈ q.chunks, chunk ≠ [])
    {answers : Stream' WriteAnswer} {f : Flush} (flushes : q.Flushes answers f) :
    f.outcome = .ok true ∧ f.queue.isEmpty = true ∨
    f.queue.isEmpty = false ∧
      (f.outcome = .ok false ∧ answers.get (f.offered.length - 1) = .fails .wouldBlock ∨
        f.outcome = .error .sendError ∧ (answers.get (f.offered.length - 1)).Refuses) := by
  obtain ⟨count, rfl, answered⟩ := flushes
  have whole : (answers.take count).length = count := Stream'.length_take count answers
  rcases outcome_cases filled (answered.trans whole.symm) with done | ⟨left, last, ending, why⟩
  · exact .inl done
  · have place : answers.get ((flush q.chunks (answers.take count)).offered.length - 1) = last := by
      rw [answered]
      cases count with
      | zero => cases ending
      | succ count =>
        rw [Stream'.take_succ', List.getLast?_concat] at ending
        exact Option.some.inj ending
    rw [place]
    exact .inr ⟨left, why⟩

/-- A queue in use, with all chunks that were ever added and all bytes that its writers accepted. -/
structure Journal where
  queue : OutboundQueue
  added : List Bytes
  accepted : Bytes

namespace Journal

def start : Journal := ⟨.empty, [], []⟩

def extend (j : Journal) (chunks : List Bytes) : Journal :=
  { j with queue := j.queue.extend chunks, added := j.added ++ chunks }

def flushed (j : Journal) (f : Flush) : Journal :=
  { j with queue := f.queue, accepted := j.accepted ++ f.written }

/-- The states of a queue after any calls. Each flush may have a writer of its own. -/
inductive Reachable : Journal → Prop where
  | start : Reachable start
  | extend {j : Journal} (reached : Reachable j) (chunks : List Bytes) : Reachable (j.extend chunks)
  | flush {j : Journal} (reached : Reachable j) {answers : Stream' WriteAnswer} {f : Flush}
      (flushes : j.queue.Flushes answers f) : Reachable (j.flushed f)

/-- What every call keeps. -/
structure Sound (j : Journal) : Prop where
  filled : ∀ chunk ∈ j.queue.chunks, chunk ≠ []
  conserved : j.accepted ++ j.queue.pending = j.added.flatten

theorem Sound.extend {j : Journal} (sound : j.Sound) (chunks : List Bytes) :
    (j.extend chunks).Sound := by
  refine ⟨extend_ne_nil sound.filled chunks, ?_⟩
  show j.accepted ++ (j.queue.extend chunks).pending = (j.added ++ chunks).flatten
  rw [pending_extend, ← List.append_assoc, sound.conserved, List.flatten_append]

theorem Sound.flushed {j : Journal} (sound : j.Sound) {answers : Stream' WriteAnswer} {f : Flush}
    (flushes : j.queue.Flushes answers f) : (j.flushed f).Sound := by
  obtain ⟨count, rfl, -⟩ := flushes
  refine ⟨flush_ne_nil sound.filled _, ?_⟩
  have kept := written_append_pending j.queue.chunks (answers.take count)
  calc (j.accepted ++ (flush j.queue.chunks (answers.take count)).written) ++
          (flush j.queue.chunks (answers.take count)).queue.pending
      = j.accepted ++ j.queue.pending := by rw [List.append_assoc, kept, pending]
    _ = j.added.flatten := sound.conserved

theorem Reachable.sound {j : Journal} (reached : Reachable j) : j.Sound := by
  induction reached with
  | start =>
    refine ⟨fun chunk member => ?_, rfl⟩
    cases member
  | extend reached chunks ih => exact ih.extend chunks
  | flush reached flushes ih => exact ih.flushed flushes

/-- After any calls on a queue, with any writers: the bytes accepted and those still queued are all
that were ever added. A flush whose writer does not interrupt for ever comes to just one end. It
offers no empty slice; it answers that it is done just if it leaves nothing, that it is not just if
something is left and the writer would block, and that it failed just if something is left and the
writer took nothing or had another failure. -/
theorem conserved_of_reachable {j : Journal} (reached : Reachable j) :
    j.accepted ++ j.queue.pending = j.added.flatten ∧
    (∀ answers, Relents answers → ∃! f, j.queue.Flushes answers f) ∧
    ∀ answers f, j.queue.Flushes answers f →
      (∀ size ∈ f.offered, 0 < size) ∧
      (f.outcome = .ok true ↔ f.queue.isEmpty = true) ∧
      (f.outcome = .ok false ↔ f.queue.isEmpty = false ∧
        answers.get (f.offered.length - 1) = .fails .wouldBlock) ∧
      (f.outcome = .error .sendError ↔ f.queue.isEmpty = false ∧
        (answers.get (f.offered.length - 1)).Refuses) ∧
      (j.flushed f).accepted ++ (j.flushed f).queue.pending = (j.flushed f).added.flatten := by
  have sound := reached.sound
  refine ⟨sound.conserved, ?_, ?_⟩
  · intro answers relents
    obtain ⟨f, flushes⟩ := exists_flushes sound.filled relents
    exact ⟨f, flushes, fun g others => others.unique sound.filled flushes⟩
  · intro answers f flushes
    have kept := (sound.flushed flushes).conserved
    have apart : ¬(WriteAnswer.fails .wouldBlock).Refuses := fun refuses => refuses.1 rfl
    constructor
    · obtain ⟨count, rfl, -⟩ := flushes
      exact offered_pos sound.filled _
    · rcases flushes.ending sound.filled with
        ⟨outcome, nothing⟩ | ⟨left, ⟨outcome, blocks⟩ | ⟨outcome, refuses⟩⟩
      · simp [kept, outcome, nothing]
      · simp [kept, outcome, left, blocks, apart]
      · have other : answers.get (f.offered.length - 1) ≠ .fails .wouldBlock := by
          intro blocks
          exact apart (blocks ▸ refuses)
        simp [kept, outcome, left, refuses, other]

/-- Interrupts, takes a byte, would block, and from then on takes everything. -/
def moody : Stream' WriteAnswer :=
  [.fails .interrupted, .takes 1, .fails .wouldBlock] ++ₛ Stream'.const .takesAll

/-- Three bytes in two chunks, of which that writer has taken one. -/
def stalled : Journal :=
  (start.extend [[1, 2], [], [3]]).flushed ⟨⟨[[2], [3]]⟩, .ok false, [1], [2, 2, 1], []⟩

theorem stalled_reachable : Reachable stalled := by
  have answers : moody.take 3 = [.fails .interrupted, .takes 1, .fails .wouldBlock] := rfl
  have flushes : (start.extend [[1, 2], [], [3]]).queue.Flushes moody
      ⟨⟨[[2], [3]]⟩, .ok false, [1], [2, 2, 1], []⟩ := ⟨3, by rw [answers]; cbv, rfl⟩
  exact (Reachable.start.extend [[1, 2], [], [3]]).flush flushes

/-- Interrupts once and finds the connection reset. -/
def broken : Stream' WriteAnswer :=
  [.fails .interrupted] ++ₛ Stream'.const (.fails .connectionReset)

theorem conserved_of_reachable_broken :
    Reachable stalled ∧ stalled.accepted ++ stalled.queue.pending = [1, 2, 3] ∧ Relents broken ∧
      (∃! f, stalled.queue.Flushes broken f) ∧
      stalled.queue.Flushes broken ⟨⟨[[2], [3]]⟩, .error .sendError, [], [1, 1], []⟩ ∧
      (broken.get 1).Refuses := by
  obtain ⟨conserved, ended, ends⟩ := conserved_of_reachable stalled_reachable
  have relents : Relents broken := by
    intro n
    refine ⟨n + 1, Nat.le_succ n, ?_⟩
    show WriteAnswer.fails .connectionReset ≠ _
    decide
  have answers : broken.take 2 = [.fails .interrupted, .fails .connectionReset] := rfl
  have flushes : stalled.queue.Flushes broken
      ⟨⟨[[2], [3]]⟩, .error .sendError, [], [1, 1], []⟩ := ⟨2, by rw [answers]; cbv, rfl⟩
  obtain ⟨-, -, -, failed, -⟩ := ends broken _ flushes
  exact ⟨stalled_reachable, conserved, relents, ended broken relents, flushes, (failed.mp rfl).2⟩

end Journal

end OutboundQueue

end MessageTransport
