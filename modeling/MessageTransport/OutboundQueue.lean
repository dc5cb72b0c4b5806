import MessageTransport.Bytes
import MessageTransport.IoFault

set_option autoImplicit false

namespace MessageTransport

/-- How a writer answers one write. -/
inductive WriteAnswer where
  | takesAll
  | takes (limit : Nat)
  | fails (fault : IoFault)
deriving DecidableEq, Repr

/-- Chunks that wait to be written, in order. None of them is empty, so a write that takes nothing
is always a failure. -/
structure OutboundQueue where
  chunks : List Bytes
deriving DecidableEq, Repr

namespace OutboundQueue

def empty : OutboundQueue := ⟨[]⟩

def isEmpty (q : OutboundQueue) : Bool := q.chunks.isEmpty

/-- Everything still to be written. -/
def pending (q : OutboundQueue) : Bytes := q.chunks.flatten

def extend (q : OutboundQueue) (chunks : List Bytes) : OutboundQueue :=
  ⟨q.chunks ++ chunks.filter (fun chunk => !chunk.isEmpty)⟩

def clear (_ : OutboundQueue) : OutboundQueue := empty

/-- How much of `length` bytes an answer takes. -/
def taken (length : Nat) : WriteAnswer → Nat
  | .takesAll => length
  | .takes limit => min limit length
  | .fails _ => 0

/-- What a flush did: the queue it leaves, whether that is empty or why it gave up, the bytes the
writer took, the lengths offered to it, and the answers it did not get to use. -/
structure Flush where
  queue : OutboundQueue
  outcome : Except ErrorCode Bool
  written : Bytes
  offered : List Nat
  unused : List WriteAnswer

/-- One more write in front of a flush. -/
def Flush.after (f : Flush) (offered : Nat) (written : Bytes) : Flush :=
  { f with offered := offered :: f.offered, written := written ++ f.written }

/-- Writes chunks until the queue is empty or the writer would block, which a writer without a
further answer does too. A chunk written in part stays in front. -/
def flush : List Bytes → List WriteAnswer → Flush
  | [], answers => ⟨empty, .ok true, [], [], answers⟩
  | chunk :: rest, [] => ⟨⟨chunk :: rest⟩, .ok false, [], [chunk.length], []⟩
  | chunk :: rest, .fails .wouldBlock :: answers =>
    ⟨⟨chunk :: rest⟩, .ok false, [], [chunk.length], answers⟩
  | chunk :: rest, .fails .interrupted :: answers =>
    (flush (chunk :: rest) answers).after chunk.length []
  | chunk :: rest, .fails _ :: answers =>
    ⟨⟨chunk :: rest⟩, .error .sendError, [], [chunk.length], answers⟩
  | chunk :: rest, answer :: answers =>
    let n := taken chunk.length answer
    if n = 0 then ⟨⟨chunk :: rest⟩, .error .sendError, [], [chunk.length], answers⟩
    else if n < chunk.length then
      (flush (chunk.drop n :: rest) answers).after chunk.length (chunk.take n)
    else (flush rest answers).after chunk.length chunk
termination_by _ answers => answers.length

theorem pending_extend (q : OutboundQueue) (chunks : List Bytes) :
    (q.extend chunks).pending = q.pending ++ chunks.flatten := by
  have dropEmpty : (chunks.filter (fun chunk => !chunk.isEmpty)).flatten = chunks.flatten := by
    induction chunks with
    | nil => rfl
    | cons chunk rest ih => cases chunk <;> simp_all
  simp [extend, pending, dropEmpty]

theorem extend_ne_nil {q : OutboundQueue} (h : ∀ chunk ∈ q.chunks, chunk ≠ [])
    (chunks : List Bytes) : ∀ chunk ∈ (q.extend chunks).chunks, chunk ≠ [] := by
  intro chunk member
  rcases List.mem_append.1 member with old | new
  · exact h chunk old
  · intro empty
    subst empty
    simp at new

theorem flush_ne_nil {chunks : List Bytes} (h : ∀ chunk ∈ chunks, chunk ≠ [])
    (answers : List WriteAnswer) : ∀ chunk ∈ (flush chunks answers).queue.chunks, chunk ≠ [] := by
  fun_induction flush chunks answers with
  | case1 => simp [empty]
  | case2 chunk rest => exact h
  | case3 chunk rest answers => exact h
  | case4 chunk rest answers ih => exact ih h
  | case5 chunk rest fault answers => exact h
  | case6 chunk rest answer answers => exact h
  | case7 chunk rest answer answers _ _ _ n positive part ih =>
    apply ih
    intro other member
    rcases List.mem_cons.1 member with rfl | later
    · intro empty
      have := List.drop_eq_nil_iff.1 empty
      omega
    · exact h other (List.mem_cons_of_mem _ later)
  | case8 chunk rest answer answers _ _ _ n positive whole ih =>
    exact ih (fun other member => h other (List.mem_cons_of_mem _ member))

theorem written_append_pending (chunks : List Bytes) (answers : List WriteAnswer) :
    (flush chunks answers).written ++ (flush chunks answers).queue.pending = chunks.flatten := by
  fun_induction flush chunks answers with
  | case1 => rfl
  | case2 chunk rest => rfl
  | case3 chunk rest answers => rfl
  | case4 chunk rest answers ih => exact ih
  | case5 chunk rest fault answers => rfl
  | case6 chunk rest answer answers => rfl
  | case7 chunk rest answer answers _ _ _ n positive part ih =>
    simp only [Flush.after, List.append_assoc, ih, List.flatten_cons]
    rw [← List.append_assoc, List.take_append_drop]
  | case8 chunk rest answer answers _ _ _ n positive whole ih =>
    simp only [Flush.after, List.append_assoc, ih, List.flatten_cons]

end OutboundQueue

end MessageTransport
