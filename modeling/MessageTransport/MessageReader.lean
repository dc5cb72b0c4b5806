import MessageTransport.Header
import MessageTransport.IoFault

set_option autoImplicit false

namespace MessageTransport

structure Message where
  header : Header
  payload : Bytes
deriving DecidableEq, Repr

/-- How a stream answers one read: with bytes, of which a read takes as many as it asks for and
leaves the others, with the end of the stream, or with a fault. -/
inductive ReadAnswer where
  | data (bs : Bytes)
  | endOfStream
  | fails (fault : IoFault)
deriving DecidableEq, Repr

/-- What the reader has of the message under way. -/
inductive ReadPhase where
  | header (filled : Array UInt8)
  | body (header : Header) (filled : Array UInt8)
deriving Repr

/-- A reader that gets whole messages out of a byte stream which arrives in pieces. Each read asks
for exactly what is missing from the current header or the current payload, so no read reaches into
the next message. -/
structure MessageReader where
  phase : ReadPhase
  /-- The longest message accepted, header included. -/
  maxMessageSize : Nat
deriving Repr

namespace MessageReader

/-- A reader at the start of a message. -/
def start (maxMessageSize : Nat) : MessageReader := ⟨.header #[], maxMessageSize⟩

/-- Bytes missing from the current header or payload. -/
def missing (r : MessageReader) : Nat :=
  match r.phase with
  | .header filled => Header.size - filled.size
  | .body header filled => header.payloadLength - filled.size

/-- Ends a message once its payload is there. -/
def complete (header : Header) (payload : Bytes) : Except ErrorCode Message :=
  match header.verifyPayload payload with
  | .ok () => .ok ⟨header, payload⟩
  | .error e => .error e

/-- Looks at a header whose 38 bytes are there. The length is checked before any of the payload is
awaited, and an empty payload is not awaited at all. -/
def openMessage (limit : Nat) (bs : Bytes) :
    Except ErrorCode (Option Message × MessageReader) :=
  match Header.decode bs with
  | .error e => .error e
  | .ok header =>
    if limit < header.totalLength.toNat then .error .messageTooLarge
    else if header.payloadLength = 0 then
      (complete header []).map (fun m => (some m, start limit))
    else .ok (none, ⟨.body header #[], limit⟩)

/-- Takes in bytes, at most as many as are missing. -/
def accept (r : MessageReader) (bs : Bytes) :
    Except ErrorCode (Option Message × MessageReader) :=
  match r with
  | ⟨.header filled, limit⟩ =>
    let filled := filled ++ bs
    if filled.size < Header.size then .ok (none, ⟨.header filled, limit⟩)
    else openMessage limit filled.toList
  | ⟨.body header filled, limit⟩ =>
    let filled := filled ++ bs
    if filled.size < header.payloadLength then .ok (none, ⟨.body header filled, limit⟩)
    else (complete header filled.toList).map (fun m => (some m, start limit))

/-- A bound on the reads that a script of answers can serve. -/
def weight : List ReadAnswer → Nat
  | [] => 0
  | .data bs :: rest => bs.length + 1 + weight rest
  | _ :: rest => 1 + weight rest

/-- The script after a read that left some bytes over. -/
def putBack (left : Bytes) (rest : List ReadAnswer) : List ReadAnswer :=
  if left.isEmpty then rest else .data left :: rest

theorem weight_putBack_le (left : Bytes) (rest : List ReadAnswer) :
    weight (putBack left rest) ≤ left.length + 1 + weight rest := by
  unfold putBack
  split
  · omega
  · simp [weight]

/-- What one call of `advance` has to show. A call that got no message and met no error is
pending. -/
structure ReadCall where
  outcome : Except ErrorCode (Option Message)
  /-- The length asked for by each read, in order. -/
  asked : Array Nat

/-- One call of `advance`, with the reader and the answers it leaves. -/
structure Advance extends ReadCall where
  reader : MessageReader
  rest : List ReadAnswer

theorem weight_after_read {n : Nat} {bs : Bytes} {rest : List ReadAnswer} (hn : n ≠ 0)
    (hbs : bs ≠ []) : weight (putBack (bs.drop n) rest) < weight (.data bs :: rest) := by
  have bound := weight_putBack_le (bs.drop n) rest
  have positive : 0 < bs.length := List.length_pos_iff.2 hbs
  simp only [List.length_drop] at bound
  simp only [weight]
  omega

/-- Reads until a message is complete or the stream has nothing more for now. `asked` are the reads
made before. A reader that met an error in what it read is of no further use. -/
def advanceFrom (r : MessageReader) (asked : Array Nat) (script : List ReadAnswer) : Advance :=
  match script with
  | [] => ⟨⟨.ok none, asked.push r.missing⟩, r, []⟩
  | .endOfStream :: rest => ⟨⟨.error .brokenConnection, asked.push r.missing⟩, r, rest⟩
  | .fails .wouldBlock :: rest => ⟨⟨.ok none, asked.push r.missing⟩, r, rest⟩
  | .fails .interrupted :: rest => r.advanceFrom (asked.push r.missing) rest
  | .fails fault :: rest => ⟨⟨.error fault.readCode, asked.push r.missing⟩, r, rest⟩
  | .data bs :: rest =>
    if _h : r.missing = 0 ∨ bs = [] then
      ⟨⟨.error .brokenConnection, asked.push r.missing⟩, r, rest⟩
    else
      let left := putBack (bs.drop r.missing) rest
      let asked := asked.push r.missing
      let fresh := start r.maxMessageSize
      match r.accept (bs.take r.missing) with
      | .error e => ⟨⟨.error e, asked⟩, fresh, left⟩
      | .ok (some message, next) => ⟨⟨.ok (some message), asked⟩, next, left⟩
      | .ok (none, next) => next.advanceFrom asked left
termination_by weight script
decreasing_by
  · simp [weight]
  · exact weight_after_read (fun zero => _h (.inl zero)) (fun nil => _h (.inr nil))

def advance (r : MessageReader) (script : List ReadAnswer) : Advance := r.advanceFrom #[] script

theorem weight_rest_lt (r : MessageReader) (asked : Array Nat) (script : List ReadAnswer)
    (h : script ≠ []) : weight (r.advanceFrom asked script).rest < weight script := by
  fun_induction advanceFrom r asked script with
  | case1 => exact absurd rfl h
  | case2 r asked rest => simp [weight]
  | case3 r asked rest => simp [weight]
  | case4 r asked rest ih =>
    by_cases stop : rest = []
    · subst stop
      simp [advanceFrom, weight]
    · have := ih stop
      simp only [weight]
      omega
  | case5 r asked fault rest => simp [weight]
  | case6 r asked bs rest idle => simp only [weight]; omega
  | case7 r asked bs rest live left asked' fresh e failed =>
    exact weight_after_read (fun zero => live (.inl zero)) (fun nil => live (.inr nil))
  | case8 r asked bs rest live left asked' message next ended =>
    exact weight_after_read (fun zero => live (.inl zero)) (fun nil => live (.inr nil))
  | case9 r asked bs rest live left asked' next more ih =>
    have step : weight left < weight (.data bs :: rest) :=
      weight_after_read (fun zero => live (.inl zero)) (fun nil => live (.inr nil))
    by_cases stop : left = []
    · have zero : weight (next.advanceFrom asked' left).rest = 0 := by
        rw [stop]
        simp [advanceFrom, weight]
      omega
    · have := ih stop
      omega

/-- Every call of `advance` on a stream, up to the first error or until the script is used up. -/
def drain (r : MessageReader) (script : List ReadAnswer) : List ReadCall :=
  let step := r.advance script
  if _h : script = [] then [step.toReadCall]
  else
    match step.outcome with
    | .error _ => [step.toReadCall]
    | .ok none =>
      if step.rest.isEmpty then [step.toReadCall]
      else step.toReadCall :: drain step.reader step.rest
    | .ok (some _) => step.toReadCall :: drain step.reader step.rest
termination_by weight script
decreasing_by
  · exact weight_rest_lt r #[] script _h
  · exact weight_rest_lt r #[] script _h

end MessageReader

end MessageTransport
