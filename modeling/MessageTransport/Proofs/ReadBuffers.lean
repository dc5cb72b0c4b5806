import MessageTransport.Proofs.Reassembly

set_option autoImplicit false

namespace MessageTransport

/-- A buffer of fixed length, filled from the front. -/
structure ReadBuffer where
  bytes : Bytes
  filled : Nat
deriving DecidableEq, Repr

namespace ReadBuffer

def allocate (length : Nat) : ReadBuffer := ⟨List.replicate length 0, 0⟩

/-- What a read may write to. -/
def offered (b : ReadBuffer) : Bytes := b.bytes.drop b.filled

def contents (b : ReadBuffer) : Bytes := b.bytes.take b.filled

/-- A read has written some bytes to the front of what it was offered. -/
def fill (b : ReadBuffer) (piece : Bytes) : ReadBuffer :=
  ⟨b.contents ++ piece ++ b.offered.drop piece.length, b.filled + piece.length⟩

theorem length_offered (b : ReadBuffer) : b.offered.length = b.bytes.length - b.filled :=
  List.length_drop

theorem length_fill {b : ReadBuffer} {piece : Bytes} (fits : piece.length ≤ b.offered.length) :
    (b.fill piece).bytes.length = b.bytes.length := by
  have parts : (b.contents ++ b.offered).length = b.bytes.length := by
    rw [contents, offered, List.take_append_drop]
  simp only [fill, List.length_append, List.length_drop] at parts ⊢
  omega

theorem contents_fill {b : ReadBuffer} (inside : b.filled ≤ b.bytes.length) (piece : Bytes) :
    (b.fill piece).contents = b.contents ++ piece := by
  apply List.take_left'
  rw [List.length_append, contents, List.length_take_of_le inside]
  rfl

/-- A buffer that is full is all contents. -/
theorem contents_full {b : ReadBuffer} (full : b.bytes.length ≤ b.filled) : b.contents = b.bytes :=
  List.take_of_length_le full

end ReadBuffer

/-- A reader with the buffer that it reads into. -/
structure BufferedReader where
  /-- The header of the message under way, once it is there. -/
  header? : Option Header
  buffer : ReadBuffer
  maxMessageSize : Nat
deriving DecidableEq, Repr

namespace BufferedReader

open MessageReader (complete putBack weight weight_after_read)

def start (maxMessageSize : Nat) : BufferedReader :=
  ⟨none, .allocate Header.size, maxMessageSize⟩

/-- Looks at a header that is there, and allocates the payload that it announces. -/
def openMessage (limit : Nat) (bs : Bytes) : Except ErrorCode (Option Message × BufferedReader) :=
  match Header.decode bs with
  | .error e => .error e
  | .ok header =>
    if limit < header.totalLength.toNat then .error .messageTooLarge
    else if header.payloadLength = 0 then
      (complete header []).map (fun m => (some m, start limit))
    else .ok (none, ⟨some header, .allocate header.payloadLength, limit⟩)

/-- Takes in what a read has written. -/
def accept (r : BufferedReader) (piece : Bytes) :
    Except ErrorCode (Option Message × BufferedReader) :=
  let buffer := r.buffer.fill piece
  if buffer.filled < buffer.bytes.length then .ok (none, { r with buffer })
  else
    match r.header? with
    | none => openMessage r.maxMessageSize buffer.bytes
    | some header => (complete header buffer.bytes).map (fun m => (some m, start r.maxMessageSize))

/-- The same reader without what its buffer has room for. -/
def plain (r : BufferedReader) : MessageReader where
  phase :=
    match r.header? with
    | none => .header r.buffer.contents.toArray
    | some header => .body header r.buffer.contents.toArray
  maxMessageSize := r.maxMessageSize

/-- The length of what is under way. -/
def whole (r : BufferedReader) : Nat := (r.header?.map Header.payloadLength).getD Header.size

/-- The buffer is as long as what is under way, and something of it is missing. -/
structure Sound (r : BufferedReader) : Prop where
  length : r.buffer.bytes.length = r.whole
  room : r.buffer.filled < r.whole

variable {r : BufferedReader}

theorem sound_allocate {header? : Option Header} {length : Nat} (limit : Nat)
    (same : length = (header?.map Header.payloadLength).getD Header.size) (positive : length ≠ 0) :
    Sound ⟨header?, .allocate length, limit⟩ where
  length := List.length_replicate.trans same
  room := by
    rw [whole, ← same]
    exact Nat.pos_of_ne_zero positive

theorem sound_start (limit : Nat) : (start limit).Sound := sound_allocate limit rfl (by decide)

theorem Sound.offered (sound : r.Sound) : r.buffer.offered.length = r.whole - r.buffer.filled := by
  rw [ReadBuffer.length_offered, sound.length]

theorem Sound.size_contents (sound : r.Sound) : r.buffer.contents.length = r.buffer.filled := by
  apply List.length_take_of_le
  rw [sound.length]
  exact Nat.le_of_lt sound.room

theorem Sound.length_fill (sound : r.Sound) {piece : Bytes}
    (fits : piece.length ≤ r.buffer.offered.length) :
    (r.buffer.fill piece).bytes.length = r.whole :=
  (ReadBuffer.length_fill fits).trans sound.length

theorem Sound.contents_fill (sound : r.Sound) (piece : Bytes) :
    (r.buffer.fill piece).contents = r.buffer.contents ++ piece := by
  apply ReadBuffer.contents_fill
  rw [sound.length]
  exact Nat.le_of_lt sound.room

theorem Sound.filled_fill (sound : r.Sound) (piece : Bytes) :
    (r.buffer.fill piece).filled = (r.buffer.contents ++ piece).length := by
  rw [List.length_append, sound.size_contents]
  rfl

theorem Sound.missing_plain (sound : r.Sound) : r.plain.missing = r.buffer.offered.length := by
  rw [sound.offered, ← sound.size_contents]
  unfold plain whole MessageReader.missing
  cases r.header? with
  | none => rfl
  | some header => rfl

theorem start_plain (limit : Nat) : (start limit).plain = MessageReader.start limit := rfl

/-- What comes of a message, seen without the room in buffers. -/
def bare (result : Option Message × BufferedReader) : Option Message × MessageReader :=
  (result.1, result.2.plain)

theorem complete_bare (header : Header) (payload : Bytes) (limit : Nat) :
    ((complete header payload).map (fun m => (some m, start limit))).map bare =
      (complete header payload).map (fun m => (some m, MessageReader.start limit)) := by
  cases complete header payload with
  | error e => rfl
  | ok message => rfl

theorem openMessage_bare (limit : Nat) (bs : Bytes) :
    (openMessage limit bs).map bare = MessageReader.openMessage limit bs := by
  unfold openMessage MessageReader.openMessage
  cases Header.decode bs with
  | error e => rfl
  | ok header =>
    dsimp only
    split
    · rfl
    · split
      · exact complete_bare header [] limit
      · rfl

/-- A buffered reader takes in what the reader without buffers does, with the same outcome. -/
theorem accept_plain (sound : r.Sound) {piece : Bytes}
    (fits : piece.length ≤ r.buffer.offered.length) :
    (r.accept piece).map bare = r.plain.accept piece := by
  have length := sound.length_fill fits
  have grown : r.buffer.contents.toArray ++ piece = (r.buffer.fill piece).contents.toArray := by
    rw [sound.contents_fill]
    exact Array.toList_inj.mp (by rw [Array.toList_appendList])
  have size : (r.buffer.fill piece).contents.toArray.size = (r.buffer.fill piece).filled := by
    rw [List.size_toArray, sound.contents_fill, sound.filled_fill]
  unfold accept
  obtain ⟨header?, buffer, limit⟩ := r
  cases header? with
  | none =>
    have length : (buffer.fill piece).bytes.length = Header.size := length
    simp only [plain, MessageReader.accept, grown, size, length]
    split
    · rfl
    · rename_i full
      rw [ReadBuffer.contents_full (by omega)]
      exact openMessage_bare limit _
  | some header =>
    have length : (buffer.fill piece).bytes.length = header.payloadLength := length
    simp only [plain, MessageReader.accept, grown, size, length]
    split
    · rfl
    · rename_i full
      rw [ReadBuffer.contents_full (by omega)]
      exact complete_bare header _ limit

/-- What comes of a piece that is taken in. -/
inductive Outcome (r : BufferedReader) (piece : Bytes) :
    Option Message → BufferedReader → Prop where
  | more (short : (r.buffer.contents ++ piece).length < r.whole) :
      Outcome r piece none { r with buffer := r.buffer.fill piece }
  | opened {header : Header} (awaited : r.header? = none)
      (whole : (r.buffer.contents ++ piece).length = Header.size)
      (decoded : Header.decode (r.buffer.contents ++ piece) = .ok header)
      (within : header.totalLength.toNat ≤ r.maxMessageSize)
      (announced : header.payloadLength ≠ 0) :
      Outcome r piece none ⟨some header, .allocate header.payloadLength, r.maxMessageSize⟩
  | empty {header : Header} (awaited : r.header? = none)
      (whole : (r.buffer.contents ++ piece).length = Header.size)
      (decoded : Header.decode (r.buffer.contents ++ piece) = .ok header)
      (nothing : header.payloadLength = 0) (got : Message) :
      Outcome r piece (some got) (start r.maxMessageSize)
  | ended {header : Header} (underWay : r.header? = some header)
      (whole : (r.buffer.contents ++ piece).length = header.payloadLength) (got : Message) :
      Outcome r piece (some got) (start r.maxMessageSize)

/-- Only a payload that is right completes a message, and the next header is awaited then. -/
theorem of_complete {header : Header} {payload : Bytes} {limit : Nat} {got : Option Message}
    {next : BufferedReader}
    (completed : (complete header payload).map (fun m => (some m, start limit)) =
      .ok (got, next)) : ∃ message, got = some message ∧ next = start limit := by
  cases result : complete header payload with
  | error e =>
    rw [result] at completed
    cases completed
  | ok message =>
    rw [result] at completed
    cases completed
    exact ⟨message, rfl, rfl⟩

theorem outcome_openMessage (awaited : r.header? = none) {piece : Bytes}
    (whole : (r.buffer.contents ++ piece).length = Header.size) {got : Option Message}
    {next : BufferedReader}
    (opened : openMessage r.maxMessageSize (r.buffer.contents ++ piece) = .ok (got, next)) :
    r.Outcome piece got next := by
  unfold openMessage at opened
  split at opened
  · cases opened
  · rename_i header decoded
    split at opened
    · cases opened
    · rename_i within
      split at opened
      · rename_i nothing
        obtain ⟨message, rfl, rfl⟩ := of_complete opened
        exact .empty awaited whole decoded nothing message
      · rename_i announced
        cases opened
        exact .opened awaited whole decoded (Nat.not_lt.mp within) announced

theorem outcome_of_accept (sound : r.Sound) {piece : Bytes}
    (fits : piece.length ≤ r.buffer.offered.length) {got : Option Message} {next : BufferedReader}
    (accepted : r.accept piece = .ok (got, next)) : r.Outcome piece got next := by
  have length := sound.length_fill fits
  unfold accept at accepted
  dsimp only at accepted
  split at accepted
  · rename_i short
    rw [sound.filled_fill, length] at short
    cases accepted
    exact .more short
  · rename_i full
    have full := Nat.not_lt.mp full
    have bytes : (r.buffer.fill piece).bytes = r.buffer.contents ++ piece := by
      rw [← sound.contents_fill, ReadBuffer.contents_full full]
    have whole : (r.buffer.contents ++ piece).length = r.whole := by
      rw [← bytes, length]
    rw [bytes] at accepted
    split at accepted
    · rename_i awaited
      refine outcome_openMessage awaited (whole.trans ?_) accepted
      rw [BufferedReader.whole, awaited]
      rfl
    · rename_i header underWay
      have whole : (r.buffer.contents ++ piece).length = header.payloadLength := by
        refine whole.trans ?_
        rw [BufferedReader.whole, underWay]
        rfl
      obtain ⟨message, rfl, rfl⟩ := of_complete accepted
      exact .ended underWay whole message

theorem Outcome.sound (sound : r.Sound) {piece : Bytes}
    (fits : piece.length ≤ r.buffer.offered.length) {got : Option Message} {next : BufferedReader}
    (outcome : r.Outcome piece got next) : next.Sound := by
  cases outcome with
  | more short =>
    refine ⟨sound.length_fill fits, ?_⟩
    rw [← sound.filled_fill] at short
    exact short
  | opened awaited whole decoded within announced =>
    exact sound_allocate r.maxMessageSize rfl announced
  | empty awaited whole decoded nothing got => exact sound_start r.maxMessageSize
  | ended underWay whole got => exact sound_start r.maxMessageSize

/-- A read, with the bytes of the stream that were read before it. -/
structure Read where
  before : Bytes
  reader : BufferedReader

/-- How many bytes a read asks for. -/
def Read.length (read : Read) : Nat := read.reader.buffer.offered.length

/-- The reads that a reader makes of a stream, up to the first error or until the script is used
up. -/
def reads (before : Bytes) (r : BufferedReader) (script : List ReadAnswer) : List Read :=
  match script with
  | [] => [⟨before, r⟩]
  | .endOfStream :: _ => [⟨before, r⟩]
  | .fails .wouldBlock :: rest =>
    ⟨before, r⟩ :: if rest.isEmpty then [] else reads before r rest
  | .fails .interrupted :: rest => ⟨before, r⟩ :: reads before r rest
  | .fails _ :: _ => [⟨before, r⟩]
  | .data bs :: rest =>
    if _h : r.buffer.offered.length = 0 ∨ bs = [] then [⟨before, r⟩]
    else
      let piece := bs.take r.buffer.offered.length
      let left := putBack (bs.drop r.buffer.offered.length) rest
      ⟨before, r⟩ ::
        match r.accept piece with
        | .error _ => []
        | .ok (_, next) => reads (before ++ piece) next left
termination_by weight script
decreasing_by
  · simp [weight]
  · simp [weight]
  · exact weight_after_read (fun zero => _h (.inl zero)) (fun nil => _h (.inr nil))

/-- The lengths of the reads behind a call that returned. -/
def onward (got : Option Message) (before : Bytes) (r : BufferedReader)
    (rest : List ReadAnswer) : List Nat :=
  if got = none ∧ rest = [] then [] else (reads before r rest).map Read.length

/-- Whether a call has asked for the first of some lengths until it returned, and left the others to
be asked for later on. -/
def Accounts (lengths : List Nat) (step : MessageReader.Advance) : Prop :=
  match step.outcome with
  | .error _ => lengths = step.asked.toList
  | .ok got => ∃ before next, next.Sound ∧ next.plain = step.reader ∧
      lengths = step.asked.toList ++ onward got before next step.rest

/-- A call asks for the lengths that are offered until it returns. -/
theorem advanceFrom_accounts (sound : r.Sound) (before : Bytes) (asked : Array Nat)
    (script : List ReadAnswer) :
    Accounts (asked.toList ++ (reads before r script).map Read.length)
      (r.plain.advanceFrom asked script) := by
  have pushed (asked : Array Nat) (n : Nat) (later : List Nat) :
      asked.toList ++ n :: later = (asked.push n).toList ++ later := by
    rw [Array.toList_push, List.append_assoc]
    rfl
  -- on the reads of the stream, with whatever the call has asked for before
  fun_induction reads before r script generalizing asked with
  | case1 before r =>
    rw [MessageReader.advanceFrom, sound.missing_plain]
    exact ⟨before, r, sound, rfl, pushed asked _ []⟩
  | case2 before r rest =>
    rw [MessageReader.advanceFrom, sound.missing_plain]
    exact (pushed asked _ []).trans (List.append_nil _)
  | case3 before r rest ih =>
    rw [MessageReader.advanceFrom, sound.missing_plain]
    refine ⟨before, r, sound, rfl, (pushed asked _ _).trans ?_⟩
    cases rest with
    | nil => rfl
    | cons answer rest => rfl
  | case4 before r rest ih =>
    rw [MessageReader.advanceFrom, sound.missing_plain, List.map_cons, pushed]
    exact ih sound _
  | case5 before r fault rest blocked interrupted =>
    rw [MessageReader.advanceFrom, sound.missing_plain]
    · exact (pushed asked _ []).trans (List.append_nil _)
    · exact blocked
    · exact interrupted
  | case6 before r bs rest idle =>
    rw [MessageReader.advanceFrom, sound.missing_plain, dif_pos idle]
    exact (pushed asked _ []).trans (List.append_nil _)
  | case7 before r bs rest live piece left ih =>
    have fits : piece.length ≤ r.buffer.offered.length := List.length_take_le _ _
    have taken : r.plain.accept (bs.take r.buffer.offered.length) = (r.accept piece).map bare :=
      (accept_plain sound fits).symm
    rw [MessageReader.advanceFrom, sound.missing_plain, dif_neg live, List.map_cons, pushed]
    dsimp only
    rw [taken]
    cases accepted : r.accept piece with
    | error e => exact List.append_nil _
    | ok result =>
      obtain ⟨got, next⟩ := result
      have ready := (outcome_of_accept sound fits accepted).sound sound fits
      cases got with
      | none => exact ih next ready _
      | some message => exact ⟨before ++ piece, next, ready, rfl, rfl⟩

theorem Accounts.error {lengths : List Nat} {step : MessageReader.Advance} {e : ErrorCode}
    (account : Accounts lengths step) (refused : step.outcome = .error e) :
    lengths = step.asked.toList := by
  simp only [Accounts, refused] at account
  exact account

theorem Accounts.ok {lengths : List Nat} {step : MessageReader.Advance} {got : Option Message}
    (account : Accounts lengths step) (returned : step.outcome = .ok got) :
    ∃ before next, next.Sound ∧ next.plain = step.reader ∧
      lengths = step.asked.toList ++ onward got before next step.rest := by
  simp only [Accounts, returned] at account
  exact account

theorem advance_accounts {plain : MessageReader} (sound : r.Sound) (same : r.plain = plain)
    (before : Bytes) (script : List ReadAnswer) :
    Accounts ((reads before r script).map Read.length) (plain.advance script) := by
  rw [← same]
  exact advanceFrom_accounts sound before #[] script

/-- Over a stream, a reader asks for the lengths that the buffers of its buffered form offer. -/
theorem drain_asked {plain : MessageReader} (sound : r.Sound) (same : r.plain = plain)
    (before : Bytes) (script : List ReadAnswer) :
    (plain.drain script).flatMap (fun call => call.asked.toList) =
      (reads before r script).map Read.length := by
  -- on the calls: each leaves a reader whose buffered form makes the reads that are left
  revert r before
  fun_induction MessageReader.drain plain script with
  | case1 plain =>
    rename_i step
    intro r sound same before
    have call : step = ⟨⟨.ok none, #[plain.missing]⟩, plain, []⟩ := by
      simp only [step, MessageReader.advance, MessageReader.advanceFrom]
      rfl
    have account : Accounts ((reads before r []).map Read.length) step :=
      advance_accounts sound same before []
    rw [call] at account ⊢
    obtain ⟨between, next, -, -, lengths⟩ := account
    rw [lengths]
    rfl
  | case2 plain script step nonempty e =>
    rename_i refused
    intro r sound same before
    rw [(advance_accounts sound same before script).error refused, List.flatMap_singleton]
  | case3 plain script step nonempty pending =>
    rename_i exhausted
    intro r sound same before
    obtain ⟨between, next, -, -, lengths⟩ := (advance_accounts sound same before script).ok pending
    have nothing : onward none between next step.rest = [] :=
      if_pos ⟨rfl, List.isEmpty_iff.mp exhausted⟩
    rw [lengths, nothing, List.append_nil, List.flatMap_singleton]
  | case4 plain script step nonempty pending more =>
    rename_i ih
    intro r sound same before
    obtain ⟨between, next, ready, alike, lengths⟩ :=
      (advance_accounts sound same before script).ok pending
    have later : onward none between next step.rest =
        (reads between next step.rest).map Read.length := by
      refine if_neg ?_
      rintro ⟨-, exhausted⟩
      exact more (List.isEmpty_iff.mpr exhausted)
    rw [lengths, later, List.flatMap_cons]
    exact congrArg _ (ih ready alike between)
  | case5 plain script step nonempty message ended =>
    rename_i ih
    intro r sound same before
    obtain ⟨between, next, ready, alike, lengths⟩ :=
      (advance_accounts sound same before script).ok ended
    have later : onward (some message) between next step.rest =
        (reads between next step.rest).map Read.length := by
      refine if_neg ?_
      rintro ⟨none, -⟩
      cases none
    rw [lengths, later, List.flatMap_cons]
    exact congrArg _ (ih ready alike between)

end BufferedReader

end MessageTransport
