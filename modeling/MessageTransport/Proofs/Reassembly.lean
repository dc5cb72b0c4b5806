import MessageTransport.Proofs.Transcript

set_option autoImplicit false

namespace MessageTransport.MessageReader

open Transcript

/-- Where a reader can be between two reads: something is missing, and a header that is there has
been accepted. -/
def Midway : MessageReader → Prop
  | ⟨.header filled, _⟩ => filled.size < Header.size
  | ⟨.body header filled, limit⟩ =>
    header.isSupported = true ∧ header.totalLength.toNat ≤ limit ∧
      filled.size < header.payloadLength

/-- What is said from where the reader is, if those are the bytes it still gets. -/
def remaining : MessageReader → Bytes → Transcript
  | ⟨.header filled, limit⟩, bs => parse limit (filled.toList ++ bs)
  | ⟨.body header filled, limit⟩, bs => parseBody limit header (filled.toList ++ bs)

theorem start_midway (limit : Nat) : (start limit).Midway := by
  show (0 : Nat) < Header.size
  decide

theorem Midway.missing_ne_zero {r : MessageReader} (midway : r.Midway) : r.missing ≠ 0 := by
  match r, midway with
  | ⟨.header filled, limit⟩, inside =>
    have inside : filled.size < Header.size := inside
    simp only [missing]
    omega
  | ⟨.body header filled, limit⟩, ⟨_, _, inside⟩ =>
    simp only [missing]
    omega

theorem Midway.remaining_nil {r : MessageReader} (midway : r.Midway) : r.remaining [] = empty := by
  match r, midway with
  | ⟨.header filled, limit⟩, inside =>
    have inside : filled.size < Header.size := inside
    have short : (filled.toList ++ []).length < Header.size := by
      simpa only [List.append_nil, Array.length_toList] using inside
    exact parse_short short limit
  | ⟨.body header filled, limit⟩, ⟨supported, _, inside⟩ =>
    rw [Header.payloadLength_of_isSupported supported] at inside
    have short : (filled.toList ++ []).length < header.totalLength.toNat - Header.size := by
      simpa only [List.append_nil, Array.length_toList] using inside
    exact parseBody_short short limit

theorem complete_error {header : Header} {payload : Bytes} {e : ErrorCode}
    (failed : complete header payload = .error e) : header.verifyPayload payload = .error e := by
  unfold complete at failed
  split at failed
  · cases failed
  · rename_i refused
    cases failed
    exact refused

theorem complete_ok {header : Header} {payload : Bytes} {message : Message}
    (completed : complete header payload = .ok message) :
    header.verifyPayload payload = .ok () ∧ message = ⟨header, payload⟩ := by
  unfold complete at completed
  split at completed
  · rename_i verified
    cases completed
    exact ⟨verified, rfl⟩
  · cases completed

/-- A completed payload is followed by the start of the next message. -/
theorem complete_parseBody {limit : Nat} {header : Header} {payload : Bytes}
    (supported : header.isSupported = true) (whole : payload.length = header.payloadLength)
    (rest : Bytes) :
    match (complete header payload).map (fun m => (some m, start limit)) with
    | .error e => parseBody limit header (payload ++ rest) = failed e
    | .ok (got, next) => next.Midway ∧
        parseBody limit header (payload ++ rest) = (next.remaining rest).after got := by
  rw [Header.payloadLength_of_isSupported supported] at whole
  cases completed : complete header payload with
  | error e => exact parseBody_refused whole (complete_error completed) limit rest
  | ok message =>
    obtain ⟨verified, same⟩ := complete_ok completed
    rw [same]
    exact ⟨start_midway limit, parseBody_whole whole verified limit rest⟩

theorem openMessage_parse {limit : Nat} {front : Bytes} (whole : front.length = Header.size)
    (rest : Bytes) :
    match openMessage limit front with
    | .error e => parse limit (front ++ rest) = failed e
    | .ok (got, next) => next.Midway ∧
        parse limit (front ++ rest) = (next.remaining rest).after got := by
  unfold openMessage
  cases decoded : Header.decode front with
  | error e => exact parse_decode_error whole decoded limit rest
  | ok header =>
    have supported := Header.isSupported_of_decode decoded
    by_cases tooLong : limit < header.totalLength.toNat
    · simp only [tooLong, ↓reduceIte]
      exact parse_too_long whole decoded tooLong rest
    · simp only [tooLong, ↓reduceIte, parse_header whole decoded tooLong rest]
      by_cases nothing : header.payloadLength = 0
      · simp only [nothing, ↓reduceIte]
        exact @complete_parseBody limit header [] supported nothing.symm rest
      · simp only [nothing, ↓reduceIte]
        exact ⟨⟨supported, by omega, by simp only [List.size_toArray, List.length_nil]; omega⟩, rfl⟩

theorem size_grown (filled : Array UInt8) (piece : Bytes) :
    (filled ++ piece).size = filled.size + piece.length := by
  rw [← Array.length_toList, Array.toList_appendList, List.length_append, Array.length_toList]

theorem toList_grown (filled : Array UInt8) (piece rest : Bytes) :
    filled.toList ++ (piece ++ rest) = (filled ++ piece).toList ++ rest := by
  rw [Array.toList_appendList, List.append_assoc]

/-- Bytes taken in are bytes of the stream, as long as no more are taken in than were missing. -/
theorem accept_remaining {r : MessageReader} (midway : r.Midway) {piece : Bytes}
    (fits : piece.length ≤ r.missing) (rest : Bytes) :
    match r.accept piece with
    | .error e => r.remaining (piece ++ rest) = failed e
    | .ok (got, next) => next.Midway ∧
        r.remaining (piece ++ rest) = (next.remaining rest).after got := by
  match r, midway with
  | ⟨.header filled, limit⟩, inside =>
    have inside : filled.size < Header.size := inside
    have fits : piece.length ≤ Header.size - filled.size := fits
    simp only [accept, remaining, toList_grown]
    by_cases more : (filled ++ piece).size < Header.size
    · simp only [more, ↓reduceIte]
      exact ⟨more, rfl⟩
    · simp only [more, ↓reduceIte]
      refine openMessage_parse ?_ rest
      have grown := size_grown filled piece
      rw [Array.length_toList]
      omega
  | ⟨.body header filled, limit⟩, ⟨supported, within, inside⟩ =>
    have fits : piece.length ≤ header.payloadLength - filled.size := fits
    simp only [accept, remaining, toList_grown]
    by_cases more : (filled ++ piece).size < header.payloadLength
    · simp only [more, ↓reduceIte]
      exact ⟨⟨supported, within, more⟩, rfl⟩
    · simp only [more, ↓reduceIte]
      refine complete_parseBody supported ?_ rest
      have grown := size_grown filled piece
      rw [Array.length_toList]
      omega

theorem stream_data {bs : Bytes} (some : bs ≠ []) (rest : List ReadAnswer) :
    stream (.data bs :: rest) = bs ++ stream rest := by
  cases bs with
  | nil => exact absurd rfl some
  | cons b bs => rfl

theorem ending?_data {bs : Bytes} (some : bs ≠ []) (rest : List ReadAnswer) :
    ending? (.data bs :: rest) = ending? rest := by
  cases bs with
  | nil => exact absurd rfl some
  | cons b bs => rfl

theorem stream_putBack (left : Bytes) (rest : List ReadAnswer) :
    stream (putBack left rest) = left ++ stream rest := by
  cases left with
  | nil => rfl
  | cons b bs => rfl

theorem ending?_putBack (left : Bytes) (rest : List ReadAnswer) :
    ending? (putBack left rest) = ending? rest := by
  cases left with
  | nil => rfl
  | cons b bs => rfl

theorem ending?_fails {fault : IoFault} (blocked : fault ≠ .wouldBlock)
    (interrupted : fault ≠ .interrupted) (rest : List ReadAnswer) :
    stream (.fails fault :: rest) = [] ∧
      ending? (.fails fault :: rest) = some fault.readCode := by
  cases fault with
  | wouldBlock => exact absurd rfl blocked
  | interrupted => exact absurd rfl interrupted
  | _ => exact ⟨rfl, rfl⟩

/-- Answers that do not end a stream are followed by what comes behind them. -/
theorem ending?_append {front : List ReadAnswer} (goesOn : ending? front = none)
    (back : List ReadAnswer) :
    ending? (front ++ back) = ending? back ∧ stream (front ++ back) = stream front ++ stream back := by
  fun_induction ending? front with
  | case1 => exact ⟨rfl, rfl⟩
  | case2 rest => cases goesOn
  | case3 bs rest some ih =>
    have some : bs ≠ [] := some
    obtain ⟨ending, bytes⟩ := ih goesOn
    rw [List.cons_append, ending?_data some, stream_data some, stream_data some, bytes,
      List.append_assoc]
    exact ⟨ending, rfl⟩
  | case4 rest => cases goesOn
  | case5 rest ih => exact ih goesOn
  | case6 rest ih => exact ih goesOn
  | case7 fault rest blocked interrupted => cases goesOn

/-- What a script of answers says to a reader that gets them from where it is. -/
def said (r : MessageReader) (script : List ReadAnswer) : Transcript :=
  (r.remaining (stream script)).endedBy (ending? script)

theorem Midway.said_ended {r : MessageReader} (midway : r.Midway) {script : List ReadAnswer}
    (nothing : stream script = []) : r.said script = ⟨[], ending? script⟩ := by
  rw [said, nothing, midway.remaining_nil, empty_endedBy]

/-- A piece is said in front of what is left over of it and all that comes later. -/
theorem accept_said {r : MessageReader} (midway : r.Midway) {bs : Bytes} (some : bs ≠ [])
    (rest : List ReadAnswer) :
    match r.accept (bs.take r.missing) with
    | .error e => r.said (.data bs :: rest) = failed e
    | .ok (got, next) => next.Midway ∧
        r.said (.data bs :: rest) = (next.said (putBack (bs.drop r.missing) rest)).after got := by
  have fits : (bs.take r.missing).length ≤ r.missing := List.length_take_le _ _
  have taken := accept_remaining midway fits (bs.drop r.missing ++ stream rest)
  rw [← List.append_assoc, List.take_append_drop] at taken
  simp only [said, stream_data some, ending?_data some, stream_putBack, ending?_putBack]
  cases accepted : r.accept (bs.take r.missing) with
  | error e =>
    rw [accepted] at taken
    have taken : r.remaining (bs ++ stream rest) = failed e := taken
    simp only [taken, failed_endedBy]
  | ok result =>
    obtain ⟨got, next⟩ := result
    rw [accepted] at taken
    obtain ⟨ready, same⟩ := taken
    exact ⟨ready, by rw [same, after_endedBy]⟩

/-- One call returns the next of what is said and leaves the rest to be said. -/
theorem advanceFrom_said {r : MessageReader} (midway : r.Midway) (asked : Array Nat)
    (script : List ReadAnswer) :
    let step := r.advanceFrom asked script
    match step.outcome with
    | .error e => r.said script = failed e
    | .ok got => step.reader.Midway ∧ r.said script = (step.reader.said step.rest).after got := by
  fun_induction advanceFrom r asked script with
  | case1 r asked => exact ⟨midway, rfl⟩
  | case2 r asked rest => exact midway.said_ended rfl
  | case3 r asked rest => exact ⟨midway, rfl⟩
  | case4 r asked rest ih => exact ih midway
  | case5 r asked fault rest blocked interrupted =>
    obtain ⟨nothing, code⟩ := ending?_fails blocked interrupted rest
    have ended := midway.said_ended nothing
    rw [code] at ended
    exact ended
  | case6 r asked bs rest idle =>
    have closed : bs = [] := idle.resolve_left midway.missing_ne_zero
    subst closed
    exact midway.said_ended rfl
  | case7 r asked bs rest live left asked' fresh e refused =>
    have taken := accept_said midway (fun nil => live (.inr nil)) rest
    rw [refused] at taken
    exact taken
  | case8 r asked bs rest live left asked' message next ended =>
    have taken := accept_said midway (fun nil => live (.inr nil)) rest
    rw [ended] at taken
    exact taken
  | case9 r asked bs rest live left asked' next more ih =>
    have taken := accept_said midway (fun nil => live (.inr nil)) rest
    rw [more] at taken
    obtain ⟨ready, same⟩ := taken
    rw [same, after_none]
    exact ih ready

theorem advance_error {r : MessageReader} (midway : r.Midway) {script : List ReadAnswer}
    {e : ErrorCode} (refused : (r.advance script).outcome = .error e) :
    r.said script = failed e := by
  have call := advanceFrom_said midway #[] script
  simp only [advance] at refused
  simp only [refused] at call
  exact call

theorem advance_ok {r : MessageReader} (midway : r.Midway) {script : List ReadAnswer}
    {got : Option Message} (returned : (r.advance script).outcome = .ok got) :
    (r.advance script).reader.Midway ∧
      r.said script = ((r.advance script).reader.said (r.advance script).rest).after got := by
  have call := advanceFrom_said midway #[] script
  simp only [advance] at returned
  simp only [returned] at call
  exact call

theorem transcript_error {call : ReadCall} {e : ErrorCode}
    (refused : call.outcome = .error e) (calls : List ReadCall) :
    transcript (call :: calls) = failed e := by
  simp only [transcript, refused]

theorem transcript_ok {call : ReadCall} {got : Option Message}
    (returned : call.outcome = .ok got) (calls : List ReadCall) :
    transcript (call :: calls) = (transcript calls).after got := by
  simp only [transcript, returned]

/-- Without a failure in the transcript there is none in any call. -/
theorem outcome_of_mem {calls : List ReadCall} (fine : (transcript calls).failure = none)
    {call : ReadCall} (member : call ∈ calls) : ∃ got, call.outcome = .ok got := by
  induction calls with
  | nil => cases member
  | cons first calls ih =>
    cases outcome : first.outcome with
    | error e =>
      rw [transcript_error outcome] at fine
      cases fine
    | ok got =>
      rw [transcript_ok outcome] at fine
      rcases List.mem_cons.mp member with rfl | later
      · exact ⟨got, outcome⟩
      · exact ih fine later

/-- The calls of a reader, all together, return what is said. -/
theorem drain_said {r : MessageReader} (midway : r.Midway) (script : List ReadAnswer) :
    transcript (r.drain script) = r.said script := by
  fun_induction drain r script with
  | case1 r step =>
    have call : step = ⟨⟨.ok none, #[r.missing]⟩, r, []⟩ := by
      simp only [step, advance, advanceFrom]
      rfl
    rw [call, transcript_ok rfl, midway.said_ended rfl]
    rfl
  | case2 r script step nonempty e refused =>
    rw [transcript_error refused, advance_error midway refused]
  | case3 r script step nonempty pending exhausted =>
    obtain ⟨ready, same⟩ := advance_ok midway pending
    have exhausted : step.rest = [] := List.isEmpty_iff.mp exhausted
    rw [transcript_ok pending, same]
    change _ = (step.reader.said step.rest).after none
    rw [exhausted, ready.said_ended rfl]
    rfl
  | case4 r script step nonempty pending more ih =>
    obtain ⟨ready, same⟩ := advance_ok midway pending
    rw [transcript_ok pending, same, ih ready]
  | case5 r script step nonempty message ended ih =>
    obtain ⟨ready, same⟩ := advance_ok midway ended
    rw [transcript_ok ended, same, ih ready]

/-- However a stream is cut into pieces, and wherever reads are held up or broken off in between,
the calls of a fresh reader return what the undivided stream says, up to the failure in it or the
one it ends in. Nothing else about the delivery shows. -/
theorem drain_eq_parse (limit : Nat) (script : List ReadAnswer) :
    transcript ((start limit).drain script) =
        (parse limit (stream script)).endedBy (ending? script) ∧
      ∀ other : List ReadAnswer, stream other = stream script → ending? other = ending? script →
        transcript ((start limit).drain other) = transcript ((start limit).drain script) := by
  have reads (script : List ReadAnswer) : transcript ((start limit).drain script) =
      (parse limit (stream script)).endedBy (ending? script) :=
    drain_said (start_midway limit) script
  refine ⟨reads script, ?_⟩
  intro other sameStream sameEnding
  rw [reads other, reads script, sameStream, sameEnding]

/-- A message with a payload of three bytes. -/
def note : Message := ⟨{ Header.empty with id := 7, totalLength := 41 }.sealed, [5, 6, 7]⟩

def noteBytes : Bytes := note.header.encode ++ note.payload

/-- The message in three pieces, cut inside its header and inside its payload, and then a failure. -/
def scattered : List ReadAnswer :=
  [.data (noteBytes.take 20), .fails .wouldBlock, .data ((noteBytes.drop 20).take 19),
    .fails .interrupted, .data (noteBytes.drop 39), .fails .connectionReset]

theorem drain_eq_parse_cut :
    transcript ((start 100).drain scattered) = ⟨[note], some .brokenConnection⟩ ∧
      transcript ((start 100).drain scattered) =
        transcript ((start 100).drain [.data noteBytes, .endOfStream]) := by
  have whole : stream [.data noteBytes, .endOfStream] = noteBytes := by decide +kernel
  have pieces : stream scattered = noteBytes := by decide +kernel
  have said : parse 100 noteBytes = ⟨[note], none⟩ := by decide +kernel
  obtain ⟨reads, same⟩ := drain_eq_parse 100 [.data noteBytes, .endOfStream]
  have cut := same scattered (pieces.trans whole.symm) rfl
  rw [whole, said] at reads
  exact ⟨cut.trans reads, cut⟩

end MessageTransport.MessageReader
