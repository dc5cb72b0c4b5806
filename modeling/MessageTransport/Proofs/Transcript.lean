import MessageTransport.MessageReader
import MessageTransport.Proofs.HeaderLayout

set_option autoImplicit false

namespace MessageTransport

/-- Messages in order, and the failure behind them if there is one. -/
structure Transcript where
  messages : List Message
  failure : Option ErrorCode
deriving DecidableEq, Repr

namespace Transcript

/-- Nothing so far, and nothing wrong. -/
def empty : Transcript := ⟨[], none⟩

def failed (code : ErrorCode) : Transcript := ⟨[], some code⟩

/-- A transcript behind what was got before it. -/
def after (got : Option Message) (t : Transcript) : Transcript :=
  { t with messages := got.toList ++ t.messages }

/-- A transcript of bytes behind which their stream ends, for a reason if it has one. -/
def endedBy (t : Transcript) (ending : Option ErrorCode) : Transcript :=
  { t with failure := t.failure.or ending }

@[simp] theorem after_none (t : Transcript) : t.after none = t := rfl

@[simp] theorem endedBy_none (t : Transcript) : t.endedBy none = t := by
  simp only [endedBy, Option.or_none]

@[simp] theorem failed_endedBy (code : ErrorCode) (ending : Option ErrorCode) :
    (failed code).endedBy ending = failed code := rfl

@[simp] theorem empty_endedBy (ending : Option ErrorCode) : empty.endedBy ending = ⟨[], ending⟩ :=
  rfl

theorem after_endedBy (got : Option Message) (t : Transcript) (ending : Option ErrorCode) :
    (t.after got).endedBy ending = (t.endedBy ending).after got := rfl

/-- Reads a stream of bytes as a whole. A message that is not all there is left alone, and one that
is too long fails on the strength of its header. -/
def parse (limit : Nat) (bs : Bytes) : Transcript :=
  if bs.length < Header.size then empty
  else
    match Header.decode (bs.take Header.size) with
    | .error e => failed e
    | .ok header =>
      let length := header.totalLength.toNat - Header.size
      let body := bs.drop Header.size
      if limit < header.totalLength.toNat then failed .messageTooLarge
      else if body.length < length then empty
      else
        match header.verifyPayload (body.take length) with
        | .error e => failed e
        | .ok () => (parse limit (body.drop length)).after (some ⟨header, body.take length⟩)
termination_by bs.length
decreasing_by
  simp only [body, Header.size, List.length_drop] at *
  omega

/-- The same behind a header that has been accepted. -/
def parseBody (limit : Nat) (header : Header) (body : Bytes) : Transcript :=
  let length := header.totalLength.toNat - Header.size
  if body.length < length then empty
  else
    match header.verifyPayload (body.take length) with
    | .error e => failed e
    | .ok () => (parse limit (body.drop length)).after (some ⟨header, body.take length⟩)

theorem not_short {front : Bytes} {size : Nat} (whole : front.length = size) (rest : Bytes) :
    ¬(front ++ rest).length < size := by
  rw [List.length_append]
  omega

theorem parse_short {bs : Bytes} (short : bs.length < Header.size) (limit : Nat) :
    parse limit bs = empty := by
  rw [parse]
  simp only [short, ↓reduceIte]

theorem parse_decode_error {front : Bytes} {e : ErrorCode} (whole : front.length = Header.size)
    (refused : Header.decode front = .error e) (limit : Nat) (rest : Bytes) :
    parse limit (front ++ rest) = failed e := by
  have long := not_short whole rest
  rw [parse]
  simp only [long, ↓reduceIte, List.take_left' whole, refused]

theorem parse_too_long {front : Bytes} {header : Header} {limit : Nat}
    (whole : front.length = Header.size) (accepted : Header.decode front = .ok header)
    (tooLong : limit < header.totalLength.toNat) (rest : Bytes) :
    parse limit (front ++ rest) = failed .messageTooLarge := by
  have long := not_short whole rest
  rw [parse]
  simp only [long, ↓reduceIte, List.take_left' whole, accepted, tooLong]

theorem parse_header {front : Bytes} {header : Header} {limit : Nat}
    (whole : front.length = Header.size) (accepted : Header.decode front = .ok header)
    (fits : ¬limit < header.totalLength.toNat) (rest : Bytes) :
    parse limit (front ++ rest) = parseBody limit header rest := by
  have long := not_short whole rest
  rw [parse, parseBody]
  simp only [long, ↓reduceIte, List.take_left' whole, List.drop_left' whole, accepted, fits]

theorem parseBody_short {header : Header} {body : Bytes}
    (short : body.length < header.totalLength.toNat - Header.size) (limit : Nat) :
    parseBody limit header body = empty := by
  simp only [parseBody, short, ↓reduceIte]

theorem parseBody_refused {header : Header} {payload : Bytes} {e : ErrorCode}
    (whole : payload.length = header.totalLength.toNat - Header.size)
    (refused : header.verifyPayload payload = .error e) (limit : Nat) (rest : Bytes) :
    parseBody limit header (payload ++ rest) = failed e := by
  have long := not_short whole rest
  simp only [parseBody, long, ↓reduceIte, List.take_left' whole, refused]

theorem parseBody_whole {header : Header} {payload : Bytes}
    (whole : payload.length = header.totalLength.toNat - Header.size)
    (verified : header.verifyPayload payload = .ok ()) (limit : Nat) (rest : Bytes) :
    parseBody limit header (payload ++ rest) =
      (parse limit rest).after (some ⟨header, payload⟩) := by
  have long := not_short whole rest
  simp only [parseBody, long, ↓reduceIte, List.take_left' whole, List.drop_left' whole, verified]

end Transcript

namespace MessageReader

/-- The bytes that a script of answers delivers before it ends. A read that is given nothing has met
the end of the stream. -/
def stream : List ReadAnswer → Bytes
  | .data [] :: _ => []
  | .data bs :: rest => bs ++ stream rest
  | .fails .wouldBlock :: rest => stream rest
  | .fails .interrupted :: rest => stream rest
  | _ => []

/-- The failure that a script of answers ends in, unless it just stops. -/
def ending? : List ReadAnswer → Option ErrorCode
  | [] => none
  | .data [] :: _ => some .brokenConnection
  | .data _ :: rest => ending? rest
  | .endOfStream :: _ => some .brokenConnection
  | .fails .wouldBlock :: rest => ending? rest
  | .fails .interrupted :: rest => ending? rest
  | .fails fault :: _ => some fault.readCode

/-- What the calls of a reader have to show. -/
def transcript : List ReadCall → Transcript
  | [] => .empty
  | call :: rest =>
    match call.outcome with
    | .error e => .failed e
    | .ok got => (transcript rest).after got

end MessageReader

end MessageTransport
