import MessageTransport.Proofs.ReadBuffers

set_option autoImplicit false

namespace MessageTransport

/-- A header or a payload that is still to be completed, with what there is of it. -/
inductive Place where
  | header (got : Bytes)
  | payload (header : Header) (got : Bytes)
deriving DecidableEq, Repr

namespace Place

def got : Place → Bytes
  | .header got => got
  | .payload _ got => got

/-- How long it is when it is complete. -/
def size : Place → Nat
  | .header _ => Header.size
  | .payload announced _ => announced.totalLength.toNat - Header.size

end Place

/-- Where a stream stands behind some bytes of it, if all headers in them can be read. Checksums of
payloads and the longest message accepted do not matter. -/
def place? (bs : Bytes) : Option Place :=
  if bs.length < Header.size then some (.header bs)
  else
    match Header.decode (bs.take Header.size) with
    | .error _ => none
    | .ok header =>
      let length := header.totalLength.toNat - Header.size
      let body := bs.drop Header.size
      if body.length < length then some (.payload header body) else place? (body.drop length)
termination_by bs.length
decreasing_by
  simp only [body, Header.size, List.length_drop] at *
  omega

/-- The same behind a header. -/
def payloadPlace? (header : Header) (body : Bytes) : Option Place :=
  let length := header.totalLength.toNat - Header.size
  if body.length < length then some (.payload header body) else place? (body.drop length)

/-- Where a stream stands that goes on from a place. -/
def Place.onward? : Place → Bytes → Option Place
  | .header got, bs => place? (got ++ bs)
  | .payload announced got, bs => payloadPlace? announced (got ++ bs)

theorem place?_of_decode {front : Bytes} {header : Header} (whole : front.length = Header.size)
    (decoded : Header.decode front = .ok header) (body : Bytes) :
    place? (front ++ body) = payloadPlace? header body := by
  have long := Transcript.not_short whole body
  rw [place?, payloadPlace?]
  simp only [long, ↓reduceIte, List.take_left' whole, List.drop_left' whole, decoded]

theorem place?_short {bs : Bytes} (short : bs.length < Header.size) :
    place? bs = some (.header bs) := by
  rw [place?, if_pos short]

theorem payloadPlace?_short {header : Header} {body : Bytes}
    (short : body.length < header.totalLength.toNat - Header.size) :
    payloadPlace? header body = some (.payload header body) := if_pos short

/-- Behind a whole payload the next header begins. -/
theorem payloadPlace?_whole {header : Header} {body : Bytes}
    (whole : body.length = header.totalLength.toNat - Header.size) :
    payloadPlace? header body = some (.header []) := by
  rw [payloadPlace?, if_neg (by omega), List.drop_of_length_le (Nat.le_of_eq whole),
    place?_short (by decide)]

theorem place?_append_of_decode {before : Bytes} {header : Header}
    (long : ¬before.length < Header.size)
    (decoded : Header.decode (before.take Header.size) = .ok header) (bs : Bytes) :
    place? (before ++ bs) = payloadPlace? header (before.drop Header.size ++ bs) := by
  have whole : (before.take Header.size).length = Header.size :=
    List.length_take_of_le (Nat.not_lt.mp long)
  rw [← place?_of_decode whole decoded, ← List.append_assoc, List.take_append_drop]

/-- Bytes that follow are looked at from where the stream stands. -/
theorem place?_append {before : Bytes} {place : Place} (here : place? before = some place)
    (bs : Bytes) : place? (before ++ bs) = place.onward? bs := by
  fun_induction place? before with
  | case1 before short =>
    cases here
    rfl
  | case2 before long e refused => cases here
  | case3 before long header decoded length body short =>
    cases here
    exact place?_append_of_decode long decoded bs
  | case4 before long header decoded length body more ih =>
    have enough : length ≤ body.length := Nat.not_lt.mp more
    have longer : ¬(body ++ bs).length < length := by
      rw [List.length_append]
      omega
    rw [place?_append_of_decode long decoded, ← ih here, payloadPlace?]
    exact (if_neg longer).trans (congrArg place? (List.drop_append_of_le_length enough))

/-- The header of a payload stands in the stream right before it. -/
theorem decode_of_place? {before got : Bytes} {header : Header}
    (here : place? before = some (.payload header got)) :
    ∃ front encoded, before = front ++ encoded ++ got ∧ encoded.length = Header.size ∧
      Header.decode encoded = .ok header := by
  fun_induction place? before with
  | case1 before short => cases here
  | case2 before long e refused => cases here
  | case3 before long header decoded length body short =>
    obtain ⟨same, rest⟩ := Place.payload.inj (Option.some.inj here)
    refine ⟨[], before.take Header.size, ?_, List.length_take_of_le (Nat.not_lt.mp long), ?_⟩
    · rw [List.nil_append, ← rest, List.take_append_drop]
    · rw [← same, decoded]
  | case4 before long header decoded length body more ih =>
    obtain ⟨front, encoded, same, whole, accepted⟩ := ih here
    refine ⟨before.take Header.size ++ body.take length ++ front, encoded, ?_, whole, accepted⟩
    rw [List.append_assoc, List.append_assoc, List.append_assoc, ← List.append_assoc front, ← same,
      List.take_append_drop, List.take_append_drop]

namespace BufferedReader

open MessageReader (stream stream_data stream_putBack)

/-- What a reader has under way. -/
def place (r : BufferedReader) : Place :=
  match r.header? with
  | none => .header r.buffer.contents
  | some announced => .payload announced r.buffer.contents

/-- A reader stands where the stream does, and has accepted the header under way. -/
structure Stands (limit : Nat) (before : Bytes) (r : BufferedReader) : Prop where
  sound : r.Sound
  limited : r.maxMessageSize = limit
  here : place? before = some r.place
  accepted : ∀ header, r.header? = some header →
    header.isSupported = true ∧ header.totalLength.toNat ≤ limit

variable {limit : Nat} {before : Bytes} {r : BufferedReader}

theorem stands_start (limit : Nat) : Stands limit [] (start limit) where
  sound := sound_start limit
  limited := rfl
  here := place?_short (by decide)
  accepted header none := by cases none

theorem got_place (r : BufferedReader) : r.place.got = r.buffer.contents := by
  unfold place
  split <;> rfl

theorem Stands.size_place (stands : Stands limit before r) : r.place.size = r.whole := by
  unfold place whole
  cases underWay : r.header? with
  | none => rfl
  | some header =>
    exact (Header.payloadLength_of_isSupported (stands.accepted header underWay).1).symm

/-- Where the stream stands behind a piece that was taken in, the reader stands as well. -/
theorem Stands.outcome (stands : Stands limit before r) {piece : Bytes}
    (fits : piece.length ≤ r.buffer.offered.length) {got : Option Message} {next : BufferedReader}
    (outcome : r.Outcome piece got next) : Stands limit (before ++ piece) next := by
  have ready := outcome.sound stands.sound fits
  have limited := stands.limited
  have onward := place?_append stands.here piece
  -- the stream goes on from what the buffer holds, be it of a header or of a payload
  have awaiting (awaited : r.header? = none) :
      place? (before ++ piece) = place? (r.buffer.contents ++ piece) := by
    rw [onward, place, awaited]
    rfl
  have announcing {header : Header} (underWay : r.header? = some header) :
      place? (before ++ piece) = payloadPlace? header (r.buffer.contents ++ piece) := by
    rw [onward, place, underWay]
    rfl
  cases outcome with
  | more short =>
    refine ⟨ready, limited, ?_, stands.accepted⟩
    have contents := stands.sound.contents_fill piece
    cases underWay : r.header? with
    | none =>
      rw [whole, underWay] at short
      rw [awaiting underWay, place?_short short, place, contents]
    | some header =>
      rw [whole, underWay, Option.map_some, Option.getD_some,
        Header.payloadLength_of_isSupported (stands.accepted header underWay).1] at short
      rw [announcing underWay, payloadPlace?_short short, place, contents]
  | @opened header awaited whole decoded within announced =>
    have supported := Header.isSupported_of_decode decoded
    rw [Header.payloadLength_of_isSupported supported] at announced
    refine ⟨ready, limited, ?_, ?_⟩
    · rw [awaiting awaited, ← List.append_nil (r.buffer.contents ++ piece),
        place?_of_decode whole decoded]
      exact payloadPlace?_short (Nat.pos_of_ne_zero announced)
    · intro other same
      cases same
      rw [← limited]
      exact ⟨supported, within⟩
  | @empty header awaited whole decoded nothing got =>
    have supported := Header.isSupported_of_decode decoded
    rw [Header.payloadLength_of_isSupported supported] at nothing
    rw [limited]
    refine ⟨sound_start limit, rfl, ?_, (stands_start limit).accepted⟩
    rw [awaiting awaited, ← List.append_nil (r.buffer.contents ++ piece),
      place?_of_decode whole decoded]
    exact payloadPlace?_whole nothing.symm
  | @ended header underWay whole got =>
    have supported := (stands.accepted header underWay).1
    rw [Header.payloadLength_of_isSupported supported] at whole
    rw [limited]
    refine ⟨sound_start limit, rfl, ?_, (stands_start limit).accepted⟩
    rw [announcing underWay, payloadPlace?_whole whole]
    rfl

/-- At each of its reads a reader stands where the stream does. -/
theorem Stands.reads (stands : Stands limit before r) {script : List ReadAnswer} {read : Read}
    (member : read ∈ reads before r script) :
    Stands limit read.before read.reader ∧
      ∃ piece, read.before = before ++ piece ∧ piece <+: stream script := by
  have here (before : Bytes) (script : List ReadAnswer) :
      ∃ piece, before = before ++ piece ∧ piece <+: stream script :=
    ⟨[], (List.append_nil before).symm, List.nil_prefix⟩
  fun_induction BufferedReader.reads before r script with
  | case1 before r =>
    rw [List.mem_singleton.mp member]
    exact ⟨stands, here before _⟩
  | case2 before r rest =>
    rw [List.mem_singleton.mp member]
    exact ⟨stands, here before _⟩
  | case3 before r rest ih =>
    rcases List.mem_cons.mp member with rfl | later
    · exact ⟨stands, here before _⟩
    · split at later
      · cases later
      · exact ih stands later
  | case4 before r rest ih =>
    rcases List.mem_cons.mp member with rfl | later
    · exact ⟨stands, here before _⟩
    · exact ih stands later
  | case5 before r fault rest blocked interrupted =>
    rw [List.mem_singleton.mp member]
    exact ⟨stands, here before _⟩
  | case6 before r bs rest idle =>
    rw [List.mem_singleton.mp member]
    exact ⟨stands, here before _⟩
  | case7 before r bs rest live piece left ih =>
    rcases List.mem_cons.mp member with rfl | later
    · exact ⟨stands, here before _⟩
    · have fits : piece.length ≤ r.buffer.offered.length := List.length_take_le _ _
      split at later
      · cases later
      · rename_i got next accepted
        have outcome := outcome_of_accept stands.sound fits accepted
        obtain ⟨there, more, same, among⟩ := ih next (stands.outcome fits outcome) later
        refine ⟨there, piece ++ more, ?_, ?_⟩
        · rw [same, List.append_assoc]
        · rw [stream_data (fun nil => live (.inr nil)),
            ← List.take_append_drop r.buffer.offered.length bs, List.append_assoc]
          rw [stream_putBack] at among
          exact (List.prefix_append_right_inj piece).mpr among

/-- Whether a read is offered just what is missing of a header or payload, in a buffer of its length
that holds the rest of it. A payload comes right behind its header, which was accepted, and the
buffer is as long as the message without that header. -/
structure Read.Exact (limit : Nat) (read : Read) (place : Place) : Prop where
  here : place? read.before = some place
  positive : 0 < read.length
  missing : place.got.length + read.length = place.size
  whole : read.reader.buffer.bytes.length = place.size
  contents : read.reader.buffer.contents = place.got
  announced : ∀ header got, place = .payload header got →
    (∃ front encoded, read.before = front ++ encoded ++ got ∧ encoded.length = Header.size ∧
        Header.decode encoded = .ok header) ∧
      header.totalLength.toNat ≤ limit ∧
      read.reader.buffer.bytes.length + Header.size = header.totalLength.toNat

theorem Stands.exact {read : Read} (stands : Stands limit read.before read.reader) :
    read.Exact limit read.reader.place := by
  have room := stands.sound.room
  have whole := stands.sound.length.trans stands.size_place.symm
  refine ⟨stands.here, ?_, ?_, whole, (got_place _).symm, ?_⟩
  · rw [Read.length, stands.sound.offered]
    omega
  · rw [got_place, stands.sound.size_contents, Read.length, stands.sound.offered, stands.size_place]
    omega
  · intro header got same
    have underWay : read.reader.header? = some header := by
      unfold place at same
      split at same
      · cases same
      · rename_i announced there
        rw [there, (Place.payload.inj same).1]
    obtain ⟨supported, within⟩ := stands.accepted header underWay
    have covers := ((Header.isSupported_iff header).mp supported).2.2
    refine ⟨decode_of_place? (stands.here.trans (congrArg some same)), within, ?_⟩
    rw [whole, same, Place.size]
    exact Nat.sub_add_cancel covers

/-- The lengths that a fresh reader asks for over a stream, up to the first error, are those that
the buffers of a buffered one have to offer. Each read is made behind a beginning of the stream and
is exact: it is not empty, it ends where the header or the payload does that the stream stands in,
and a buffer for a payload is as long as an accepted message without its header, whatever bytes
came. -/
theorem asked_missing (limit : Nat) (script : List ReadAnswer) :
    ((MessageReader.start limit).drain script).flatMap (fun call => call.asked.toList) =
        (reads [] (start limit) script).map Read.length ∧
      ∀ read ∈ reads [] (start limit) script,
        read.before <+: stream script ∧ ∃ place, read.Exact limit place := by
  refine ⟨drain_asked (sound_start limit) (start_plain limit) [] script, ?_⟩
  intro read member
  obtain ⟨stands, piece, same, among⟩ := (stands_start limit).reads member
  refine ⟨?_, read.reader.place, stands.exact⟩
  rw [same, List.nil_append]
  exact among

end BufferedReader

end MessageTransport
