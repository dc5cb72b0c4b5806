import MessageTransport.Draft
import MessageTransport.Proofs.Transcript

set_option autoImplicit false

namespace MessageTransport

namespace Message

/-- The bytes of a message. -/
def encode (m : Message) : Bytes := m.header.encode ++ m.payload

/-- Messages one after another. -/
def encodeAll (ms : List Message) : Bytes := (ms.map encode).flatten

@[simp] theorem encodeAll_nil : encodeAll [] = [] := rfl

@[simp] theorem encodeAll_cons (m : Message) (ms : List Message) :
    encodeAll (m :: ms) = m.encode ++ encodeAll ms := rfl

theorem encodeAll_append (front back : List Message) :
    encodeAll (front ++ back) = encodeAll front ++ encodeAll back := by
  simp only [encodeAll, List.map_append, List.flatten_append]

/-- What a receiver that takes messages up to a length finds in order about a message. -/
structure Intact (limit : Nat) (m : Message) : Prop where
  signed : m.header.sealed = m.header
  supported : m.header.isSupported = true
  counted : m.header.totalLength.toNat = Header.size + m.payload.length
  fits : m.header.totalLength.toNat ≤ limit
  verified : m.header.verifyPayload m.payload = .ok ()

end Message

namespace Transcript

theorem parse_encode {limit : Nat} {m : Message} (intact : m.Intact limit) (rest : Bytes) :
    parse limit (m.encode ++ rest) = (parse limit rest).after (some m) := by
  have decoded : Header.decode m.header.encode = .ok m.header := by
    have read := Header.decode_encode intact.supported []
    rwa [List.append_nil, intact.signed] at read
  have within : ¬limit < m.header.totalLength.toNat := Nat.not_lt.mpr intact.fits
  have whole : m.payload.length = m.header.totalLength.toNat - Header.size := by
    have := intact.counted
    omega
  rw [Message.encode, List.append_assoc, parse_header m.header.length_encode decoded within,
    parseBody_whole whole intact.verified]

theorem parse_encodeAll {limit : Nat} {ms : List Message} (intact : ∀ m ∈ ms, m.Intact limit) :
    parse limit (Message.encodeAll ms) = ⟨ms, none⟩ := by
  induction ms with
  | nil => exact parse_short (by decide) limit
  | cons m ms ih =>
    rw [Message.encodeAll_cons, parse_encode (intact m List.mem_cons_self),
      ih (fun other member => intact other (List.mem_cons_of_mem m member))]
    rfl

/-- More bytes leave what has been said as it is. A failure in the bytes that are there is final. -/
theorem parse_append (limit : Nat) (bs more : Bytes) :
    (parse limit bs).messages <+: (parse limit (bs ++ more)).messages ∧
      ((parse limit bs).failure ≠ none → parse limit (bs ++ more) = parse limit bs) := by
  have front (bs : Bytes) (long : ¬bs.length < Header.size) :
      (bs.take Header.size).length = Header.size ∧
        bs ++ more = bs.take Header.size ++ (bs.drop Header.size ++ more) := by
    refine ⟨List.length_take_of_le (Nat.le_of_not_lt long), ?_⟩
    rw [← List.append_assoc, List.take_append_drop]
  fun_induction parse limit bs with
  | case1 bs short => exact ⟨List.nil_prefix, fun failed => absurd rfl failed⟩
  | case2 bs long e refused =>
    obtain ⟨whole, split⟩ := front bs long
    rw [split, parse_decode_error whole refused]
    exact ⟨List.prefix_rfl, fun _ => rfl⟩
  | case3 bs long header accepted tooLong =>
    obtain ⟨whole, split⟩ := front bs long
    rw [split, parse_too_long whole accepted tooLong]
    exact ⟨List.prefix_rfl, fun _ => rfl⟩
  | case4 bs long header accepted length body fits short =>
    exact ⟨List.nil_prefix, fun failed => absurd rfl failed⟩
  | case5 bs long header accepted length body fits there e refused =>
    obtain ⟨whole, split⟩ := front bs long
    have payload : (body.take length).length = length :=
      List.length_take_of_le (Nat.le_of_not_lt there)
    rw [split, parse_header whole accepted fits, ← List.take_append_drop length (bs.drop _),
      List.append_assoc, parseBody_refused payload refused]
    exact ⟨List.prefix_rfl, fun _ => rfl⟩
  | case6 bs long header accepted length body fits there verified ih =>
    obtain ⟨whole, split⟩ := front bs long
    have payload : (body.take length).length = length :=
      List.length_take_of_le (Nat.le_of_not_lt there)
    rw [split, parse_header whole accepted fits, ← List.take_append_drop length (bs.drop _),
      List.append_assoc, parseBody_whole payload verified]
    refine ⟨List.cons_prefix_cons.mpr ⟨rfl, ih.1⟩, ?_⟩
    intro failed
    rw [ih.2 failed]

end Transcript

namespace Draft

/-- The message a draft stands for: its finished header, checksum included, and all its payload. -/
def message (d : Draft) : Except ErrorCode Message :=
  d.finish.map (fun done => ⟨done.header.sealed, d.data ++ d.extension⟩)

/-- What a draft needs for a receiver to take it: a header of this protocol, and a length that can
be counted and that the receiver allows. -/
structure Frameable (limit : Nat) (d : Draft) : Prop where
  version : d.header.version = Header.currentVersion
  headerLength : d.header.headerLength.toNat = Header.size
  counted : d.length < UInt32.size
  fits : d.length ≤ limit

/-- The header that finishing leaves, up to its own checksum. -/
def finishedHeader (d : Draft) : Header :=
  let counted : Header := { d.header with totalLength := UInt32.ofNat d.length }
  if counted.hasPayloadChecksum then { counted with payloadChecksum := fletcher32 d.payload }
  else counted

theorem finish_eq {d : Draft} (counted : d.length < UInt32.size) :
    d.finish = .ok { d with header := d.finishedHeader } := by
  simp only [finish, counted, ↓reduceIte, finishedHeader]
  split <;> rfl

theorem finishedHeader_totalLength {d : Draft} (counted : d.length < UInt32.size) :
    d.finishedHeader.totalLength.toNat = d.length := by
  have same : d.finishedHeader.totalLength = UInt32.ofNat d.length := by
    unfold finishedHeader
    dsimp only
    split <;> rfl
  rw [same, UInt32.toNat_ofNat', Nat.mod_eq_of_lt counted]

theorem finishedHeader_verifies (d : Draft) : d.finishedHeader.verifyPayload d.payload = .ok () := by
  unfold finishedHeader
  dsimp only
  split
  · rename_i asked
    have matching (h : Header) : { h with payloadChecksum := fletcher32 d.payload }.verifyPayload
        d.payload = .ok () := by
      simp only [Header.verifyPayload, ne_eq, not_true_eq_false, and_false, ↓reduceIte]
    exact matching _
  · rename_i unasked
    simp only [Header.verifyPayload, unasked, Bool.false_eq_true, false_and, ↓reduceIte]

theorem finishedHeader_supported {limit : Nat} {d : Draft} (frameable : d.Frameable limit) :
    d.finishedHeader.isSupported = true := by
  have total := finishedHeader_totalLength frameable.counted
  have kept : d.finishedHeader.version = d.header.version ∧
      d.finishedHeader.headerLength = d.header.headerLength := by
    unfold finishedHeader
    dsimp only
    split <;> exact ⟨rfl, rfl⟩
  refine (Header.isSupported_iff _).mpr ⟨?_, ?_, ?_⟩
  · rw [kept.1, frameable.version]
  · rw [kept.2, frameable.headerLength]
  · rw [total, length]
    omega

theorem message_eq {d : Draft} (counted : d.length < UInt32.size) :
    d.message = .ok ⟨d.finishedHeader.sealed, d.payload⟩ := by
  rw [message, finish_eq counted]
  rfl

/-- A message has the payload of its draft, and of its header what finishing leaves alone. -/
theorem message_fields {d : Draft} {m : Message} (framed : d.message = .ok m) :
    m.payload = d.payload ∧ m.header.flags = d.header.flags ∧ m.header.id = d.header.id ∧
      m.header.groupId = d.header.groupId ∧ m.header.command = d.header.command := by
  by_cases counted : d.length < UInt32.size
  · rw [message_eq counted] at framed
    cases framed
    show _ ∧ d.finishedHeader.flags = _ ∧ d.finishedHeader.id = _ ∧
      d.finishedHeader.groupId = _ ∧ d.finishedHeader.command = _
    unfold finishedHeader
    dsimp only
    split <;> exact ⟨rfl, rfl, rfl, rfl, rfl⟩
  · rw [message, finish, if_neg counted] at framed
    cases framed

/-- The pieces leave out whatever is empty, and nothing else. -/
theorem chunks_flatten {d : Draft} (counted : d.length < UInt32.size) :
    ∃ chunks, d.chunks = .ok chunks ∧ chunks.flatten = d.finishedHeader.encode ++ d.payload := by
  have present (bs : Bytes) : (if bs.isEmpty then [] else [bs]).flatten = bs := by
    cases bs with
    | nil => rfl
    | cons b bs => exact List.append_nil _
  rw [chunks, finish_eq counted]
  refine ⟨_, rfl, ?_⟩
  rw [List.flatten_cons, List.flatten_append, present, present]
  rfl

theorem Frameable.intact {limit : Nat} {d : Draft} (frameable : d.Frameable limit) :
    Message.Intact limit ⟨d.finishedHeader.sealed, d.payload⟩ := by
  have total := finishedHeader_totalLength frameable.counted
  refine ⟨rfl, finishedHeader_supported frameable, ?_, ?_, finishedHeader_verifies d⟩
  · show d.finishedHeader.totalLength.toNat = Header.size + d.payload.length
    rw [total, length, length_payload]
  · show d.finishedHeader.totalLength.toNat ≤ limit
    rw [total]
    exact frameable.fits

/-- A draft that can be framed goes out as the bytes of its message, which arrives in order. -/
theorem Frameable.framed {limit : Nat} {d : Draft} (frameable : d.Frameable limit) :
    ∃ m chunks, d.message = .ok m ∧ m.Intact limit ∧ d.chunks = .ok chunks ∧
      chunks.flatten = m.encode := by
  obtain ⟨chunks, split, joined⟩ := chunks_flatten frameable.counted
  exact ⟨_, chunks, message_eq frameable.counted, frameable.intact, split, joined⟩

end Draft

end MessageTransport
