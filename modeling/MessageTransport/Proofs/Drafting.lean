import MessageTransport.ErrorReply
import MessageTransport.Proofs.FieldCodec
import MessageTransport.Proofs.Framing

set_option autoImplicit false

namespace MessageTransport

namespace ErrorReply

theorem utf8ByteSize_ofList_cons (c : Char) (cs : List Char) :
    (String.ofList (c :: cs)).utf8ByteSize = c.utf8Size + (String.ofList cs).utf8ByteSize := by
  rw [String.ofList_cons, String.utf8ByteSize_append, String.utf8ByteSize_singleton]

theorem utf8ByteSize_fitting_le (room : Nat) (cs : List Char) :
    (String.ofList (fitting room cs)).utf8ByteSize ≤ room := by
  fun_induction fitting room cs with
  | case1 room => exact Nat.zero_le room
  | case2 room c cs fits ih =>
    rw [utf8ByteSize_ofList_cons]
    omega
  | case3 room c cs full => exact Nat.zero_le room

theorem utf8ByteSize_truncate_le (room : Nat) (s : String) :
    (truncate room s).utf8ByteSize ≤ room := by
  rw [truncate]
  split
  · assumption
  · exact utf8ByteSize_fitting_le room s.toList

end ErrorReply

namespace Draft

/-- How a draft is begun. -/
inductive Origin where
  | ofHeader (header : Header)
  | withCapacity (header : Header) (capacity : Nat)
  | withExtension (header : Header) (extension : Bytes)
  | errorReply (request : Header) (code : ErrorCode) (reason : String)
deriving DecidableEq, Repr

namespace Origin

def draft? : Origin → Option Draft
  | ofHeader header => some (.ofHeader header)
  | withCapacity header capacity => Draft.withCapacity? header capacity
  | withExtension header extension => some (.withExtension header extension)
  | errorReply request code reason => some (ErrorReply.draft request code reason)

/-- The header that a draft is begun with. -/
def header : Origin → Header
  | ofHeader header => header
  | withCapacity header _ => header
  | withExtension header _ => header
  | errorReply request _ _ => Header.empty.inReplyTo request

/-- The extension that a draft is begun with. -/
def extension : Origin → Bytes
  | withExtension _ extension => extension
  | _ => []

/-- The fields that a draft is begun with. -/
def fields : Origin → List Field
  | errorReply _ code reason =>
    [.u32 code.value, .text (some (ErrorReply.truncate Field.maxTextLength reason))]
  | _ => []

end Origin

namespace Edit

/-- The bytes that a call adds to the payload. -/
def written : Edit → Bytes
  | append field =>
    match field.encode with
    | .ok bs => bs
    | .error _ => []
  | appendRaw bs => bs
  | _ => []

/-- The extension that a call sets. -/
def extension? : Edit → Option Bytes
  | setExtension bs => some bs
  | _ => none

/-- The header that a call gives to a draft. -/
def header? : Edit → Option Header
  | setHeader h => some h
  | _ => none

/-- What a call makes of the header of a draft. -/
def headerAfter (h : Header) : Edit → Header
  | setHeader new => new
  | requestChecksum => h.setFlag Header.payloadChecksumFlag
  | _ => h

/-- Why a call fails: only a text can be too long. -/
def refusal? : Edit → Option ErrorCode
  | append (.text s) =>
    if (s.getD "").utf8ByteSize ≤ Field.maxTextLength then none else some .protocolError
  | _ => none

theorem written_of_refused {edit : Edit} (refused : edit.refusal? ≠ none) : edit.written = [] := by
  cases edit with
  | append field =>
    cases field with
    | text s =>
      have long : ¬(s.getD "").utf8ByteSize ≤ Field.maxTextLength :=
        fun fits => refused (if_pos fits)
      simp only [written, Field.encode, Field.encodeText, Utf8.length_encode, long, ↓reduceIte]
    | _ => exact absurd rfl refused
  | _ => exact absurd rfl refused

end Edit

/-- The draft after some calls. -/
def revise (d : Draft) (edits : List Edit) : Draft := edits.foldl (fun d e => (d.edit e).1) d

/-- What a call does to a draft, other than to finish it. -/
theorem edit_eq (d : Draft) {edit : Edit} (unfinished : edit ≠ .finish) : d.edit edit =
    (⟨edit.headerAfter d.header, d.data ++ edit.written, edit.extension?.getD d.extension⟩,
      edit.refusal?) := by
  have unchanged : d.data ++ [] = d.data := List.append_nil _
  cases edit with
  | append field =>
    cases field with
    | text s =>
      simp only [Draft.edit, append, Field.encode, Field.encodeText, Edit.written, Edit.refusal?,
        Utf8.length_encode]
      by_cases fits : (s.getD "").utf8ByteSize ≤ Field.maxTextLength
      · simp only [fits, ↓reduceIte]
        rfl
      · simp only [fits, ↓reduceIte, unchanged]
        rfl
    | _ => rfl
  | appendRaw bs => rfl
  | finish => exact absurd rfl unfinished
  | _ =>
    simp only [Edit.written, unchanged]
    rfl

/-- A call that fails leaves nothing behind. -/
theorem edit_of_refused (d : Draft) {edit : Edit} (refused : edit.refusal? ≠ none) :
    (d.edit edit).1 = d := by
  have nothing := Edit.written_of_refused refused
  cases edit with
  | append field =>
    have unfinished : Edit.append field ≠ .finish := by
      intro same
      cases same
    rw [edit_eq d unfinished, nothing, List.append_nil]
    rfl
  | _ => exact absurd rfl refused

/-- What a draft holds after some calls, none of which finishes it. -/
theorem revise_eq (d : Draft) {edits : List Edit} (unfinished : .finish ∉ edits) :
    d.revise edits = ⟨edits.foldl Edit.headerAfter d.header, d.data ++ edits.flatMap Edit.written,
      (edits.filterMap Edit.extension?).getLastD d.extension⟩ := by
  induction edits generalizing d with
  | nil =>
    have unchanged : d.data ++ [] = d.data := List.append_nil _
    rw [List.flatMap_nil, unchanged]
    rfl
  | cons edit rest ih =>
    obtain ⟨first, others⟩ := not_or.mp (List.mem_cons.not.mp unfinished)
    have start : d.revise (edit :: rest) = (d.edit edit).1.revise rest := rfl
    rw [start, edit_eq d (Ne.symm first), ih _ others, List.flatMap_cons, List.append_assoc,
      List.filterMap_cons, List.foldl_cons]
    cases edit.extension? with
    | none => rfl
    | some bs => rw [List.getLastD_cons, Option.getD_some]

/-- A draft begins with its header, its extension and the fields of its origin. -/
theorem draft?_eq {o : Origin} {begun : Draft} (possible : o.draft? = some begun) :
    begun = ⟨o.header, (o.fields.map Edit.append).flatMap Edit.written, o.extension⟩ := by
  cases o with
  | ofHeader header => exact (Option.some.inj possible).symm
  | withCapacity header capacity =>
    have possible : withCapacity? header capacity = some begun := possible
    rw [withCapacity?] at possible
    split at possible
    · exact (Option.some.inj possible).symm
    · cases possible
  | withExtension header extension => exact (Option.some.inj possible).symm
  | errorReply request code reason =>
    -- The reason has been cut so that its field is one that can be written.
    have fits : ((some (ErrorReply.truncate Field.maxTextLength reason)).getD "").utf8ByteSize ≤
        Field.maxTextLength := ErrorReply.utf8ByteSize_truncate_le _ reason
    have text : (Edit.append (.text (some (ErrorReply.truncate Field.maxTextLength reason)))).written =
        Field.textBytes (Utf8.encode (ErrorReply.truncate Field.maxTextLength reason)) := by
      rw [Edit.written, Field.encode, Field.encodeText_of_fits fits]
      rfl
    refine (Option.some.inj possible).symm.trans ?_
    rw [Origin.fields, List.map_cons, List.map_cons, List.map_nil, List.flatMap_cons,
      List.flatMap_cons, List.flatMap_nil, text, List.append_nil]
    rfl

theorem finishedHeader_eq (d : Draft) : d.finishedHeader = { d.header with
    totalLength := UInt32.ofNat d.length
    payloadChecksum := if d.header.hasPayloadChecksum then fletcher32 d.payload
      else d.header.payloadChecksum } := by
  have asked : ({ d.header with totalLength := UInt32.ofNat d.length } : Header).hasPayloadChecksum =
      d.header.hasPayloadChecksum := rfl
  rw [finishedHeader]
  simp only [asked]
  split <;> rfl

/-- A header keeps its version and its own length, unless it is replaced. -/
theorem foldl_headerAfter {h : Header} {edits : List Edit}
    (first : h.version = 1 ∧ h.headerLength = 38)
    (given : ∀ new ∈ edits.filterMap Edit.header?, new.version = 1 ∧ new.headerLength = 38) :
    (edits.foldl Edit.headerAfter h).version = 1 ∧
      (edits.foldl Edit.headerAfter h).headerLength = 38 := by
  induction edits generalizing h with
  | nil => exact first
  | cons edit rest ih =>
    rw [List.foldl_cons]
    cases edit with
    | setHeader new =>
      have given : ∀ later ∈ new :: rest.filterMap Edit.header?,
        later.version = 1 ∧ later.headerLength = 38 := given
      exact ih (given new List.mem_cons_self) fun later member =>
        given later (List.mem_cons_of_mem new member)
    | _ => exact ih first given

/-- Whatever calls are made on a draft, however it has been begun, as long as each header it is
given is of this version and counts 38 bytes of itself, and the length of the draft can be counted:
on the wire are 38 bytes of header, the fields and bytes appended, in their order, and the extension
last set, and these are as many bytes as the draft says. The header is read back as that of the
draft, with its length and its checksums filled in, and what follows it is verified. A text that is
too long, and nothing else, is refused, and leaves the draft as it was. -/
theorem chunks_of_revise {o : Origin} {begun d : Draft} {edits : List Edit}
    (possible : o.draft? = some begun) (unfinished : .finish ∉ edits)
    (built : begun.revise edits = d)
    (supported : ∀ given ∈ o.header :: edits.filterMap Edit.header?,
      given.version = 1 ∧ given.headerLength = 38)
    (counted : d.length < UInt32.size) :
    d.header = edits.foldl Edit.headerAfter o.header ∧
    (∃ chunks sent, d.chunks = .ok chunks ∧ sent.encode.length = 38 ∧
      chunks.flatten = sent.encode ++
        ((o.fields.map Edit.append ++ edits).flatMap Edit.written ++
          (edits.filterMap Edit.extension?).getLastD o.extension) ∧
      chunks.flatten.length = d.length ∧ Header.decode chunks.flatten = .ok sent ∧
      sent = { d.header with
        totalLength := sent.totalLength
        headerChecksum := sent.headerChecksum
        payloadChecksum := if d.header.hasPayloadChecksum then sent.payloadChecksum
          else d.header.payloadChecksum } ∧
      sent.totalLength.toNat = d.length ∧
      sent.verifyPayload (chunks.flatten.drop 38) = .ok ()) ∧
    ∀ (before : Draft) (edit : Edit), edit ≠ .finish →
      (before.edit edit).2 = edit.refusal? ∧
        (edit.refusal? ≠ none → (before.edit edit).1 = before) := by
  have held : d = ⟨edits.foldl Edit.headerAfter o.header,
      (o.fields.map Edit.append ++ edits).flatMap Edit.written,
      (edits.filterMap Edit.extension?).getLastD o.extension⟩ := by
    rw [← built, revise_eq begun unfinished, draft?_eq possible, List.flatMap_append]
  have header : d.header = edits.foldl Edit.headerAfter o.header := by rw [held]
  have payload : d.payload = (o.fields.map Edit.append ++ edits).flatMap Edit.written ++
      (edits.filterMap Edit.extension?).getLastD o.extension := by rw [payload, held]
  refine ⟨header, ?_, ?_⟩
  · have frameable : d.Frameable d.length := by
      obtain ⟨version, headerLength⟩ := foldl_headerAfter (supported o.header List.mem_cons_self)
        fun new member => supported new (List.mem_cons_of_mem _ member)
      rw [← header] at version headerLength
      exact ⟨version, headerLength ▸ rfl, counted, Nat.le_refl _⟩
    obtain ⟨chunks, split, joined⟩ := chunks_flatten counted
    have size : d.finishedHeader.encode.length = 38 := d.finishedHeader.length_encode
    refine ⟨chunks, d.finishedHeader.sealed, split, size, payload ▸ joined, ?_, ?_, ?_,
      finishedHeader_totalLength counted, ?_⟩
    · rw [joined, List.length_append, size, length_payload]
      rfl
    · rw [joined]
      exact Header.decode_encode (finishedHeader_supported frameable) d.payload
    · rw [finishedHeader_eq, Header.sealed]
      cases asked : d.header.hasPayloadChecksum with
      | true => simp only [↓reduceIte]
      | false => simp only [Bool.false_eq_true, ↓reduceIte]
    · rw [joined, List.drop_left' size]
      exact finishedHeader_verifies d
  · intro before edit unfinished
    exact ⟨congrArg Prod.snd (edit_eq before unfinished), edit_of_refused before⟩

theorem utf8ByteSize_replicate (n : Nat) :
    (String.ofList (List.replicate n 'z')).utf8ByteSize = n := by
  induction n with
  | zero => rfl
  | succ n ih =>
    have one : 'z'.utf8Size = 1 := rfl
    rw [List.replicate_succ, ErrorReply.utf8ByteSize_ofList_cons, ih, one, Nat.add_comm]

/-- Appends a text of some length. -/
def appendLong (n : Nat) : Edit := .append (.text (some (String.ofList (List.replicate n 'z'))))

theorem refusal?_appendLong {n : Nat} (long : Field.maxTextLength < n) :
    (appendLong n).refusal? = some .protocolError := by
  have size : ((some (String.ofList (List.replicate n 'z'))).getD "").utf8ByteSize = n :=
    utf8ByteSize_replicate n
  rw [appendLong, Edit.refusal?, size, if_neg (Nat.not_le.mpr long)]

/-- A number, a text of some length, a checksum, another extension and a byte. -/
def attempts (n : Nat) : List Edit :=
  [.append (.u16 5), appendLong n, .requestChecksum, .setExtension [1, 2], .appendRaw [7]]

theorem written_attempts {n : Nat} (long : Field.maxTextLength < n) :
    (attempts n).flatMap Edit.written = [5, 0, 7] := by
  have nothing : (appendLong n).written = [] :=
    Edit.written_of_refused (refusal?_appendLong long ▸ Option.some_ne_none _)
  rw [attempts, List.flatMap_cons, List.flatMap_cons, nothing]
  rfl

theorem chunks_of_revise_attempts :
    (Origin.withExtension (Header.ofCommand 42) [9]).draft? =
        some (.withExtension (Header.ofCommand 42) [9]) ∧ .finish ∉ attempts 65536 ∧
      (∀ given ∈ Header.ofCommand 42 :: (attempts 65536).filterMap Edit.header?,
        given.version = 1 ∧ given.headerLength = 38) ∧
      ((Draft.withExtension (Header.ofCommand 42) [9]).revise (attempts 65536)).length <
        UInt32.size ∧
      (∃ chunks sent,
        ((Draft.withExtension (Header.ofCommand 42) [9]).revise (attempts 65536)).chunks =
            .ok chunks ∧
          chunks.flatten = sent.encode ++ [5, 0, 7, 1, 2] ∧
          Header.decode chunks.flatten = .ok sent ∧
          sent.verifyPayload (chunks.flatten.drop 38) = .ok ()) ∧
      ∀ before : Draft, before.edit (appendLong 65536) = (before, some .protocolError) := by
  -- With the number itself in the goals, a text of that length would be unfolded.
  generalize written : 65536 = n
  have long : Field.maxTextLength < n := written ▸ (by decide)
  have possible : (Origin.withExtension (Header.ofCommand 42) [9]).draft? =
      some (.withExtension (Header.ofCommand 42) [9]) := rfl
  have unfinished : .finish ∉ attempts n := by simp [attempts, appendLong]
  have supported : ∀ given ∈ Header.ofCommand 42 :: (attempts n).filterMap Edit.header?,
      given.version = 1 ∧ given.headerLength = 38 := fun given member =>
    List.mem_singleton.mp member ▸ ⟨rfl, rfl⟩
  have short : ((Draft.withExtension (Header.ofCommand 42) [9]).revise (attempts n)).length <
      UInt32.size := by
    have count : ((Draft.withExtension (Header.ofCommand 42) [9]).revise (attempts n)).length =
        43 := by
      rw [revise_eq _ unfinished, written_attempts long]
      rfl
    rw [count]
    decide
  obtain ⟨-, ⟨chunks, sent, split, -, joined, -, read, -, -, verified⟩, refused⟩ :=
    chunks_of_revise possible unfinished rfl supported short
  rw [List.flatMap_append, written_attempts long] at joined
  have failure := refusal?_appendLong long
  refine ⟨possible, unfinished, supported, short,
    ⟨chunks, sent, split, joined, read, verified⟩, fun before => ?_⟩
  have goesOn : appendLong n ≠ .finish := by
    intro same
    cases same
  obtain ⟨answer, kept⟩ := refused before (appendLong n) goesOn
  exact Prod.ext (kept (failure ▸ Option.some_ne_none _)) (answer.trans failure)

end Draft

end MessageTransport
