import MessageTransport.Proofs.Drafting
import MessageTransport.Transport

set_option autoImplicit false

namespace MessageTransport

theorem Utf8.encode_append (s t : String) : encode (s ++ t) = encode s ++ encode t := by
  have joined : (s ++ t).toUTF8 = s.toUTF8 ++ t.toUTF8 := String.toByteArray_append
  rw [encode, joined, ByteArray.data_append, Array.toList_append]
  rfl

namespace ErrorReply

/-- Whether a text is the longest beginning of another one that ends between two characters and fits
into some bytes. -/
structure LongestFitting (room : Nat) (s cut : String) : Prop where
  begins : ∃ rest, s = cut ++ rest
  fits : cut.utf8ByteSize ≤ room
  longest : ∀ n ≤ room, String.Pos.Raw.IsValid s ⟨n⟩ → n ≤ cut.utf8ByteSize

theorem fitting_prefix (room : Nat) (cs : List Char) : fitting room cs <+: cs := by
  fun_induction fitting room cs with
  | case1 room => exact List.prefix_rfl
  | case2 room c cs fits ih => exact List.cons_prefix_cons.mpr ⟨rfl, ih⟩
  | case3 room c cs full => exact List.nil_prefix

/-- Whatever characters in front fit are among those that are kept. -/
theorem utf8ByteSize_le_fitting (room : Nat) {cs front : List Char} (begins : front <+: cs)
    (fits : (String.ofList front).utf8ByteSize ≤ room) :
    (String.ofList front).utf8ByteSize ≤ (String.ofList (fitting room cs)).utf8ByteSize := by
  fun_induction fitting room cs generalizing front with
  | case1 room =>
    rw [List.prefix_nil.mp begins]
  | case2 room c cs roomy ih =>
    cases front with
    | nil => exact Nat.zero_le _
    | cons first front =>
      obtain ⟨rfl, others⟩ := List.cons_prefix_cons.mp begins
      rw [utf8ByteSize_ofList_cons] at fits
      have later := ih others (Nat.le_sub_of_add_le' fits)
      rw [utf8ByteSize_ofList_cons, utf8ByteSize_ofList_cons]
      omega
  | case3 room c cs full =>
    cases front with
    | nil => exact Nat.le_refl _
    | cons first front =>
      obtain ⟨rfl, -⟩ := List.cons_prefix_cons.mp begins
      rw [utf8ByteSize_ofList_cons] at fits
      omega

theorem longestFitting_truncate (room : Nat) (s : String) :
    LongestFitting room s (truncate room s) := by
  refine ⟨?_, utf8ByteSize_truncate_le room s, ?_⟩
  · rw [truncate]
    split
    · exact ⟨"", (String.append_empty).symm⟩
    · obtain ⟨rest, whole⟩ := fitting_prefix room s.toList
      refine ⟨String.ofList rest, ?_⟩
      rw [← String.ofList_append, whole, String.ofList_toList]
  · intro n within valid
    obtain ⟨front, rest, whole, place⟩ := String.Pos.Raw.isValid_iff_exists_append.mp valid
    obtain rfl : n = front.utf8ByteSize := congrArg String.Pos.Raw.byteIdx place
    rw [truncate]
    split
    · rw [whole, String.utf8ByteSize_append]
      exact Nat.le_add_right _ _
    · have begins : front.toList <+: s.toList := by
        rw [whole, String.toList_append]
        exact List.prefix_append _ _
      have kept := utf8ByteSize_le_fitting room begins (by rwa [String.ofList_toList])
      rwa [String.ofList_toList] at kept

/-- The last boundary at or before a place, found by going back from there. -/
def boundaryBack (s : String) : Nat → Nat
  | 0 => 0
  | n + 1 => if String.Pos.Raw.isValid s ⟨n + 1⟩ then n + 1 else boundaryBack s n

theorem boundaryBack_le (s : String) (n : Nat) : boundaryBack s n ≤ n := by
  fun_induction boundaryBack s n with
  | case1 => exact Nat.le_refl 0
  | case2 n valid => exact Nat.le_refl _
  | case3 n invalid ih => exact Nat.le_succ_of_le ih

theorem isValid_boundaryBack (s : String) (n : Nat) :
    String.Pos.Raw.IsValid s ⟨boundaryBack s n⟩ := by
  fun_induction boundaryBack s n with
  | case1 => exact String.Pos.Raw.isValid_zero
  | case2 n valid => exact String.Pos.Raw.isValid_eq_true_iff.mp valid
  | case3 n invalid ih => exact ih

theorem le_boundaryBack {s : String} {n m : Nat} (before : m ≤ n)
    (valid : String.Pos.Raw.IsValid s ⟨m⟩) : m ≤ boundaryBack s n := by
  fun_induction boundaryBack s n with
  | case1 => exact before
  | case2 n there => exact before
  | case3 n invalid ih =>
    have other : m ≠ n + 1 := by
      rintro rfl
      exact invalid (String.Pos.Raw.isValid_eq_true_iff.mpr valid)
    exact ih (by omega)

/-- The cut is where a search that goes back from the room ends. -/
theorem encode_truncate (room : Nat) (s : String) :
    Utf8.encode (truncate room s) = (Utf8.encode s).take (boundaryBack s room) := by
  obtain ⟨⟨rest, whole⟩, fits, longest⟩ := longestFitting_truncate room s
  have ends : String.Pos.Raw.IsValid s ⟨(truncate room s).utf8ByteSize⟩ :=
    String.Pos.Raw.isValid_iff_exists_append.mpr ⟨_, rest, whole, rfl⟩
  have place : boundaryBack s room = (truncate room s).utf8ByteSize :=
    Nat.le_antisymm (longest _ (boundaryBack_le s room) (isValid_boundaryBack s room))
      (le_boundaryBack fits ends)
  have bytes : Utf8.encode s = Utf8.encode (truncate room s) ++ Utf8.encode rest := by
    conv => lhs; rw [whole]
    exact Utf8.encode_append _ _
  rw [place, bytes, List.take_left' (Utf8.length_encode _)]

/-- A number and a reason that fits are read back. -/
theorem decode_written {code : ErrorCode} {reason : String}
    (fits : reason.utf8ByteSize ≤ Field.maxTextLength) :
    decode (LittleEndian.encode 4 code.value.toNat ++ Field.textBytes (Utf8.encode reason)) =
      .ok (code.value, reason) := by
  have text : Field.decodeText (Field.textBytes (Utf8.encode reason)) = .ok (reason, []) := by
    have read := Field.decodeText_textBytes fits []
    rwa [List.append_nil] at read
  rw [decode, Field.takeNumber_append code.value.toNat_lt]
  simp only [text, UInt32.ofNat_toNat]

/-- The reply as it is handed to a connection. -/
def response (request : Header) (code : ErrorCode) (reason : String) : Draft :=
  Transport.asResponse (draft request code reason)

theorem payload_response (request : Header) (code : ErrorCode) (reason : String) :
    (response request code reason).payload = LittleEndian.encode 4 code.value.toNat ++
      Field.textBytes (Utf8.encode (truncate Field.maxTextLength reason)) := List.append_nil _

/-- A reply is short enough to be framed, and has a header of this protocol. -/
theorem frameable_response (request : Header) (code : ErrorCode) (reason : String) :
    (response request code reason).Frameable (response request code reason).length := by
  have size : (response request code reason).length < UInt32.size := by
    have fits := utf8ByteSize_truncate_le Field.maxTextLength reason
    rw [Draft.length, ← Draft.length_payload, payload_response, List.length_append, Field.textBytes]
    simp only [List.length_append, LittleEndian.length_encode, Utf8.length_encode,
      List.length_singleton, Header.size, Field.maxTextLength, UInt32.size] at fits ⊢
    omega
  exact ⟨rfl, rfl, size, Nat.le_refl _⟩

/-- Whatever the request, the code and the reason: the reply that reports the failure can be sent.
Its bytes begin with a header that is accepted and counts them all, and its payload is verified. It
is no request, and has the id, the group, the command and all other flags of the request. From its
payload are read the number of the code, which stands for no other code, and the longest beginning
of the reason that ends between two characters and takes at most 65535 bytes. -/
theorem arrives_intact (request : Header) (code : ErrorCode) (reason : String) :
    ∃ chunks sent cut,
      (Transport.asResponse (draft request code reason)).chunks = .ok chunks ∧
      Header.decode chunks.flatten = .ok sent ∧
      sent.totalLength.toNat = chunks.flatten.length ∧
      sent.verifyPayload (chunks.flatten.drop Header.size) = .ok () ∧
      sent.isRequest = false ∧ sent.flags = request.flags &&& ~~~Header.requestFlag ∧
      sent.id = request.id ∧ sent.groupId = request.groupId ∧ sent.command = request.command ∧
      decode (chunks.flatten.drop Header.size) = .ok (code.value, cut) ∧
      LongestFitting 65535 reason cut ∧ ErrorCode.ofValue? code.value = some code := by
  have frameable := frameable_response request code reason
  obtain ⟨m, chunks, message, intact, split, joined⟩ := frameable.framed
  obtain ⟨payload, flags, id, groupId, command⟩ := Draft.message_fields message
  have size := m.header.length_encode
  have behind : chunks.flatten.drop Header.size = m.payload := by
    rw [joined, Message.encode, List.drop_left' size]
  have read : Header.decode chunks.flatten = .ok m.header := by
    have accepted := Header.decode_encode intact.supported m.payload
    rwa [intact.signed, ← Message.encode, ← joined] at accepted
  refine ⟨chunks, m.header, truncate Field.maxTextLength reason, split, read, ?_, ?_, ?_, flags, id,
    groupId, command, ?_, longestFitting_truncate _ reason, ErrorCode.ofValue?_value code⟩
  · rw [intact.counted, joined, Message.encode, List.length_append, size]
  · rw [behind]
    exact intact.verified
  · rw [Header.isRequest, Header.hasFlag, flags]
    exact Header.isRequest_clearFlag _
  · rw [behind, payload, payload_response]
    exact decode_written (utf8ByteSize_truncate_le _ reason)

end ErrorReply

end MessageTransport
