import MessageTransport.Proofs.HeaderLayout

set_option autoImplicit false

namespace MessageTransport.Header

/-- The numbers that bytes hold in fields of given widths, each with its width. -/
def numbers : List Nat → Bytes → List (Nat × Nat)
  | [], _ => []
  | bytes :: widths, bs =>
    (bytes, LittleEndian.value (bs.take bytes)) :: numbers widths (bs.drop bytes)

theorem encodeAll_numbers {widths : List Nat} {bs : Bytes}
    (whole : bs.length = width (numbers widths bs)) : encodeAll (numbers widths bs) = bs := by
  induction widths generalizing bs with
  | nil => exact (List.eq_nil_of_length_eq_zero whole).symm
  | cons bytes widths ih =>
    have whole : bs.length = bytes + width (numbers widths (bs.drop bytes)) := whole
    have front : (bs.take bytes).length = bytes := List.length_take_of_le (by omega)
    have back : (bs.drop bytes).length = width (numbers widths (bs.drop bytes)) := by
      rw [List.length_drop]
      omega
    have first : LittleEndian.encode bytes (LittleEndian.value (bs.take bytes)) = bs.take bytes := by
      have same := LittleEndian.encode_value (bs.take bytes)
      rwa [front] at same
    show LittleEndian.encode bytes _ ++ encodeAll (numbers widths (bs.drop bytes)) = bs
    rw [first, ih back, List.take_append_drop]

theorem fieldAt_lt {bs : Bytes} {offset bytes : Nat} (inside : offset + bytes ≤ bs.length) :
    fieldAt bs offset bytes < LittleEndian.limit bytes := by
  have whole : ((bs.drop offset).take bytes).length = bytes := by
    rw [List.length_take, List.length_drop]
    omega
  have below := LittleEndian.value_lt ((bs.drop offset).take bytes)
  rwa [whole] at below

/-- The fields read from 38 bytes lay out the same bytes. -/
theorem layout_ofLayout {bs : Bytes} (whole : bs.length = size) :
    (ofLayout bs).layout (ofLayout bs).headerChecksum = bs := by
  have below {offset bytes : Nat} (inside : offset + bytes ≤ size) :
      fieldAt bs offset bytes < LittleEndian.limit bytes := fieldAt_lt (by omega)
  have byte {offset : Nat} (inside : offset + 1 ≤ size) :
      (UInt8.ofNat (fieldAt bs offset 1)).toNat = fieldAt bs offset 1 :=
    UInt8.toNat_ofNat_of_lt' (below inside)
  have half {offset : Nat} (inside : offset + 2 ≤ size) :
      (UInt16.ofNat (fieldAt bs offset 2)).toNat = fieldAt bs offset 2 :=
    UInt16.toNat_ofNat_of_lt' (below inside)
  have word {offset : Nat} (inside : offset + 4 ≤ size) :
      (UInt32.ofNat (fieldAt bs offset 4)).toNat = fieldAt bs offset 4 :=
    UInt32.toNat_ofNat_of_lt' (below inside)
  have long {offset : Nat} (inside : offset + 8 ≤ size) :
      (UInt64.ofNat (fieldAt bs offset 8)).toNat = fieldAt bs offset 8 :=
    UInt64.toNat_ofNat_of_lt' (below inside)
  have read : (ofLayout bs).fields (ofLayout bs).headerChecksum =
      numbers [1, 1, 2, 2, 4, 4, 4, 4, 4, 4, 8] bs := by
    simp (disch := decide) only [fields, ofLayout, byte, half, word, long]
    simp only [fieldAt, numbers, List.drop_drop, List.drop_zero, Nat.reduceAdd]
  rw [layout_eq_encodeAll, read]
  exact encodeAll_numbers whole

/-- Bytes that are accepted begin with the encoding of the header read from them, checksum
included. -/
theorem encode_of_decode {bs : Bytes} {h : Header} (accepted : decode bs = .ok h) :
    size ≤ bs.length ∧ h.encode = bs.take size ∧ h.sealed = h := by
  by_cases short : bs.length < size
  · simp only [decode, short, ↓reduceIte, reduceCtorEq] at accepted
  have enough : size ≤ bs.length := Nat.le_of_not_lt short
  have laid := layout_ofLayout (List.length_take_of_le enough)
  simp only [decode, short, ↓reduceIte] at accepted
  split at accepted
  · cases accepted
  rename_i matching
  have matching := Decidable.not_not.mp matching
  split at accepted
  · obtain rfl := Except.ok.inj accepted
    have cleared := withoutChecksum_layout (ofLayout (bs.take size))
      (ofLayout (bs.take size)).headerChecksum
    rw [laid] at cleared
    rw [cleared] at matching
    refine ⟨enough, ?_, ?_⟩
    · rw [encode, sealed, matching, laid]
    · rw [sealed, matching]
  · cases accepted

theorem isSupported_eq (h : Header) :
    h.isSupported = decide (h.version = 1 ∧ h.headerLength = 38 ∧ 38 ≤ h.totalLength) := by
  rw [Bool.eq_iff_iff, isSupported_iff, decide_eq_true_eq, ← UInt8.toNat_inj (a := h.headerLength)]
  exact Iff.rfl

/-- Whatever follows it, the encoding of a header is decoded to the header with its checksum if it
is of this version, counts 38 bytes of itself and at least these in all, and refused if not. Bytes
are accepted as a header just if they begin with the encoding of one like that. -/
theorem decode_exact :
    (∀ (h : Header) (rest : Bytes), decode (h.encode ++ rest) =
      if h.version = 1 ∧ h.headerLength = 38 ∧ 38 ≤ h.totalLength then .ok h.sealed
      else .error .badHeader) ∧
    ∀ (bs : Bytes) (h : Header), decode bs = .ok h ↔
      38 ≤ bs.length ∧ (h.version = 1 ∧ h.headerLength = 38 ∧ 38 ≤ h.totalLength) ∧
        h.encode = bs.take 38 ∧ h.sealed = h := by
  constructor
  · intro h rest
    rw [decode_append, isSupported_eq]
    simp only [decide_eq_true_eq]
  · intro bs h
    constructor
    · intro accepted
      obtain ⟨enough, laid, own⟩ := encode_of_decode accepted
      have supported := isSupported_of_decode accepted
      rw [isSupported_eq, decide_eq_true_eq] at supported
      exact ⟨enough, supported, laid, own⟩
    · rintro ⟨-, supported, laid, own⟩
      have accepted : h.isSupported = true := by
        rw [isSupported_eq]
        exact decide_eq_true supported
      have read := decode_encode accepted (bs.drop 38)
      rwa [laid, List.take_append_drop, own] at read

end MessageTransport.Header
