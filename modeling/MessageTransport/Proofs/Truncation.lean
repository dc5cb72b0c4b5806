import MessageTransport.Proofs.FieldCodec

set_option autoImplicit false

namespace MessageTransport

theorem Varint.decode_take {v : UInt64} {groups n : Nat} (fits : encodedLength v ≤ groups)
    (short : n < encodedLength v) :
    decode groups ((encode v).take n) = .error .responseTruncated := by
  fun_induction encode v generalizing groups n with
  | case1 v small =>
    rw [encodedLength, if_pos small] at fits short
    obtain ⟨groups, rfl⟩ := Nat.exists_eq_add_one.mpr (by omega : 0 < groups)
    obtain rfl : n = 0 := by omega
    rw [List.take_zero, decode]
  | case2 v large ih =>
    rw [encodedLength, if_neg large] at fits short
    obtain ⟨groups, rfl⟩ := Nat.exists_eq_add_one.mpr (by omega : 0 < groups)
    cases n with
    | zero => rw [List.take_zero, decode]
    | succ n =>
      have marked : ¬(v.toUInt8 &&& 0x7f ||| 0x80) &&& 0x80 = 0 := by
        rw [and_mark_eq_zero_iff, toNat_marked]
        omega
      rw [List.take_succ_cons, decode, if_neg marked, ih (by omega) (by omega)]

namespace Field

theorem takeBytes_of_short {n : Nat} {bs : Bytes} (short : bs.length < n) :
    takeBytes n bs = .error .responseTruncated := if_pos short

theorem takeNumber_of_short {width : Nat} {bs : Bytes} (short : bs.length < width) :
    takeNumber width bs = .error .responseTruncated := by
  rw [takeNumber, takeBytes_of_short short]

/-- A number of a given width is refused if its bytes are cut off. -/
theorem takeNumber_take {width n : Nat} (short : n < width) (bs : Bytes) :
    takeNumber width (bs.take n) = .error .responseTruncated := by
  apply takeNumber_of_short
  rw [List.length_take]
  omega

/-- A cut behind a length leaves the length whole. -/
theorem takeNumber_take_append {width length n : Nat} (fits : length < LittleEndian.limit width)
    (behind : width ≤ n) (body : Bytes) :
    takeNumber width ((LittleEndian.encode width length ++ body).take n) =
      .ok (length, body.take (n - width)) := by
  have whole : (LittleEndian.encode width length).take n = LittleEndian.encode width length := by
    apply List.take_of_length_le
    rw [LittleEndian.length_encode]
    exact behind
  rw [List.take_append, whole, LittleEndian.length_encode, takeNumber_append fits]

theorem decodeText_take {content : Bytes} (fits : content.length ≤ maxTextLength) {n : Nat}
    (short : n < (textBytes content).length) :
    decodeText ((textBytes content).take n) = .error .responseTruncated := by
  have fits : content.length < LittleEndian.limit 2 := Nat.lt_succ_of_le fits
  have size : (textBytes content).length = 2 + content.length + 1 := by
    simp only [textBytes, List.length_append, LittleEndian.length_encode, List.length_singleton]
  rw [decodeText, textBytes, List.append_assoc]
  by_cases inside : n < 2
  · rw [takeNumber_take inside]
  · have missing : ((content ++ [0]).take (n - 2)).length < content.length + 1 := by
      rw [List.length_take]
      omega
    rw [takeNumber_take_append fits (Nat.not_lt.mp inside)]
    simp only [takeBytes_of_short missing]

theorem decodeBlob_take {bs : Bytes} (fits : bs.length < 2 ^ 32) {n : Nat}
    (short : n < (encodeBlob bs).length) :
    decodeBlob ((encodeBlob bs).take n) = .error .responseTruncated := by
  have fits : bs.length < LittleEndian.limit 4 := fits
  have size : (encodeBlob bs).length = 4 + bs.length := by
    rw [encodeBlob, List.length_append, LittleEndian.length_encode]
  rw [decodeBlob, encodeBlob]
  by_cases inside : n < 4
  · rw [takeNumber_take inside]
  · rw [takeNumber_take_append fits (Nat.not_lt.mp inside)]
    apply takeBytes_of_short
    rw [List.length_take]
    omega

/-- A field of which only a part is there is refused as truncated. -/
theorem decode_take {field : Field} (fits : field.Fits) {written : Bytes}
    (success : field.encode = .ok written) {n : Nat} (short : n < written.length) :
    decode field.type (written.take n) = .error .responseTruncated := by
  cases field with
  | bool v | u8 v =>
    obtain rfl := Except.ok.inj success
    rw [List.length_singleton] at short
    rw [type, decode, takeNumber_take short]
    rfl
  | u16 v | u32 v | u64 v =>
    obtain rfl := Except.ok.inj success
    rw [LittleEndian.length_encode] at short
    rw [type, decode, takeNumber_take short]
    rfl
  | vi32 v =>
    obtain rfl := Except.ok.inj success
    rw [Varint.length_encode] at short
    rw [type, decode, Varint.decode_take (Varint.encodedLength_le_maxGroups32 v) short]
    rfl
  | vi64 v =>
    obtain rfl := Except.ok.inj success
    rw [Varint.length_encode] at short
    rw [type, decode, Varint.decode_take (Varint.encodedLength_le_maxGroups64 v) short]
    rfl
  | text s =>
    obtain rfl := Except.ok.inj ((encodeText_of_fits fits).symm.trans success)
    have fits : (Utf8.encode (s.getD "")).length ≤ maxTextLength := fits
    rw [type, decode, decodeText_take fits short]
    rfl
  | blob bs =>
    obtain rfl := Except.ok.inj success
    rw [type, decode, decodeBlob_take fits short]
    rfl

theorem encodeAll_cons_eq_ok {field : Field} {fields : List Field} {written : Bytes} :
    encodeAll (field :: fields) = .ok written ↔
      ∃ first others, field.encode = .ok first ∧ encodeAll fields = .ok others ∧
        written = first ++ others := by
  rw [encodeAll]
  cases field.encode with
  | error code => simp only [bind, Except.bind, reduceCtorEq, false_and, exists_false]
  | ok first =>
    cases encodeAll fields with
    | error code => simp only [bind, Except.bind, reduceCtorEq, false_and, and_false, exists_false]
    | ok others =>
      simp only [bind, Except.bind, pure, Except.pure, Except.ok.injEq, exists_and_left,
        exists_eq_left', eq_comm]

/-- Whether the first `k` fields are written within `n` bytes. -/
def Within (fields : List Field) (k n : Nat) : Prop :=
  ∃ front, encodeAll (fields.take k) = .ok front ∧ front.length ≤ n

instance (fields : List Field) (k n : Nat) : Decidable (Within fields k n) :=
  match wrote : encodeAll (fields.take k) with
  | .ok front => decidable_of_iff (front.length ≤ n) (by simp [Within, wrote])
  | .error _ => isFalse (by simp [Within, wrote])

theorem within_zero (fields : List Field) (n : Nat) : Within fields 0 n :=
  ⟨[], rfl, Nat.zero_le n⟩

theorem within_succ {field : Field} {first : Bytes} (wrote : field.encode = .ok first)
    {fields : List Field} {k n : Nat} :
    Within (field :: fields) (k + 1) n ↔ first.length ≤ n ∧ Within fields k (n - first.length) := by
  unfold Within
  simp only [List.take_succ_cons, encodeAll_cons_eq_ok, wrote, Except.ok.injEq]
  constructor
  · rintro ⟨front, ⟨_, others, rfl, wroteOthers, rfl⟩, inside⟩
    rw [List.length_append] at inside
    exact ⟨by omega, others, wroteOthers, by omega⟩
  · rintro ⟨room, others, wroteOthers, inside⟩
    refine ⟨first ++ others, ⟨first, others, rfl, wroteOthers, rfl⟩, ?_⟩
    rw [List.length_append]
    omega

/-- Of fields whose bytes are cut off those are read that are whole, and then the reading fails. -/
theorem decodeAll_take {fields : List Field} (fit : ∀ field ∈ fields, field.Fits) {written : Bytes}
    (success : encodeAll fields = .ok written) {n : Nat} (short : n < written.length) :
    ∃ read, decodeAll (fields.map type) (written.take n) = (read, some .responseTruncated) ∧
      read.map Prod.fst = (fields.take read.length).map shown ∧
      ∀ k, k ≤ read.length ↔ Within fields k n := by
  induction fields generalizing written n with
  | nil =>
    obtain rfl := Except.ok.inj success
    cases short
  | cons field fields ih =>
    obtain ⟨first, others, wroteFirst, wroteOthers, rfl⟩ := encodeAll_cons_eq_ok.mp success
    have fitsFirst := fit field List.mem_cons_self
    rw [List.map_cons, decodeAll, List.take_append]
    by_cases inside : n < first.length
    · have nothing : n - first.length = 0 := by omega
      rw [nothing, List.take_zero, List.append_nil, decode_take fitsFirst wroteFirst inside]
      refine ⟨[], rfl, rfl, ?_⟩
      intro k
      cases k with
      | zero => exact iff_of_true (Nat.le_refl 0) (within_zero _ n)
      | succ k =>
        rw [within_succ wroteFirst]
        exact iff_of_false (Nat.not_succ_le_zero k) (fun whole => by omega)
    · obtain ⟨same, wrote, readFirst⟩ := decode_encode fitsFirst
      obtain rfl := Except.ok.inj (wroteFirst.symm.trans wrote)
      rw [List.length_append] at short
      obtain ⟨read, decoded, values, whole⟩ := ih (fun f member => fit f (.tail _ member))
        wroteOthers (by omega : n - first.length < others.length)
      rw [List.take_of_length_le (by omega), readFirst]
      refine ⟨(field.shown, others.take (n - first.length)) :: read, ?_, ?_, ?_⟩
      · simp only [decoded]
      · rw [List.length_cons, List.take_succ_cons, List.map_cons, List.map_cons, values]
      · intro k
        cases k with
        | zero => exact iff_of_true (Nat.zero_le _) (within_zero _ n)
        | succ k =>
          rw [within_succ wroteFirst, List.length_cons, Nat.succ_le_succ_iff, whole k]
          exact (and_iff_right (Nat.not_lt.mp inside)).symm

/-- Fields that fit are written, and from whatever is left of them when their bytes are cut off just
those are read, in order and with their values, that lie wholly in front of the cut; then the
reading fails, and says that the rest is truncated. -/
theorem fields_cut_off {fields : List Field} (fit : ∀ field ∈ fields, field.Fits) :
    ∃ written, encodeAll fields = .ok written ∧ ∀ n < written.length, ∃ read,
      decodeAll (fields.map type) (written.take n) = (read, some .responseTruncated) ∧
        read.map Prod.fst = (fields.take read.length).map shown ∧
        ∀ k, k ≤ read.length ↔ Within fields k n := by
  obtain ⟨written, wrote, -⟩ := decodeAll_encodeAll fit
  exact ⟨written, wrote, fun n short => decodeAll_take fit wrote short⟩

/-- The cut goes through a text, in front of its terminator. -/
theorem fields_cut_off_text :
    (∀ field ∈ [u16 7, vi32 300, text (some "ok"), blob [1]], field.Fits) ∧
      ∃ read, decodeAll [.u16, .vi32, .text, .blob] [7, 0, 172, 2, 2, 0, 111, 107] =
          (read, some .responseTruncated) ∧
        read.map Prod.fst = [u16 7, vi32 300] := by
  have fit : ∀ field ∈ [u16 7, vi32 300, text (some "ok"), blob [1]], field.Fits := by decide
  obtain ⟨written, wrote, cut⟩ := fields_cut_off fit
  have bytes : encodeAll [u16 7, vi32 300, text (some "ok"), blob [1]] =
      .ok [7, 0, 172, 2, 2, 0, 111, 107, 0, 1, 0, 0, 0, 1] := by decide +kernel
  obtain rfl := Except.ok.inj (bytes.symm.trans wrote)
  obtain ⟨read, decoded, values, whole⟩ := cut 8 (by decide)
  have two : read.length = 2 := by
    have least : 2 ≤ read.length := (whole 2).mpr (by decide +kernel)
    have most : ¬3 ≤ read.length := fun more => absurd ((whole 3).mp more) (by decide +kernel)
    omega
  refine ⟨fit, read, decoded, ?_⟩
  rw [values, two]
  rfl

end Field

end MessageTransport
