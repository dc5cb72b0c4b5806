import MessageTransport.Field
import MessageTransport.Proofs.Varint

set_option autoImplicit false

namespace MessageTransport

theorem Utf8.decode?_encode (s : String) : Utf8.decode? (Utf8.encode s) = some s :=
  dif_pos s.isValidUTF8

theorem Utf8.length_encode (s : String) : (Utf8.encode s).length = s.utf8ByteSize := rfl

namespace Field

/-- Whether a field's length can be written. -/
def Fits : Field → Prop
  | text s => (s.getD "").utf8ByteSize ≤ maxTextLength
  | blob bs => bs.length < 2 ^ 32
  | _ => True

instance : DecidablePred Fits
  | text s => inferInstanceAs (Decidable ((s.getD "").utf8ByteSize ≤ maxTextLength))
  | blob bs => inferInstanceAs (Decidable (bs.length < 2 ^ 32))
  | bool _ | u8 _ | u16 _ | u32 _ | u64 _ | vi32 _ | vi64 _ => isTrue trivial

/-- The field as its reader sees it. -/
def shown : Field → Field
  | text s => text (some (s.getD ""))
  | field => field

theorem takeBytes_append {n : Nat} {front : Bytes} (whole : front.length = n) (rest : Bytes) :
    takeBytes n (front ++ rest) = .ok (front, rest) := by
  have enough : ¬(front ++ rest).length < n := by
    rw [List.length_append]
    omega
  rw [takeBytes, if_neg enough, List.take_left' whole, List.drop_left' whole]

theorem takeNumber_append {width n : Nat} (fits : n < LittleEndian.limit width) (rest : Bytes) :
    takeNumber width (LittleEndian.encode width n ++ rest) = .ok (n, rest) := by
  rw [takeNumber, takeBytes_append (LittleEndian.length_encode width n)]
  simp only [LittleEndian.value_encode, Nat.mod_eq_of_lt fits]

theorem takeNumber_cons (b : UInt8) (rest : Bytes) :
    takeNumber 1 (b :: rest) = .ok (b.toNat, rest) := by
  have digit : [b] = LittleEndian.encode 1 b.toNat := (LittleEndian.encode_value [b]).symm
  rw [← List.singleton_append, digit]
  exact takeNumber_append b.toNat_lt rest

theorem decodeText_textBytes {s : String} (fits : s.utf8ByteSize ≤ maxTextLength) (rest : Bytes) :
    decodeText (textBytes (Utf8.encode s) ++ rest) = .ok (s, rest) := by
  have fits : (Utf8.encode s).length < LittleEndian.limit 2 := Nat.lt_succ_of_le fits
  have framed : (Utf8.encode s ++ [0]).length = (Utf8.encode s).length + 1 := List.length_append
  have ended : (Utf8.encode s ++ [0]).getLast? = some 0 := List.getLast?_concat
  rw [decodeText, textBytes, List.append_assoc, List.append_assoc, takeNumber_append fits,
    ← List.append_assoc]
  simp only [takeBytes_append framed, ended, List.dropLast_concat, Utf8.decode?_encode, ↓reduceIte]

theorem decodeBlob_encodeBlob {bs : Bytes} (fits : bs.length < 2 ^ 32) (rest : Bytes) :
    decodeBlob (encodeBlob bs ++ rest) = .ok (bs, rest) := by
  have fits : bs.length < LittleEndian.limit 4 := fits
  rw [decodeBlob, encodeBlob, List.append_assoc, takeNumber_append fits]
  exact takeBytes_append rfl rest

theorem encodeText_of_fits {s : Option String} (fits : (s.getD "").utf8ByteSize ≤ maxTextLength) :
    encodeText s = .ok (textBytes (Utf8.encode (s.getD ""))) := if_pos fits

/-- A field that fits can be written, and is read back with what follows it left over. -/
theorem decode_encode {field : Field} (fits : field.Fits) :
    ∃ written, field.encode = .ok written ∧
      ∀ rest, decode field.type (written ++ rest) = .ok (field.shown, rest) := by
  cases field with
  | bool b =>
    refine ⟨_, rfl, fun rest => ?_⟩
    rw [List.singleton_append, type, decode, takeNumber_cons]
    cases b <;> rfl
  | u8 v =>
    refine ⟨_, rfl, fun rest => ?_⟩
    rw [List.singleton_append, type, decode, takeNumber_cons]
    simp only [Except.map, UInt8.ofNat_toNat, shown]
  | u16 v =>
    refine ⟨_, rfl, fun rest => ?_⟩
    rw [type, decode, takeNumber_append v.toNat_lt]
    simp only [Except.map, UInt16.ofNat_toNat, shown]
  | u32 v =>
    refine ⟨_, rfl, fun rest => ?_⟩
    rw [type, decode, takeNumber_append v.toNat_lt]
    simp only [Except.map, UInt32.ofNat_toNat, shown]
  | u64 v =>
    refine ⟨_, rfl, fun rest => ?_⟩
    rw [type, decode, takeNumber_append v.toNat_lt]
    simp only [Except.map, UInt64.ofNat_toNat, shown]
  | vi32 v =>
    refine ⟨_, rfl, fun rest => ?_⟩
    rw [type, decode, Varint.decode_encode (Varint.encodedLength_le_maxGroups32 v)]
    simp only [Except.map, UInt32.toUInt32_toUInt64, shown]
  | vi64 v =>
    refine ⟨_, rfl, fun rest => ?_⟩
    rw [type, decode, Varint.decode_encode (Varint.encodedLength_le_maxGroups64 v)]
    rfl
  | text s =>
    refine ⟨_, encodeText_of_fits fits, fun rest => ?_⟩
    rw [type, decode, decodeText_textBytes fits]
    rfl
  | blob bs =>
    refine ⟨_, rfl, fun rest => ?_⟩
    rw [type, decode, decodeBlob_encodeBlob fits]
    rfl

/-- A field takes as many bytes as it is said to, and a variable-length integer no more than its
reader allows. -/
theorem length_of_encode {field : Field} {written : Bytes} (success : field.encode = .ok written) :
    (field.type ∈ [.vi32, .vi64, .text, .blob] → field.encodedLength? = some written.length) ∧
      (field.type = .vi32 → written.length ≤ 5) ∧ (field.type = .vi64 → written.length ≤ 10) := by
  cases field with
  | vi32 v =>
    obtain rfl := Except.ok.inj success
    have few : Varint.encodedLength v.toUInt64 ≤ 5 := Varint.encodedLength_le_maxGroups32 v
    simp [type, encodedLength?, Varint.length_encode, few]
  | vi64 v =>
    obtain rfl := Except.ok.inj success
    have few : Varint.encodedLength v ≤ 10 := Varint.encodedLength_le_maxGroups64 v
    simp [type, encodedLength?, Varint.length_encode, few]
  | text s =>
    simp only [encode, encodeText] at success
    split at success
    · obtain rfl := Except.ok.inj success
      simp [type, encodedLength?, textBytes, Utf8.length_encode, Nat.add_assoc]
    · cases success
  | blob bs =>
    obtain rfl := Except.ok.inj success
    simp [type, encodedLength?, encodeBlob]
  | _ => simp [type]

/-- Fields written one after another; the first that is refused ends it. -/
def encodeAll : List Field → Except ErrorCode Bytes
  | [] => .ok []
  | field :: fields => do
    let first ← field.encode
    let others ← encodeAll fields
    return first ++ others

/-- What is left once the fields have been read. -/
def leftover (bs : Bytes) : List (Field × Bytes) → Bytes
  | [] => bs
  | (_, rest) :: read => leftover rest read

theorem decodeAll_encodeAll {fields : List Field} (fit : ∀ field ∈ fields, field.Fits) :
    ∃ written, encodeAll fields = .ok written ∧ ∀ rest, ∃ read,
      decodeAll (fields.map type) (written ++ rest) = (read, none) ∧
        read.map Prod.fst = fields.map shown ∧ leftover (written ++ rest) read = rest := by
  induction fields with
  | nil => exact ⟨[], rfl, fun rest => ⟨[], rfl, rfl, rfl⟩⟩
  | cons field fields ih =>
    obtain ⟨first, wroteFirst, readFirst⟩ := decode_encode (fit field List.mem_cons_self)
    obtain ⟨others, wroteOthers, readOthers⟩ := ih fun f member => fit f (.tail _ member)
    refine ⟨first ++ others, ?_, fun rest => ?_⟩
    · rw [encodeAll, wroteFirst, wroteOthers]
      rfl
    · obtain ⟨read, decoded, values, left⟩ := readOthers rest
      refine ⟨(field.shown, others ++ rest) :: read, ?_, ?_, left⟩
      · rw [List.map_cons, List.append_assoc, decodeAll, readFirst]
        simp only [decoded]
      · rw [List.map_cons, List.map_cons, values]

/-- Fields that fit are written, and whatever follows them they are read back in order, an absent
text as the empty one, with exactly the rest left over. A field whose size depends on its value
takes as many bytes as it is said to, a variable-length integer at most five or ten. -/
theorem fields_round_trip :
    (∀ fields : List Field, (∀ field ∈ fields, field.Fits) →
      ∃ written, encodeAll fields = .ok written ∧ ∀ rest, ∃ read,
        decodeAll (fields.map type) (written ++ rest) = (read, none) ∧
          read.map Prod.fst = fields.map shown ∧ leftover (written ++ rest) read = rest) ∧
    ∀ (field : Field) (written : Bytes), field.encode = .ok written →
      (field.type ∈ [.vi32, .vi64, .text, .blob] → field.encodedLength? = some written.length) ∧
        (field.type = .vi32 → written.length ≤ 5) ∧
        (field.type = .vi64 → written.length ≤ 10) :=
  ⟨fun _ fit => decodeAll_encodeAll fit, fun _ _ success => length_of_encode success⟩

theorem fields_round_trip_call :
    (∃ written, encodeAll [u16 7, vi32 300, text none, text (some "ok"), blob [1, 2]] = .ok written ∧
      ∀ rest, ∃ read,
        decodeAll [.u16, .vi32, .text, .text, .blob] (written ++ rest) = (read, none) ∧
          read.map Prod.fst =
            [u16 7, vi32 300, text (some ""), text (some "ok"), blob [1, 2]] ∧
          leftover (written ++ rest) read = rest) ∧
    (text (some "ok")).encodedLength? = some 5 :=
  ⟨fields_round_trip.1 [u16 7, vi32 300, text none, text (some "ok"), blob [1, 2]] (by decide),
    (fields_round_trip.2 (text (some "ok")) [2, 0, 111, 107, 0] rfl).1 (by decide)⟩

end Field

end MessageTransport
