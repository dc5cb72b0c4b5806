import MessageTransport.Header

set_option autoImplicit false

namespace MessageTransport.Header

/-- The fields in the order in which they are laid out, each with its width in bytes. -/
def fields (h : Header) (checksum : UInt32) : List (Nat × Nat) :=
  [(1, h.version.toNat), (1, h.headerLength.toNat), (2, h.alignment.toNat), (2, h.flags.toNat),
   (4, checksum.toNat), (4, h.id.toNat), (4, h.groupId.toNat), (4, h.totalLength.toNat),
   (4, h.timeoutMs.toNat), (4, h.payloadChecksum.toNat), (8, h.command.toNat)]

/-- Numbers in little-endian form, one after another. -/
def encodeAll (fields : List (Nat × Nat)) : Bytes :=
  fields.flatMap (fun field => LittleEndian.encode field.1 field.2)

/-- The bytes that fields take up. -/
def width : List (Nat × Nat) → Nat
  | [] => 0
  | field :: rest => field.1 + width rest

theorem encodeAll_append (front back : List (Nat × Nat)) :
    encodeAll (front ++ back) = encodeAll front ++ encodeAll back := by
  simp only [encodeAll, List.flatMap_append]

theorem length_encodeAll (fields : List (Nat × Nat)) :
    (encodeAll fields).length = width fields := by
  induction fields with
  | nil => rfl
  | cons field rest ih =>
    have split : encodeAll (field :: rest) =
        LittleEndian.encode field.1 field.2 ++ encodeAll rest := rfl
    rw [split, List.length_append, LittleEndian.length_encode, ih]
    rfl

theorem layout_eq_encodeAll (h : Header) (checksum : UInt32) :
    h.layout checksum = encodeAll (h.fields checksum) := by
  simp only [layout, encodeAll, fields, List.flatMap_cons, List.flatMap_nil, List.append_assoc,
    List.append_nil]

/-- A field that is as wide as it says is found behind the fields in front of it. -/
theorem fieldAt_encodeAll (front back : List (Nat × Nat)) (bytes n : Nat)
    (narrow : n < LittleEndian.limit bytes) :
    fieldAt (encodeAll (front ++ (bytes, n) :: back)) (width front) bytes = n := by
  have split : encodeAll (front ++ (bytes, n) :: back) =
      encodeAll front ++ (LittleEndian.encode bytes n ++ encodeAll back) := by
    rw [encodeAll_append]
    rfl
  rw [fieldAt, split, ← length_encodeAll front, List.drop_left,
    List.take_left' (LittleEndian.length_encode bytes n), LittleEndian.value_encode,
    Nat.mod_eq_of_lt narrow]

theorem ofLayout_layout (h : Header) (checksum : UInt32) :
    ofLayout (h.layout checksum) = { h with headerChecksum := checksum } := by
  have found (front back : List (Nat × Nat)) (bytes n : Nat) (narrow : n < LittleEndian.limit bytes)
      (split : h.fields checksum = front ++ (bytes, n) :: back) :
      fieldAt (h.layout checksum) (width front) bytes = n := by
    rw [layout_eq_encodeAll, split]
    exact fieldAt_encodeAll front back bytes n narrow
  have version := found [] _ 1 _ h.version.toNat_lt rfl
  have headerLength := found ((h.fields checksum).take 1) _ 1 _ h.headerLength.toNat_lt rfl
  have alignment := found ((h.fields checksum).take 2) _ 2 _ h.alignment.toNat_lt rfl
  have flags := found ((h.fields checksum).take 3) _ 2 _ h.flags.toNat_lt rfl
  have headerChecksum := found ((h.fields checksum).take 4) _ 4 _ checksum.toNat_lt rfl
  have id := found ((h.fields checksum).take 5) _ 4 _ h.id.toNat_lt rfl
  have groupId := found ((h.fields checksum).take 6) _ 4 _ h.groupId.toNat_lt rfl
  have totalLength := found ((h.fields checksum).take 7) _ 4 _ h.totalLength.toNat_lt rfl
  have timeoutMs := found ((h.fields checksum).take 8) _ 4 _ h.timeoutMs.toNat_lt rfl
  have payloadChecksum := found ((h.fields checksum).take 9) _ 4 _ h.payloadChecksum.toNat_lt rfl
  have command := found ((h.fields checksum).take 10) _ 8 _ h.command.toNat_lt rfl
  simp only [fields, List.take, width, Nat.reduceAdd, Nat.add_zero]
    at version headerLength alignment flags headerChecksum id groupId totalLength timeoutMs
      payloadChecksum command
  simp only [ofLayout, version, headerLength, alignment, flags, headerChecksum, id, groupId,
    totalLength, timeoutMs, payloadChecksum, command, UInt8.ofNat_toNat, UInt16.ofNat_toNat,
    UInt32.ofNat_toNat, UInt64.ofNat_toNat]

theorem withoutChecksum_layout (h : Header) (checksum : UInt32) :
    withoutChecksum (h.layout checksum) = h.layout 0 := by
  have split (c : UInt32) : h.layout c = encodeAll ((h.fields c).take 4) ++
      (LittleEndian.encode 4 c.toNat ++ encodeAll ((h.fields c).drop 5)) := by
    rw [layout_eq_encodeAll]
    exact encodeAll_append ((h.fields c).take 4) ((h.fields c).drop 4)
  have front : (encodeAll ((h.fields checksum).take 4)).length = checksumOffset :=
    length_encodeAll _
  have field : (LittleEndian.encode 4 checksum.toNat).length = checksumSize :=
    LittleEndian.length_encode _ _
  rw [withoutChecksum, split checksum, split 0, List.take_left' front, ← List.drop_drop,
    List.drop_left' front, List.drop_left' field, List.append_assoc]
  rfl

/-- A header is read back with its checksum if it is supported, and nothing behind it is looked
at. -/
theorem decode_append (h : Header) (rest : Bytes) : decode (h.encode ++ rest) =
    if h.isSupported then .ok h.sealed else .error .badHeader := by
  have long : ¬(h.encode ++ rest).length < size := by
    simp only [List.length_append, length_encode]
    omega
  have raw : (h.encode ++ rest).take size = h.encode := List.take_left' h.length_encode
  have fields : ofLayout h.encode = h.sealed := ofLayout_layout h _
  have cleared : withoutChecksum h.encode = h.layout 0 := withoutChecksum_layout h _
  have same : fletcher32 (h.layout 0) = h.sealed.headerChecksum := rfl
  have kept : h.sealed.isSupported = h.isSupported := rfl
  simp only [decode, long, raw, fields, cleared, same, kept, ne_eq, not_true_eq_false,
    ↓reduceIte]

theorem decode_encode {h : Header} (supported : h.isSupported = true) (rest : Bytes) :
    decode (h.encode ++ rest) = .ok h.sealed := by
  rw [decode_append, if_pos supported]

/-- What a reader may rely on once a header has been accepted. -/
theorem isSupported_of_decode {bs : Bytes} {h : Header} (accepted : decode bs = .ok h) :
    h.isSupported = true := by
  simp only [decode] at accepted
  split at accepted
  · cases accepted
  · split at accepted
    · cases accepted
    · split at accepted
      · rename_i supported
        cases accepted
        exact supported
      · cases accepted

theorem isSupported_iff (h : Header) : h.isSupported = true ↔
    h.version = currentVersion ∧ h.headerLength.toNat = size ∧ size ≤ h.totalLength.toNat := by
  simp only [isSupported, Bool.and_eq_true, beq_iff_eq, decide_eq_true_eq, and_assoc]

theorem payloadLength_of_isSupported {h : Header} (supported : h.isSupported = true) :
    h.payloadLength = h.totalLength.toNat - size := by
  rw [payloadLength, ((isSupported_iff h).mp supported).2.1]

theorem isRequest_clearFlag (h : Header) : (h.clearFlag requestFlag).isRequest = false := by
  have none : (h.flags &&& ~~~requestFlag) &&& requestFlag = 0 := by
    rw [UInt16.and_assoc, UInt16.not_and_self, UInt16.and_zero]
  rw [isRequest, hasFlag, clearFlag, none]
  rfl

end MessageTransport.Header
