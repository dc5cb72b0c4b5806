import MessageTransport.Varint

set_option autoImplicit false

namespace MessageTransport

inductive FieldType where
  | bool
  | u8
  | u16
  | u32
  | u64
  | vi32
  | vi64
  | text
  | blob
deriving DecidableEq, Repr

/-- A field with its value. An absent text is written as the empty one. -/
inductive Field where
  | bool (value : Bool)
  | u8 (value : UInt8)
  | u16 (value : UInt16)
  | u32 (value : UInt32)
  | u64 (value : UInt64)
  | vi32 (value : UInt32)
  | vi64 (value : UInt64)
  | text (value : Option String)
  | blob (value : Bytes)
deriving DecidableEq, Repr

namespace Utf8

def encode (s : String) : Bytes := s.toUTF8.data.toList

def decode? (bs : Bytes) : Option String := String.fromUTF8? ⟨bs.toArray⟩

end Utf8

namespace Field

/-- The longest text that a field can hold, in bytes. -/
def maxTextLength : Nat := 65535

/-- A text field without a check of its length. -/
def textBytes (content : Bytes) : Bytes :=
  LittleEndian.encode 2 content.length ++ content ++ [0]

def encodeText (value : Option String) : Except ErrorCode Bytes :=
  let content := Utf8.encode (value.getD "")
  if content.length ≤ maxTextLength then .ok (textBytes content)
  else .error .protocolError

def encodeBlob (value : Bytes) : Bytes := LittleEndian.encode 4 value.length ++ value

/-- Fixed-width numbers are little-endian; a text is its length in 16 bits, its UTF-8 bytes and a
zero byte; a blob is its length in 32 bits and its bytes. Only a text can be refused. -/
def encode : Field → Except ErrorCode Bytes
  | bool b => .ok [if b then 1 else 0]
  | u8 v => .ok [v]
  | u16 v => .ok (LittleEndian.encode 2 v.toNat)
  | u32 v => .ok (LittleEndian.encode 4 v.toNat)
  | u64 v => .ok (LittleEndian.encode 8 v.toNat)
  | vi32 v => .ok (Varint.encode v.toUInt64)
  | vi64 v => .ok (Varint.encode v)
  | text s => encodeText s
  | blob bs => .ok (encodeBlob bs)

/-- The number of bytes that a field takes, for the types whose size depends on the value. -/
def encodedLength? : Field → Option Nat
  | vi32 v => some (Varint.encodedLength v.toUInt64)
  | vi64 v => some (Varint.encodedLength v)
  | text s => some (2 + (s.getD "").utf8ByteSize + 1)
  | blob bs => some (4 + bs.length)
  | _ => none

def type : Field → FieldType
  | bool _ => .bool
  | u8 _ => .u8
  | u16 _ => .u16
  | u32 _ => .u32
  | u64 _ => .u64
  | vi32 _ => .vi32
  | vi64 _ => .vi64
  | text _ => .text
  | blob _ => .blob

/-- Takes a number of bytes off the front. -/
def takeBytes (n : Nat) (bs : Bytes) : Except ErrorCode (Bytes × Bytes) :=
  if bs.length < n then .error .responseTruncated else .ok (bs.take n, bs.drop n)

/-- Takes a little-endian number of a given width off the front. -/
def takeNumber (width : Nat) (bs : Bytes) : Except ErrorCode (Nat × Bytes) :=
  match takeBytes width bs with
  | .error e => .error e
  | .ok (digits, rest) => .ok (LittleEndian.value digits, rest)

/-- A text whose terminator is missing or whose bytes are not UTF-8 is malformed, one that is too
short for its own length is truncated. -/
def decodeText (bs : Bytes) : Except ErrorCode (String × Bytes) :=
  match takeNumber 2 bs with
  | .error e => .error e
  | .ok (length, body) =>
    match takeBytes (length + 1) body with
    | .error e => .error e
    | .ok (framed, rest) =>
      if framed.getLast? = some 0 then
        match Utf8.decode? framed.dropLast with
        | some s => .ok (s, rest)
        | none => .error .protocolError
      else .error .protocolError

def decodeBlob (bs : Bytes) : Except ErrorCode (Bytes × Bytes) :=
  match takeNumber 4 bs with
  | .error e => .error e
  | .ok (length, body) => takeBytes length body

def decode (type : FieldType) (bs : Bytes) : Except ErrorCode (Field × Bytes) :=
  match type with
  | .bool => (takeNumber 1 bs).map (fun r => (.bool (r.1 != 0), r.2))
  | .u8 => (takeNumber 1 bs).map (fun r => (.u8 (UInt8.ofNat r.1), r.2))
  | .u16 => (takeNumber 2 bs).map (fun r => (.u16 (UInt16.ofNat r.1), r.2))
  | .u32 => (takeNumber 4 bs).map (fun r => (.u32 (UInt32.ofNat r.1), r.2))
  | .u64 => (takeNumber 8 bs).map (fun r => (.u64 (UInt64.ofNat r.1), r.2))
  | .vi32 => (Varint.decode Varint.maxGroups32 bs).map (fun r => (.vi32 r.1.toUInt32, r.2))
  | .vi64 => (Varint.decode Varint.maxGroups64 bs).map (fun r => (.vi64 r.1, r.2))
  | .text => (decodeText bs).map (fun r => (.text (some r.1), r.2))
  | .blob => (decodeBlob bs).map (fun r => (.blob r.1, r.2))

/-- Decodes fields of the given types one after another: each field with what it leaves, and the
failure that ended the reading. -/
def decodeAll : List FieldType → Bytes → List (Field × Bytes) × Option ErrorCode
  | [], _ => ([], none)
  | type :: types, bs =>
    match decode type bs with
    | .error e => ([], some e)
    | .ok (field, rest) =>
      let (fields, failure) := decodeAll types rest
      ((field, rest) :: fields, failure)

end Field

end MessageTransport
