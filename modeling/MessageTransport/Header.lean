import MessageTransport.Checksum
import MessageTransport.ErrorCode

set_option autoImplicit false

namespace MessageTransport

/-- The fixed header in front of every payload. -/
structure Header where
  version : UInt8
  headerLength : UInt8
  alignment : UInt16
  flags : UInt16
  headerChecksum : UInt32
  id : UInt32
  groupId : UInt32
  totalLength : UInt32
  timeoutMs : UInt32
  payloadChecksum : UInt32
  command : UInt64
deriving DecidableEq, Repr

namespace Header

def currentVersion : UInt8 := 1

/-- Bytes of an encoded header. -/
def size : Nat := 38

def checksumOffset : Nat := 6

def checksumSize : Nat := 4

def requestFlag : UInt16 := 0x0001

def ignoreResponseFlag : UInt16 := 0x0002

def urgentFlag : UInt16 := 0x0004

def payloadChecksumFlag : UInt16 := 0x8000

/-- A header of an empty message. -/
def empty : Header where
  version := currentVersion
  headerLength := 38
  alignment := 0
  flags := 0
  headerChecksum := 0
  id := 0
  groupId := 0
  totalLength := 38
  timeoutMs := 0
  payloadChecksum := 0
  command := 0

instance : Inhabited Header := ⟨empty⟩

def ofCommand (command : UInt64) : Header := { empty with command }

def withTimeout (command : UInt64) (timeoutMs : UInt32) : Header :=
  { empty with command, timeoutMs }

/-- Takes over what ties a reply to its request. The length is left to be filled in. -/
def inReplyTo (reply request : Header) : Header :=
  { reply with
    flags := request.flags
    id := request.id
    groupId := request.groupId
    command := request.command
    totalLength := 0 }

def hasFlag (h : Header) (flag : UInt16) : Bool := h.flags &&& flag != 0

def isRequest (h : Header) : Bool := h.hasFlag requestFlag

def ignoresResponse (h : Header) : Bool := h.hasFlag ignoreResponseFlag

def isUrgent (h : Header) : Bool := h.hasFlag urgentFlag

def hasPayloadChecksum (h : Header) : Bool := h.hasFlag payloadChecksumFlag

def setFlag (h : Header) (flag : UInt16) : Header := { h with flags := h.flags ||| flag }

def clearFlag (h : Header) (flag : UInt16) : Header := { h with flags := h.flags &&& ~~~flag }

/-- The declared payload length; zero when the declared total does not even cover the header. -/
def payloadLength (h : Header) : Nat := h.totalLength.toNat - h.headerLength.toNat

def verifyPayload (h : Header) (payload : Bytes) : Except ErrorCode Unit :=
  if h.hasPayloadChecksum ∧ fletcher32 payload ≠ h.payloadChecksum then
    .error .payloadChecksumMismatch
  else .ok ()

/-- The 38 bytes with a given number in the checksum field. -/
def layout (h : Header) (checksum : UInt32) : Bytes :=
  LittleEndian.encode 1 h.version.toNat ++
  LittleEndian.encode 1 h.headerLength.toNat ++
  LittleEndian.encode 2 h.alignment.toNat ++
  LittleEndian.encode 2 h.flags.toNat ++
  LittleEndian.encode 4 checksum.toNat ++
  LittleEndian.encode 4 h.id.toNat ++
  LittleEndian.encode 4 h.groupId.toNat ++
  LittleEndian.encode 4 h.totalLength.toNat ++
  LittleEndian.encode 4 h.timeoutMs.toNat ++
  LittleEndian.encode 4 h.payloadChecksum.toNat ++
  LittleEndian.encode 8 h.command.toNat

theorem length_layout (h : Header) (checksum : UInt32) : (h.layout checksum).length = size := by
  simp [layout, size]

/-- The header with its checksum recorded. -/
def sealed (h : Header) : Header := { h with headerChecksum := fletcher32 (h.layout 0) }

def encode (h : Header) : Bytes := h.layout h.sealed.headerChecksum

theorem length_encode (h : Header) : h.encode.length = size := length_layout _ _

/-- The number in `width` bytes from `offset` on. -/
def fieldAt (bs : Bytes) (offset width : Nat) : Nat :=
  LittleEndian.value ((bs.drop offset).take width)

/-- The fields of 38 bytes, unchecked. -/
def ofLayout (bs : Bytes) : Header where
  version := UInt8.ofNat (fieldAt bs 0 1)
  headerLength := UInt8.ofNat (fieldAt bs 1 1)
  alignment := UInt16.ofNat (fieldAt bs 2 2)
  flags := UInt16.ofNat (fieldAt bs 4 2)
  headerChecksum := UInt32.ofNat (fieldAt bs 6 4)
  id := UInt32.ofNat (fieldAt bs 10 4)
  groupId := UInt32.ofNat (fieldAt bs 14 4)
  totalLength := UInt32.ofNat (fieldAt bs 18 4)
  timeoutMs := UInt32.ofNat (fieldAt bs 22 4)
  payloadChecksum := UInt32.ofNat (fieldAt bs 26 4)
  command := UInt64.ofNat (fieldAt bs 30 8)

/-- The same bytes with the checksum field cleared. -/
def withoutChecksum (bs : Bytes) : Bytes :=
  bs.take checksumOffset ++ List.replicate checksumSize 0 ++
    bs.drop (checksumOffset + checksumSize)

/-- Whether the header describes a message of this protocol. -/
def isSupported (h : Header) : Bool :=
  h.version == currentVersion && h.headerLength.toNat == size && size ≤ h.totalLength.toNat

/-- Reads the first 38 bytes. The checksum is looked at before the fields it covers. -/
def decode (bs : Bytes) : Except ErrorCode Header :=
  if bs.length < size then .error .responseTruncated
  else
    let raw := bs.take size
    let h := ofLayout raw
    if fletcher32 (withoutChecksum raw) ≠ h.headerChecksum then .error .headerChecksumMismatch
    else if h.isSupported then .ok h
    else .error .badHeader

/-- The header as it is shown to people. -/
def describe (h : Header) : String :=
  let field := fun (name : String) (n : Nat) => name ++ ": " ++ n.repr
  "MessageHeader \x7b " ++ ", ".intercalate
    [field "version" h.version.toNat, field "header_len" h.headerLength.toNat,
     field "alignment" h.alignment.toNat, field "flags" h.flags.toNat,
     field "header_checksum" h.headerChecksum.toNat, field "id" h.id.toNat,
     field "group_id" h.groupId.toNat, field "total_len" h.totalLength.toNat,
     field "timeout_ms" h.timeoutMs.toNat, field "payload_checksum" h.payloadChecksum.toNat,
     field "command" h.command.toNat] ++ " \x7d"

end Header

end MessageTransport
