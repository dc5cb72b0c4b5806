import MessageTransport.Field
import MessageTransport.Header
import MessageTransport.Room

set_option autoImplicit false

namespace MessageTransport

/-- A message under construction: a header, the payload written so far, and an extension that goes
out behind the payload without being copied into it. Lengths and checksums are filled in when the
draft is finished. -/
structure Draft where
  header : Header
  data : Bytes
  extension : Bytes
deriving DecidableEq, Repr

namespace Draft

def ofHeader (header : Header) : Draft := ⟨header, [], []⟩

/-- A draft with room for a payload of some bytes. -/
def withCapacity? (header : Header) (capacity : Nat) : Option Draft :=
  if Room.fits 1 capacity then some (ofHeader header) else none

/-- A draft whose only payload is an extension. -/
def withExtension (header : Header) (extension : Bytes) : Draft := ⟨header, [], extension⟩

/-- Asks for a payload checksum, which the peer then verifies. -/
def requestChecksum (d : Draft) : Draft :=
  { d with header := d.header.setFlag Header.payloadChecksumFlag }

def setExtension (d : Draft) (extension : Bytes) : Draft := { d with extension }

def setHeader (d : Draft) (header : Header) : Draft := { d with header }

def payload (d : Draft) : Bytes := d.data ++ d.extension

def payloadLength (d : Draft) : Nat := d.data.length + d.extension.length

/-- Bytes of the whole message. -/
def length (d : Draft) : Nat := Header.size + d.payloadLength

/-- A message has at least a header. -/
def isEmpty (_ : Draft) : Bool := false

def appendRaw (d : Draft) (bs : Bytes) : Draft := { d with data := d.data ++ bs }

/-- Appends a field, or fails and leaves nothing behind. -/
def append (d : Draft) (field : Field) : Except ErrorCode Draft :=
  match field.encode with
  | .ok bs => .ok (d.appendRaw bs)
  | .error e => .error e

/-- Fills in the total length and, where asked for, the payload checksum. The header checksum is
left to the encoding of the header. -/
def finish (d : Draft) : Except ErrorCode Draft :=
  if d.length < UInt32.size then
    let counted : Header := { d.header with totalLength := UInt32.ofNat d.length }
    if counted.hasPayloadChecksum then
      .ok { d with header := { counted with payloadChecksum := fletcher32 d.payload } }
    else .ok { d with header := counted }
  else .error .messageTooLarge

/-- The pieces written to a connection, in order: the header and whatever payload there is. -/
def chunks (d : Draft) : Except ErrorCode (List Bytes) :=
  match d.finish with
  | .error e => .error e
  | .ok done =>
    .ok (done.header.encode ::
      ((if done.data.isEmpty then [] else [done.data]) ++
        (if done.extension.isEmpty then [] else [done.extension])))

/-- The draft as it is shown to people. -/
def describe (d : Draft) : String :=
  "CommBuf \x7b header: " ++ d.header.describe ++ ", data_len: " ++ d.data.length.repr ++
    ", ext_len: " ++ d.extension.length.repr ++ " \x7d"

/-- One call on a draft. -/
inductive Edit where
  | append (field : Field)
  | appendRaw (bs : Bytes)
  | setExtension (bs : Bytes)
  | setHeader (header : Header)
  | requestChecksum
  | finish
deriving DecidableEq, Repr

/-- The draft after a call, and the failure of the call if it has one. A call that fails leaves the
draft as it was. -/
def edit (d : Draft) : Edit → Draft × Option ErrorCode
  | .append field =>
    match d.append field with
    | .ok next => (next, none)
    | .error e => (d, some e)
  | .appendRaw bs => (d.appendRaw bs, none)
  | .setExtension bs => (d.setExtension bs, none)
  | .setHeader header => (d.setHeader header, none)
  | .requestChecksum => (d.requestChecksum, none)
  | .finish =>
    match d.finish with
    | .ok done => (done, none)
    | .error e => (d, some e)

theorem length_payload (d : Draft) : d.payload.length = d.payloadLength := by
  simp [payload, payloadLength]

end Draft

end MessageTransport
