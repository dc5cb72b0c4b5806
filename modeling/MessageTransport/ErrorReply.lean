import MessageTransport.Draft

set_option autoImplicit false

namespace MessageTransport.ErrorReply

/-- The longest run of leading characters that takes at most `room` bytes. -/
def fitting : Nat → List Char → List Char
  | _, [] => []
  | room, c :: cs => if c.utf8Size ≤ room then c :: fitting (room - c.utf8Size) cs else []

def truncate (room : Nat) (s : String) : String :=
  if s.utf8ByteSize ≤ room then s else String.ofList (fitting room s.toList)

/-- The reply to a request that failed, ready to be sent: the number of an error code and a reason,
which is cut behind the last character that fits into a text field. -/
def draft (request : Header) (code : ErrorCode) (reason : String) : Draft :=
  let cut := Utf8.encode (truncate Field.maxTextLength reason)
  (Draft.ofHeader (Header.empty.inReplyTo request)).appendRaw
    (LittleEndian.encode 4 code.value.toNat ++ Field.textBytes cut)

/-- The number and the reason in the payload of such a reply. -/
def decode (payload : Bytes) : Except ErrorCode (UInt32 × String) :=
  match Field.takeNumber 4 payload with
  | .error e => .error e
  | .ok (number, rest) =>
    match Field.decodeText rest with
    | .error e => .error e
    | .ok (reason, _) => .ok (UInt32.ofNat number, reason)

end MessageTransport.ErrorReply
