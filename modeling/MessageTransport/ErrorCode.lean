set_option autoImplicit false

namespace MessageTransport

/-- The failures that a transport can report. -/
inductive ErrorCode where
  /-- A malformed application payload. -/
  | protocolError
  | requestTruncated
  | responseTruncated
  /-- No live connection exists for the endpoint. -/
  | notConnected
  /-- The connection broke while it was in use. -/
  | brokenConnection
  | connectError
  /-- A live connection already exists for the endpoint. -/
  | alreadyConnected
  /-- No response arrived before the request expired. -/
  | requestTimeout
  | sendError
  | receiveError
  | bindError
  | headerChecksumMismatch
  | payloadChecksumMismatch
  /-- The header had an unsupported version, header length or total length. -/
  | badHeader
  | messageTooLarge
  /-- The transport or queue has been shut down. -/
  | shutdown
  /-- A variable-length integer had too many groups. -/
  | badVint
deriving DecidableEq, Repr

namespace ErrorCode

/-- Every code, in the order of declaration. -/
def all : List ErrorCode :=
  [protocolError, requestTruncated, responseTruncated, notConnected, brokenConnection, connectError,
   alreadyConnected, requestTimeout, sendError, receiveError, bindError, headerChecksumMismatch,
   payloadChecksumMismatch, badHeader, messageTooLarge, shutdown, badVint]

/-- The number that stands for the code on the wire. -/
def value : ErrorCode → UInt32
  | protocolError => 1
  | requestTruncated => 2
  | responseTruncated => 3
  | notConnected => 0x10001
  | brokenConnection => 0x10002
  | connectError => 0x10003
  | alreadyConnected => 0x10004
  | requestTimeout => 0x10005
  | sendError => 0x10006
  | receiveError => 0x10007
  | bindError => 0x1000b
  | headerChecksumMismatch => 0x1000d
  | payloadChecksumMismatch => 0x1000e
  | badHeader => 0x10010
  | messageTooLarge => 0x10011
  | shutdown => 0x10012
  | badVint => 0x80002

def ofValue? (v : UInt32) : Option ErrorCode := all.find? (fun code => code.value == v)

/-- The identifier under which a code is reported to programs. -/
def name : ErrorCode → String
  | protocolError => "ProtocolError"
  | requestTruncated => "RequestTruncated"
  | responseTruncated => "ResponseTruncated"
  | notConnected => "NotConnected"
  | brokenConnection => "BrokenConnection"
  | connectError => "ConnectError"
  | alreadyConnected => "AlreadyConnected"
  | requestTimeout => "RequestTimeout"
  | sendError => "SendError"
  | receiveError => "ReceiveError"
  | bindError => "BindError"
  | headerChecksumMismatch => "HeaderChecksumMismatch"
  | payloadChecksumMismatch => "PayloadChecksumMismatch"
  | badHeader => "BadHeader"
  | messageTooLarge => "MessageTooLarge"
  | shutdown => "Shutdown"
  | badVint => "BadVint"

def ofName? (s : String) : Option ErrorCode := all.find? (fun code => code.name == s)

/-- The wording shown to people. -/
def text : ErrorCode → String
  | protocolError => "protocol error"
  | requestTruncated => "request truncated"
  | responseTruncated => "response truncated"
  | notConnected => "not connected"
  | brokenConnection => "broken connection"
  | connectError => "connect error"
  | alreadyConnected => "already connected"
  | requestTimeout => "request timeout"
  | sendError => "send error"
  | receiveError => "receive error"
  | bindError => "bind error"
  | headerChecksumMismatch => "header checksum mismatch"
  | payloadChecksumMismatch => "payload checksum mismatch"
  | badHeader => "bad header"
  | messageTooLarge => "message too large"
  | shutdown => "shutdown"
  | badVint => "bad vint encoding"

/-- Whether a connection that met this failure can no longer be trusted. -/
def closesConnection : ErrorCode → Bool
  | brokenConnection | receiveError | sendError | headerChecksumMismatch
  | payloadChecksumMismatch | badHeader | messageTooLarge => true
  | _ => false

theorem mem_all (code : ErrorCode) : code ∈ all := by
  cases code <;> decide

theorem ofValue?_value (code : ErrorCode) : ofValue? code.value = some code := by
  cases code <;> decide

theorem ofName?_name (code : ErrorCode) : ofName? code.name = some code := by
  cases code <;> decide

end ErrorCode

end MessageTransport
