import MessageTransport.Endpoint
import MessageTransport.Header

set_option autoImplicit false

namespace MessageTransport

/-- What a transport tells its handlers. -/
inductive Event where
  /-- A connection was made or accepted. -/
  | established (remote : Endpoint) (connId : UInt32)
  /-- A connection closed; it is no longer registered by then. -/
  | disconnected (remote : Endpoint) (connId : UInt32) (reason : ErrorCode)
  /-- A request, or the response to one. -/
  | message (remote : Endpoint) (connId : UInt32) (header : Header) (payload : Bytes)
  /-- A request failed without a response. -/
  | failed (remote : Endpoint) (connId : UInt32) (requestId : UInt32) (code : ErrorCode)
  | timer
deriving DecidableEq, Repr

namespace Event

def remote? : Event → Option Endpoint
  | established remote _ => some remote
  | disconnected remote _ _ => some remote
  | message remote _ _ _ => some remote
  | failed remote _ _ _ => some remote
  | timer => none

def connId? : Event → Option UInt32
  | established _ connId => some connId
  | disconnected _ connId _ => some connId
  | message _ connId _ _ => some connId
  | failed _ connId _ _ => some connId
  | timer => none

def header? : Event → Option Header
  | message _ _ header _ => some header
  | _ => none

/-- Why a request failed or a connection closed. -/
def code? : Event → Option ErrorCode
  | disconnected _ _ reason => some reason
  | failed _ _ _ code => some code
  | _ => none

/-- The group in which work for the event is ordered, with the connection in its upper half and the
request group in its lower half; zero is no group. -/
def workGroup : Event → UInt64
  | message _ connId header _ =>
    if header.groupId = 0 then 0 else connId.toUInt64 <<< 32 ||| header.groupId.toUInt64
  | _ => 0

/-- Whether nothing follows the event on the same request or connection. -/
def isTerminal : Event → Bool
  | disconnected .. => true
  | failed .. => true
  | _ => false

def originText (e : Event) : String :=
  match e.remote? with
  | some remote => " from=" ++ remote.text
  | none => ""

def detailText : Event → String
  | established .. => "CONNECTION_ESTABLISHED"
  | disconnected _ _ reason => "DISCONNECT reason=\"" ++ reason.text ++ "\""
  | message _ _ header _ =>
    "MESSAGE id=" ++ header.id.toNat.repr ++ " gid=" ++ header.groupId.toNat.repr ++
      " header_len=" ++ header.headerLength.toNat.repr ++
      " total_len=" ++ header.totalLength.toNat.repr
  | failed _ _ requestId code =>
    "ERROR id=" ++ requestId.toNat.repr ++ " error=\"" ++ code.text ++ "\""
  | timer => "TIMER"

/-- The event as it is shown to people. -/
def text (e : Event) : String := "Event: type=" ++ e.detailText ++ e.originText

end Event

end MessageTransport
