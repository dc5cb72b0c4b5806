import MessageTransport.ErrorCode

set_option autoImplicit false

namespace MessageTransport

/-- The ways in which a read or a write on a socket can fail, as far as they make a difference. -/
inductive IoFault where
  /-- Nothing can be transferred right now. -/
  | wouldBlock
  /-- The call was broken off and may be made again at once. -/
  | interrupted
  | connectionReset
  | connectionAborted
  | brokenPipe
  | unexpectedEnd
  | other
deriving DecidableEq, Repr

namespace IoFault

/-- What a failed read says about the connection: its peer is gone, or something else is wrong. -/
def readCode : IoFault → ErrorCode
  | connectionReset | connectionAborted | brokenPipe | unexpectedEnd => .brokenConnection
  | _ => .receiveError

end IoFault

end MessageTransport
