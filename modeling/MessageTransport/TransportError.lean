import MessageTransport.ErrorCode

set_option autoImplicit false

namespace MessageTransport

/-- What an operation of a transport fails with: a code of its own, a fault of the operating system,
a malformed payload found by an application, or an error reply of the peer. -/
inductive TransportError where
  | code (code : ErrorCode)
  | system (description : String)
  | malformed (reason : String)
  | remote (code : UInt32) (message : String)
deriving DecidableEq, Repr

namespace TransportError

/-- The code that describes the error best. -/
def bestCode : TransportError → ErrorCode
  | code c => c
  | system _ => .brokenConnection
  | malformed _ => .protocolError
  | remote c _ => (ErrorCode.ofValue? c).getD .protocolError

/-- A number in lower-case hexadecimal behind `0x`. -/
def hexText (n : Nat) : String := "0x" ++ String.ofList (Nat.toDigits 16 n)

def text : TransportError → String
  | code c => c.text
  | system description => "io error: " ++ description
  | malformed reason => "protocol error: " ++ reason
  | remote c message => "remote error " ++ hexText c.toNat ++ ": " ++ message

/-- Only the transport's own code counts, not one a peer reported. -/
def isNotConnected : TransportError → Bool
  | code .notConnected => true
  | _ => false

/-- The codes that the error stands for. -/
def codes (e : TransportError) : List ErrorCode :=
  ErrorCode.all.filter (fun c => e.bestCode == c)

end TransportError

end MessageTransport
