import MessageTransport.Event

set_option autoImplicit false

namespace MessageTransport

/-- The receiving end of a channel of events. Sending to a receiver that is gone loses the event and
is no failure. -/
structure Mailbox where
  isOpen : Bool := true
  received : List Event := []
deriving DecidableEq, Repr

namespace Mailbox

def send (m : Mailbox) (e : Event) : Mailbox :=
  if m.isOpen then { m with received := m.received ++ [e] } else m

def close (m : Mailbox) : Mailbox := { m with isOpen := false }

def sendAll (m : Mailbox) (events : List Event) : Mailbox := events.foldl send m

theorem received_sendAll (m : Mailbox) (events : List Event) :
    (m.sendAll events).received = if m.isOpen then m.received ++ events else m.received := by
  unfold sendAll
  induction events generalizing m with
  | nil => simp
  | cons e events ih =>
    rw [List.foldl_cons, ih]
    cases h : m.isOpen <;> simp [send, h]

end Mailbox

end MessageTransport
