import MessageTransport.Reactor
import MessageTransport.Room

set_option autoImplicit false

namespace MessageTransport

/-- A fixed number of reactors, at least one, which are given out in turn. -/
structure ReactorPool (Handler : Type) where
  reactors : List (Reactor Handler)
  next : Nat := 0

namespace ReactorPool

variable {Handler : Type}

/-- Bytes that a reactor takes in the list of all. -/
def reactorBytes : Nat := 48

/-- Whether there is room for some reactors. -/
def hasRoom (count : Nat) : Bool := Room.fits reactorBytes count

def start (count : Nat) : ReactorPool Handler where
  reactors := (List.range (max 1 count)).map (fun index => { index })

def size (p : ReactorPool Handler) : Nat := p.reactors.length

def reactor? (p : ReactorPool Handler) (index : Nat) : Option (Reactor Handler) :=
  p.reactors[index]?

/-- The index of the reactor whose turn it is. -/
def takeNext (p : ReactorPool Handler) : Nat × ReactorPool Handler :=
  (p.next % p.size, { p with next := p.next + 1 })

def update (p : ReactorPool Handler) (index : Nat) (f : Reactor Handler → Reactor Handler) :
    ReactorPool Handler :=
  { p with reactors := p.reactors.modify index f }

/-- The pool as it is shown to people. -/
def describe (p : ReactorPool Handler) : String :=
  "ReactorPool \x7b reactors: " ++ p.size.repr ++ " \x7d"

end ReactorPool

end MessageTransport
