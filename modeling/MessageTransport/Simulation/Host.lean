import MessageTransport.Endpoint

set_option autoImplicit false

namespace MessageTransport.Simulation

/-- Why the host refuses a socket an address. -/
inductive AddressFault where
  | noDevice
  | invalid
  | inUse
  | notAvailable
  | unreachable
  | refused
deriving DecidableEq, Repr

/-- The fault as the host's system words it. -/
def AddressFault.message : AddressFault → String
  | noDevice => "No such device (os error 19)"
  | invalid => "Invalid argument (os error 22)"
  | inUse => "Address already in use (os error 98)"
  | notAvailable => "Cannot assign requested address (os error 99)"
  | unreachable => "Network is unreachable (os error 101)"
  | refused => "Connection refused (os error 111)"

/-- The addresses at which a listening socket can be found. -/
inductive Reach where
  | everywhere
  | olderFamily
  | only (address : IpAddress)
deriving DecidableEq, Repr

namespace Reach

/-- The unspecified address of the newer family stands for all addresses, that of the older one for
all of its family. An address that carries one of the older family stands for that one. -/
def ofAddress : IpAddress → Reach
  | .v4 bits => if bits = 0 then olderFamily else only (.v4 bits)
  | .v6 high low scope =>
    if high = 0 ∧ low = 0 then everywhere
    else if high = 0 ∧ low >>> 32 = 0xffff then
      if low.toUInt32 = 0 then olderFamily else only (.v4 low.toUInt32)
    else only (.v6 high low scope)

def isOlder : IpAddress → Bool
  | .v4 _ => true
  | .v6 .. => false

/-- Whether two sockets could be found at one address. -/
def meets : Reach → Reach → Bool
  | everywhere, _ => true
  | _, everywhere => true
  | olderFamily, olderFamily => true
  | olderFamily, only a => isOlder a
  | only a, olderFamily => isOlder a
  | only a, only b => a = b

theorem meets_comm (a b : Reach) : a.meets b = b.meets a := by
  cases a <;> cases b <;> simp [meets, eq_comm]

end Reach

/-- Whether the listening sockets of two endpoints stand in each other's way. -/
def collide (a b : Endpoint) : Bool :=
  a.port = b.port && (Reach.ofAddress a.address).meets (Reach.ofAddress b.address)

/-- The first eight bits of an address of the newer family are those of a multicast one. -/
def isMulticast (high : UInt64) : Bool := high >>> 56 = 0xff

/-- Whether an address of the newer family is local to one link. -/
def isLinkLocal (high : UInt64) : Bool := high >>> 54 = 0x3fa

/-- The address that a bound socket shows. It has a scope only if it is local to a link. -/
def shown : IpAddress → IpAddress
  | .v4 bits => .v4 bits
  | .v6 high low scope => .v6 high low (if isLinkLocal high then scope else 0)

/-- The interface that a host has even if it is down. -/
def loopbackScope : UInt32 := 1

/-- Why no socket can be bound to an address, if that is so. A host whose interfaces are down lets
sockets be bound to all addresses of the older family, but of the newer one only to those that need
no interface. -/
def bindFault? (hasRoute : Bool) (address : IpAddress) : Option AddressFault :=
  match Reach.ofAddress address with
  | .only (.v6 high low scope) =>
    if isMulticast high then some .invalid
    else if isLinkLocal high then
      some (if scope = 0 then .invalid else if scope = loopbackScope then .notAvailable
        else .noDevice)
    else if hasRoute && high = 0 && low = 1 then none
    else some .notAvailable
  | _ => none

/-- Why an address at which nobody listens cannot be connected to. -/
def connectFault (hasRoute : Bool) (address : IpAddress) : AddressFault :=
  if hasRoute then .refused
  else
    match address, Reach.ofAddress address with
    | .v6 .., .everywhere => .notAvailable
    | _, .only (.v6 high _ scope) =>
      if isMulticast high then .unreachable
      else if isLinkLocal high && scope = 0 then .invalid
      else .notAvailable
    | _, _ => .unreachable

end MessageTransport.Simulation
