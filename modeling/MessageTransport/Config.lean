import MessageTransport.Duration

set_option autoImplicit false

namespace MessageTransport

/-- The settings of a transport. Without a reactor count there is one reactor for each processor of
the host. -/
structure Config where
  reactorCount : Option UInt64 := none
  /-- The longest that a reactor sleeps between two sweeps. -/
  timeoutTick : Duration := .ofMillis 5000
  connectTimeout : Duration := .ofMillis 10000
  /-- For requests on accepted connections that bring no timeout of their own. -/
  requestTimeout : Duration := .ofMillis 10000
  /-- The longest message accepted, header included. -/
  maxMessageSize : UInt64 := 67108864
  /-- Attempts to send while the endpoint is not connected. -/
  sendRetryLimit : UInt64 := 5
  sendRetryInterval : Duration := .ofMillis 1000
  /-- Whether small writes go out at once. -/
  nodelay : Bool := true
deriving DecidableEq, Repr

namespace Config

/-- One setting. -/
inductive Setting where
  | reactorCount (n : UInt64)
  | timeoutTick (d : Duration)
  | connectTimeout (d : Duration)
  | requestTimeout (d : Duration)
  | maxMessageSize (n : UInt64)
  | sendRetryLimit (n : UInt64)
  | sendRetryInterval (d : Duration)
  | nodelay (b : Bool)
deriving DecidableEq, Repr

def apply (c : Config) : Setting → Config
  | .reactorCount n => { c with reactorCount := some n }
  | .timeoutTick d => { c with timeoutTick := d }
  | .connectTimeout d => { c with connectTimeout := d }
  | .requestTimeout d => { c with requestTimeout := d }
  | .maxMessageSize n => { c with maxMessageSize := n }
  | .sendRetryLimit n => { c with sendRetryLimit := n }
  | .sendRetryInterval d => { c with sendRetryInterval := d }
  | .nodelay b => { c with nodelay := b }

/-- At least one reactor runs. -/
def effectiveReactorCount (c : Config) (processors : Nat) : Nat :=
  max 1 (match c.reactorCount with
    | some n => n.toNat
    | none => processors)

end Config

end MessageTransport
