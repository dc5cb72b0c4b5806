import MessageTransport.Registry

set_option autoImplicit false

namespace MessageTransport.Registry

variable {Handle : Type}

inductive Op (Handle : Type) where
  /-- The owner holds a fresh handle. -/
  | hold (h : Handle)
  /-- The owner lets a handle go. -/
  | release (h : Handle)
  | insert (remote : Endpoint) (h : Handle)
  | get (remote : Endpoint)
  | contains (remote : Endpoint)
  | remove (remote : Endpoint)
  | removeHandle (remote : Endpoint) (h : Handle)
  | size
  | isEmpty
  | handles
  | clear
deriving DecidableEq, Repr

inductive Reply (Handle : Type) where
  | done
  | flag (b : Bool)
  | count (n : Nat)
  | handle (h : Option Handle)
  | handles (hs : List Handle)
deriving DecidableEq, Repr

/-- A registry beside the owner of its handles, who brings handles to life and lets them go at any
time between two operations. -/
structure Trace (Handle : Type) where
  registry : Registry Handle
  held : List Handle

namespace Trace

def start : Trace Handle := ⟨empty, []⟩

/-- A run on a registry with room for some connections. -/
def withCapacity? (capacity : Nat) : Option (Trace Handle) :=
  (Registry.withCapacity? capacity).map (fun registry => ⟨registry, []⟩)

variable [DecidableEq Handle]

def live (t : Trace Handle) (h : Handle) : Bool := decide (h ∈ t.held)

def step (t : Trace Handle) : Op Handle → Trace Handle × Reply Handle
  | .hold h => ({ t with held := h :: t.held }, .done)
  | .release h => ({ t with held := t.held.filter (fun x => x ≠ h) }, .flag (t.live h))
  | .insert remote h =>
    let (ok, registry) := t.registry.insert t.live remote h
    ({ t with registry }, .flag ok)
  | .get remote =>
    let (found, registry) := t.registry.get t.live remote
    ({ t with registry }, .handle found)
  | .contains remote =>
    let (found, registry) := t.registry.contains t.live remote
    ({ t with registry }, .flag found)
  | .remove remote =>
    let (found, registry) := t.registry.remove remote
    ({ t with registry }, .flag found)
  | .removeHandle remote h =>
    let (found, registry) := t.registry.removeHandle remote h
    ({ t with registry }, .flag found)
  | .size => (t, .count (t.registry.size t.live))
  | .isEmpty => (t, .flag (t.registry.isEmpty t.live))
  | .handles => (t, .handles (t.registry.handles t.live))
  | .clear => ({ t with registry := t.registry.clear }, .done)

/-- The replies of a run. -/
def run : Trace Handle → List (Op Handle) → List (Reply Handle)
  | _, [] => []
  | t, op :: ops => (t.step op).2 :: run (t.step op).1 ops

end Trace

end MessageTransport.Registry
