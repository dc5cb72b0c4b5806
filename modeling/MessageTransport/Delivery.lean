import MessageTransport.Event

set_option autoImplicit false

namespace MessageTransport

structure Delivery (Handler : Type) where
  handler : Handler
  event : Event
deriving DecidableEq, Repr

namespace Delivery

variable {Handler : Type}

/-- Calls made under guard go on behind a panic, and calls made without a guard end with the first
one. -/
inductive Guard where
  | guarded
  | unguarded
deriving DecidableEq, Repr

/-- The calls made out of those intended, where `panics` says which of them panic. -/
def calls (guard : Guard) (panics : Handler → Event → Bool) :
    List (Delivery Handler) → List (Delivery Handler)
  | [] => []
  | d :: rest =>
    match guard with
    | .guarded => d :: calls guard panics rest
    | .unguarded => if panics d.handler d.event then [d] else d :: calls guard panics rest

theorem calls_guarded (panics : Handler → Event → Bool) (ds : List (Delivery Handler)) :
    calls .guarded panics ds = ds := by
  induction ds with
  | nil => rfl
  | cons d rest ih => simp [calls, ih]

theorem calls_unguarded_of_quiet {panics : Handler → Event → Bool} {ds : List (Delivery Handler)}
    (h : ∀ d ∈ ds, panics d.handler d.event = false) : calls .unguarded panics ds = ds := by
  induction ds with
  | nil => rfl
  | cons d rest ih =>
    simp [calls, h d (by simp), ih (fun e he => h e (by simp [he]))]

end Delivery

end MessageTransport
