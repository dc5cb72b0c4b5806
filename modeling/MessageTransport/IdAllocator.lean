set_option autoImplicit false

namespace MessageTransport

/-- Ids that count up from one. Zero is never given out: it stands for no response and for no
group. -/
structure IdAllocator where
  next : UInt32 := 1
deriving DecidableEq, Repr

namespace IdAllocator

/-- The next id and the allocator behind it. A counter that has wrapped around passes over zero. -/
def take (a : IdAllocator) : UInt32 × IdAllocator :=
  if a.next = 0 then (1, ⟨2⟩) else (a.next, ⟨a.next + 1⟩)

theorem take_ne_zero (a : IdAllocator) : a.take.1 ≠ 0 := by
  unfold take
  split
  · decide
  · assumption

/-- Serves a list of calls, each naming one of several allocators. -/
def serve? : List IdAllocator → List Nat → Option (List UInt32)
  | _, [] => some []
  | allocators, call :: calls => do
    let a ← allocators[call]?
    let ids ← serve? (allocators.set call a.take.2) calls
    return a.take.1 :: ids

end IdAllocator

end MessageTransport
