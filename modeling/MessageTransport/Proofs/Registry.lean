import MessageTransport.Proofs.Lookup
import MessageTransport.Registry

set_option autoImplicit false

namespace MessageTransport.Registry

variable {Handle : Type}

theorem entries_removeHandle [DecidableEq Handle] (g : Registry Handle)
    (remote other : Endpoint) (h : Handle) :
    (g.removeHandle remote h).2.entries[other]? =
      if remote = other ∧ g.entries[remote]? = some h then none else g.entries[other]? := by
  unfold removeHandle
  by_cases held : g.entries[remote]? = some h
  · simp only [held, and_true, ↓reduceIte]
    exact getElem?_erased g.entries remote other
  · simp only [held, and_false, ↓reduceIte]

theorem entries_insert (live : Handle → Bool) (g : Registry Handle)
    (remote other : Endpoint) (h : Handle) :
    (g.insert live remote h).2.entries[other]? = g.entries[other]? ∨
      remote = other ∧ (g.insert live remote h).2.entries[other]? = some h := by
  unfold insert
  split
  · exact .inl rfl
  · have found := getElem?_inserted g.entries remote other h
    by_cases same : remote = other
    · rw [if_pos same] at found
      exact .inr ⟨same, found⟩
    · rw [if_neg same] at found
      exact .inl found

theorem unknown_of_toList {g : Registry Handle} {h : Handle}
    (absent : ∀ entry ∈ g.entries.toList, entry.2 ≠ h) (remote : Endpoint) :
    g.entries[remote]? ≠ some h := by
  intro held
  exact absent (remote, h) (Std.TreeMap.mem_toList_iff_getElem?_eq_some.mpr held) rfl

end MessageTransport.Registry
