import MessageTransport.Proofs.Lookup
import MessageTransport.Proofs.RequestTable.Index
import MessageTransport.TimerQueue

set_option autoImplicit false

namespace MessageTransport

theorem Deadline.earliest?_le {Value : Type} {m : Std.TreeMap Deadline Value} {key other : Deadline}
    {value : Value} (first : earliest? m = some (key, value)) (there : other ∈ m) :
    key.due ≤ other.due := by
  rcases Deadline.isLE_iff.mp ((earliest?_eq_some_iff.mp first).2 other there) with
    before | ⟨same, -⟩
  · exact Int.le_of_lt before
  · exact Int.le_of_eq same

theorem Deadline.exists_earliest? {Value : Type} {m : Std.TreeMap Deadline Value} {key : Deadline}
    (there : key ∈ m) : ∃ entry, earliest? m = some entry := by
  apply Option.ne_none_iff_exists'.mp
  intro none
  exact Std.TreeMap.isEmpty_iff_forall_not_mem.mp (earliest?_eq_none_iff.mp none) key there

theorem Deadline.earliest?_singleton {Value : Type} (key : Deadline) (value : Value) :
    earliest? ((∅ : Std.TreeMap Deadline Value).insert key value) = some (key, value) := by
  simp [earliest?, Std.TreeMap.minKey?_insert]

/-- The entry that is due first heads the list of all. -/
theorem Deadline.toList_of_earliest? {Value : Type} {m : Std.TreeMap Deadline Value} {key : Deadline}
    {value : Value} (first : earliest? m = some (key, value)) :
    m.toList = (key, value) :: (m.erase key).toList := by
  obtain ⟨there, least⟩ := earliest?_eq_some_iff.mp first
  have inside (entry : Deadline × Value) :
      entry ∈ (m.erase key).toList ↔ key ≠ entry.1 ∧ m[entry.1]? = some entry.2 := by
    rw [Std.TreeMap.mem_toList_iff_getElem?_eq_some, getElem?_erased]
    by_cases same : key = entry.1
    · rw [if_pos same]
      exact iff_of_false (fun none => by cases none) (fun both => both.1 same)
    · rw [if_neg same]
      exact (and_iff_right same).symm
  have sorted : ((key, value) :: (m.erase key).toList).Pairwise
      (fun a b => compare a.1 b.1 = .lt) := by
    refine List.pairwise_cons.mpr ⟨?_, Std.TreeMap.ordered_keys_toList⟩
    intro entry member
    obtain ⟨apart, present⟩ := (inside entry).mp member
    have later := least entry.1 (Std.TreeMap.mem_iff_isSome_getElem?.mpr (by rw [present]; rfl))
    rcases Ordering.isLE_iff_eq_lt_or_eq_eq.mp later with before | same
    · exact before
    · exact absurd (Std.LawfulEqOrd.eq_of_compare same) apart
  have distinct {l : List (Deadline × Value)}
      (sorted : l.Pairwise (fun a b => compare a.1 b.1 = .lt)) : l.Nodup := by
    apply sorted.imp
    rintro a b before rfl
    rw [Std.ReflOrd.compare_self] at before
    cases before
  have ordered : m.toList.Pairwise (fun a b => compare a.1 b.1 = .lt) :=
    Std.TreeMap.ordered_keys_toList
  have same : m.toList.Perm ((key, value) :: (m.erase key).toList) := by
    apply (List.perm_ext_iff_of_nodup (distinct ordered) (distinct sorted)).mpr
    intro entry
    rw [List.mem_cons, inside, Std.TreeMap.mem_toList_iff_getElem?_eq_some]
    constructor
    · intro present
      by_cases here : key = entry.1
      · subst here
        rw [there] at present
        exact .inl (Prod.ext rfl (Option.some.inj present).symm)
      · exact .inr ⟨here, present⟩
    · rintro (rfl | ⟨-, present⟩)
      · exact there
      · exact present
  apply same.eq_of_pairwise _ ordered sorted
  intro a b _ _ before after
  exact absurd after (Std.OrientedCmp.not_lt_of_lt before)

namespace TimerQueue

variable {Handler : Type}

theorem nextDeadline_le {q : TimerQueue Handler} {timer : Deadline} (there : timer ∈ q.timers) :
    ∃ deadline, q.nextDeadline = some deadline ∧ deadline ≤ timer.due := by
  obtain ⟨entry, first⟩ := Deadline.exists_earliest? there
  refine ⟨entry.1.due, ?_, Deadline.earliest?_le first there⟩
  rw [nextDeadline, first]
  rfl

theorem drainExpired_of_early {q : TimerQueue Handler} {now : Instant} {key : Deadline}
    {handler : Handler} (first : Deadline.earliest? q.timers = some (key, handler))
    (early : now < key.due) : q.drainExpired now = ([], q) := by
  have none : (q.nextExpired now).1 = none := by
    simp only [nextExpired, first, early, ↓reduceIte]
  rw [drainExpired]
  split
  · rfl
  · rename_i some
    rw [none] at some
    cases some

/-- Either no timer is due and none is taken out, or the first one is. -/
theorem nextExpired_cases (q : TimerQueue Handler) (now : Instant) :
    q.nextExpired now = (none, q) ∧ (∀ timer ∈ q.timers.toList, now < timer.1.due) ∨
      ∃ timer, timer.1.due ≤ now ∧
        q.nextExpired now = (some timer.2, { q with timers := q.timers.erase timer.1 }) ∧
        q.timers.toList = timer :: (q.timers.erase timer.1).toList := by
  cases found : Deadline.earliest? q.timers with
  | none =>
    have empty := Deadline.earliest?_eq_none_iff.mp found
    rw [← Std.TreeMap.isEmpty_toList, List.isEmpty_iff] at empty
    refine .inl ⟨?_, ?_⟩
    · simp only [nextExpired, found]
    · intro timer member
      rw [empty] at member
      cases member
  | some first =>
    by_cases early : now < first.1.due
    · refine .inl ⟨?_, ?_⟩
      · simp only [nextExpired, found, early, ↓reduceIte]
      · intro timer member
        have present := Std.TreeMap.mem_toList_iff_getElem?_eq_some.mp member
        have there := Std.TreeMap.mem_iff_isSome_getElem?.mpr (by rw [present]; rfl)
        exact Int.lt_of_lt_of_le early (Deadline.earliest?_le found there)
    · refine .inr ⟨first, Int.not_lt.mp early, ?_, Deadline.toList_of_earliest? found⟩
      simp only [nextExpired, found, early, ↓reduceIte]

/-- The timers due at or before an instant, in order. -/
def dueBy (q : TimerQueue Handler) (now : Instant) : List (Deadline × Handler) :=
  q.timers.toList.filter (fun timer => timer.1.due ≤ now)

/-- Draining takes out the timers that are due, in order, and leaves the others. -/
theorem drainExpired_eq (q : TimerQueue Handler) (now : Instant) :
    (q.drainExpired now).1 = (q.dueBy now).map Prod.snd ∧
      (q.drainExpired now).2.timers.toList =
        q.timers.toList.filter (fun timer => now < timer.1.due) := by
  fun_induction drainExpired q now with
  | case1 q none =>
    rcases q.nextExpired_cases now with ⟨-, later⟩ | ⟨timer, -, taken, -⟩
    · have nothing : q.dueBy now = [] := by
        apply List.filter_eq_nil_iff.mpr
        intro timer member due
        exact Int.not_le.mpr (later timer member) (of_decide_eq_true due)
      refine ⟨by rw [nothing]; rfl, (List.filter_eq_self.mpr ?_).symm⟩
      intro timer member
      exact decide_eq_true (later timer member)
    · rw [taken] at none
      cases none
  | case2 q handler some handlers rest drained ih =>
    rcases q.nextExpired_cases now with ⟨none, -⟩ | ⟨timer, due, taken, list⟩
    · rw [none] at some
      cases some
    · rw [drained, taken] at ih
      rw [taken] at some
      obtain rfl := Option.some.inj some
      have late : ¬decide (now < timer.1.due) = true := by
        rw [decide_eq_true_eq]
        exact Int.not_lt.mpr due
      rw [dueBy, list, List.filter_cons, if_pos (decide_eq_true due), List.filter_cons, if_neg late]
      exact ⟨congrArg (timer.2 :: ·) ih.1, ih.2⟩

end TimerQueue

end MessageTransport
