import Std.Data.TreeMap

set_option autoImplicit false

namespace MessageTransport

/-- Whole milliseconds from a fixed origin. There is no end to them here, though `latest` is the last
one that a clock can give. -/
abbrev Instant := Int

namespace Instant

/-- The last instant that a clock can give. -/
def latest : Instant := 9223372036854775807 * 1000 + 999

/-- The instant some milliseconds later, unless it would come after the last one. An addition that
leads there panics. So do those that give the expiry of a request, the time of a timer, the next
wake-up of a loop and the end of a wait; but these are made before anything has been changed, the id
of a request or the turn of a reactor having been used up at most, so that whoever makes them goes
no further. They are taken to give an instant in any case, and only an addition behind a change is
made by this function. -/
def later? (now : Instant) (ms : Nat) : Option Instant :=
  if now + (ms : Int) ≤ latest then some (now + (ms : Int)) else none

/-- What comes too late from some instant on comes too late from any later one. -/
theorem isNone_later?_of_le {now other : Instant} {ms : Nat} (order : now ≤ other)
    (none : (later? now ms).isNone = true) : (later? other ms).isNone = true := by
  unfold later? at none ⊢
  split at none
  · cases none
  · rename_i late
    rw [if_neg (fun fits => late (Int.le_trans (Int.add_le_add_right order ms) fits))]
    rfl

end Instant

/-- Taking out a key that is present makes a map smaller. -/
theorem size_erase_lt {Key Value : Type} [Ord Key] [Std.TransOrd Key]
    (m : Std.TreeMap Key Value) {key : Key} (present : key ∈ m) : (m.erase key).size < m.size := by
  have positive : m.size ≠ 0 := by
    intro zero
    have none : m.isEmpty = true := by
      rw [Std.TreeMap.isEmpty_eq_size_eq_zero, zero]
      rfl
    exact Std.TreeMap.isEmpty_iff_forall_not_mem.1 none key present
  have smaller := Std.TreeMap.size_erase (t := m) (k := key)
  have inside : m.contains key = true := present
  rw [if_pos inside] at smaller
  omega

/-- An instant at which something is due. Equal ones are told apart, and kept in order of arrival,
by a serial number. -/
structure Deadline where
  due : Instant
  serial : Nat
deriving DecidableEq, Repr

namespace Deadline

/-- Earlier instants first, and of equal ones the earlier arrival. -/
def order : Deadline → Deadline → Ordering :=
  compareLex (compareOn Deadline.due) (compareOn Deadline.serial)

instance : Ord Deadline := ⟨order⟩

instance : Std.TransOrd Deadline := inferInstanceAs (Std.TransCmp
  (compareLex (compareOn Deadline.due) (compareOn Deadline.serial)))

instance : Std.LawfulEqOrd Deadline where
  compare_self := Std.ReflOrd.compare_self
  eq_of_compare {a b} h := by
    have parts : compare a.due b.due = .eq ∧ compare a.serial b.serial = .eq :=
      compareLex_eq_eq.1 h
    obtain ⟨dueA, serialA⟩ := a
    obtain ⟨dueB, serialB⟩ := b
    have hd : dueA = dueB := Std.LawfulEqOrd.eq_of_compare parts.1
    have hs : serialA = serialB := Std.LawfulEqOrd.eq_of_compare parts.2
    rw [hd, hs]

/-- The entry that is due first. -/
def earliest? {Value : Type} (m : Std.TreeMap Deadline Value) : Option (Deadline × Value) :=
  m.minKey?.bind (fun key => (m[key]?).map (fun v => (key, v)))

theorem earliest?_eq_some_iff {Value : Type} {m : Std.TreeMap Deadline Value} {key : Deadline}
    {v : Value} : earliest? m = some (key, v) ↔
      m[key]? = some v ∧ ∀ other ∈ m, (compare key other).isLE := by
  constructor
  · intro h
    obtain ⟨least, hleast, hv⟩ := Option.bind_eq_some_iff.1 h
    obtain ⟨w, hw, pair⟩ := Option.map_eq_some_iff.1 hv
    obtain ⟨rfl, rfl⟩ := Prod.mk.inj pair
    exact ⟨hw, (Std.TreeMap.minKey?_eq_some_iff_mem_and_forall.1 hleast).2⟩
  · rintro ⟨hv, hle⟩
    have present : key ∈ m := Std.TreeMap.mem_iff_isSome_getElem?.2 (by simp [hv])
    have least := Std.TreeMap.minKey?_eq_some_iff_mem_and_forall.2 ⟨present, hle⟩
    simp [earliest?, least, hv]

theorem earliest?_eq_none_iff {Value : Type} {m : Std.TreeMap Deadline Value} :
    earliest? m = none ↔ m.isEmpty := by
  rw [← Std.TreeMap.minKey?_eq_none_iff]
  constructor
  · intro h
    cases least : m.minKey? with
    | none => rfl
    | some key =>
      have present := (Std.TreeMap.minKey?_eq_some_iff_mem_and_forall.1 least).1
      obtain ⟨v, hv⟩ := Option.isSome_iff_exists.1 (Std.TreeMap.mem_iff_isSome_getElem?.1 present)
      simp [earliest?, least, hv] at h
  · intro h
    simp [earliest?, h]

end Deadline

end MessageTransport
