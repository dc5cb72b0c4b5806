import Std.Data.TreeMap
import MessageTransport.ErrorCode

set_option autoImplicit false

namespace MessageTransport

structure Job (Work : Type) where
  /-- The group in which the work is ordered; zero is no group. -/
  group : UInt64
  work : Work
deriving DecidableEq, Repr

/-- What a group has in the queue and at the workers. -/
structure GroupUsage where
  running : Bool := false
  outstanding : Nat := 0
deriving DecidableEq, Repr

/-- Work for several workers. Work of one group other than zero runs one at a time in the order it
was added; everything else runs as workers come free. Urgent work is looked at before all normal
work, under the same rule. -/
structure WorkQueue (Work : Type) where
  urgent : List (Job Work) := []
  normal : List (Job Work) := []
  groups : Std.TreeMap UInt64 GroupUsage := ∅
  closed : Bool := false

namespace WorkQueue

variable {Work : Type}

def empty : WorkQueue Work := {}

instance : Inhabited (WorkQueue Work) := ⟨empty⟩

/-- Work that has not been started. -/
def size (q : WorkQueue Work) : Nat := q.urgent.length + q.normal.length

def isEmpty (q : WorkQueue Work) : Bool := q.size == 0

def isBusy (q : WorkQueue Work) (group : UInt64) : Bool :=
  (q.groups[group]?).any (fun usage => usage.running)

/-- Whether a job may be started now. -/
def isEligible (q : WorkQueue Work) (job : Job Work) : Bool :=
  job.group == 0 || !q.isBusy job.group

/-- Queues a job, and says whether it could be started at once. A closed queue takes none. -/
def add (q : WorkQueue Work) (urgent : Bool) (job : Job Work) :
    Except ErrorCode (Bool × WorkQueue Work) :=
  if q.closed then .error .shutdown
  else
    let usage := q.groups.getD job.group {}
    let counted := if job.group = 0 then q.groups
      else q.groups.insert job.group { usage with outstanding := usage.outstanding + 1 }
    let next := if urgent then { q with urgent := q.urgent ++ [job], groups := counted }
      else { q with normal := q.normal ++ [job], groups := counted }
    .ok (q.isEligible job, next)

/-- Takes the first element with a property out of a list. -/
def extractFirst {α : Type} (p : α → Bool) : List α → Option (α × List α)
  | [] => none
  | a :: rest =>
    if p a then some (a, rest) else (extractFirst p rest).map (fun r => (r.1, a :: r.2))

/-- Marks the group of a job as running. -/
def started (q : WorkQueue Work) (job : Job Work) : WorkQueue Work :=
  if job.group = 0 then q
  else
    let usage := q.groups.getD job.group {}
    { q with groups := q.groups.insert job.group { usage with running := true } }

/-- Starts the first job that may be started, urgent ones first. -/
def takeNext (q : WorkQueue Work) : Option (Job Work × WorkQueue Work) :=
  match extractFirst q.isEligible q.urgent with
  | some (job, rest) => some (job, ({ q with urgent := rest }).started job)
  | none =>
    match extractFirst q.isEligible q.normal with
    | some (job, rest) => some (job, ({ q with normal := rest }).started job)
    | none => none

/-- Ends a job of a group, and says whether the group has more work waiting. -/
def complete (q : WorkQueue Work) (group : UInt64) : Bool × WorkQueue Work :=
  if group = 0 then (false, q)
  else
    match q.groups[group]? with
    | none => (false, q)
    | some usage =>
      if usage.outstanding ≤ 1 then (false, { q with groups := q.groups.erase group })
      else
        (true, { q with groups := q.groups.insert group ⟨false, usage.outstanding - 1⟩ })

def close (q : WorkQueue Work) : WorkQueue Work := { q with closed := true }

/-- Whether workers have nothing left to wait for. -/
def isFinished (q : WorkQueue Work) : Bool := q.closed && q.urgent.isEmpty && q.normal.isEmpty

theorem extractFirst_eq_none_iff {α : Type} {p : α → Bool} {xs : List α} :
    extractFirst p xs = none ↔ ∀ a ∈ xs, p a = false := by
  induction xs with
  | nil => simp [extractFirst]
  | cons a rest ih => by_cases h : p a <;> simp [extractFirst, h, ih]

theorem extractFirst_eq_some {α : Type} {p : α → Bool} {xs rest : List α} {a : α}
    (h : extractFirst p xs = some (a, rest)) :
    ∃ before after, xs = before ++ a :: after ∧ rest = before ++ after ∧
      p a = true ∧ ∀ b ∈ before, p b = false := by
  induction xs generalizing rest with
  | nil => simp [extractFirst] at h
  | cons x xs ih =>
    by_cases hx : p x
    · simp only [extractFirst, hx, ↓reduceIte, Option.some.injEq, Prod.mk.injEq] at h
      obtain ⟨rfl, rfl⟩ := h
      exact ⟨[], xs, rfl, rfl, hx, by simp⟩
    · simp only [extractFirst, hx, Bool.false_eq_true, ↓reduceIte, Option.map_eq_some_iff] at h
      obtain ⟨⟨b, more⟩, found, pair⟩ := h
      obtain ⟨rfl, rfl⟩ := Prod.mk.inj pair
      obtain ⟨before, after, hxs, hrest, ha, hbefore⟩ := ih found
      refine ⟨x :: before, after, by simp [hxs], by simp [hrest], ha, ?_⟩
      intro c hc
      rcases List.mem_cons.1 hc with rfl | hc
      · simpa using hx
      · exact hbefore c hc

end WorkQueue

end MessageTransport
