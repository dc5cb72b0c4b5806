import MessageTransport.Deadline

set_option autoImplicit false

namespace MessageTransport

/-- Timers in order of their deadlines, those of one instant in order of arrival. -/
structure TimerQueue (Handler : Type) where
  timers : Std.TreeMap Deadline Handler
  nextSerial : Nat

namespace TimerQueue

variable {Handler : Type}

def empty : TimerQueue Handler := ⟨∅, 0⟩

instance : Inhabited (TimerQueue Handler) := ⟨empty⟩

def size (q : TimerQueue Handler) : Nat := q.timers.size

def insert (q : TimerQueue Handler) (due : Instant) (handler : Handler) : TimerQueue Handler :=
  ⟨q.timers.insert ⟨due, q.nextSerial⟩ handler, q.nextSerial + 1⟩

def nextDeadline (q : TimerQueue Handler) : Option Instant :=
  (Deadline.earliest? q.timers).map (fun entry => entry.1.due)

/-- Takes out the first timer if it is due at or before `now`. -/
def nextExpired (q : TimerQueue Handler) (now : Instant) : Option Handler × TimerQueue Handler :=
  match Deadline.earliest? q.timers with
  | none => (none, q)
  | some (key, handler) =>
    if now < key.due then (none, q) else (some handler, { q with timers := q.timers.erase key })

theorem size_nextExpired_lt (q : TimerQueue Handler) (now : Instant) {handler : Handler}
    (h : (q.nextExpired now).1 = some handler) : (q.nextExpired now).2.size < q.size := by
  cases found : Deadline.earliest? q.timers with
  | none => simp [nextExpired, found] at h
  | some entry =>
    by_cases later : now < entry.1.due
    · simp [nextExpired, found, later] at h
    · have present : entry.1 ∈ q.timers := Std.TreeMap.mem_iff_isSome_getElem?.2 (by
        rw [(Deadline.earliest?_eq_some_iff.1 found).1]
        rfl)
      simpa [nextExpired, found, later, size] using size_erase_lt q.timers present

/-- Takes out every timer due at or before `now`, in order. -/
def drainExpired (q : TimerQueue Handler) (now : Instant) : List Handler × TimerQueue Handler :=
  match _h : (q.nextExpired now).1 with
  | none => ([], q)
  | some handler =>
    let (handlers, rest) := drainExpired (q.nextExpired now).2 now
    (handler :: handlers, rest)
termination_by q.size
decreasing_by exact size_nextExpired_lt q now _h

end TimerQueue

end MessageTransport
