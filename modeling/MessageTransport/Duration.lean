set_option autoImplicit false

namespace MessageTransport

/-- A length of time in whole seconds and nanoseconds below one second. -/
structure Duration where
  seconds : UInt64
  nanos : UInt32
  nanos_lt : nanos < 1000000000 := by decide
deriving DecidableEq, Repr

namespace Duration

def ofMillis (ms : Nat) : Duration where
  seconds := UInt64.ofNat (ms / 1000)
  nanos := UInt32.ofNat (ms % 1000 * 1000000)
  nanos_lt := by
    have small : ms % 1000 < 1000 := Nat.mod_lt _ (by decide)
    have fits : ms % 1000 * 1000000 < UInt32.size := by unfold UInt32.size; omega
    rw [UInt32.lt_iff_toNat_lt, UInt32.toNat_ofNat_of_lt' fits]
    show ms % 1000 * 1000000 < 1000000000
    omega

/-- Whole seconds among the nanoseconds carry over; too many seconds are refused. -/
def ofParts? (seconds : UInt64) (nanos : UInt32) : Option Duration :=
  if h : nanos < 1000000000 then some ⟨seconds, nanos, h⟩
  else
    let total := seconds.toNat + nanos.toNat / 1000000000
    if total < UInt64.size then
      some ⟨UInt64.ofNat total, nanos % 1000000000, by
        rw [UInt32.lt_iff_toNat_lt, UInt32.toNat_mod]
        exact Nat.mod_lt _ (by decide)⟩
    else none

/-- Milliseconds, rounded down. -/
def toMillis (d : Duration) : Nat := d.seconds.toNat * 1000 + d.nanos.toNat / 1000000

end Duration

end MessageTransport
