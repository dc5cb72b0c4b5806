set_option autoImplicit false

namespace MessageTransport.Room

/-- The most bytes that one block has. -/
def largestBlock : Nat := 9223372036854775807

/-- Whether one block can hold some entries of a size. A request for more fails at once, however
much memory there is. -/
def fits (entryBytes count : Nat) : Bool := entryBytes * count ≤ largestBlock

/-- The slots of a table that takes some entries while it is at most seven eighths full. -/
def slots (count : Nat) : Nat := (count * 8 / 7).nextPowerOfTwo

/-- Whether one block can hold a table for some entries. A slot takes one byte more than its entry
does. -/
def tableFits (entryBytes count : Nat) : Bool := fits (entryBytes + 1) (slots count)

theorem fits_iff {entryBytes count : Nat} :
    fits entryBytes count = true ↔ entryBytes * count ≤ largestBlock := by
  simp [fits]

end MessageTransport.Room
