import MessageTransport.Bytes

set_option autoImplicit false

namespace MessageTransport.Checksum

/-- The plain sum of the words so far, and the sum of those sums. -/
structure Sums where
  low : UInt32
  high : UInt32
deriving DecidableEq, Repr

namespace Sums

def start : Sums := ⟨0xffff, 0xffff⟩

def add (s : Sums) (word : UInt32) : Sums :=
  ⟨s.low + word, s.high + (s.low + word)⟩

/-- Adds what lies above the sixteenth bit back in at the bottom. -/
def foldWord (sum : UInt32) : UInt32 :=
  let low : UInt32 := sum &&& 0xffff
  low + sum >>> 16

def fold (s : Sums) : Sums := ⟨foldWord s.low, foldWord s.high⟩

/-- A block that ends with some words unfolded is folded like a full one. -/
def close (s : Sums) (pending : Nat) : Sums := if pending = 0 then s else s.fold

def pack (s : Sums) : UInt32 := (s.high <<< 16) ||| s.low

end Sums

/-- The word made of a high and a low byte. -/
def word (high low : UInt8) : UInt32 := (high.toUInt32 <<< 8) ||| low.toUInt32

/-- Words summed between two folds. -/
def blockWords : Nat := 360

/-- Adds the words of a byte string, `pending` of them being still unfolded in `s`. A trailing odd
byte is the high half of a last word, and a block of its own. -/
def absorb : Bytes → Nat → Sums → Sums
  | [], pending, s => s.close pending
  | [last], pending, s => ((s.close pending).add (word last 0)).fold
  | high :: low :: rest, pending, s =>
    if pending + 1 = blockWords then
      absorb rest 0 (s.add (word high low)).fold
    else
      absorb rest (pending + 1) (s.add (word high low))

end MessageTransport.Checksum

namespace MessageTransport

open Checksum in
/-- Fletcher's 32-bit checksum over big-endian words, folded as seldom as 32-bit sums allow. The
second fold of a block brings both its sums to 16 bits. -/
def fletcher32 (bs : Bytes) : UInt32 :=
  (absorb bs 0 Sums.start).fold.pack

end MessageTransport
