import Mathlib.Algebra.BigOperators.Fin
import MessageTransport.Proofs.Checksum

set_option autoImplicit false

namespace MessageTransport.Checksum

/-- The sum of two words, if it is one. -/
def plus? (a b : UInt32) : Option UInt32 :=
  if a.toNat + b.toNat < 2 ^ 32 then some (a + b) else none

theorem plus?_of_lt {a b : UInt32} (fits : a.toNat + b.toNat < 2 ^ 32) :
    plus? a b = some (a + b) := if_pos fits

/-- A sum that wraps around is below both its terms. -/
theorem plus?_of_toNat_add {a b : UInt32} (exact : (a + b).toNat = a.toNat + b.toNat) :
    plus? a b = some (a + b) := plus?_of_lt (exact ▸ (a + b).toNat_lt)

namespace Sums

def add? (s : Sums) (word : UInt32) : Option Sums := do
  let low ← plus? s.low word
  let high ← plus? s.high low
  return ⟨low, high⟩

def foldWord? (sum : UInt32) : Option UInt32 := plus? (sum &&& 0xffff) (sum >>> 16)

def fold? (s : Sums) : Option Sums := do
  let low ← foldWord? s.low
  let high ← foldWord? s.high
  return ⟨low, high⟩

def close? (s : Sums) (pending : Nat) : Option Sums := if pending = 0 then some s else s.fold?

theorem Within.add? {s : Sums} {pending : Nat} (within : s.Within pending)
    (few : pending < blockWords) {w : UInt32} (narrow : w.toNat ≤ 65535) :
    s.add? w = some (s.add w) := by
  obtain ⟨low, high, -⟩ := within.add few narrow
  have low : (s.low + w).toNat = s.low.toNat + w.toNat := low
  have high : (s.high + (s.low + w)).toNat = s.high.toNat + (s.low.toNat + w.toNat) := high
  rw [← low] at high
  rw [Sums.add?, plus?_of_toNat_add low, Option.bind_eq_bind, Option.bind_some,
    plus?_of_toNat_add high]
  rfl

/-- Folding never overflows, whatever is folded. -/
theorem foldWord?_eq (sum : UInt32) : foldWord? sum = some (foldWord sum) := by
  obtain ⟨low, high⟩ := halves_toNat sum
  have narrow := sum.toNat_lt
  refine plus?_of_lt ?_
  rw [low, high]
  omega

theorem fold?_eq (s : Sums) : s.fold? = some s.fold := by
  rw [fold?, foldWord?_eq, foldWord?_eq]
  rfl

theorem close?_eq (s : Sums) (pending : Nat) : s.close? pending = some (s.close pending) := by
  rw [close?, close, fold?_eq]
  split <;> rfl

end Sums

/-- Adds the words of a byte string, unless an addition overflows. -/
def absorb? : Bytes → Nat → Sums → Option Sums
  | [], pending, s => s.close? pending
  | [last], pending, s => do
    let closed ← s.close? pending
    let added ← closed.add? (word last 0)
    added.fold?
  | high :: low :: rest, pending, s => do
    let added ← s.add? (word high low)
    if pending + 1 = blockWords then
      let folded ← added.fold?
      absorb? rest 0 folded
    else
      absorb? rest (pending + 1) added

theorem absorb?_eq (bs : Bytes) {pending : Nat} {s : Sums} (within : s.Within pending)
    (few : pending < blockWords) : absorb? bs pending s = some (absorb bs pending s) := by
  fun_induction absorb bs pending s with
  | case1 pending s => exact s.close?_eq pending
  | case2 last pending s =>
    have closed := within.close (Nat.le_of_lt few)
    have added := closed.add? (by decide) (word_toNat_le last 0)
    simp only [absorb?, Option.bind_eq_bind, Sums.close?_eq, added, Sums.fold?_eq, Option.bind_some]
  | case3 h l rest pending s full ih =>
    obtain ⟨-, -, next⟩ := within.add few (word_toNat_le h l)
    have added := within.add? few (word_toNat_le h l)
    have others := ih (next.fold (Nat.le_of_eq full)) (by decide)
    simp only [absorb?, Option.bind_eq_bind, added, full, Sums.fold?_eq, others, Option.bind_some,
      ↓reduceIte]
  | case4 h l rest pending s more ih =>
    obtain ⟨-, -, next⟩ := within.add few (word_toNat_le h l)
    have added := within.add? few (word_toNat_le h l)
    have others := ih next (Nat.lt_of_le_of_ne few more)
    simp only [absorb?, Option.bind_eq_bind, added, more, others, Option.bind_some, ↓reduceIte]

/-- The weighted sum as one over positions: the word at `i` counts once for itself and once for each
word behind it. -/
theorem weighted_eq_sum (ws : List Nat) :
    weighted ws = ∑ i : Fin ws.length, (ws.length - i) * ws[i] := by
  induction ws with
  | nil => rfl
  | cons word rest ih =>
    have split := Fin.sum_univ_succ fun i : Fin (rest.length + 1) =>
      (rest.length + 1 - i) * (word :: rest)[i]
    simp only [Fin.val_zero, Nat.sub_zero, Fin.val_succ, Nat.add_sub_add_right] at split
    rw [weighted, ih]
    exact split.symm

end MessageTransport.Checksum

namespace MessageTransport

open Checksum

/-- The checksum, unless an addition on the way to it overflows. -/
def fletcher32? (bs : Bytes) : Option UInt32 := do
  let sums ← absorb? bs 0 Sums.start
  let folded ← sums.fold?
  return folded.pack

theorem fletcher32?_eq (bs : Bytes) : fletcher32? bs = some (fletcher32 bs) := by
  rw [fletcher32?, absorb?_eq bs Sums.start_within (by decide), Option.bind_eq_bind,
    Option.bind_some, Sums.fold?_eq]
  rfl

/-- Whatever the bytes are, no addition of two 32-bit words overflows on the way to their checksum.
Its low half is the sum of their big-endian words and its high half the sum of the words each times
the number of words from it to the last, both modulo 65535 and with 65535 for zero. -/
theorem fletcher32_exact (bs : Bytes) :
    fletcher32? bs = some (fletcher32 bs) ∧
      fletcher32 bs =
        UInt32.ofNat (residue (∑ i : Fin (words bs).length, ((words bs).length - i) * (words bs)[i]))
            <<< 16 |||
          UInt32.ofNat (residue (words bs).sum) := by
  refine ⟨fletcher32?_eq bs, ?_⟩
  have narrow (n : Nat) : (UInt32.ofNat (residue n)).toNat = residue n :=
    UInt32.toNat_ofNat_of_lt' (Nat.lt_of_le_of_lt (residue_le n) (by decide))
  have half (n : Nat) : (UInt32.ofNat (residue n)).toNat < 65536 := by
    rw [narrow]
    exact Nat.lt_succ_of_le (residue_le n)
  have packed := @pack_toNat ⟨UInt32.ofNat (residue (words bs).sum),
    UInt32.ofNat (residue (weighted (words bs)))⟩ (half _) (half _)
  simp only [narrow] at packed
  rw [← weighted_eq_sum]
  apply UInt32.toNat_inj.mp
  rw [fletcher32_toNat]
  exact packed.symm

end MessageTransport
