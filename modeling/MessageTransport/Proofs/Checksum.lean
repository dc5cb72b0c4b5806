import Mathlib.Data.Nat.ModEq
import Mathlib.Tactic.Ring
import MessageTransport.Checksum

set_option autoImplicit false

namespace MessageTransport.Checksum

/-- The big-endian words of a byte string; a trailing odd byte is the high half of a last one. -/
def words : Bytes → List Nat
  | [] => []
  | [last] => [256 * last.toNat]
  | high :: low :: rest => (256 * high.toNat + low.toNat) :: words rest

/-- Each word times the number of words from it to the last. -/
def weighted : List Nat → Nat
  | [] => 0
  | word :: rest => (rest.length + 1) * word + weighted rest

/-- A number modulo 65535, with 65535 in place of zero. -/
def residue (n : Nat) : Nat := if n % 65535 = 0 then 65535 else n % 65535

theorem residue_congr {a b : Nat} (same : a ≡ b [MOD 65535]) : residue a = residue b := by
  have same : a % 65535 = b % 65535 := same
  rw [residue, residue, same]

theorem residue_modEq (n : Nat) : residue n ≡ n [MOD 65535] := by
  show residue n % 65535 = n % 65535
  unfold residue
  split <;> omega

theorem residue_le (n : Nat) : residue n ≤ 65535 := by
  unfold residue
  split <;> omega

/-- How often the words of a block are counted in the sum of their sums. -/
def triangle : Nat → Nat
  | 0 => 0
  | n + 1 => triangle n + (n + 1)

theorem triangle_le {m n : Nat} (le : m ≤ n) : triangle m ≤ triangle n := by
  induction le with
  | refl => exact Nat.le_refl _
  | step _ ih => exact Nat.le_add_right_of_le ih

theorem toNat_shiftLeft_or {high low : UInt32} {shift : UInt32} (narrow : shift.toNat < 32)
    (fits : high.toNat * 2 ^ shift.toNat < 2 ^ 32) (below : low.toNat < 2 ^ shift.toNat) :
    (high <<< shift ||| low).toNat = high.toNat * 2 ^ shift.toNat + low.toNat := by
  rw [UInt32.toNat_or, UInt32.toNat_shiftLeft, Nat.mod_eq_of_lt narrow, Nat.shiftLeft_eq,
    Nat.mod_eq_of_lt fits, Nat.mul_comm, ← Nat.two_pow_add_eq_or_of_lt below]

theorem word_toNat (high low : UInt8) :
    (word high low).toNat = 256 * high.toNat + low.toNat := by
  have hh := high.toNat_lt
  have hl := low.toNat_lt
  have shift : (8 : UInt32).toNat = 8 := rfl
  have value := @toNat_shiftLeft_or high.toUInt32 low.toUInt32 8 (by decide)
  simp only [shift, UInt8.toNat_toUInt32, Nat.reducePow] at value
  rw [word, value (by omega) hl, Nat.mul_comm]

theorem word_toNat_le (high low : UInt8) : (word high low).toNat ≤ 65535 := by
  have hh := high.toNat_lt
  have hl := low.toNat_lt
  rw [word_toNat]
  omega

theorem halves_toNat (sum : UInt32) :
    (sum &&& 0xffff).toNat = sum.toNat % 65536 ∧ (sum >>> 16).toNat = sum.toNat / 65536 :=
  ⟨Nat.and_two_pow_sub_one_eq_mod sum.toNat 16, Nat.shiftRight_eq_div_pow sum.toNat 16⟩

theorem foldWord_toNat (sum : UInt32) :
    (Sums.foldWord sum).toNat = sum.toNat % 65536 + sum.toNat / 65536 := by
  have narrow := sum.toNat_lt
  obtain ⟨low, high⟩ := halves_toNat sum
  rw [Sums.foldWord, UInt32.toNat_add, low, high]
  omega

/-- A fold takes a multiple of 65535 away. -/
theorem foldWord_modEq (sum : UInt32) : (Sums.foldWord sum).toNat ≡ sum.toNat [MOD 65535] := by
  show (Sums.foldWord sum).toNat % 65535 = sum.toNat % 65535
  rw [foldWord_toNat]
  omega

/-- What a fold leaves is brought by another one to the number that stands for it. -/
theorem foldWord_eq_residue {sum : UInt32} (positive : 0 < sum.toNat) (small : sum.toNat ≤ 131070) :
    (Sums.foldWord sum).toNat = residue sum.toNat := by
  rw [foldWord_toNat, residue]
  split <;> omega

namespace Sums

/-- What the sums can come to with some words of a block still unfolded. -/
structure Within (s : Sums) (pending : Nat) : Prop where
  lowPositive : 0 < s.low.toNat
  highPositive : 0 < s.high.toNat
  low : s.low.toNat ≤ 66000 + 65535 * pending
  high : s.high.toNat ≤ 131070 + 66000 * pending + 65535 * triangle pending

theorem start_within : start.Within 0 := by
  constructor <;> decide

theorem triangle_blockWords : triangle blockWords = 64980 := by decide +kernel

/-- A word is added to both sums without a carry. -/
theorem Within.add {s : Sums} {pending : Nat} (within : s.Within pending)
    (few : pending < blockWords) {w : UInt32} (narrow : w.toNat ≤ 65535) :
    (s.add w).low.toNat = s.low.toNat + w.toNat ∧
      (s.add w).high.toNat = s.high.toNat + (s.low.toNat + w.toNat) ∧
      (s.add w).Within (pending + 1) := by
  obtain ⟨lowPositive, highPositive, low, high⟩ := within
  have block : triangle (pending + 1) ≤ triangle blockWords := triangle_le few
  rw [triangle_blockWords, triangle] at block
  have few : pending < 360 := few
  have lowSum : (s.add w).low.toNat = s.low.toNat + w.toNat := by
    rw [Sums.add, UInt32.toNat_add]
    omega
  have highSum : (s.add w).high.toNat = s.high.toNat + (s.low.toNat + w.toNat) := by
    rw [Sums.add, UInt32.toNat_add, UInt32.toNat_add]
    omega
  refine ⟨lowSum, highSum, ?_, ?_, ?_, ?_⟩
  · omega
  · omega
  · omega
  · rw [triangle]
    omega

theorem Within.fold {s : Sums} {pending : Nat} (within : s.Within pending)
    (few : pending ≤ blockWords) : s.fold.Within 0 := by
  obtain ⟨lowPositive, highPositive, low, -⟩ := within
  have few : pending ≤ 360 := few
  have narrow := s.high.toNat_lt
  constructor <;> simp only [Sums.fold, foldWord_toNat, triangle] <;> omega

theorem Within.close {s : Sums} {pending : Nat} (within : s.Within pending)
    (few : pending ≤ blockWords) : (s.close pending).Within 0 := by
  rw [Sums.close]
  split
  · rename_i none
    rwa [none] at within
  · exact within.fold few

theorem close_modEq (s : Sums) (pending : Nat) :
    (s.close pending).low.toNat ≡ s.low.toNat [MOD 65535] ∧
      (s.close pending).high.toNat ≡ s.high.toNat [MOD 65535] := by
  rw [Sums.close]
  split
  · exact ⟨Nat.ModEq.refl _, Nat.ModEq.refl _⟩
  · exact ⟨foldWord_modEq s.low, foldWord_modEq s.high⟩

end Sums

/-- Some words have been added to the sums, up to what folding takes away. -/
structure Absorbed (s : Sums) (ws : List Nat) (r : Sums) : Prop where
  within : r.Within 0
  low : r.low.toNat ≡ s.low.toNat + ws.sum [MOD 65535]
  high : r.high.toNat ≡ s.high.toNat + ws.length * s.low.toNat + weighted ws [MOD 65535]

theorem Absorbed.nil {s r : Sums} (within : r.Within 0)
    (same : r.low.toNat ≡ s.low.toNat [MOD 65535] ∧ r.high.toNat ≡ s.high.toNat [MOD 65535]) :
    Absorbed s [] r := by
  refine ⟨within, same.1, ?_⟩
  rw [List.length_nil, weighted, Nat.zero_mul]
  exact same.2

/-- One word, and then the others from sums that stand for the same numbers. -/
theorem Absorbed.cons {s next r : Sums} {w : Nat} {ws : List Nat} (rest : Absorbed next ws r)
    (low : next.low.toNat ≡ s.low.toNat + w [MOD 65535])
    (high : next.high.toNat ≡ s.high.toNat + (s.low.toNat + w) [MOD 65535]) :
    Absorbed s (w :: ws) r := by
  refine ⟨rest.within, ?_, ?_⟩
  · calc r.low.toNat
        ≡ next.low.toNat + ws.sum [MOD 65535] := rest.low
      _ ≡ s.low.toNat + w + ws.sum [MOD 65535] := low.add_right _
      _ = s.low.toNat + (w :: ws).sum := by rw [List.sum_cons, Nat.add_assoc]
  · calc r.high.toNat
        ≡ next.high.toNat + ws.length * next.low.toNat + weighted ws [MOD 65535] := rest.high
      _ ≡ s.high.toNat + (s.low.toNat + w) + ws.length * (s.low.toNat + w) + weighted ws
          [MOD 65535] := (high.add (low.mul_left _)).add_right _
      _ = s.high.toNat + (w :: ws).length * s.low.toNat + weighted (w :: ws) := by
        rw [List.length_cons, weighted]
        ring

theorem absorb_absorbed (bs : Bytes) {pending : Nat} {s : Sums} (within : s.Within pending)
    (few : pending < blockWords) : Absorbed s (words bs) (absorb bs pending s) := by
  fun_induction absorb bs pending s with
  | case1 pending s => exact .nil (within.close (Nat.le_of_lt few)) (s.close_modEq pending)
  | case2 last pending s =>
    -- The odd byte is a word on top of sums that are folded already.
    have closed := within.close (Nat.le_of_lt few)
    obtain ⟨closedLow, closedHigh⟩ := s.close_modEq pending
    obtain ⟨low, high, next⟩ := closed.add (by decide) (word_toNat_le last 0)
    have value : (word last 0).toNat = 256 * last.toNat := word_toNat last 0
    rw [value] at low high
    refine .cons (.nil (next.fold (by decide)) ⟨.refl _, .refl _⟩) ?_ ?_
    · refine (foldWord_modEq _).trans ?_
      rw [low]
      exact closedLow.add_right _
    · refine (foldWord_modEq _).trans ?_
      rw [high]
      exact closedHigh.add (closedLow.add_right _)
  | case3 h l rest pending s full ih =>
    obtain ⟨low, high, next⟩ := within.add few (word_toNat_le h l)
    rw [word_toNat] at low high
    refine .cons (ih (next.fold (Nat.le_of_eq full)) (by decide)) ?_ ?_
    · exact low ▸ foldWord_modEq _
    · exact high ▸ foldWord_modEq _
  | case4 h l rest pending s more ih =>
    obtain ⟨low, high, next⟩ := within.add few (word_toNat_le h l)
    rw [word_toNat] at low high
    have few : pending + 1 < blockWords := Nat.lt_of_le_of_ne few more
    exact .cons (ih next few) (low ▸ .refl _) (high ▸ .refl _)

theorem pack_toNat {s : Sums} (low : s.low.toNat < 65536) (high : s.high.toNat < 65536) :
    s.pack.toNat = 65536 * s.high.toNat + s.low.toNat := by
  have shift : (16 : UInt32).toNat = 16 := rfl
  have value := @toNat_shiftLeft_or s.high s.low 16 (by decide)
  simp only [shift, Nat.reducePow] at value
  rw [Sums.pack, value (by omega) low, Nat.mul_comm]

end MessageTransport.Checksum

namespace MessageTransport

open Checksum in
/-- The checksum is made of the sum of the words and the sum of their sums. -/
theorem fletcher32_toNat (bs : Bytes) : (fletcher32 bs).toNat =
    65536 * residue (weighted (words bs)) + residue (words bs).sum := by
  obtain ⟨within, low, high⟩ := absorb_absorbed bs Sums.start_within (by decide)
  have lowStart : Sums.start.low.toNat = 65535 := rfl
  have highStart : Sums.start.high.toNat = 65535 := rfl
  have lowResidue := foldWord_eq_residue within.lowPositive (Nat.le_trans within.low (by decide))
  have highResidue := foldWord_eq_residue within.highPositive within.high
  have lowSame : residue (absorb bs 0 Sums.start).low.toNat = residue (words bs).sum := by
    refine residue_congr (low.trans ?_)
    show (Sums.start.low.toNat + (words bs).sum) % 65535 = _
    rw [lowStart, Nat.add_mod_left]
  have highSame : residue (absorb bs 0 Sums.start).high.toNat = residue (weighted (words bs)) := by
    refine residue_congr (high.trans ?_)
    show (Sums.start.high.toNat + _ * Sums.start.low.toNat + _) % 65535 = _
    rw [lowStart, highStart, Nat.add_assoc, Nat.add_mod_left, Nat.mul_add_mod_self_right]
  have lowLe := residue_le (words bs).sum
  have highLe := residue_le (weighted (words bs))
  rw [fletcher32, pack_toNat]
  · show 65536 * (Sums.foldWord _).toNat + (Sums.foldWord _).toNat = _
    rw [lowResidue, highResidue, lowSame, highSame]
  · show (Sums.foldWord _).toNat < 65536
    omega
  · show (Sums.foldWord _).toNat < 65536
    omega

end MessageTransport
