import Mathlib.RingTheory.Coprime.Lemmas
import MessageTransport.Proofs.Checksum

set_option autoImplicit false

namespace MessageTransport

/-- The bytes with one bit inverted; those of a byte are counted from the least significant one. -/
def flipBit (bs : Bytes) (position : Nat) : Bytes :=
  bs.modify (position / 8) (· ^^^ 1 <<< UInt8.ofNat (position % 8))

def flipBits (bs : Bytes) (positions : List Nat) : Bytes := positions.foldl flipBit bs

@[simp] theorem length_flipBit (bs : Bytes) (position : Nat) :
    (flipBit bs position).length = bs.length := List.length_modify _ _ _

@[simp] theorem length_flipBits (bs : Bytes) (positions : List Nat) :
    (flipBits bs positions).length = bs.length := by
  induction positions generalizing bs with
  | nil => rfl
  | cons position positions ih => exact (ih _).trans (length_flipBit bs position)

/-- The way in which a bit goes when it is inverted. -/
def turn (bs : Bytes) (position : Nat) : Int :=
  if (bs.getD (position / 8) 0).toNat.testBit (position % 8) then -1 else 1

theorem turn_mem (bs : Bytes) (position : Nat) : turn bs position ∈ [1, -1] := by
  unfold turn
  split <;> decide

/-- Bits at different positions of a word are different powers of two, also modulo 65535. -/
theorem bit_eq_of_dvd : ∀ e < 16, ∀ f < 16, ∀ s ∈ [1, -1], ∀ t ∈ [1, -1],
    (65535 : Int) ∣ s * 2 ^ e + t * 2 ^ f → e = f := by
  decide +kernel

/-- A power of two can be divided by modulo 65535. -/
theorem dvd_of_dvd_mul_turn (bs : Bytes) (p e : Nat) {x : Int}
    (h : 65535 ∣ x * (turn bs p * 2 ^ e)) : 65535 ∣ x := by
  have odd : IsCoprime (65535 : Int) 2 := ⟨1, -32767, by decide⟩
  have unit : IsCoprime (65535 : Int) (turn bs p) := by
    have either := turn_mem bs p
    simp only [List.mem_cons, List.not_mem_nil, or_false] at either
    obtain up | down := either
    · rw [up]
      exact isCoprime_one_right
    · rw [down]
      exact isCoprime_one_right.neg_right
  exact (unit.mul_right odd.pow_right).dvd_of_dvd_mul_right h

theorem toNat_flip (b : UInt8) {i : Nat} (small : i < 8) :
    ((b ^^^ 1 <<< UInt8.ofNat i).toNat : Int) - b.toNat =
      (if b.toNat.testBit i then -1 else 1) * 2 ^ i := by
  have every : ∀ n : Fin 256, ∀ i : Fin 8,
      ((UInt8.ofNat n ^^^ 1 <<< UInt8.ofNat i).toNat : Int) - (UInt8.ofNat n).toNat =
        (if (UInt8.ofNat n).toNat.testBit i then -1 else 1) * 2 ^ i.val := by decide +kernel
  have this := every ⟨b.toNat, b.toNat_lt⟩ ⟨i, small⟩
  simpa only [UInt8.ofNat_toNat] using this

/-- The sum of the bytes, each times the factor of its place. -/
def weigh (factor : Nat → Int) : Bytes → Int
  | [] => 0
  | b :: rest => factor 0 * b.toNat + weigh (fun i => factor (i + 1)) rest

theorem weigh_congr {f g : Nat → Int} {bs : Bytes} (same : ∀ i < bs.length, f i = g i) :
    weigh f bs = weigh g bs := by
  induction bs generalizing f g with
  | nil => rfl
  | cons b bs ih =>
    rw [weigh, weigh, same 0 (Nat.zero_lt_succ _), ih fun i inside => same (i + 1)
      (Nat.succ_lt_succ inside)]

theorem weigh_append (factor : Nat → Int) (front back : Bytes) :
    weigh factor (front ++ back) =
      weigh factor front + weigh (fun i => factor (i + front.length)) back := by
  induction front generalizing factor with
  | nil => exact (Int.zero_add _).symm
  | cons b front ih =>
    rw [List.cons_append, weigh, weigh, ih, Int.add_assoc]
    simp only [List.length_cons, Nat.add_assoc]

theorem weigh_modify (factor : Nat → Int) {bs : Bytes} {k : Nat} {f : UInt8 → UInt8}
    (inside : k < bs.length) : weigh factor (bs.modify k f) =
      weigh factor bs + factor k * ((f (bs.getD k 0)).toNat - (bs.getD k 0).toNat) := by
  induction bs generalizing factor k with
  | nil => cases inside
  | cons b bs ih =>
    cases k with
    | zero =>
      rw [List.modify_zero_cons, weigh, weigh, List.getD_cons_zero]
      ring
    | succ k =>
      rw [List.modify_succ_cons, weigh, weigh, List.getD_cons_succ,
        ih _ (Nat.lt_of_succ_lt_succ inside), Int.add_assoc]

theorem weigh_flipBit (factor : Nat → Int) {bs : Bytes} {position : Nat}
    (inside : position < 8 * bs.length) : weigh factor (flipBit bs position) =
      weigh factor bs + factor (position / 8) * (turn bs position * 2 ^ (position % 8)) := by
  rw [flipBit, weigh_modify factor (by omega), toNat_flip _ (by omega), turn]

namespace Checksum

/-- What a byte counts for in its word. -/
def place (i : Nat) : Int := if i % 2 = 0 then 256 else 1

theorem place_zero : place 0 = 256 := rfl

theorem place_one : place 1 = 1 := rfl

theorem place_add_two (i : Nat) : place (i + 2) = place i := by
  rw [place, place, Nat.add_mod_right]

theorem sum_words (bs : Bytes) : ((words bs).sum : Int) = weigh place bs := by
  fun_induction words bs with
  | case1 => rfl
  | case2 last => simp [weigh, place]
  | case3 high low rest ih =>
    rw [List.sum_cons, Nat.cast_add, ih]
    simp only [weigh, place_zero, place_one, place_add_two, Nat.add_assoc, Nat.reduceAdd]
    push_cast
    ring

theorem weighted_words (bs : Bytes) : (weighted (words bs) : Int) =
    weigh (fun i => ((words bs).length - (i / 2 : Nat)) * place i) bs := by
  fun_induction words bs with
  | case1 => rfl
  | case2 last => simp [weigh, weighted, place]
  | case3 high low rest ih =>
    have next (i : Nat) : (((words rest).length + 1 : Nat) - ((i + 2) / 2 : Nat) : Int) =
        (words rest).length - (i / 2 : Nat) := by omega
    rw [weighted, Nat.cast_add, ih]
    simp only [weigh, List.length_cons, Nat.add_assoc, Nat.reduceAdd, next, place_zero, place_one,
      place_add_two]
    push_cast
    ring

theorem length_words (bs : Bytes) : (words bs).length = (bs.length + 1) / 2 := by
  fun_induction words bs with
  | case1 => rfl
  | case2 last => simp
  | case3 high low rest ih =>
    simp only [List.length_cons, ih]
    omega

end Checksum

end MessageTransport
