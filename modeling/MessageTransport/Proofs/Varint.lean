import Mathlib.Data.Nat.Bitwise
import MessageTransport.Varint

set_option autoImplicit false

namespace MessageTransport.Varint

theorem toNat_shift (v : UInt64) : (v >>> 7).toNat = v.toNat / 128 :=
  Nat.shiftRight_eq_div_pow v.toNat 7

theorem toNat_group (b : UInt8) : (b &&& 0x7f).toNat = b.toNat % 128 :=
  Nat.and_two_pow_sub_one_eq_mod b.toNat 7

theorem toNat_marked (b : UInt8) : (b &&& 0x7f ||| 0x80).toNat = 128 + b.toNat % 128 := by
  have low : b.toNat % 128 < 2 ^ 7 := Nat.mod_lt _ (by decide)
  have mark : (0x80 : UInt8).toNat = 2 ^ 7 * 1 := rfl
  rw [UInt8.toNat_or, toNat_group, mark, Nat.or_comm, ← Nat.two_pow_add_eq_or_of_lt low]

/-- The top bit is clear just in the bytes below 128. -/
theorem and_mark_eq_zero_iff (b : UInt8) : b &&& 0x80 = 0 ↔ b.toNat < 128 := by
  have narrow := b.toNat_lt
  have mark : (b &&& 0x80).toNat = (b.toNat.testBit 7).toNat * 2 ^ 7 := Nat.and_two_pow b.toNat 7
  have top : b.toNat.testBit 7 = decide (128 ≤ b.toNat) := by
    rw [Nat.testBit_eq_decide_div_mod_eq, decide_eq_decide]
    omega
  rw [← UInt8.toNat_inj, mark, top, ← Nat.not_le]
  by_cases marked : 128 ≤ b.toNat <;> simp [marked]

theorem marked_and_group (b : UInt8) : (b &&& 0x7f ||| 0x80) &&& 0x7f = b &&& 0x7f := by
  rw [← UInt8.toNat_inj, toNat_group, toNat_marked, toNat_group]
  omega

/-- A group goes below the others. -/
theorem group_or_shift (v : UInt64) : (v.toUInt8 &&& 0x7f).toUInt64 ||| (v >>> 7) <<< 7 = v := by
  have narrow := v.toNat_lt
  have low : v.toNat % 128 < 2 ^ 7 := Nat.mod_lt _ (by decide)
  have group : (v.toUInt8 &&& 0x7f).toUInt64.toNat = v.toNat % 128 := by
    rw [UInt8.toNat_toUInt64, toNat_group, UInt64.toNat_toUInt8]
    omega
  have rest : ((v >>> 7) <<< 7).toNat = 2 ^ 7 * (v.toNat / 128) := by
    have shift : (7 : UInt64).toNat % 64 = 7 := rfl
    rw [UInt64.toNat_shiftLeft, shift, toNat_shift, Nat.shiftLeft_eq]
    omega
  rw [← UInt64.toNat_inj, UInt64.toNat_or, group, rest, Nat.or_comm,
    ← Nat.two_pow_add_eq_or_of_lt low]
  omega

theorem length_encode (v : UInt64) : (encode v).length = encodedLength v := by
  fun_induction encode v with
  | case1 v small => rw [encodedLength, if_pos small, List.length_singleton]
  | case2 v large ih => rw [encodedLength, if_neg large, List.length_cons, ih]

theorem encodedLength_le {v : UInt64} {groups : Nat} (fits : v.toNat < 128 ^ (groups + 1)) :
    encodedLength v ≤ groups + 1 := by
  induction groups generalizing v with
  | zero =>
    have small : v < 0x80 := UInt64.lt_iff_toNat_lt.mpr fits
    rw [encodedLength, if_pos small]
  | succ groups ih =>
    rw [encodedLength]
    split
    · exact Nat.le_add_left _ _
    · refine Nat.succ_le_succ (ih ?_)
      rw [toNat_shift]
      exact Nat.div_lt_of_lt_mul (by rwa [Nat.mul_comm, ← Nat.pow_succ])

theorem encodedLength_le_maxGroups64 (v : UInt64) : encodedLength v ≤ maxGroups64 :=
  encodedLength_le (Nat.lt_trans v.toNat_lt (by decide))

theorem encodedLength_le_maxGroups32 (v : UInt32) : encodedLength v.toUInt64 ≤ maxGroups32 :=
  encodedLength_le (Nat.lt_trans (UInt32.toNat_toUInt64 v ▸ v.toNat_lt) (by decide))

theorem decode_encode {v : UInt64} {groups : Nat} (fits : encodedLength v ≤ groups) (rest : Bytes) :
    decode groups (encode v ++ rest) = .ok (v, rest) := by
  fun_induction encode v generalizing groups with
  | case1 v small =>
    rw [encodedLength, if_pos small] at fits
    obtain ⟨groups, rfl⟩ := Nat.exists_eq_add_one.mpr fits
    have small : v.toNat < 128 := UInt64.lt_iff_toNat_lt.mp small
    have last : v.toUInt8 &&& 0x80 = 0 := by
      rw [and_mark_eq_zero_iff, UInt64.toNat_toUInt8]
      omega
    have whole : (v.toUInt8 &&& 0x7f).toUInt64 = v := by
      rw [← UInt64.toNat_inj, UInt8.toNat_toUInt64, toNat_group, UInt64.toNat_toUInt8]
      omega
    rw [List.singleton_append, decode, if_pos last, whole]
  | case2 v large ih =>
    rw [encodedLength, if_neg large] at fits
    obtain ⟨groups, rfl⟩ := Nat.exists_eq_add_one.mpr (Nat.lt_of_lt_of_le (Nat.succ_pos _) fits)
    have marked : ¬(v.toUInt8 &&& 0x7f ||| 0x80) &&& 0x80 = 0 := by
      rw [and_mark_eq_zero_iff, toNat_marked]
      omega
    rw [List.cons_append, decode, if_neg marked, ih (Nat.le_of_succ_le_succ fits),
      marked_and_group]
    simp only [group_or_shift]

end MessageTransport.Varint
