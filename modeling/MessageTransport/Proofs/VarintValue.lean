import Mathlib.Algebra.BigOperators.Fin
import MessageTransport.Proofs.FieldCodec

set_option autoImplicit false

namespace MessageTransport

theorem map_eq_ok_iff {ε α β : Type} {f : α → β} {x : Except ε α} {y : β} :
    x.map f = .ok y ↔ ∃ a, x = .ok a ∧ f a = y := by
  cases x <;> simp [Except.map]

theorem map_eq_error_iff {ε α β : Type} {f : α → β} {x : Except ε α} {e : ε} :
    x.map f = .error e ↔ x = .error e := by
  cases x <;> simp [Except.map]

namespace Varint

/-- The number in seven bits of each byte, least significant first. -/
def denoted (groups : Bytes) : Nat :=
  ∑ i : Fin groups.length, (groups[i] &&& 0x7f).toNat * 128 ^ i.val

/-- Whether some bytes are the groups of one integer, of which only the last is not marked. -/
inductive Groups : Bytes → Prop where
  | last {b : UInt8} (unmarked : b &&& 0x80 = 0) : Groups [b]
  | more {b : UInt8} {bs : Bytes} (marked : b &&& 0x80 ≠ 0) (later : Groups bs) : Groups (b :: bs)

@[simp] theorem denoted_nil : denoted [] = 0 := rfl

@[simp] theorem denoted_cons (b : UInt8) (bs : Bytes) :
    denoted (b :: bs) = (b &&& 0x7f).toNat + 128 * denoted bs := by
  have first : (b &&& 0x7f).toNat * 128 ^ 0 = (b &&& 0x7f).toNat := Nat.mul_one _
  have later (i : Fin bs.length) : (bs[i] &&& 0x7f).toNat * 128 ^ (i.val + 1) =
      128 * ((bs[i] &&& 0x7f).toNat * 128 ^ i.val) := by
    rw [Nat.pow_succ, ← Nat.mul_assoc, Nat.mul_comm]
  calc denoted (b :: bs)
      = (b &&& 0x7f).toNat * 128 ^ 0 +
          ∑ i : Fin bs.length, (bs[i] &&& 0x7f).toNat * 128 ^ (i.val + 1) := Fin.sum_univ_succ _
    _ = (b &&& 0x7f).toNat + 128 * denoted bs := by
        rw [first, denoted, Finset.mul_sum]
        simp only [later]

/-- A group in front of a number. -/
theorem toNat_group_or_shift (b : UInt8) (high : UInt64) :
    ((b &&& 0x7f).toUInt64 ||| high <<< 7).toNat =
      ((b &&& 0x7f).toNat + 128 * high.toNat) % 2 ^ 64 := by
  have narrow : (b &&& 0x7f).toNat < 2 ^ 7 := by
    rw [toNat_group]
    omega
  have shifted : (high <<< 7).toNat = 2 ^ 7 * (high.toNat % 2 ^ 57) := by
    have shift : (7 : UInt64).toNat % 64 = 7 := rfl
    rw [UInt64.toNat_shiftLeft, shift, Nat.shiftLeft_eq]
    omega
  rw [UInt64.toNat_or, UInt8.toNat_toUInt64, shifted, Nat.or_comm,
    ← Nat.two_pow_add_eq_or_of_lt narrow]
  omega

theorem decode_last {b : UInt8} (unmarked : b &&& 0x80 = 0) (allowed : Nat) (rest : Bytes) :
    decode (allowed + 1) (b :: rest) = .ok ((b &&& 0x7f).toUInt64, rest) := by
  rw [decode, if_pos unmarked]

/-- Reading on behind a marked byte. -/
theorem decode_more {b : UInt8} (marked : b &&& 0x80 ≠ 0) (allowed : Nat) (bs : Bytes) :
    decode (allowed + 1) (b :: bs) = (decode allowed bs).map
      (fun (high, rest) => ((b &&& 0x7f).toUInt64 ||| high <<< 7, rest)) := by
  rw [decode, if_neg marked]
  cases decode allowed bs <;> rfl

/-- Groups that are not too many are read, with what follows them left over. -/
theorem decode_groups {groups : Bytes} (whole : Groups groups) {allowed : Nat}
    (few : groups.length ≤ allowed) (rest : Bytes) :
    ∃ v, decode allowed (groups ++ rest) = .ok (v, rest) ∧ v.toNat = denoted groups % 2 ^ 64 := by
  induction whole generalizing allowed with
  | @last b unmarked =>
    obtain ⟨allowed, rfl⟩ := Nat.exists_eq_add_one.mpr few
    refine ⟨_, decode_last unmarked allowed rest, ?_⟩
    have narrow := (b &&& 0x7f).toNat_lt
    rw [UInt8.toNat_toUInt64, denoted_cons, denoted_nil]
    omega
  | @more b bs marked later ih =>
    obtain ⟨allowed, rfl⟩ := Nat.exists_eq_add_one.mpr (Nat.lt_of_lt_of_le (Nat.succ_pos _) few)
    obtain ⟨high, read, value⟩ := ih (Nat.le_of_succ_le_succ few)
    refine ⟨(b &&& 0x7f).toUInt64 ||| high <<< 7, ?_, ?_⟩
    · rw [List.cons_append, decode_more marked, read]
      rfl
    · rw [toNat_group_or_shift, value, denoted_cons]
      omega

/-- Whatever is read is the groups of one integer. -/
theorem groups_of_decode {allowed : Nat} {bs rest : Bytes} {v : UInt64}
    (read : decode allowed bs = .ok (v, rest)) :
    ∃ groups, bs = groups ++ rest ∧ Groups groups ∧ groups.length ≤ allowed := by
  induction allowed generalizing bs v with
  | zero => cases read
  | succ allowed ih =>
    cases bs with
    | nil => cases read
    | cons b bs =>
      by_cases unmarked : b &&& 0x80 = 0
      · rw [decode_last unmarked] at read
        cases read
        exact ⟨[b], rfl, .last unmarked, Nat.le_add_left 1 allowed⟩
      · rw [decode_more unmarked] at read
        cases deeper : decode allowed bs with
        | error e =>
          rw [deeper] at read
          cases read
        | ok found =>
          rw [deeper] at read
          cases read
          obtain ⟨groups, rfl, whole, few⟩ := ih deeper
          exact ⟨b :: groups, rfl, .more unmarked whole, Nat.succ_le_succ few⟩

/-- A reader takes the groups of one integer, if they are not too many, for the number that they
denote, less the bits beyond the 64th. -/
theorem decode_eq_ok_iff {allowed : Nat} {bs rest : Bytes} {v : UInt64} :
    decode allowed bs = .ok (v, rest) ↔
      ∃ groups, bs = groups ++ rest ∧ Groups groups ∧ groups.length ≤ allowed ∧
        v.toNat = denoted groups % 2 ^ 64 := by
  constructor
  · intro read
    obtain ⟨groups, rfl, whole, few⟩ := groups_of_decode read
    obtain ⟨w, again, value⟩ := decode_groups whole few rest
    cases read.symm.trans again
    exact ⟨groups, rfl, whole, few, value⟩
  · rintro ⟨groups, rfl, whole, few, value⟩
    obtain ⟨w, read, same⟩ := decode_groups whole few rest
    rw [read, UInt64.toNat_inj.mp (same.trans value.symm)]

/-- A reader fails if it meets no unmarked byte among those that it looks at. -/
theorem decode_eq_error_iff {allowed : Nat} {bs : Bytes} {e : ErrorCode} :
    decode allowed bs = .error e ↔ (∀ b ∈ bs.take allowed, b &&& 0x80 ≠ 0) ∧
      e = if bs.length < allowed then .responseTruncated else .badVint := by
  induction allowed generalizing bs with
  | zero => simp [decode, eq_comm]
  | succ allowed ih =>
    cases bs with
    | nil => simp [decode, eq_comm]
    | cons b bs =>
      rw [List.take_succ_cons, List.forall_mem_cons, List.length_cons]
      simp only [Nat.add_lt_add_iff_right]
      by_cases unmarked : b &&& 0x80 = 0
      · simp [decode_last unmarked, unmarked]
      · rw [decode_more unmarked, and_assoc, ← ih]
        cases decode allowed bs <;> simp [Except.map, unmarked]

end Varint

namespace Field

open Varint (Groups denoted)

theorem decode_vi32_eq_ok_iff {bs rest : Bytes} {field : Field} :
    decode .vi32 bs = .ok (field, rest) ↔
      ∃ groups v, bs = groups ++ rest ∧ Groups groups ∧ groups.length ≤ 5 ∧ field = vi32 v ∧
        v.toNat = denoted groups % 2 ^ 32 := by
  rw [decode, map_eq_ok_iff]
  constructor
  · rintro ⟨⟨w, _⟩, read, made⟩
    cases made
    obtain ⟨groups, split, whole, few, value⟩ := Varint.decode_eq_ok_iff.mp read
    refine ⟨groups, w.toUInt32, split, whole, few, rfl, ?_⟩
    rw [UInt64.toNat_toUInt32, value]
    exact Nat.mod_mod_of_dvd _ (by decide)
  · rintro ⟨groups, v, rfl, whole, few, rfl, value⟩
    obtain ⟨w, read, low⟩ := Varint.decode_groups whole few rest
    refine ⟨(w, rest), read, ?_⟩
    have same : w.toUInt32 = v := by
      rw [← UInt32.toNat_inj, UInt64.toNat_toUInt32, low, value]
      exact Nat.mod_mod_of_dvd _ (by decide)
    simp only [same]

theorem decode_vi64_eq_ok_iff {bs rest : Bytes} {field : Field} :
    decode .vi64 bs = .ok (field, rest) ↔
      ∃ groups v, bs = groups ++ rest ∧ Groups groups ∧ groups.length ≤ 10 ∧ field = vi64 v ∧
        v.toNat = denoted groups % 2 ^ 64 := by
  rw [decode, map_eq_ok_iff]
  constructor
  · rintro ⟨⟨v, _⟩, read, made⟩
    cases made
    obtain ⟨groups, split, whole, few, value⟩ := Varint.decode_eq_ok_iff.mp read
    exact ⟨groups, v, split, whole, few, rfl, value⟩
  · rintro ⟨groups, v, split, whole, few, rfl, value⟩
    exact ⟨(v, rest), Varint.decode_eq_ok_iff.mpr ⟨groups, split, whole, few, value⟩, rfl⟩

/-- Integers of variable length are read from their groups, at most five or ten of them, as the
number that these denote, less the bits that the integer has no room for: a number that fits is
returned as it is, and any other one is changed. All else is refused, as badly formed if there are
as many marked bytes in front as groups are allowed, and as truncated if the bytes end before. -/
theorem decode_integer (bs : Bytes) :
    (∀ field rest, decode .vi32 bs = .ok (field, rest) ↔
      ∃ groups v, bs = groups ++ rest ∧ Groups groups ∧ groups.length ≤ 5 ∧ field = vi32 v ∧
        v.toNat = denoted groups % 2 ^ 32) ∧
    (∀ field rest, decode .vi64 bs = .ok (field, rest) ↔
      ∃ groups v, bs = groups ++ rest ∧ Groups groups ∧ groups.length ≤ 10 ∧ field = vi64 v ∧
        v.toNat = denoted groups % 2 ^ 64) ∧
    (∀ e, decode .vi32 bs = .error e ↔ (∀ b ∈ bs.take 5, b &&& 0x80 ≠ 0) ∧
      e = if bs.length < 5 then .responseTruncated else .badVint) ∧
    ∀ e, decode .vi64 bs = .error e ↔ (∀ b ∈ bs.take 10, b &&& 0x80 ≠ 0) ∧
      e = if bs.length < 10 then .responseTruncated else .badVint :=
  ⟨fun _ _ => decode_vi32_eq_ok_iff, fun _ _ => decode_vi64_eq_ok_iff,
    fun _ => map_eq_error_iff.trans Varint.decode_eq_error_iff,
    fun _ => map_eq_error_iff.trans Varint.decode_eq_error_iff⟩

/-- The number in an integer of variable length. -/
def integer? : Field → Option Nat
  | vi32 v => some v.toNat
  | vi64 v => some v.toNat
  | _ => none

/-- Whether integers of a type are always read as the numbers that their groups denote, and refused
if these take more than some bits. -/
def Exact (type : FieldType) (bits : Nat) : Prop :=
  ∀ groups rest, Groups groups →
    (∀ field, decode type (groups ++ rest) = .ok (field, rest) →
      field.integer? = some (denoted groups)) ∧
    (2 ^ bits ≤ denoted groups → decode type (groups ++ rest) = .error .badVint)

/-- Five groups can denote a number of 35 bits, and ten one of 70, so some are accepted that the
integer cannot hold, and lose their high bits. -/
theorem not_exact : ¬Exact .vi32 32 ∧ ¬Exact .vi64 64 := by
  have groups (n : Nat) : Groups (List.replicate n 0xff ++ [0x7f]) := by
    induction n with
    | zero => exact .last rfl
    | succ n ih => exact .more (by decide) ih
  constructor
  · intro exact32
    have read : decode .vi32 [0xff, 0xff, 0xff, 0xff, 0x7f] = .ok (vi32 0xffffffff, []) := by decide
    have refused := (exact32 _ [] (groups 4)).2 (by decide)
    cases read.symm.trans refused
  · intro exact64
    have read : decode .vi64 [0xff, 0xff, 0xff, 0xff, 0xff, 0xff, 0xff, 0xff, 0xff, 0x7f] =
      .ok (vi64 0xffffffffffffffff, []) := by decide
    have refused := (exact64 _ [] (groups 9)).2 (by decide)
    cases read.symm.trans refused

end Field

end MessageTransport
