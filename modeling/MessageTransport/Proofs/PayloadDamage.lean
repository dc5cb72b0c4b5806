import Mathlib.Data.List.GetD
import MessageTransport.Header
import MessageTransport.Proofs.Damage

set_option autoImplicit false

namespace MessageTransport

namespace Checksum

theorem residue_eq_iff {a b : Nat} : residue a = residue b ↔ a ≡ b [MOD 65535] := by
  constructor
  · intro same
    exact (residue_modEq a).symm.trans (same ▸ residue_modEq b)
  · exact residue_congr

theorem getD_words (bs : Bytes) (k : Nat) : (words bs).getD k 0 =
    256 * (bs.getD (2 * k) 0).toNat + (bs.getD (2 * k + 1) 0).toNat := by
  fun_induction words bs generalizing k with
  | case1 => rfl
  | case2 last =>
    cases k with
    | zero => rfl
    | succ k => rfl
  | case3 high low rest ih =>
    cases k with
    | zero => rfl
    | succ k => exact ih k

theorem getD_words_le (bs : Bytes) (k : Nat) : (words bs).getD k 0 ≤ 65535 := by
  have high := (bs.getD (2 * k) 0).toNat_lt
  have low := (bs.getD (2 * k + 1) 0).toNat_lt
  rw [getD_words]
  omega

theorem sum_set (ws : List Nat) {k : Nat} (inside : k < ws.length) (w : Nat) :
    ((ws.set k w).sum : Int) = ws.sum + (w - ws.getD k 0) := by
  induction ws generalizing k with
  | nil => cases inside
  | cons first rest ih =>
    cases k with
    | zero =>
      rw [List.set_cons_zero, List.sum_cons, List.sum_cons, List.getD_cons_zero]
      push_cast
      ring
    | succ k =>
      rw [List.set_cons_succ, List.sum_cons, List.sum_cons, List.getD_cons_succ, Nat.cast_add,
        ih (Nat.lt_of_succ_lt_succ inside), Nat.cast_add, Int.add_assoc]

theorem weighted_set (ws : List Nat) {k : Nat} (inside : k < ws.length) (w : Nat) :
    (weighted (ws.set k w) : Int) = weighted ws + (ws.length - k) * (w - ws.getD k 0) := by
  induction ws generalizing k with
  | nil => cases inside
  | cons first rest ih =>
    cases k with
    | zero =>
      rw [List.set_cons_zero, weighted, weighted, List.getD_cons_zero, List.length_cons]
      push_cast
      ring
    | succ k =>
      rw [List.set_cons_succ, weighted, weighted, List.length_set, List.getD_cons_succ,
        Nat.cast_add, ih (Nat.lt_of_succ_lt_succ inside), List.length_cons]
      push_cast
      ring

end Checksum

open Checksum

/-- Two byte strings have one checksum just if both their sums agree modulo 65535. -/
theorem fletcher32_eq_iff {a b : Bytes} : fletcher32 b = fletcher32 a ↔
    (65535 : Int) ∣ (words b).sum - (words a).sum ∧
      (65535 : Int) ∣ weighted (words b) - weighted (words a) := by
  have lowA := residue_le (words a).sum
  have lowB := residue_le (words b).sum
  have modulus : ((65535 : Nat) : Int) = 65535 := rfl
  rw [← UInt32.toNat_inj, fletcher32_toNat, fletcher32_toNat, ← modulus, ← Nat.modEq_iff_dvd,
    ← Nat.modEq_iff_dvd, ← residue_eq_iff, ← residue_eq_iff]
  omega

/-- Byte strings of one length that differ, but not outside one of their 16-bit words. -/
structure DifferInWord (k : Nat) (a b : Bytes) : Prop where
  length : b.length = a.length
  differ : b ≠ a
  elsewhere : ∀ i, i / 2 ≠ k → b[i]? = a[i]?

theorem DifferInWord.getD_eq {k : Nat} {a b : Bytes} (differ : DifferInWord k a b) {i : Nat}
    (other : i / 2 ≠ k) : b.getD i 0 = a.getD i 0 := by
  rw [List.getD_eq_getElem?_getD, differ.elsewhere i other, List.getD_eq_getElem?_getD]

theorem eq_of_getD {a b : Bytes} (length : b.length = a.length)
    (same : ∀ i, b.getD i 0 = a.getD i 0) : b = a := by
  apply List.ext_getElem length
  intro i insideB insideA
  have here := same i
  rwa [List.getD_eq_getElem _ _ insideB, List.getD_eq_getElem _ _ insideA] at here

/-- The word in which byte strings differ is another one. -/
theorem DifferInWord.getD_words_ne {k : Nat} {a b : Bytes} (differ : DifferInWord k a b) :
    (words b).getD k 0 ≠ (words a).getD k 0 := by
  intro same
  rw [getD_words, getD_words] at same
  have lowA := (a.getD (2 * k + 1) 0).toNat_lt
  have lowB := (b.getD (2 * k + 1) 0).toNat_lt
  apply differ.differ
  apply eq_of_getD differ.length
  intro i
  by_cases other : i / 2 ≠ k
  · exact differ.getD_eq other
  · have place : i = 2 * k ∨ i = 2 * k + 1 := by omega
    apply UInt8.toNat_inj.mp
    rcases place with rfl | rfl <;> omega

theorem DifferInWord.words_eq {k : Nat} {a b : Bytes} (differ : DifferInWord k a b) :
    k < (words a).length ∧ words b = (words a).set k ((words b).getD k 0) := by
  have lengths : (words b).length = (words a).length := by
    rw [length_words, length_words, differ.length]
  have inside : k < (words a).length := by
    apply Nat.lt_of_not_le
    intro beyond
    apply differ.getD_words_ne
    rw [List.getD_eq_default _ _ beyond, List.getD_eq_default _ _ (lengths ▸ beyond)]
  refine ⟨inside, ?_⟩
  apply List.ext_getElem
  · rw [List.length_set, lengths]
  · intro j insideB insideSet
    rw [List.getElem_set]
    split
    · rename_i here
      subst here
      exact (List.getD_eq_getElem _ _ insideB).symm
    · rename_i there
      rw [← List.getD_eq_getElem _ 0 insideB, ← List.getD_eq_getElem _ 0 (lengths ▸ insideB),
        getD_words, getD_words, differ.getD_eq (by omega), differ.getD_eq (by omega)]

/-- One changed word is noticed unless all its bits were equal and all have been inverted. -/
theorem fletcher32_eq_iff_of_word {k : Nat} {a b : Bytes} (differ : DifferInWord k a b) :
    fletcher32 b = fletcher32 a ↔
      (words a).getD k 0 = 0 ∧ (words b).getD k 0 = 0xffff ∨
        (words a).getD k 0 = 0xffff ∧ (words b).getD k 0 = 0 := by
  obtain ⟨inside, changed⟩ := differ.words_eq
  have other := differ.getD_words_ne
  have leA := getD_words_le a k
  have leB := getD_words_le b k
  have sums := sum_set (words a) inside ((words b).getD k 0)
  have sumsOfSums := weighted_set (words a) inside ((words b).getD k 0)
  rw [← changed] at sums sumsOfSums
  rw [fletcher32_eq_iff, sums, sumsOfSums, add_sub_cancel_left, add_sub_cancel_left]
  constructor
  · rintro ⟨low, -⟩
    omega
  · intro opposite
    have low : (65535 : Int) ∣ (words b).getD k 0 - (words a).getD k 0 := by omega
    exact ⟨low, low.mul_left _⟩

/-- Whether a bit is set; those of a byte are counted from the least significant one. -/
def bitAt (bs : Bytes) (position : Nat) : Bool :=
  (bs.getD (position / 8) 0).toNat.testBit (position % 8)

theorem eq_of_bitAt {a b : Bytes} (length : b.length = a.length)
    (same : ∀ position < 8 * a.length, bitAt b position = bitAt a position) : b = a := by
  apply eq_of_getD length
  intro i
  apply UInt8.toNat_inj.mp
  apply Nat.eq_of_testBit_eq
  intro j
  by_cases inside : j < 8 ∧ i < a.length
  · have here := same (8 * i + j) (by omega)
    have byte : (8 * i + j) / 8 = i := by omega
    have bit : (8 * i + j) % 8 = j := by omega
    rwa [bitAt, bitAt, byte, bit] at here
  · have outside (bs : Bytes) (whole : bs.length = a.length) :
        (bs.getD i 0).toNat.testBit j = false := by
      by_cases beyond : bs.length ≤ i
      · rw [List.getD_eq_default _ _ beyond]
        exact Nat.zero_testBit j
      · have narrow := (bs.getD i 0).toNat_lt
        have wide : 2 ^ 8 ≤ 2 ^ j := Nat.pow_le_pow_right (by decide) (by omega)
        exact Nat.testBit_lt_two_pow (Nat.lt_of_lt_of_le narrow wide)
    rw [outside b length, outside a rfl]

theorem bitAt_flipBit {bs : Bytes} {p : Nat} (inside : p < 8 * bs.length) (position : Nat) :
    bitAt (flipBit bs p) position = (bitAt bs position ^^ decide (p = position)) := by
  have mask : ∀ i : Fin 8, ((1 : UInt8) <<< UInt8.ofNat i).toNat = 2 ^ i.val := by decide
  have mask := mask ⟨p % 8, Nat.mod_lt p (by decide)⟩
  rw [bitAt, bitAt, flipBit, List.getD_eq_getElem?_getD, List.getElem?_modify]
  split
  · rename_i byte
    have there : position / 8 < bs.length := by omega
    have bit : p % 8 = position % 8 ↔ p = position := by omega
    rw [List.getElem?_eq_getElem there, List.getD_eq_getElem _ _ there]
    show (bs[position / 8] ^^^ 1 <<< UInt8.ofNat (p % 8)).toNat.testBit _ = _
    rw [UInt8.toNat_xor, Nat.testBit_xor, mask, Nat.testBit_two_pow, decide_eq_decide.mpr bit]
  · rename_i byte
    have other : p ≠ position := fun same => byte (same ▸ rfl)
    rw [decide_eq_false other, Bool.xor_false, id_map', List.getD_eq_getElem?_getD]

/-- Byte strings of one length that differ in two of their bits and in no other. -/
structure DifferInBits (p q : Nat) (a b : Bytes) : Prop where
  length : b.length = a.length
  distinct : p ≠ q
  first : p < 8 * a.length
  second : q < 8 * a.length
  inverted : ∀ position < 8 * a.length, bitAt b position ≠ bitAt a position ↔
    position = p ∨ position = q

theorem DifferInBits.eq_flipBit {p q : Nat} {a b : Bytes} (differ : DifferInBits p q a b) :
    b = flipBit (flipBit a p) q := by
  have length : (flipBit a p).length = a.length := length_flipBit a p
  apply eq_of_bitAt
  · rw [length_flipBit, length, differ.length]
  · intro position inside
    rw [length_flipBit, length] at inside
    rw [bitAt_flipBit (length ▸ differ.second), bitAt_flipBit differ.first]
    have inverted := differ.inverted position inside
    have distinct := differ.distinct
    grind

theorem differInBits_flipBit {p q : Nat} {a : Bytes} (distinct : p ≠ q) (first : p < 8 * a.length)
    (second : q < 8 * a.length) : DifferInBits p q a (flipBit (flipBit a p) q) := by
  have length : (flipBit a p).length = a.length := length_flipBit a p
  refine ⟨by rw [length_flipBit, length], distinct, first, second, ?_⟩
  intro position _
  rw [bitAt_flipBit (length ▸ second), bitAt_flipBit first]
  grind

theorem turn_eq (bs : Bytes) (p : Nat) : turn bs p = if bitAt bs p then -1 else 1 := rfl

theorem turn_flipBit_of_ne {bs : Bytes} {p q : Nat} (inside : p < 8 * bs.length)
    (distinct : p ≠ q) : turn (flipBit bs p) q = turn bs q := by
  rw [turn_eq, turn_eq, bitAt_flipBit inside, decide_eq_false distinct, Bool.xor_false]

/-- Bits that are not alike cancel each other when both are inverted. -/
theorem turn_add_turn_eq_zero_iff {bs : Bytes} {p q : Nat} :
    turn bs p + turn bs q = 0 ↔ bitAt bs p ≠ bitAt bs q := by
  rw [turn_eq, turn_eq]
  cases bitAt bs p <;> cases bitAt bs q <;> decide

namespace Checksum

/-- The power of two that a bit stands for in its big-endian word. -/
def wordBit (position : Nat) : Nat := position % 8 + if position / 8 % 2 = 0 then 8 else 0

theorem wordBit_lt (position : Nat) : wordBit position < 16 := by
  unfold wordBit
  split <;> omega

theorem wordBit_eq_iff {p q : Nat} : wordBit p = wordBit q ↔ p % 16 = q % 16 := by
  unfold wordBit
  split <;> split <;> omega

theorem place_mul_two_pow (position : Nat) :
    place (position / 8) * 2 ^ (position % 8) = 2 ^ wordBit position := by
  rw [place, wordBit]
  split
  · rw [pow_add, Int.mul_comm]
    rfl
  · rw [Int.one_mul, Nat.add_zero]

/-- What an inverted bit adds to its word. -/
def shift (bs : Bytes) (position : Nat) : Int := turn bs position * 2 ^ wordBit position

/-- What two inverted bits add to both sums. -/
theorem sums_flipBit {bs : Bytes} {p : Nat} (inside : p < 8 * bs.length) :
    ((words (flipBit bs p)).sum : Int) = (words bs).sum + shift bs p ∧
      (weighted (words (flipBit bs p)) : Int) =
        weighted (words bs) + ((words bs).length - (p / 16 : Nat)) * shift bs p := by
  have power := place_mul_two_pow p
  have word : p / 8 / 2 = p / 16 := Nat.div_div_eq_div_mul p 8 2
  constructor
  · rw [sum_words, sum_words, weigh_flipBit _ inside, shift, ← power]
    ring
  · rw [weighted_words, weighted_words, length_words, length_words, length_flipBit,
      weigh_flipBit _ inside, shift, ← power, word]
    ring

end Checksum

/-- Two inverted bits are noticed unless they are at one position of two words whose distance is a
multiple of 65535, and one of them has been set and the other cleared. -/
theorem fletcher32_eq_iff_of_bits {p q : Nat} {a b : Bytes} (differ : DifferInBits p q a b) :
    fletcher32 b = fletcher32 a ↔
      p % 16 = q % 16 ∧ p / 16 ≡ q / 16 [MOD 65535] ∧ bitAt a p ≠ bitAt a q := by
  have kept : (flipBit a p).length = a.length := length_flipBit a p
  have count : (words (flipBit a p)).length = (words a).length := by
    rw [length_words, length_words, kept]
  obtain ⟨low, high⟩ := sums_flipBit differ.first
  obtain ⟨lowBoth, highBoth⟩ := sums_flipBit (kept ▸ differ.second)
  have second : shift (flipBit a p) q = shift a q := by
    rw [shift, turn_flipBit_of_ne differ.first differ.distinct, shift]
  rw [second, low, Int.add_assoc] at lowBoth
  rw [second, high, count, Int.add_assoc] at highBoth
  rw [fletcher32_eq_iff, differ.eq_flipBit, lowBoth, highBoth, add_sub_cancel_left,
    add_sub_cancel_left, ← turn_add_turn_eq_zero_iff, ← wordBit_eq_iff, Nat.modEq_iff_dvd]
  have cancels (bit : wordBit p = wordBit q) (opposite : turn a p + turn a q = 0) :
      shift a q = -shift a p := by
    have turned : turn a q = -turn a p := by omega
    rw [shift, shift, turned, bit, Int.neg_mul]
  have apart (m x y z : Int) : (m - x) * z + (m - y) * -z = (y - x) * z := by ring
  constructor
  · rintro ⟨plain, weighed⟩
    have bit := bit_eq_of_dvd _ (wordBit_lt p) _ (wordBit_lt q) _ (turn_mem a p) _ (turn_mem a q)
      plain
    have opposite : turn a p + turn a q = 0 := by
      have scaled : turn a p * (shift a p + shift a q) =
          (turn a p + turn a q) * (turn a p * 2 ^ wordBit p) := by
        rw [shift, shift, ← bit]
        ring
      have both := dvd_of_dvd_mul_turn a p (wordBit p) (scaled ▸ plain.mul_left (turn a p))
      have first := turn_mem a p
      have second := turn_mem a q
      simp only [List.mem_cons, List.not_mem_nil, or_false] at first second
      omega
    refine ⟨bit, ?_, opposite⟩
    rw [cancels bit opposite, apart] at weighed
    exact dvd_of_dvd_mul_turn a p (wordBit p) weighed
  · rintro ⟨bit, distance, opposite⟩
    rw [cancels bit opposite, apart, Int.add_right_neg]
    exact ⟨Int.dvd_zero _, distance.mul_right (shift a p)⟩

/-- A payload whose checksum has been recorded is verified against that checksum. -/
theorem Header.verifyPayload_recorded {h : Header} {payload : Bytes}
    (asked : h.hasPayloadChecksum = true) (recorded : h.payloadChecksum = fletcher32 payload)
    (arrived : Bytes) : h.verifyPayload arrived =
      if fletcher32 arrived = fletcher32 payload then .ok ()
      else .error .payloadChecksumMismatch := by
  rw [verifyPayload, asked, recorded]
  by_cases same : fletcher32 arrived = fletcher32 payload
  · rw [if_pos same, if_neg fun refused => refused.2 same]
  · rw [if_neg same, if_pos ⟨rfl, same⟩]

/-- A payload that arrives with another word in one place is refused, unless the word had its bits
all alike and they have all been inverted. One that arrives with two of its bits inverted is
refused, unless these are at the same position of two words a multiple of 65535 apart and not alike.
The payloads left out are accepted. -/
theorem Header.verifyPayload_damaged {h : Header} {payload : Bytes}
    (asked : h.hasPayloadChecksum = true) (recorded : h.payloadChecksum = fletcher32 payload) :
    (∀ (k : Nat) (arrived : Bytes), DifferInWord k payload arrived →
      h.verifyPayload arrived =
        if (words payload).getD k 0 = 0 ∧ (words arrived).getD k 0 = 0xffff ∨
            (words payload).getD k 0 = 0xffff ∧ (words arrived).getD k 0 = 0 then .ok ()
        else .error .payloadChecksumMismatch) ∧
    ∀ (p q : Nat) (arrived : Bytes), DifferInBits p q payload arrived →
      h.verifyPayload arrived =
        if p % 16 = q % 16 ∧ p / 16 ≡ q / 16 [MOD 65535] ∧ bitAt payload p ≠ bitAt payload q then
          .ok ()
        else .error .payloadChecksumMismatch := by
  constructor
  · intro k arrived differ
    rw [verifyPayload_recorded asked recorded]
    exact if_congr (fletcher32_eq_iff_of_word differ) rfl rfl
  · intro p q arrived differ
    rw [verifyPayload_recorded asked recorded]
    exact if_congr (fletcher32_eq_iff_of_bits differ) rfl rfl

/-- A header with the checksum of a payload. -/
def recording (payload : Bytes) : Header :=
  { Header.ofCommand 7 with
    flags := Header.payloadChecksumFlag
    payloadChecksum := fletcher32 payload }

/-- One bit, and nothing but zeros for 65536 words from there. -/
def faint : Bytes := 0x80 :: List.replicate 131070 0

theorem faint_bits : bitAt faint 7 = true ∧ bitAt faint 1048567 = false := by
  refine ⟨rfl, ?_⟩
  have behind : faint.getD (131069 + 1) 0 = 0 := by
    rw [faint, List.getD_cons_succ, List.getD_replicate 0 (by decide)]
  rw [bitAt, behind]
  exact Nat.zero_testBit _

theorem verifyPayload_damaged_faint :
    (recording [0, 0, 5]).hasPayloadChecksum = true ∧
      (recording [0, 0, 5]).payloadChecksum = fletcher32 [0, 0, 5] ∧
      DifferInWord 0 [0, 0, 5] [255, 255, 5] ∧
      (recording [0, 0, 5]).verifyPayload [255, 255, 5] = .ok () ∧
      DifferInBits 7 1048567 faint (flipBit (flipBit faint 7) 1048567) ∧
      (recording faint).verifyPayload (flipBit (flipBit faint 7) 1048567) = .ok () := by
  have inWord : DifferInWord 0 [0, 0, 5] [255, 255, 5] := by
    refine ⟨rfl, by decide, ?_⟩
    intro i other
    match i with
    | 0 | 1 => exact absurd rfl other
    | 2 | i + 3 => rfl
  have length : faint.length = 131071 := by
    rw [faint, List.length_cons, List.length_replicate]
  have inBits : DifferInBits 7 1048567 faint (flipBit (flipBit faint 7) 1048567) :=
    differInBits_flipBit (by decide) (by omega) (by omega)
  obtain ⟨set, clear⟩ := faint_bits
  refine ⟨rfl, rfl, inWord, ?_, inBits, ?_⟩
  · rw [(Header.verifyPayload_damaged rfl rfl).1 0 [255, 255, 5] inWord]
    exact if_pos (.inl ⟨rfl, rfl⟩)
  · rw [(Header.verifyPayload_damaged rfl rfl).2 7 1048567 _ inBits, set, clear]
    exact if_pos (by decide)

end MessageTransport
