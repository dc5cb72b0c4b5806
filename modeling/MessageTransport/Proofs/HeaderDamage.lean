import MessageTransport.Proofs.Damage
import MessageTransport.Proofs.HeaderCodec

set_option autoImplicit false

namespace MessageTransport.Header

open Checksum

/-- How a word of the header counts in the low and in the high half of the checksum. The two words
of the checksum field count against the half that they hold. -/
def column (word : Nat) : Int × Int :=
  if word = 3 then (-1, 0) else if word = 4 then (0, -1) else (1, 19 - word)

/-- The power of two that a byte starts with in its word. The checksum field is little-endian, and
the others are summed as if they were big-endian. -/
def lift (i : Nat) : Nat := if (i / 2 = 3 ∨ i / 2 = 4) ↔ i % 2 = 0 then 0 else 8

/-- What a byte counts for in one half of the checksum. -/
def factor (half : Int × Int → Int) (i : Nat) : Int := half (column (i / 2)) * 2 ^ lift i

/-- The two equations that hold where the checksum is right. -/
def Balanced (bs : Bytes) : Prop :=
  65535 ∣ weigh (factor Prod.fst) bs ∧ 65535 ∣ weigh (factor Prod.snd) bs

theorem factors_of_covered {i : Nat} (front : i / 2 ≠ 3) (back : i / 2 ≠ 4) :
    factor Prod.fst i = place i ∧ factor Prod.snd i = (19 - (i / 2 : Nat)) * place i := by
  simp only [factor, column, lift, front, back, place, or_self, false_iff, ↓reduceIte, Int.one_mul]
  by_cases even : i % 2 = 0
  · simp only [even, not_true_eq_false, ↓reduceIte]
    exact ⟨rfl, rfl⟩
  · simp only [even, not_false_eq_true, ↓reduceIte]
    exact ⟨rfl, rfl⟩

theorem length_checksumField {bs : Bytes} (whole : bs.length = size) :
    ((bs.drop 6).take 4).length = 4 := by
  have whole : bs.length = 38 := whole
  rw [List.length_take, List.length_drop]
  omega

theorem length_withoutChecksum {bs : Bytes} (whole : bs.length = size) :
    (withoutChecksum bs).length = size := by
  rw [← layout_ofLayout whole, withoutChecksum_layout, length_layout]

/-- Outside the checksum field, bytes weigh what they weigh once the field is cleared. -/
theorem weigh_eq_withoutChecksum {f g : Nat → Int} {bs : Bytes} (whole : bs.length = size)
    (covered : ∀ i, i / 2 ≠ 3 → i / 2 ≠ 4 → f i = g i) : weigh f bs =
      weigh g (withoutChecksum bs) + weigh (fun i => f (i + 6)) ((bs.drop 6).take 4) := by
  have split : bs = bs.take 6 ++ ((bs.drop 6).take 4 ++ bs.drop 10) := by
    have rest : bs.drop 10 = (bs.drop 6).drop 4 := by rw [List.drop_drop]
    rw [rest, List.take_append_drop, List.take_append_drop]
  have field := length_checksumField whole
  have whole : bs.length = 38 := whole
  have front : (bs.take 6).length = 6 := List.length_take_of_le (by omega)
  have before : weigh f (bs.take 6) = weigh g (bs.take 6) :=
    weigh_congr fun i inside => covered i (by omega) (by omega)
  have behind : weigh (fun i => f (i + 10)) (bs.drop 10) = weigh (fun i => g (i + 10)) (bs.drop 10) :=
    weigh_congr fun i _ => covered (i + 10) (by omega) (by omega)
  have cleared : withoutChecksum bs = bs.take 6 ++ ([0, 0, 0, 0] ++ bs.drop 10) :=
    List.append_assoc _ _ _
  have zeros : weigh (fun i => g (i + 6)) [0, 0, 0, 0] = 0 := by simp [weigh]
  rw [cleared, weigh_append g, weigh_append _ [0, 0, 0, 0], front, zeros]
  conv => lhs; rw [split, weigh_append f, weigh_append _ ((bs.drop 6).take 4), front, field]
  simp only [List.length_cons, List.length_nil, Nat.add_assoc, Nat.reduceAdd, before, behind]
  ring

theorem stored_halves {field : Bytes} (whole : field.length = 4) :
    weigh (fun i => factor Prod.fst (i + 6)) field = -(LittleEndian.value field % 65536 : Nat) ∧
      weigh (fun i => factor Prod.snd (i + 6)) field = -(LittleEndian.value field / 65536 : Nat) := by
  match field, whole with
  | [a, b, c, d], _ =>
    have ha := a.toNat_lt
    have hb := b.toNat_lt
    have hc := c.toNat_lt
    have hd := d.toNat_lt
    simp only [weigh, factor, column, lift, LittleEndian.value]
    constructor <;> simp <;> omega

theorem balanced_of_matching {bs : Bytes} (whole : bs.length = size)
    (matching : fletcher32 (withoutChecksum bs) = (ofLayout bs).headerChecksum) : Balanced bs := by
  have stored : (fletcher32 (withoutChecksum bs)).toNat =
      LittleEndian.value ((bs.drop 6).take 4) := by
    rw [matching]
    exact UInt32.toNat_ofNat_of_lt' (fieldAt_lt (by rw [whole]; decide))
  obtain ⟨storedLow, storedHigh⟩ := stored_halves (length_checksumField whole)
  have count : (words (withoutChecksum bs)).length = 19 := by
    rw [length_words, length_withoutChecksum whole]
    rfl
  have low := weigh_eq_withoutChecksum whole fun i front back => (factors_of_covered front back).1
  have high := weigh_eq_withoutChecksum whole fun i front back => (factors_of_covered front back).2
  have sums := weighted_words (withoutChecksum bs)
  rw [count] at sums
  rw [storedLow, ← sum_words] at low
  rw [storedHigh] at high
  have lowSame : residue _ % 65535 = _ % 65535 := residue_modEq (words (withoutChecksum bs)).sum
  have highSame : residue _ % 65535 = _ % 65535 :=
    residue_modEq (weighted (words (withoutChecksum bs)))
  have lowLe := residue_le (words (withoutChecksum bs)).sum
  rw [fletcher32_toNat] at stored
  refine ⟨low ▸ ?_, high ▸ sums ▸ ?_⟩
  · omega
  · omega

/-- The power of two that a bit stands for in its word. -/
def exponent (position : Nat) : Nat := lift (position / 8) + position % 8

theorem lift_le (i : Nat) : lift i ≤ 8 := by
  unfold lift
  split <;> decide

theorem exponent_lt (position : Nat) : exponent position < 16 := by
  have := lift_le (position / 8)
  unfold exponent
  omega

theorem eq_of_exponent_eq {p q : Nat} (word : p / 16 = q / 16) (bit : exponent p = exponent q) :
    p = q := by
  simp only [exponent, lift] at bit
  split at bit <;> split at bit <;> omega

/-- What an inverted bit adds to its word. -/
def change (bs : Bytes) (position : Nat) : Int := turn bs position * 2 ^ exponent position

theorem weigh_factor_flipBit {half : Int × Int → Int} {bs : Bytes} {p : Nat}
    (inside : p < 8 * bs.length) : weigh (factor half) (flipBit bs p) =
      weigh (factor half) bs + half (column (p / 16)) * change bs p := by
  rw [weigh_flipBit _ inside, factor, Nat.div_div_eq_div_mul, change, exponent, pow_add]
  ring

/-- The words of a header have columns that are independent of each other. -/
theorem word_eq_of_dvd : ∀ k < 19, ∀ l < 19,
    (65535 : Int) ∣ (column k).1 * (column l).2 - (column l).1 * (column k).2 → k = l := by
  decide

theorem dvd_of_column (word : Nat) {x : Int} (low : 65535 ∣ (column word).1 * x)
    (high : 65535 ∣ (column word).2 * x) : 65535 ∣ x := by
  by_cases first : word = 3
  · simpa only [column, first, ↓reduceIte, neg_mul, one_mul, dvd_neg] using low
  by_cases second : word = 4
  · simpa only [column, second, Nat.reduceEqDiff, ↓reduceIte, neg_mul, one_mul, dvd_neg] using high
  · simpa only [column, first, second, ↓reduceIte, one_mul] using low

theorem dvd_of_dvd_mul_change (bs : Bytes) (p : Nat) {x : Int} (h : 65535 ∣ x * change bs p) :
    65535 ∣ x := dvd_of_dvd_mul_turn bs p (exponent p) h

/-- One inverted bit. -/
theorem Balanced.not_flipBit {bs : Bytes} (balanced : Balanced bs) {p : Nat}
    (inside : p < 8 * bs.length) : ¬Balanced (flipBit bs p) := by
  rintro ⟨low, high⟩
  rw [weigh_factor_flipBit inside, Int.dvd_add_right balanced.1] at low
  rw [weigh_factor_flipBit inside, Int.dvd_add_right balanced.2] at high
  have unchanged : (65535 : Int) ∣ 1 * change bs p := by
    rw [one_mul]
    exact dvd_of_column _ low high
  exact absurd (dvd_of_dvd_mul_change bs p unchanged) (by decide)

/-- Two inverted bits. -/
theorem Balanced.not_flipBit_flipBit {bs : Bytes} (balanced : Balanced bs)
    (whole : bs.length = size) {p q : Nat} (distinct : p ≠ q) (insideP : p < 8 * size)
    (insideQ : q < 8 * size) : ¬Balanced (flipBit (flipBit bs p) q) := by
  rintro ⟨low, high⟩
  have wholeP : (flipBit bs p).length = size := by rw [length_flipBit, whole]
  rw [weigh_factor_flipBit (by rwa [wholeP]), weigh_factor_flipBit (by rwa [whole]), Int.add_assoc,
    Int.dvd_add_right balanced.1] at low
  rw [weigh_factor_flipBit (by rwa [wholeP]), weigh_factor_flipBit (by rwa [whole]), Int.add_assoc,
    Int.dvd_add_right balanced.2] at high
  have insideP : p < 304 := insideP
  have insideQ : q < 304 := insideQ
  have word : p / 16 = q / 16 := by
    refine word_eq_of_dvd _ (by omega) _ (by omega) (dvd_of_dvd_mul_change bs p ?_)
    -- The second bit is eliminated from the two equations; what is left of the first is the
    -- determinant of the columns times a power of two.
    have eliminated := Int.dvd_sub (low.mul_left (column (q / 16)).2)
      (high.mul_left (column (q / 16)).1)
    convert eliminated using 1
    ring
  -- Both bits are in one word, so its column can be taken out.
  rw [← word, ← Int.mul_add] at low high
  have bit := bit_eq_of_dvd _ (exponent_lt p) _ (exponent_lt q) _ (turn_mem bs p) _
    (turn_mem (flipBit bs p) q) (dvd_of_column _ low high)
  exact distinct (eq_of_exponent_eq word bit)

theorem balanced_encode (h : Header) : Balanced h.encode := by
  refine balanced_of_matching h.length_encode ?_
  have fields : ofLayout h.encode = h.sealed := ofLayout_layout h _
  have cleared : withoutChecksum h.encode = h.layout 0 := withoutChecksum_layout h _
  rw [fields, cleared, sealed]

theorem decode_of_not_balanced {bs : Bytes} (whole : bs.length = size) (damaged : ¬Balanced bs) :
    decode bs = .error .headerChecksumMismatch := by
  have raw : bs.take size = bs := List.take_of_length_le (Nat.le_of_eq whole)
  have long : ¬bs.length < size := Nat.not_lt_of_ge (Nat.le_of_eq whole.symm)
  have mismatch : fletcher32 (withoutChecksum bs) ≠ (ofLayout bs).headerChecksum :=
    fun matching => damaged (balanced_of_matching whole matching)
  simp only [decode, long, raw, mismatch, ne_eq, not_false_eq_true, ↓reduceIte]

theorem decode_encode_ne_mismatch (h : Header) :
    decode h.encode ≠ .error .headerChecksumMismatch := by
  have read := h.decode_append []
  rw [List.append_nil] at read
  rw [read]
  split <;> exact fun mismatch => by cases mismatch

/-- A header that arrives with one or two of its bits inverted, and no other, is refused for its
checksum, whatever its fields are and wherever the bits are, the checksum field included. -/
theorem decode_flipBits (h : Header) {positions : List Nat} (few : positions.length ≤ 2)
    (distinct : positions.Nodup) (inside : ∀ position ∈ positions, position < 8 * size) :
    decode (flipBits h.encode positions) = .error .headerChecksumMismatch ↔ positions ≠ [] := by
  constructor
  · rintro mismatch rfl
    exact h.decode_encode_ne_mismatch mismatch
  intro damaged
  have whole := h.length_encode
  have balanced := balanced_encode h
  refine decode_of_not_balanced (by rw [length_flipBits, whole]) ?_
  match positions with
  | [] => exact absurd rfl damaged
  | [p] => exact balanced.not_flipBit (by rw [whole]; exact inside p (by simp))
  | [p, q] =>
    exact balanced.not_flipBit_flipBit whole (by simpa using distinct) (inside p (by simp))
      (inside q (by simp))

/-- A bit of the checksum field and one of the command. -/
theorem decode_flipBits_command : decode (flipBits (ofCommand 7).encode [53, 240]) =
    .error .headerChecksumMismatch :=
  (decode_flipBits (ofCommand 7) (by decide) (by decide) (by decide)).mpr (by decide)

end MessageTransport.Header
