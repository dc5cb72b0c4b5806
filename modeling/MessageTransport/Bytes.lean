set_option autoImplicit false

namespace MessageTransport

abbrev Bytes := List UInt8

namespace LittleEndian

/-- The `width` low bytes of a number, least significant first. -/
def encode : Nat → Nat → Bytes
  | 0, _ => []
  | width + 1, n => UInt8.ofNat n :: encode width (n / 256)

/-- The first number that takes more than `width` bytes. -/
def limit : Nat → Nat
  | 0 => 1
  | width + 1 => 256 * limit width

/-- The number whose base-256 digits are the given bytes, least significant first. -/
def value : Bytes → Nat
  | [] => 0
  | b :: bs => b.toNat + 256 * value bs

@[simp] theorem length_encode (width n : Nat) : (encode width n).length = width := by
  induction width generalizing n with
  | zero => rfl
  | succ width ih => simp [encode, ih]

theorem value_encode (width n : Nat) : value (encode width n) = n % limit width := by
  induction width generalizing n with
  | zero => simp [encode, value, limit, Nat.mod_one]
  | succ width ih =>
    have low : (UInt8.ofNat n).toNat = n % 256 := UInt8.toNat_ofNat'
    rw [encode, value, limit, ih, low, Nat.mod_mul]

theorem encode_value (bs : Bytes) : encode bs.length (value bs) = bs := by
  induction bs with
  | nil => rfl
  | cons b bs ih =>
    have low : (b.toNat + 256 * value bs) / 256 = value bs := by
      have := b.toNat_lt
      omega
    have head : UInt8.ofNat (b.toNat + 256 * value bs) = b := by
      apply UInt8.toNat_inj.1
      have := b.toNat_lt
      simp only [UInt8.toNat_ofNat']
      omega
    simp only [List.length_cons, encode, value, low, head, ih]

theorem value_lt (bs : Bytes) : value bs < limit bs.length := by
  induction bs with
  | nil => simp [value, limit]
  | cons b bs ih =>
    have := b.toNat_lt
    simp only [value, List.length_cons, limit]
    omega

end LittleEndian

end MessageTransport
