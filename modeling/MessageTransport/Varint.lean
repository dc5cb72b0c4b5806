import MessageTransport.Bytes
import MessageTransport.ErrorCode

set_option autoImplicit false

namespace MessageTransport.Varint

def maxGroups32 : Nat := 5

def maxGroups64 : Nat := 10

theorem shiftRight_lt {v : UInt64} (h : ¬ v < 0x80) : (v >>> 7).toNat < v.toNat := by
  have big : 128 ≤ v.toNat := by
    have := UInt64.le_iff_toNat_le.1 (UInt64.not_lt.1 h)
    simpa using this
  have shifted : (v >>> 7).toNat = v.toNat / 128 := by
    simp [UInt64.toNat_shiftRight, Nat.shiftRight_eq_div_pow]
  omega

/-- The number of groups that hold a value. -/
def encodedLength (v : UInt64) : Nat :=
  if v < 0x80 then 1 else encodedLength (v >>> 7) + 1
termination_by v.toNat
decreasing_by exact shiftRight_lt (by assumption)

/-- Groups of seven bits, least significant first, every byte but the last marked by its top bit. -/
def encode (v : UInt64) : Bytes :=
  if v < 0x80 then [v.toUInt8]
  else ((v.toUInt8 &&& 0x7f) ||| 0x80) :: encode (v >>> 7)
termination_by v.toNat
decreasing_by exact shiftRight_lt (by assumption)

/-- Reads at most the given number of groups. Bits that fall outside the integer are dropped. -/
def decode : Nat → Bytes → Except ErrorCode (UInt64 × Bytes)
  | 0, _ => .error .badVint
  | _ + 1, [] => .error .responseTruncated
  | groups + 1, b :: bs =>
    if b &&& 0x80 = 0 then .ok ((b &&& 0x7f).toUInt64, bs)
    else match decode groups bs with
      | .error e => .error e
      | .ok (high, rest) => .ok ((b &&& 0x7f).toUInt64 ||| high <<< 7, rest)

end MessageTransport.Varint
