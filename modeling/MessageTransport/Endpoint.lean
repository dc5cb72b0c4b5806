import Std.Data.TreeMap

set_option autoImplicit false

namespace MessageTransport

/-- An address of either family; one of the newer family may name the interface it is local to. -/
inductive IpAddress where
  | v4 (bits : UInt32)
  | v6 (high low : UInt64) (scope : UInt32)
deriving DecidableEq, Repr

/-- A network endpoint, written as `a.b.c.d:port`, or as `[groups]:port` with the longest run of
zero groups shortened to `::`. -/
structure Endpoint where
  address : IpAddress
  port : UInt16
deriving DecidableEq, Repr

namespace IpAddress

/-- The parts of a number in a base, most significant first. -/
def digitsBE (base : Nat) : Nat → Nat → List Nat
  | 0, _ => []
  | count + 1, n => digitsBE base count (n / base) ++ [n % base]

def octets (bits : UInt32) : List Nat := digitsBE 256 4 bits.toNat

/-- The eight 16-bit groups of a 128-bit address. -/
def groups (high low : UInt64) : List Nat :=
  digitsBE 65536 4 high.toNat ++ digitsBE 65536 4 low.toNat

def hex (n : Nat) : String := String.ofList (Nat.toDigits 16 n)

def octetsText (bits : UInt32) : String :=
  ".".intercalate ((octets bits).map Nat.repr)

def groupsText (gs : List Nat) : String := ":".intercalate (gs.map hex)

/-- Start and length of the first of the longest runs of zeros; `pos` is where the list starts. -/
def longestZeroRun : Nat → List Nat → Nat × Nat
  | _, [] => (0, 0)
  | pos, g :: gs =>
    let here := ((g :: gs).takeWhile (fun x => x == 0)).length
    let later := longestZeroRun (pos + 1) gs
    if here ≠ 0 ∧ later.2 ≤ here then (pos, here) else later

/-- Two zero groups or more are shortened, a single one is not. -/
def shortened (gs : List Nat) : String :=
  let run := longestZeroRun 0 gs
  if run.2 < 2 then groupsText gs
  else groupsText (gs.take run.1) ++ "::" ++ groupsText (gs.drop (run.1 + run.2))

/-- Addresses that carry one of the older family end in its dotted form. -/
def v6Text (high low : UInt64) : String :=
  if high = 0 ∧ low >>> 32 = 0xffff then "::ffff:" ++ octetsText low.toUInt32
  else shortened (groups high low)

def scopeText (scope : UInt32) : String :=
  if scope = 0 then "" else "%" ++ scope.toNat.repr

end IpAddress

namespace Endpoint

def text (e : Endpoint) : String :=
  match e.address with
  | .v4 bits => IpAddress.octetsText bits ++ ":" ++ e.port.toNat.repr
  | .v6 high low scope =>
    "[" ++ IpAddress.v6Text high low ++ IpAddress.scopeText scope ++ "]:" ++ e.port.toNat.repr

/-- The written form without the port. -/
def hostText (e : Endpoint) : String :=
  match e.address with
  | .v4 bits => IpAddress.octetsText bits
  | .v6 high low scope => IpAddress.v6Text high low ++ IpAddress.scopeText scope

/-- A number below `limit` in decimal digits. -/
def readDecimal? (limit : Nat) (cs : List Char) : Option Nat :=
  if cs ≠ [] ∧ cs.all Char.isDigit then
    let n := cs.foldl (fun n c => 10 * n + (c.toNat - '0'.toNat)) 0
    if n < limit then some n else none
  else none

def hexDigit? (c : Char) : Option Nat :=
  if c.isDigit then some (c.toNat - '0'.toNat)
  else if 'a' ≤ c ∧ c ≤ 'f' then some (c.toNat - 'a'.toNat + 10)
  else if 'A' ≤ c ∧ c ≤ 'F' then some (c.toNat - 'A'.toNat + 10)
  else none

/-- One to four hexadecimal digits. -/
def readGroup? (cs : List Char) : Option Nat :=
  if cs.length = 0 ∨ 4 < cs.length then none
  else (cs.mapM hexDigit?).map (fun ds => ds.foldl (fun n d => 16 * n + d) 0)

/-- The pieces of a text between separators. -/
def pieces (separator : Char) : List Char → List (List Char)
  | [] => [[]]
  | c :: cs =>
    if c = separator then [] :: pieces separator cs
    else match pieces separator cs with
      | [] => [[c]]
      | p :: ps => (c :: p) :: ps

/-- Four octets; one of several digits does not start with zero. -/
def readOctets? (cs : List Char) : Option (List Nat) :=
  let parts := pieces '.' cs
  if parts.length = 4 then
    parts.mapM (fun p => if 1 < p.length ∧ p.head? = some '0' then none else readDecimal? 256 p)
  else none

/-- Colon-separated groups. -/
def readGroups? (cs : List Char) : Option (List Nat) :=
  if cs = [] then some [] else (pieces ':' cs).mapM readGroup?

/-- Groups at the end of an address, where the last piece may be a dotted address that makes two
groups. -/
def readLastGroups? (cs : List Char) : Option (List Nat) :=
  let parts := pieces ':' cs
  match parts.getLast?.bind readOctets? with
  | some [a, b, c, d] =>
    (parts.dropLast.mapM readGroup?).map (fun gs => gs ++ [256 * a + b, 256 * c + d])
  | _ => readGroups? cs

/-- Splits at the first double colon. -/
def splitGap? : List Char → Option (List Char × List Char)
  | [] => none
  | ':' :: ':' :: rest => some ([], rest)
  | c :: rest => (splitGap? rest).map (fun r => (c :: r.1, r.2))

def ofGroups? (gs : List Nat) : Option (UInt64 × UInt64) :=
  if gs.length = 8 then
    let join := fun (parts : List Nat) => UInt64.ofNat (parts.foldl (fun n g => 65536 * n + g) 0)
    some (join (gs.take 4), join (gs.drop 4))
  else none

/-- A gap stands for at least one zero group. -/
def readV6? (cs : List Char) : Option (UInt64 × UInt64) :=
  match splitGap? cs with
  | none => (readLastGroups? cs).bind ofGroups?
  | some (before, after) => do
    let front ← readGroups? before
    let back ← readLastGroups? after
    if front.length + back.length < 8 then
      ofGroups? (front ++ List.replicate (8 - front.length - back.length) 0 ++ back)
    else none

/-- The bracketed part: an address and, behind a percent sign, the scope. -/
def readScoped? (cs : List Char) : Option IpAddress :=
  match pieces '%' cs with
  | [address] => (readV6? address).map (fun a => .v6 a.1 a.2 0)
  | [address, scope] => do
    let a ← readV6? address
    let s ← readDecimal? UInt32.size scope
    some (.v6 a.1 a.2 (UInt32.ofNat s))
  | _ => none

def ofText? (s : String) : Option Endpoint :=
  match s.toList with
  | '[' :: rest => do
    let host := rest.takeWhile (fun c => c ≠ ']')
    match rest.dropWhile (fun c => c ≠ ']') with
    | ']' :: ':' :: port =>
      let address ← readScoped? host
      let p ← readDecimal? UInt16.size port
      some ⟨address, UInt16.ofNat p⟩
    | _ => none
  | cs =>
    match pieces ':' cs with
    | [host, port] => do
      let octets ← readOctets? host
      let p ← readDecimal? UInt16.size port
      some ⟨.v4 (UInt32.ofNat (octets.foldl (fun n o => 256 * n + o) 0)), UInt16.ofNat p⟩
    | _ => none

/-- The numbers that make up an endpoint. -/
def rank (e : Endpoint) : Nat :=
  match e.address with
  | .v4 bits => bits.toNat * UInt16.size + e.port.toNat
  | .v6 high low scope =>
    (((UInt64.size + high.toNat) * UInt64.size + low.toNat) * UInt32.size + scope.toNat) *
      UInt16.size + e.port.toNat

theorem rank_injective {a b : Endpoint} (h : a.rank = b.rank) : a = b := by
  obtain ⟨addrA, portA⟩ := a
  obtain ⟨addrB, portB⟩ := b
  have hpa := portA.toNat_lt
  have hpb := portB.toNat_lt
  cases addrA <;> cases addrB <;> simp only [rank, UInt16.size, UInt32.size, UInt64.size] at h
  case v4.v4 x y =>
    have hx : x = y := UInt32.toNat_inj.1 (by omega)
    have hp : portA = portB := UInt16.toNat_inj.1 (by omega)
    rw [hx, hp]
  case v4.v6 x high low scope =>
    have := x.toNat_lt
    omega
  case v6.v4 high low scope y =>
    have := y.toNat_lt
    omega
  case v6.v6 highA lowA scopeA highB lowB scopeB =>
    have hsa := scopeA.toNat_lt
    have hsb := scopeB.toNat_lt
    have hla := lowA.toNat_lt
    have hlb := lowB.toNat_lt
    have hh : highA = highB := UInt64.toNat_inj.1 (by omega)
    have hl : lowA = lowB := UInt64.toNat_inj.1 (by omega)
    have hs : scopeA = scopeB := UInt32.toNat_inj.1 (by omega)
    have hp : portA = portB := UInt16.toNat_inj.1 (by omega)
    rw [hh, hl, hs, hp]

instance : Ord Endpoint := ⟨compareOn rank⟩

instance : Std.TransOrd Endpoint :=
  inferInstanceAs (Std.TransCmp (compareOn rank))

instance : Std.LawfulEqOrd Endpoint where
  compare_self := Std.ReflOrd.compare_self
  eq_of_compare h := rank_injective (Std.LawfulEqOrd.eq_of_compare h)

end Endpoint

end MessageTransport
