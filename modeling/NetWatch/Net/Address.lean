import NetWatch.Text.Numeral
import NetWatch.Octets

/-!
# Internet addresses

IPv4 and IPv6 addresses and endpoints (an address with a port), their text and its reading.
IPv6 text has one form: the first of the longest runs of two or more zero groups is left out, and
an IPv4-mapped address ends in dotted form.
-/

namespace NetWatch.Net

structure Ipv4 where
  a : UInt8
  b : UInt8
  c : UInt8
  d : UInt8
  deriving DecidableEq, Inhabited

structure Ipv6 where
  groups : Vector UInt16 8
  deriving DecidableEq

inductive IpAddress where
  | v4 (ip : Ipv4)
  | v6 (ip : Ipv6)
  deriving DecidableEq

/-- An address and a port. The scope is zero except for some IPv6 endpoints. -/
structure Endpoint where
  ip : IpAddress
  port : UInt16
  scope : UInt32 := 0
  deriving DecidableEq

namespace Ipv4

def octets (ip : Ipv4) : Octets := [ip.a, ip.b, ip.c, ip.d]

def ofOctets? : Octets → Option Ipv4
  | [a, b, c, d] => some ⟨a, b, c, d⟩
  | _ => none

def text (ip : Ipv4) : String :=
  ".".intercalate (ip.octets.map fun b => toString b.toNat)

def unspecified : Ipv4 := ⟨0, 0, 0, 0⟩
def loopback : Ipv4 := ⟨127, 0, 0, 1⟩

theorem ofOctets?_octets (ip : Ipv4) : ofOctets? ip.octets = some ip := rfl

theorem ofOctets?_eq_some_iff {data : Octets} {ip : Ipv4} :
    ofOctets? data = some ip ↔ data = ip.octets := by
  constructor
  · intro h
    unfold ofOctets? at h
    split at h <;> cases h
    rfl
  · rintro rfl
    rfl

end Ipv4

namespace Ipv6

def ofList? (groups : List UInt16) : Option Ipv6 :=
  if h : groups.length = 8 then some ⟨⟨groups.toArray, by simpa using h⟩⟩ else none

/-- The dotted part of an IPv4-mapped address. -/
def mapped? (ip : Ipv6) : Option Ipv4 :=
  match ip.groups.toList with
  | [0, 0, 0, 0, 0, 0xFFFF, high, low] =>
    some ⟨(high >>> 8).toUInt8, high.toUInt8, (low >>> 8).toUInt8, low.toUInt8⟩
  | _ => none

/-- One group in lower-case hexadecimal without leading zeros. -/
def groupText (g : UInt16) : String :=
  let n := g.toNat
  let digits := [n / 4096, n / 256 % 16, n / 16 % 16, n % 16].map Octets.hexDigit
  match digits.dropWhile (· == '0') with
  | [] => "0"
  | shown => String.ofList shown

def groupsText (groups : List UInt16) : String :=
  ":".intercalate (groups.map groupText)

/-- The first of the longest runs of zero groups: where it starts and how long it is. -/
def longestZeros (groups : List UInt16) : Nat × Nat :=
  let runs := (List.range groups.length).map fun i => (i, ((groups.drop i).takeWhile (· == 0)).length)
  runs.foldl (fun best run => if run.2 > best.2 then run else best) (0, 0)

def text (ip : Ipv6) : String :=
  match ip.mapped? with
  | some v4 => "::ffff:" ++ v4.text
  | none =>
    let groups := ip.groups.toList
    let (start, count) := longestZeros groups
    if count > 1 then
      groupsText (groups.take start) ++ "::" ++ groupsText (groups.drop (start + count))
    else groupsText groups

end Ipv6

def IpAddress.text : IpAddress → String
  | .v4 ip => ip.text
  | .v6 ip => ip.text

def IpAddress.isV6 : IpAddress → Bool
  | .v4 _ => false
  | .v6 _ => true

def Endpoint.text (e : Endpoint) : String :=
  match e.ip with
  | .v4 ip => ip.text ++ ":" ++ toString e.port.toNat
  | .v6 ip =>
    let scope := if e.scope = 0 then "" else "%" ++ toString e.scope.toNat
    "[" ++ ip.text ++ scope ++ "]:" ++ toString e.port.toNat

/-! ## Reading -/

/-- A reader of the front of a text. A reader that fails takes nothing. -/
abbrev Scan := StateT (List Char) Option

namespace Scan

def char (c : Char) : Scan Unit := fun
  | d :: rest => if d = c then some ((), rest) else none
  | [] => none

/-- The number written by all digits that stand here, at most `width` of them, below `bound`. -/
def number (radix : Nat) (width : Option Nat) (leadingZeros : Bool) (bound : Nat) : Scan Nat :=
  fun cs =>
    let value c := (Octets.hexValue? c).filter (· < radix)
    let digits := (cs.takeWhile fun c => (value c).isSome).filterMap value
    let n := digits.foldl (fun n d => n * radix + d) 0
    if digits.isEmpty || width.any (· < digits.length) || n ≥ bound then none
    else if !leadingZeros && digits.length > 1 && digits.head? == some 0 then none
    else some (n, cs.drop digits.length)

/-- One of a series: every member but the first has `sep` in front. -/
def member (sep : Char) (first : Bool) (item : Scan α) : Scan α := do
  if !first then char sep
  item

def ipv4 : Scan Ipv4 := do
  let part first := member '.' first (number 10 (some 3) false 256)
  let a ← part true
  let b ← part false
  let c ← part false
  let d ← part false
  return ⟨UInt8.ofNat a, UInt8.ofNat b, UInt8.ofNat c, UInt8.ofNat d⟩

/-- Up to `slots` groups, and whether the last two were given in dotted form. -/
def groups (first : Bool) : (slots : Nat) → Scan (List UInt16 × Bool)
  | 0 => pure ([], false)
  | slots + 1 =>
    (do
      if slots = 0 then failure
      let ip ← member ':' first ipv4
      let pair (x y : UInt8) := UInt16.ofNat (x.toNat * 256 + y.toNat)
      return ([pair ip.a ip.b, pair ip.c ip.d], true)) <|>
    (do
      let g ← member ':' first (number 16 (some 4) true 65536)
      let (rest, dotted) ← groups false slots
      return (UInt16.ofNat g :: rest, dotted)) <|>
    pure ([], false)

def ipv6 : Scan Ipv6 := do
  let (front, dotted) ← groups true 8
  if front.length = 8 then Ipv6.ofList? front
  else
    if dotted then failure
    char ':'
    char ':'
    let (back, _) ← groups true (8 - (front.length + 1))
    Ipv6.ofList? (front ++ List.replicate (8 - front.length - back.length) 0 ++ back)

def ip : Scan IpAddress :=
  (IpAddress.v4 <$> ipv4) <|> (IpAddress.v6 <$> ipv6)

def port : Scan UInt16 := do
  char ':'
  UInt16.ofNat <$> number 10 none true 65536

def scope : Scan UInt32 := do
  char '%'
  UInt32.ofNat <$> number 10 none true 4294967296

def endpoint : Scan Endpoint :=
  (do
    let ip ← ipv4
    return ⟨.v4 ip, ← port, 0⟩) <|>
  (do
    char '['
    let ip ← ipv6
    let scope ← scope <|> pure 0
    char ']'
    return ⟨.v6 ip, ← port, scope⟩)

/-- What a reader finds in a text that it takes whole. -/
def whole (item : Scan α) (s : String) : Option α :=
  match item.run s.toList with
  | some (a, []) => some a
  | _ => none

end Scan

def Ipv4.ofText? (s : String) : Option Ipv4 := Scan.whole Scan.ipv4 s
def IpAddress.ofText? (s : String) : Option IpAddress := Scan.whole Scan.ip s
def Endpoint.ofText? (s : String) : Option Endpoint := Scan.whole Scan.endpoint s

end NetWatch.Net
