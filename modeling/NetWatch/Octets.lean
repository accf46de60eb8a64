/-!
# Octet strings

Wire data is a list of octets, first octet first. `toNat` reads one as a big-endian number,
`ofNat` writes a number in a fixed width and `digits` in the shortest.
-/

namespace NetWatch

/-- A string of octets, first octet first. -/
abbrev Octets := List UInt8

namespace Octets

/-- The number whose base-256 digits are the octets, most significant first. -/
def toNat (content : Octets) : Nat :=
  content.foldl (fun n b => n * 256 + b.toNat) 0

/-- The `width` low base-256 digits of `n`, most significant first. -/
def ofNat : (width : Nat) → (n : Nat) → Octets
  | 0, _ => []
  | width + 1, n => ofNat width (n / 256) ++ [UInt8.ofNat (n % 256)]

/-- The base-256 digits of `n` without leading zeros; none for zero. -/
def digits (n : Nat) : Octets :=
  if n = 0 then [] else digits (n / 256) ++ [UInt8.ofNat (n % 256)]
termination_by n
decreasing_by omega

/-- Replaces the octets from `offset` on by `bytes`, keeping the length where they fit. -/
def overwrite (buf : Octets) (offset : Nat) (bytes : Octets) : Octets :=
  buf.take offset ++ bytes ++ buf.drop (offset + bytes.length)

/-! ## Hexadecimal text -/

/-- A digit below 16, in lower case. -/
def hexDigit (n : Nat) : Char :=
  if n < 10 then Char.ofNat (48 + n) else Char.ofNat (87 + n)

/-- A digit below 16, in upper case. -/
def hexDigitUpper (n : Nat) : Char :=
  if n < 10 then Char.ofNat (48 + n) else Char.ofNat (55 + n)

/-- Two lower-case digits per octet and nothing between them. -/
def hex (data : Octets) : String :=
  String.ofList (data.flatMap fun b => [hexDigit (b.toNat / 16), hexDigit (b.toNat % 16)])

/-- Two upper-case digits. -/
def hexPair (b : UInt8) : String :=
  String.ofList [hexDigitUpper (b.toNat / 16), hexDigitUpper (b.toNat % 16)]

/-- Upper-case pairs, each followed by a space. -/
def spacedHex (data : Octets) : String :=
  String.ofList (data.flatMap fun b =>
    [hexDigitUpper (b.toNat / 16), hexDigitUpper (b.toNat % 16), ' '])

/-- The value of a hexadecimal digit of either case. -/
def hexValue? (c : Char) : Option Nat :=
  if '0' ≤ c ∧ c ≤ '9' then some (c.toNat - 48)
  else if 'a' ≤ c ∧ c ≤ 'f' then some (c.toNat - 87)
  else if 'A' ≤ c ∧ c ≤ 'F' then some (c.toNat - 55)
  else none

/-- Reads pairs of hexadecimal digits. -/
def ofHex? : List Char → Option Octets
  | [] => some []
  | [_] => none
  | high :: low :: rest => do
    let h ← hexValue? high
    let l ← hexValue? low
    let tail ← ofHex? rest
    some (UInt8.ofNat (16 * h + l) :: tail)

/-! ## Small facts -/

@[simp] theorem length_ofNat (width n : Nat) : (ofNat width n).length = width := by
  induction width generalizing n with
  | zero => rfl
  | succ width ih => simp [ofNat, ih]

@[simp] theorem toNat_nil : toNat [] = 0 := rfl

theorem toNat_append_singleton (content : Octets) (b : UInt8) :
    toNat (content ++ [b]) = toNat content * 256 + b.toNat := by
  simp [toNat, List.foldl_append]

theorem toNat_digits (n : Nat) : toNat (digits n) = n := by
  induction n using Nat.strongRecOn with
  | ind n ih =>
    rw [digits]
    split
    · simp_all
    · rw [toNat_append_singleton, ih (n / 256) (by omega), UInt8.toNat_ofNat']
      omega

end Octets

end NetWatch
