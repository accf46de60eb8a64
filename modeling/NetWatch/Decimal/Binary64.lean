/-!
# Binary floating point

The positive numbers of 53 significant bits, and zero, as exact pairs of a mantissa and a power of
two. `nearest` rounds a fraction to them, a tie to the even mantissa. There is no least and no
greatest exponent.
-/

namespace NetWatch.Decimal

/-- The number `mantissa * 2 ^ exponent`. -/
structure Binary64 where
  mantissa : Nat
  exponent : Int
  deriving DecidableEq

/-- Rounds a quotient to the nearest natural number, a tie to the even one. -/
def roundDiv (num den : Nat) : Nat :=
  let q := num / den
  let r := num % den
  if 2 * r > den ∨ (2 * r = den ∧ q % 2 = 1) then q + 1 else q

namespace Binary64

/-- The least mantissa of 53 bits. -/
def leastMantissa : Nat := 0x10000000000000

/-- A fraction times a power of two, as a fraction. -/
def scale (num den : Nat) (e : Int) : Nat × Nat :=
  if e ≥ 0 then (num * Nat.pow 2 e.toNat, den) else (num, den * Nat.pow 2 (-e).toNat)

/-- The number as a fraction. -/
def fraction (x : Binary64) : Nat × Nat := scale x.mantissa 1 x.exponent

/-- The nearest number to a fraction. -/
def nearest (num den : Nat) : Binary64 :=
  if num = 0 then ⟨0, 0⟩
  else
    let guess : Int := (num.log2 : Int) - (den.log2 : Int) - 52
    let (n, d) := scale num den (-guess)
    -- The quotient has 52, 53 or 54 bits under the first guess.
    let e := if n / d < leastMantissa then guess - 1 else guess
    let (n, d) := scale num den (-e)
    let m := roundDiv n d
    if m = 2 * leastMantissa then ⟨leastMantissa, e + 1⟩ else ⟨m, e⟩

def ofNat (n : Nat) : Binary64 := nearest n 1

def add (x y : Binary64) : Binary64 :=
  let (a, b) := x.fraction
  let (c, d) := y.fraction
  nearest (a * d + c * b) (b * d)

def mul (x y : Binary64) : Binary64 :=
  let (a, b) := x.fraction
  let (c, d) := y.fraction
  nearest (a * c) (b * d)

def div (x y : Binary64) : Binary64 :=
  let (a, b) := x.fraction
  let (c, d) := y.fraction
  nearest (a * d) (b * c)

end Binary64

end NetWatch.Decimal
