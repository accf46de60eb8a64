import NetWatch.Decimal.Binary64

/-!
# Decimal text of binary numbers

`shortest` gives the fewest digits that read back as the same number, and of those the nearest.
`toPlaces` gives a fixed number of places, rounded from the exact value.
-/

namespace NetWatch.Decimal

/-- The number `digits * 10 ^ exponent`. -/
structure Digits where
  digits : Nat
  exponent : Int
  deriving DecidableEq

/-- A fraction times a power of ten, as a fraction. -/
def scaleTen (num den : Nat) (e : Int) : Nat × Nat :=
  if e ≥ 0 then (num * Nat.pow 10 e.toNat, den) else (num, den * Nat.pow 10 (-e).toNat)

/-- The places before the point of a fraction, or minus the zeros behind it. -/
def magnitude (num den : Nat) : Int :=
  if den ≤ num then ((toString (num / den)).length : Int)
  else 1 - ((toString ((den - 1) / num)).length : Int)

namespace Binary64

/-- Whether a decimal reads back as the number: it lies between the middles to both neighbours, and
on a middle only if the mantissa is even. The gap below a power of two is half as wide. -/
def readsBack (x : Binary64) (d : Digits) : Bool :=
  let (a, b) := scaleTen d.digits 1 d.exponent
  -- All in quarters of the last place.
  let (p, q) := scale (4 * a) b (-x.exponent)
  let low := 4 * x.mantissa - (if x.mantissa = leastMantissa then 1 else 2)
  let high := 4 * x.mantissa + 2
  if x.mantissa % 2 = 0 then low * q ≤ p && p ≤ high * q else low * q < p && p < high * q

/-- How far a decimal is from the number, over a common denominator for all decimals of the same
exponent. -/
def distance (x : Binary64) (d : Digits) : Nat :=
  let (a, b) := scaleTen d.digits 1 d.exponent
  let (c, e) := x.fraction
  max (a * e) (c * b) - min (a * e) (c * b)

/-- The best decimal with the given exponent that reads back, if there is one. -/
def onGrid? (x : Binary64) (exponent : Int) : Option Digits :=
  let (a, b) := x.fraction
  let (n, d) := scaleTen a b (-exponent)
  let below : Digits := ⟨n / d, exponent⟩
  let above : Digits := ⟨n / d + 1, exponent⟩
  match x.readsBack below, x.readsBack above with
  | true, true =>
    if x.distance above < x.distance below ∨
        (x.distance above = x.distance below ∧ below.digits % 2 = 1) then some above else some below
  | true, false => some below
  | false, true => some above
  | false, false => none

/-- The first grid on which a decimal reads back, from coarse to fine. -/
def firstGrid (x : Binary64) (exponent : Int) : (fuel : Nat) → Digits
  | 0 => ⟨0, 0⟩
  | fuel + 1 => match x.onGrid? exponent with
    | some d => d
    | none => firstGrid x (exponent - 1) fuel

/-- The fewest digits that read back. Seventeen are always enough. -/
def shortest (x : Binary64) : Digits :=
  if x.mantissa = 0 then ⟨0, 0⟩
  else
    let (a, b) := x.fraction
    x.firstGrid (magnitude a b) 20

/-- With `places` digits behind the point; a tie goes to the even last digit. -/
def toPlaces (x : Binary64) (places : Nat) : String :=
  let (a, b) := x.fraction
  let n := roundDiv (a * Nat.pow 10 places) b
  let text := toString n
  let padded := String.ofList (List.replicate (places + 1 - text.length) '0') ++ text
  let whole := padded.toList.take (padded.length - places)
  let rest := padded.toList.drop (padded.length - places)
  if places = 0 then text else String.ofList (whole ++ '.' :: rest)

end Binary64

/-- Where a decimal text leaves positional notation. -/
structure Layout where
  /-- The greatest and the least number of places before the point that are written out. -/
  most : Int
  least : Int
  deriving DecidableEq

/-- Drops zeros at the end of the digits. -/
def Digits.trim : (fuel : Nat) → Digits → Digits
  | 0, d => d
  | fuel + 1, d =>
    if d.digits ≠ 0 ∧ d.digits % 10 = 0 then trim fuel ⟨d.digits / 10, d.exponent + 1⟩ else d

/-- Writes a decimal with a digit on each side of the point, or with an exponent and no sign or
point that is not needed. -/
def Digits.text (layout : Layout) (d : Digits) : String :=
  let d := d.trim 20
  if d.digits = 0 then "0.0"
  else
    let ds := (toString d.digits).toList
    let count : Int := ds.length
    let point := count + d.exponent
    let zeros (n : Int) : List Char := List.replicate n.toNat '0'
    if 0 ≤ d.exponent ∧ point ≤ layout.most then String.ofList (ds ++ zeros d.exponent) ++ ".0"
    else if 0 < point ∧ point ≤ layout.most then
      String.ofList (ds.take point.toNat ++ '.' :: ds.drop point.toNat)
    else if layout.least ≤ point ∧ point ≤ 0 then
      String.ofList ('0' :: '.' :: zeros (-point) ++ ds)
    else
      let mantissa := match ds with
        | first :: second :: rest => first :: '.' :: second :: rest
        | short => short
      String.ofList mantissa ++ "e" ++ toString (point - 1)

end NetWatch.Decimal
