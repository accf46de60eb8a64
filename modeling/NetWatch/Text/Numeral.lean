/-!
# Decimal numerals

A numeral is one or more ASCII digits behind an optional sign. Reading one gives a number only
inside the range that the caller can hold. There is no other spelling: no blank, no separator, no
exponent.
-/

namespace NetWatch.Text

/-- The value of an ASCII digit. -/
def digit? (c : Char) : Option Nat :=
  if '0' ≤ c ∧ c ≤ '9' then some (c.toNat - 48) else none

/-- The number written by one or more digits. -/
def digits? (cs : List Char) : Option Nat :=
  if cs.isEmpty then none
  else cs.foldlM (fun n c => (digit? c).map (n * 10 + ·)) 0

/-- A numeral without sign or with a plus sign, below `bound`. -/
def natural? (bound : Nat) (cs : List Char) : Option Nat :=
  let body := match cs with
    | '+' :: rest => rest
    | _ => cs
  (digits? body).filter (· < bound)

/-- A numeral with an optional sign, from `low` to `high`. -/
def integer? (low high : Int) (cs : List Char) : Option Int :=
  let value : Option Int := match cs with
    | '-' :: rest => (digits? rest).map fun n => -(n : Int)
    | '+' :: rest => (digits? rest).map Int.ofNat
    | _ => (digits? cs).map Int.ofNat
  value.filter fun n => low ≤ n ∧ n ≤ high

/-- A numeral that fits 64 bits with sign. -/
def int64? (cs : List Char) : Option Int :=
  integer? (-9223372036854775808) 9223372036854775807 cs

/-- The digits of `n`, with zeros in front up to `width`. -/
def padded (width n : Nat) : String :=
  let text := toString n
  String.ofList (List.replicate (width - text.length) '0') ++ text

/-- Splits at every `sep`; there is always one more part than separators. -/
def splitAt (sep : Char) : List Char → List (List Char)
  | [] => [[]]
  | c :: rest =>
    if c = sep then [] :: splitAt sep rest
    else match splitAt sep rest with
      | [] => [[c]]
      | part :: parts => (c :: part) :: parts

end NetWatch.Text
