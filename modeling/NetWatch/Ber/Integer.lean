import NetWatch.Octets

/-!
# Integer contents

The content of an integer is its two's-complement form. Writing takes the shortest, in which the
first nine bits are not all equal. `IsShortest` says so without reference to the writer.
-/

namespace NetWatch.Ber.Integer

/-- The two's-complement value of a content, zero for the empty one. -/
def value (content : Octets) : Int :=
  match content with
  | [] => 0
  | first :: _ =>
    let n : Int := Octets.toNat content
    if first < 0x80 then n else n - Nat.pow 256 content.length

/-- The shortest two's-complement content of `n`. -/
def content (n : Int) : Octets :=
  if -128 ≤ n ∧ n < 128 then [UInt8.ofNat (n % 256).toNat]
  else content (n / 256) ++ [UInt8.ofNat (n % 256).toNat]
termination_by n.natAbs
decreasing_by omega

/-- No octet could be left out in front: there is one, and the first nine bits differ. -/
def IsShortest : Octets → Prop
  | [] => False
  | [_] => True
  | first :: second :: _ => ¬(first = 0 ∧ second < 0x80) ∧ ¬(first = 0xFF ∧ 0x80 ≤ second)

instance : DecidablePred IsShortest := fun content => by
  match content with
  | [] => exact isFalse id
  | [_] => exact isTrue trivial
  | _ :: _ :: _ => unfold IsShortest; infer_instance

end NetWatch.Ber.Integer
