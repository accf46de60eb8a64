import NetWatch.Oid.Basic

/-!
# Content octets

The first two arcs share one subidentifier, `first * 40 + second`; every other arc is one of its
own. A subidentifier is written in base 128 with the top bit set on all octets but its last.
-/

namespace NetWatch.Oid

/-- The base-128 digits of `n` with their top bits set; none for zero. -/
def continuation (n : Nat) : Octets :=
  if n = 0 then [] else continuation (n / 128) ++ [UInt8.ofNat (0x80 + n % 128)]
termination_by n
decreasing_by omega

/-- One subidentifier in its shortest form. -/
def subidentifier (n : Nat) : Octets :=
  continuation (n / 128) ++ [UInt8.ofNat (n % 128)]

/-- The subidentifiers of an identifier. A lone arc is written as if a zero followed. -/
def subidentifiers (oid : Oid) : List Nat :=
  match oid.arcs with
  | [] => []
  | [a] => [a.toNat * 40]
  | a :: b :: rest => (a.toNat * 40 + b.toNat) :: rest.map UInt32.toNat

def content (oid : Oid) : Octets :=
  oid.subidentifiers.flatMap subidentifier

/-- Values beyond this are refused while they are being read. -/
def subidentifierMax : Nat := 4294967295 + 80

/-- The arcs that one subidentifier stands for. -/
def arcsOf? (isFirst : Bool) (n : Nat) : Option (List UInt32) :=
  let arc? (m : Nat) : Option UInt32 := if m < UInt32.size then some (UInt32.ofNat m) else none
  if isFirst then
    if n < 40 then (arc? n).map ([0, ·])
    else if n < 80 then (arc? (n - 40)).map ([1, ·])
    else (arc? (n - 80)).map ([2, ·])
  else (arc? n).map ([·])

/-- Reads subidentifiers behind `arcs`. `begun` says that `acc` holds the front of one. -/
def readArcs (arcs : List UInt32) (acc : Nat) (begun : Bool) : Octets → Except OidProblem Oid
  | [] => if begun then .error .invalidArc else .ok ⟨arcs⟩
  | b :: rest =>
    let acc := acc * 128 + b.toNat % 128
    if !begun && b == 0x80 then .error .invalidArc
    else if acc > subidentifierMax then .error .invalidArc
    else if b ≥ 0x80 then readArcs arcs acc true rest
    else match arcsOf? arcs.isEmpty acc with
      | none => .error .invalidArc
      | some more =>
        let all := arcs ++ more
        if all.length > maxArcs then .error (.tooManyArcs all.length maxArcs)
        else readArcs all 0 false rest

/-- Reads content octets. A subidentifier may not begin with a zero digit and must end. -/
def ofContent (data : Octets) : Except OidProblem Oid :=
  readArcs [] 0 false data

end NetWatch.Oid
