import NetWatch.Error

/-!
# Object identifiers

An object identifier is a list of 32-bit arcs. Any list may be built; `validate` tells which ones
the standard allows: at most 128 arcs, the first at most 2, and a second below 40 behind 0 or 1.
-/

namespace NetWatch

/-- A list of arcs. -/
structure Oid where
  arcs : List UInt32
  deriving DecidableEq, Inhabited

namespace Oid

/-- The most arcs that an identifier may have. -/
def maxArcs : Nat := 128

def length (oid : Oid) : Nat := oid.arcs.length

def isEmpty (oid : Oid) : Bool := oid.arcs.isEmpty

/-- Whether `front` begins this identifier; an identifier begins itself. -/
def startsWith (oid front : Oid) : Bool := front.arcs.isPrefixOf oid.arcs

def child (oid : Oid) (arc : UInt32) : Oid := ⟨oid.arcs ++ [arc]⟩

/-- Lexicographic order of the arcs. -/
def compareArcs : List UInt32 → List UInt32 → Ordering
  | [], [] => .eq
  | [], _ :: _ => .lt
  | _ :: _, [] => .gt
  | a :: as, b :: bs => if a < b then .lt else if b < a then .gt else compareArcs as bs

def compare (a b : Oid) : Ordering := compareArcs a.arcs b.arcs

/-- The rules on the first two arcs. -/
def checkFirst : List UInt32 → Except OidProblem Unit
  | [] => .ok ()
  | first :: rest =>
    if first > 2 then .error (.invalidFirstArc first)
    else match rest with
      | [] => .ok ()
      | second :: _ =>
        if first < 2 ∧ second ≥ 40 then .error (.invalidSecondArc first second) else .ok ()

/-- The count of arcs is checked before the first arcs. -/
def validate (oid : Oid) : Except OidProblem Unit :=
  if oid.length > maxArcs then .error (.tooManyArcs oid.length maxArcs) else checkFirst oid.arcs

/-- The rules of the standard: at most 128 arcs, the first at most 2, and behind 0 or 1 a second
below 40. -/
def IsValid (oid : Oid) : Prop :=
  oid.length ≤ maxArcs ∧ (∀ a rest, oid.arcs = a :: rest → a ≤ 2) ∧
    ∀ a b rest, oid.arcs = a :: b :: rest → a < 2 → b < 40

theorem checkFirst_eq_ok_iff (arcs : List UInt32) :
    checkFirst arcs = .ok () ↔ (∀ a rest, arcs = a :: rest → a ≤ 2) ∧
      ∀ a b rest, arcs = a :: b :: rest → a < 2 → b < 40 := by
  match arcs with
  | [] => simp [checkFirst]
  | [a] => by_cases h : a > 2 <;> simp_all [checkFirst]
  | a :: b :: rest =>
    have pair : (∀ x y r, a :: b :: rest = x :: y :: r → x < 2 → y < 40) ↔ (a < 2 → b < 40) :=
      ⟨fun h => h a b rest rfl, by rintro h x y r ⟨⟩; exact h⟩
    have head : (∀ x r, a :: b :: rest = x :: r → x ≤ 2) ↔ a ≤ 2 :=
      ⟨fun h => h a _ rfl, by rintro h x r ⟨⟩; exact h⟩
    rw [pair, head, checkFirst]
    split
    · next h => exact ⟨fun h' => (by cases h'), fun h' => absurd h (UInt32.not_lt.2 h'.1)⟩
    · next h =>
      have h := UInt32.not_lt.1 h
      split
      · next h' => exact ⟨fun e => (by cases e), fun e => absurd (e.2 h'.1) (UInt32.not_lt.2 h'.2)⟩
      · next h' =>
        exact ⟨fun _ => ⟨h, fun ha => UInt32.not_le.1 fun hb => h' ⟨ha, hb⟩⟩, fun _ => rfl⟩

/-- `validate` accepts what the standard allows. -/
theorem validate_eq_ok_iff (oid : Oid) : oid.validate = .ok () ↔ oid.IsValid := by
  unfold validate IsValid
  rw [← checkFirst_eq_ok_iff]
  by_cases h : oid.length > maxArcs
  · rw [if_pos h]
    exact ⟨fun e => (by cases e), fun e => absurd h (Nat.not_lt.2 e.1)⟩
  · rw [if_neg h]
    exact ⟨fun e => ⟨Nat.not_lt.1 h, e⟩, fun e => e.2⟩

/-- Arcs in decimal with dots between them; nothing for the empty identifier. -/
def text (oid : Oid) : String :=
  ".".intercalate (oid.arcs.map fun arc => toString arc.toNat)

/-- The name used when identifiers are inspected. -/
def inspect (oid : Oid) : String := s!"Oid({oid.text})"

end Oid

end NetWatch
