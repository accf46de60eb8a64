import Mathlib
import NetWatch.Text.Numeral

/-!
# Numerals and what they stand for

`IsDecimal` and `IsNumeral` say which texts stand for a natural number, and `natural?` reads just
those, below its bound. `IsInteger` adds the minus sign, and `integer?` reads just those, between
its bounds. The digits that a number is shown with are such a text.
-/

namespace NetWatch.Text

structure IsDecimal (cs : List Char) (n : Nat) : Prop where
  ne_nil : cs ≠ []
  isDigit : ∀ c ∈ cs, c.isDigit = true
  value : Nat.ofDigitChars 10 cs 0 = n

/-- Digits, with or without a plus sign in front. -/
inductive IsNumeral : List Char → Nat → Prop where
  | plain {cs : List Char} {n : Nat} : IsDecimal cs n → IsNumeral cs n
  | signed {cs : List Char} {n : Nat} : IsDecimal cs n → IsNumeral ('+' :: cs) n

/-- A numeral, or digits behind a minus sign. -/
inductive IsInteger : List Char → Int → Prop where
  | natural {cs : List Char} {n : Nat} : IsNumeral cs n → IsInteger cs n
  | negative {cs : List Char} {n : Nat} : IsDecimal cs n → IsInteger ('-' :: cs) (-n)

variable {c sep : Char} {cs : List Char} {n bound : Nat} {low high i : Int}

/-! ## Reading -/

theorem digit?_eq (c : Char) :
    digit? c = if c.isDigit = true then some (c.toNat - '0'.toNat) else none := by
  have hdigit : ('0' ≤ c ∧ c ≤ '9') ↔ c.isDigit = true := by
    simp [Char.isDigit, Char.le_def]
  have hzero : '0'.toNat = 48 := by decide
  rw [digit?, hzero]
  exact if_congr hdigit rfl rfl

theorem foldlM_digit?_eq (cs : List Char) (n : Nat) :
    cs.foldlM (fun n c => (digit? c).map (n * 10 + ·)) n =
      if ∀ c ∈ cs, c.isDigit = true then some (Nat.ofDigitChars 10 cs n) else none := by
  induction cs generalizing n with
  | nil => simp
  | cons c cs ih =>
    by_cases hc : c.isDigit = true
    · have hall : (∀ d ∈ cs, d.isDigit = true) ↔ ∀ d ∈ c :: cs, d.isDigit = true := by
        rw [List.forall_mem_cons, and_iff_right hc]
      rw [List.foldlM_cons, digit?_eq, if_pos hc, Nat.ofDigitChars_cons, Nat.mul_comm 10 n]
      exact (ih _).trans (if_congr hall rfl rfl)
    · have hnot : ¬∀ d ∈ c :: cs, d.isDigit = true := fun h => hc (h c List.mem_cons_self)
      rw [List.foldlM_cons, digit?_eq, if_neg hc, if_neg hnot]
      rfl

theorem digits?_eq_some_iff : digits? cs = some n ↔ IsDecimal cs n := by
  unfold digits?
  rw [foldlM_digit?_eq]
  constructor
  · intro h
    split at h
    · cases h
    · next hne =>
      split at h
      · next hall => exact ⟨fun hnil => hne (by rw [hnil]; rfl), hall, Option.some.inj h⟩
      · cases h
  · rintro ⟨hne, hall, rfl⟩
    rw [if_neg (by rwa [List.isEmpty_iff]), if_pos hall]

/-- A plus sign is no digit, so a numeral has one reading. -/
theorem isNumeral_cons_plus_iff : IsNumeral ('+' :: cs) n ↔ IsDecimal cs n := by
  constructor
  · intro h
    cases h with
    | plain h => exact absurd (h.isDigit '+' List.mem_cons_self) (by decide)
    | signed h => exact h
  · exact .signed

theorem isNumeral_iff_of_ne_plus (h : ∀ rest, cs ≠ '+' :: rest) :
    IsNumeral cs n ↔ IsDecimal cs n := by
  constructor
  · intro hcs
    cases hcs with
    | plain hcs => exact hcs
    | signed => exact absurd rfl (h _)
  · exact .plain

theorem natural?_eq_some_iff : natural? bound cs = some n ↔ IsNumeral cs n ∧ n < bound := by
  unfold natural?
  rw [Option.filter_eq_some_iff, decide_eq_true_iff]
  split
  · rw [digits?_eq_some_iff, isNumeral_cons_plus_iff]
  · next h => rw [digits?_eq_some_iff, isNumeral_iff_of_ne_plus h]

theorem map_natural?_eq_some_iff {ofNat : Nat → α} {toNat : α → Nat} {a : α}
    (hlt : ∀ a, toNat a < bound) (hofNat : ∀ a, ofNat (toNat a) = a)
    (htoNat : ∀ {n}, n < bound → toNat (ofNat n) = n) :
    (natural? bound cs).map ofNat = some a ↔ IsNumeral cs (toNat a) := by
  rw [Option.map_eq_some_iff]
  constructor
  · rintro ⟨n, hn, rfl⟩
    obtain ⟨hcs, hbound⟩ := natural?_eq_some_iff.1 hn
    rwa [htoNat hbound]
  · intro hcs
    exact ⟨toNat a, natural?_eq_some_iff.2 ⟨hcs, hlt a⟩, hofNat a⟩

theorem not_isNumeral_cons_minus : ¬ IsNumeral ('-' :: cs) n := by
  rintro ⟨h⟩
  exact absurd (h.isDigit '-' List.mem_cons_self) (by decide)

theorem isInteger_cons_minus_iff :
    IsInteger ('-' :: cs) i ↔ ∃ n : Nat, IsDecimal cs n ∧ i = -n := by
  constructor
  · intro h
    cases h with
    | natural h => exact absurd h not_isNumeral_cons_minus
    | negative h => exact ⟨_, h, rfl⟩
  · rintro ⟨n, h, rfl⟩
    exact .negative h

theorem isInteger_iff_of_ne_minus (h : ∀ rest, cs ≠ '-' :: rest) :
    IsInteger cs i ↔ ∃ n : Nat, IsNumeral cs n ∧ i = n := by
  constructor
  · intro hcs
    cases hcs with
    | natural hcs => exact ⟨_, hcs, rfl⟩
    | negative => exact absurd rfl (h _)
  · rintro ⟨n, hcs, rfl⟩
    exact .natural hcs

theorem map_digits?_eq_some_iff {f : Nat → Int} :
    (digits? cs).map f = some i ↔ ∃ n : Nat, IsDecimal cs n ∧ i = f n := by
  simp only [Option.map_eq_some_iff, digits?_eq_some_iff, eq_comm (a := i)]

theorem integer?_eq_some_iff :
    integer? low high cs = some i ↔ IsInteger cs i ∧ low ≤ i ∧ i ≤ high := by
  unfold integer?
  simp only [Option.filter_eq_some_iff, decide_eq_true_iff]
  refine and_congr_left fun _ => ?_
  split
  · next rest =>
    rw [isInteger_cons_minus_iff, ← map_digits?_eq_some_iff (f := fun n => -n)]
    cases digits? rest <;> rfl
  · rw [isInteger_iff_of_ne_minus (by rintro rest ⟨⟩), map_digits?_eq_some_iff]
    simp only [isNumeral_cons_plus_iff, Int.ofNat_eq_natCast]
  · next hminus hplus =>
    rw [isInteger_iff_of_ne_minus hminus, map_digits?_eq_some_iff]
    simp only [isNumeral_iff_of_ne_plus hplus, Int.ofNat_eq_natCast]

theorem int64?_eq_some_iff : int64? cs = some i ↔ IsInteger cs i ∧ -2 ^ 63 ≤ i ∧ i < 2 ^ 63 :=
  integer?_eq_some_iff.trans (and_congr_right fun _ => and_congr_right fun _ => by omega)

theorem splitAt_eq_splitOn (sep : Char) (cs : List Char) : splitAt sep cs = cs.splitOn sep := by
  induction cs with
  | nil => rfl
  | cons c cs ih =>
    obtain ⟨part, parts, hparts⟩ := List.exists_cons_of_ne_nil (List.splitOn_ne_nil sep cs)
    rw [splitAt, ih, List.splitOn_cons_eq_if_modifyHead, hparts]
    by_cases hc : c = sep <;> simp [hc]

/-! ## Showing -/

theorem isDecimal_toDigits (n : Nat) : IsDecimal (Nat.toDigits 10 n) n where
  ne_nil := Nat.toDigits_ne_nil
  isDigit _ hc := Nat.isDigit_of_mem_toDigits (by decide) (by decide) hc
  value := Nat.ofDigitChars_ten_toDigits

/-- Between separators that are no digits, the digits of numbers stay apart. -/
theorem splitOn_intercalate_toDigits (hsep : sep.isDigit = false) {ns : List Nat} (hne : ns ≠ []) :
    ([sep].intercalate (ns.map (Nat.toDigits 10))).splitOn sep = ns.map (Nat.toDigits 10) := by
  refine List.splitOn_intercalate sep ?_ ?_
  · rintro part hpart hmem
    obtain ⟨n, -, rfl⟩ := List.mem_map.1 hpart
    rw [(isDecimal_toDigits n).isDigit sep hmem] at hsep
    cases hsep
  · rwa [Ne, List.map_eq_nil_iff]

end NetWatch.Text
