import Mathlib.Data.List.DropRight
import NetWatch.Text.Blank

/-!
# Texts without the blanks at their ends

`IsTrimmed` says what is left of a text without the blanks at its ends, and there is one such text
(`isTrimmed_iff`). Digits are no blanks, so there is nothing to take away from a number.
-/

namespace NetWatch.Text

/-- The text between the blanks at both ends of `s`. -/
structure IsTrimmed (s t : List Char) : Prop where
  between : ∃ before after, s = before ++ t ++ after ∧
    (∀ c ∈ before, isBlank c) ∧ ∀ c ∈ after, isBlank c
  first : ∀ c ∈ t.head?, isBlank c = false
  last : ∀ c ∈ t.getLast?, isBlank c = false

variable {p : Char → Bool} {cs s t after : List Char} {c : Char}

/-! ## Dropping from an end -/

theorem dropEndWhile_eq_rdropWhile (p : Char → Bool) (cs : List Char) :
    dropEndWhile p cs = cs.rdropWhile p := rfl

theorem rdropWhile_append_of_pos (h : ∀ c ∈ after, p c) :
    (cs ++ after).rdropWhile p = cs.rdropWhile p := by
  rw [List.rdropWhile, List.reverse_append, List.dropWhile_append_of_pos (by simpa using h),
    List.rdropWhile]

theorem dropWhile_eq_self_of_head? (h : ∀ c ∈ cs.head?, p c = false) : cs.dropWhile p = cs := by
  cases cs with
  | nil => rfl
  | cons c cs => exact List.dropWhile_cons_of_neg (by simpa using h c rfl)

theorem rdropWhile_eq_self_of_getLast? (h : ∀ c ∈ cs.getLast?, p c = false) :
    cs.rdropWhile p = cs := by
  rw [List.rdropWhile, dropWhile_eq_self_of_head? (by rwa [List.head?_reverse]),
    List.reverse_reverse]

theorem head?_dropWhile_eq_false (hc : c ∈ (cs.dropWhile p).head?) : p c = false := by
  have hhead := List.head?_dropWhile_not p cs
  rw [Option.mem_def.1 hc] at hhead
  simpa using hhead

theorem getLast?_rdropWhile_eq_false (hc : c ∈ (cs.rdropWhile p).getLast?) : p c = false := by
  rw [List.rdropWhile, List.getLast?_reverse] at hc
  exact head?_dropWhile_eq_false hc

/-! ## Both ends -/

theorem isTrimmed_trim (s : List Char) : IsTrimmed s (trim s) := by
  rw [trim, dropEndWhile_eq_rdropWhile]
  have hsplit := List.rdropWhile_append_rtakeWhile (p := isBlank) (l := s.dropWhile isBlank)
  refine ⟨⟨s.takeWhile isBlank, (s.dropWhile isBlank).rtakeWhile isBlank, ?_,
    fun c => List.mem_takeWhile_imp, fun c => List.mem_rtakeWhile_imp⟩, fun c hc => ?_,
    fun c => getLast?_rdropWhile_eq_false⟩
  · rw [List.append_assoc, hsplit, List.takeWhile_append_dropWhile]
  · -- what is first behind both cuts was first behind the cut in front
    have hfront : c ∈ (s.dropWhile isBlank).head? := by
      rw [← hsplit, List.head?_append, Option.mem_def.1 hc]
      rfl
    exact head?_dropWhile_eq_false hfront

theorem isTrimmed_iff : IsTrimmed s t ↔ t = trim s := by
  refine ⟨?_, fun h => h ▸ isTrimmed_trim s⟩
  rintro ⟨⟨before, after, rfl, hbefore, hafter⟩, hfirst, hlast⟩
  rw [trim, dropEndWhile_eq_rdropWhile, List.append_assoc, List.dropWhile_append_of_pos hbefore]
  cases t with
  | nil =>
    rw [List.nil_append, List.dropWhile_eq_nil_iff.2 hafter]
    rfl
  | cons c t =>
    have hfront : (c :: t ++ after).dropWhile isBlank = c :: t ++ after :=
      dropWhile_eq_self_of_head? hfirst
    rw [hfront, rdropWhile_append_of_pos hafter, rdropWhile_eq_self_of_getLast? hlast]

theorem trim_eq_nil_iff : trim cs = [] ↔ ∀ c ∈ cs, isBlank c = true := by
  rw [trim, dropEndWhile_eq_rdropWhile, List.rdropWhile_eq_nil_iff]
  constructor
  · intro h c hc
    rw [← List.takeWhile_append_dropWhile (p := isBlank) (l := cs), List.mem_append] at hc
    exact hc.elim List.mem_takeWhile_imp (h c)
  · exact fun h c hc => h c (List.dropWhile_subset _ hc)

theorem isBlank_of_isDigit (h : c.isDigit = true) : isBlank c = false := by
  have hrange : 48 ≤ c.toNat ∧ c.toNat ≤ 57 := by
    simpa [Char.isDigit, UInt32.le_iff_toNat_le] using h
  simp only [isBlank, Bool.or_eq_false_iff, Bool.and_eq_false_iff, decide_eq_false_iff_not,
    beq_eq_false_iff_ne]
  omega

theorem isTrimmed_of_isDigit (h : ∀ c ∈ cs, c.isDigit = true) : IsTrimmed cs cs where
  between := ⟨[], [], (List.append_nil cs).symm, nofun, nofun⟩
  first c hc := isBlank_of_isDigit (h c (List.mem_of_head? hc))
  last c hc := isBlank_of_isDigit (h c (List.mem_of_getLast? hc))

end NetWatch.Text
