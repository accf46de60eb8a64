import NetWatch.Proofs.Text.Blank
import NetWatch.Proofs.Text.Numeral
import NetWatch.Smi.Unsigned
import NetWatch.Smi.Value

/-!
# What a 32-bit value is assigned

A mask keeps the low 32 bits of a word with sign, and that is a remainder that is never negative
(`toNat_masked`). A text between blanks is a numeral of 63 bits without sign, or one below zero, or
none; a value comes of the first only, and it is the one that the number itself would be masked to
(`assigned_text`).
-/

namespace NetWatch.Smi.Unsigned

open Text

def masked (n : Int64) : UInt32 := (n &&& 0xFFFFFFFF).toUInt64.toUInt32

def FitsWord (n : Int) : Prop := -2 ^ 63 ≤ n ∧ n < 2 ^ 63

variable {s : String} {t : List Char} {n : Int} {v : UInt32} {e : Error}

/-! ## Numbers -/

theorem toNat_ofInt (n : Int) : ((ofInt n).toNat : Int) = n % 2 ^ 32 := by
  have hlt : (n % 4294967296).toNat < 2 ^ 32 := by omega
  rw [ofInt, UInt32.toNat_ofNat_of_lt' hlt]
  omega

theorem ofInt_toNat (v : UInt32) : ofInt v.toNat = v := by
  have hlt := v.toNat_lt
  have h := toNat_ofInt v.toNat
  exact UInt32.toNat_inj.1 (by omega)

theorem eq_ofInt_iff : v = ofInt n ↔ (v.toNat : Int) = n % 2 ^ 32 := by
  rw [← toNat_ofInt, Int.ofNat_inj, UInt32.toNat_inj]

/-- The mask gives a remainder, of a negative number as well. -/
theorem toNat_masked (n : Int64) : ((masked n).toNat : Int) = n.toInt % 2 ^ 32 := by
  have hmask : (0xFFFFFFFF : Int64).toUInt64.toNat = 2 ^ 32 - 1 := rfl
  have hword : (n.toUInt64.toNat : Int) % 2 ^ 64 = n.toInt % 2 ^ 64 := by
    have htoInt : n.toInt = (n.toUInt64.toNat : Int).bmod (2 ^ 64) := n.toBitVec.toInt_eq_toNat_bmod
    exact (htoInt ▸ Int.bmod_emod).symm
  have hnat : (masked n).toNat = n.toUInt64.toNat % 2 ^ 32 := by
    rw [masked, UInt64.toNat_toUInt32, Int64.toUInt64_and, UInt64.toNat_and, hmask,
      Nat.and_two_pow_sub_one_eq_mod, Nat.mod_mod]
  omega

theorem masked_eq_ofInt (n : Int64) : masked n = ofInt n.toInt :=
  eq_ofInt_iff.2 (toNat_masked n)

/-! ## Texts -/

theorem ofText_of_isInteger (hs : IsTrimmed s.toList t) (hn : IsInteger t n) (hfits : FitsWord n) :
    ofText s = if n < 0 then .error (.invalidArgument (.negative n)) else .ok (ofInt n) := by
  simp only [ofText, ← isTrimmed_iff.1 hs, int64?_eq_some_iff.2 ⟨hn, hfits⟩]

theorem ofText_of_not_isInteger (hs : IsTrimmed s.toList t)
    (hnone : ∀ n, IsInteger t n → ¬ FitsWord n) :
    ofText s = .error (.numberFormat (String.ofList t)) := by
  have hread : int64? t = none := Option.eq_none_iff_forall_ne_some.2 fun n hn =>
    have ⟨hinteger, hfits⟩ := int64?_eq_some_iff.1 hn
    hnone n hinteger hfits
  simp only [ofText, ← isTrimmed_iff.1 hs, hread]

theorem fits_cases (t : List Char) :
    (∃ n, IsInteger t n ∧ FitsWord n) ∨ ∀ n, IsInteger t n → ¬ FitsWord n := by
  by_cases h : ∃ n, IsInteger t n ∧ FitsWord n
  · exact .inl h
  · exact .inr fun n hn hfits => h ⟨n, hn, hfits⟩

theorem ofText_eq_ok_iff (hs : IsTrimmed s.toList t) :
    ofText s = .ok v ↔ ∃ n, IsInteger t n ∧ 0 ≤ n ∧ n < 2 ^ 63 ∧ (v.toNat : Int) = n % 2 ^ 32 := by
  simp only [← eq_ofInt_iff]
  constructor
  · intro h
    rcases fits_cases t with ⟨n, hn, hfits⟩ | hnone
    · rw [ofText_of_isInteger hs hn hfits] at h
      split at h
      · cases h
      · next hpos => exact ⟨n, hn, Int.not_lt.1 hpos, hfits.2, (Except.ok.inj h).symm⟩
    · rw [ofText_of_not_isInteger hs hnone] at h
      cases h
  · rintro ⟨n, hn, hpos, hlt, rfl⟩
    rw [ofText_of_isInteger hs hn ⟨by omega, hlt⟩, if_neg (Int.not_lt.2 hpos)]

theorem ofText_eq_error_iff (hs : IsTrimmed s.toList t) : ofText s = .error e ↔
    (∃ n, IsInteger t n ∧ -2 ^ 63 ≤ n ∧ n < 0 ∧ e = .invalidArgument (.negative n)) ∨
      (∀ n, IsInteger t n → ¬ FitsWord n) ∧ e = .numberFormat (String.ofList t) := by
  constructor
  · intro h
    rcases fits_cases t with ⟨n, hn, hfits⟩ | hnone
    · rw [ofText_of_isInteger hs hn hfits] at h
      split at h
      · next hneg => exact .inl ⟨n, hn, hfits.1, hneg, (Except.error.inj h).symm⟩
      · cases h
    · rw [ofText_of_not_isInteger hs hnone] at h
      exact .inr ⟨hnone, (Except.error.inj h).symm⟩
  · rintro (⟨n, hn, hlow, hneg, rfl⟩ | ⟨hnone, rfl⟩)
    · rw [ofText_of_isInteger hs hn ⟨hlow, by omega⟩, if_pos hneg]
    · exact ofText_of_not_isInteger hs hnone

/-- The digits of a number are read as the number is masked. -/
theorem ofText_natCast {n : Nat} (h : n < 2 ^ 63) : ofText (toString n) = .ok (ofInt n) := by
  have hdigits := isDecimal_toDigits n
  have htext : (toString n).toList = Nat.toDigits 10 n := Nat.toList_repr
  have htrimmed : IsTrimmed (toString n).toList (Nat.toDigits 10 n) := by
    rw [htext]
    exact isTrimmed_of_isDigit hdigits.isDigit
  exact (ofText_eq_ok_iff htrimmed).2
    ⟨n, .natural (.plain hdigits), by omega, by omega, toNat_ofInt n⟩

/-- What texts and numbers become. A text is looked at without the blanks at its ends.

- A numeral from zero to below 2^63 gives its remainder modulo 2^32.
- A numeral below zero is an argument that is wrong, if it fits a word. Anything else is no number.
- The mask of a word gives the remainder too, which is not negative.
- So a number that is not negative gives the same from its text and by assignment.
- A value of each of the three kinds is read back from its text. -/
theorem assigned_text (hs : IsTrimmed s.toList t) :
    (∀ v, ofText s = .ok v ↔
      ∃ n, IsInteger t n ∧ 0 ≤ n ∧ n < 2 ^ 63 ∧ (v.toNat : Int) = n % 2 ^ 32) ∧
    (∀ e, ofText s = .error e ↔
      (∃ n, IsInteger t n ∧ -2 ^ 63 ≤ n ∧ n < 0 ∧ e = .invalidArgument (.negative n)) ∨
        (∀ n, IsInteger t n → ¬ FitsWord n) ∧ e = .numberFormat (String.ofList t)) ∧
    (∀ n : Int64, ofInt n.toInt = masked n ∧ ((masked n).toNat : Int) = n.toInt % 2 ^ 32) ∧
    (∀ n : Int64, 0 ≤ n.toInt → ofText (toString n.toInt) = .ok (masked n)) ∧
    ∀ v, ∀ value ∈ [Value.unsigned32 v, Value.counter32 v, Value.timeTicks v],
      ofText value.text = .ok v := by
  refine ⟨fun v => ofText_eq_ok_iff hs, fun e => ofText_eq_error_iff hs,
    fun n => ⟨(masked_eq_ofInt n).symm, toNat_masked n⟩, fun n hpos => ?_, fun v value hvalue => ?_⟩
  · obtain ⟨k, hk⟩ := Int.eq_ofNat_of_zero_le hpos
    have hlt : k < 2 ^ 63 := by
      have := n.toInt_lt
      omega
    rw [masked_eq_ofInt, hk]
    exact ofText_natCast hlt
  · have htext : value.text = toString v.toNat := by
      simp only [List.mem_cons, List.not_mem_nil, or_false] at hvalue
      rcases hvalue with rfl | rfl | rfl <;> rfl
    have hlt := v.toNat_lt
    rw [htext, ofText_natCast (by omega), ofInt_toNat]

/-- Blanks, a sign and zeros in front do not matter, and the 33rd bit is cut off. Behind a minus sign
only zero is accepted. -/
theorem assigned_text_signs :
    IsTrimmed " +04294967299\t".toList "+04294967299".toList ∧ ofText " +04294967299\t" = .ok 3 ∧
    IsTrimmed "-0".toList "-0".toList ∧ ofText "-0" = .ok 0 ∧
    IsTrimmed "-7 ".toList "-7".toList ∧
    ofText "-7 " = .error (.invalidArgument (.negative (-7))) := by
  have hwide : IsTrimmed " +04294967299\t".toList "+04294967299".toList :=
    isTrimmed_iff.2 (by decide +kernel)
  have hzero : IsTrimmed "-0".toList "-0".toList := isTrimmed_iff.2 (by decide +kernel)
  have hbelow : IsTrimmed "-7 ".toList "-7".toList := isTrimmed_iff.2 (by decide +kernel)
  have hinteger {cs : List Char} {n : Int} (h : int64? cs = some n) : IsInteger cs n :=
    (int64?_eq_some_iff.1 h).1
  obtain ⟨hwideOk, -, -, -, -⟩ := assigned_text hwide
  obtain ⟨hzeroOk, -, -, -, -⟩ := assigned_text hzero
  obtain ⟨-, hbelowError, -, -, -⟩ := assigned_text hbelow
  refine ⟨hwide, (hwideOk 3).2 ⟨4294967299, hinteger ?_, by decide⟩, hzero,
    (hzeroOk 0).2 ⟨0, hinteger ?_, by decide⟩, hbelow,
    (hbelowError _).2 (.inl ⟨-7, hinteger ?_, by decide⟩)⟩
  all_goals decide +kernel

end NetWatch.Smi.Unsigned
