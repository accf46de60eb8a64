import Mathlib
import NetWatch.Ber.Integer

/-!
# Integer contents and their values

`Integer.value` undoes `Integer.content` (`value_content`). A content of at most `k + 1` octets
holds an integer of `8 (k + 1)` bits (`value_range`), and the written content of such an integer is
no longer than that (`length_content_le`). Read without a sign, the content of a natural number is
that number again (`toNat_content`).
-/

namespace NetWatch

namespace Octets

theorem toNat_cons (b : UInt8) (rest : Octets) :
    toNat (b :: rest) = b.toNat * 256 ^ rest.length + toNat rest := by
  induction rest using List.reverseRecOn with
  | nil => simp [toNat]
  | append_singleton rest c ih =>
    rw [← List.cons_append, toNat_append_singleton, toNat_append_singleton, ih,
      List.length_append, List.length_singleton, Nat.pow_succ]
    ring

theorem toNat_lt (content : Octets) : toNat content < 256 ^ content.length := by
  induction content using List.reverseRecOn with
  | nil => simp
  | append_singleton content b ih =>
    have hb := b.toNat_lt
    rw [toNat_append_singleton, List.length_append, List.length_singleton, Nat.pow_succ]
    omega

theorem toNat_lt_of_length_le {content : Octets} {k : Nat} (h : content.length ≤ k) :
    toNat content < 256 ^ k :=
  Nat.lt_of_lt_of_le (toNat_lt content) (Nat.pow_le_pow_right (by decide) h)

end Octets

namespace Ber.Integer

/-! ## Values -/

theorem value_singleton (b : UInt8) :
    value [b] = if b < 0x80 then (b.toNat : Int) else b.toNat - 256 := by
  simp [value, Octets.toNat]

/-- A further octet counts behind those before it, whose sign it leaves alone. -/
theorem value_append_singleton {content : Octets} (h : content ≠ []) (b : UInt8) :
    value (content ++ [b]) = value content * 256 + b.toNat := by
  obtain ⟨first, rest, rfl⟩ := List.exists_cons_of_ne_nil h
  have hn := Octets.toNat_append_singleton (first :: rest) b
  simp only [List.cons_append] at hn
  simp only [value, List.cons_append, hn, List.length_cons, List.length_append, List.length_nil,
    Nat.pow_eq, Nat.pow_succ]
  split <;> push_cast <;> ring

/-- `k + 1` octets hold no more than the integers of `8 (k + 1)` bits. -/
theorem value_range {content : Octets} {k : Nat} (h : content ≠ []) (len : content.length ≤ k + 1) :
    -(128 * 256 ^ k : Int) ≤ value content ∧ value content < 128 * 256 ^ k := by
  induction content using List.reverseRecOn generalizing k with
  | nil => exact absurd rfl h
  | append_singleton content b ih =>
    have hb := b.toNat_lt
    rcases List.eq_nil_or_concat content with rfl | ⟨front, c, rfl⟩
    · have h80 : (0x80 : UInt8).toNat = 128 := rfl
      have hk : 1 ≤ 256 ^ k := Nat.one_le_pow _ _ (by decide)
      rw [List.nil_append, value_singleton]
      simp only [UInt8.lt_iff_toNat_lt, h80]
      zify at hk
      split <;> omega
    · rw [List.concat_eq_append] at ih len ⊢
      obtain ⟨k, rfl⟩ : ∃ j, k = j + 1 := ⟨k - 1, by simp at len; omega⟩
      have ih := ih (k := k) (by simp) (by simp at len ⊢; omega)
      rw [value_append_singleton (by simp), pow_succ]
      omega

theorem value_eq_toNat {content : Octets} (h : 0 ≤ value content) :
    value content = Octets.toNat content := by
  cases content with
  | nil => rfl
  | cons first rest =>
    have hlt : (Octets.toNat (first :: rest) : Int) < 256 ^ (first :: rest).length := by
      exact_mod_cast Octets.toNat_lt (first :: rest)
    simp only [value, Nat.pow_eq] at h ⊢
    split
    · rfl
    · rename_i hf
      rw [if_neg hf] at h
      push_cast at h
      omega

/-! ## Written contents -/

theorem content_ne_nil (n : Int) : content n ≠ [] := by
  rw [content]
  split <;> simp

theorem value_content (n : Int) : value (content n) = n := by
  induction n using content.induct with
  | case1 n h =>
    rw [content, if_pos h, value_singleton]
    simp only [UInt8.lt_iff_toNat_lt, UInt8.toNat_ofNat']
    split <;> simp_all <;> omega
  | case2 n h ih =>
    rw [content, if_neg h, value_append_singleton (content_ne_nil _), ih, UInt8.toNat_ofNat']
    omega

theorem length_content_le {k : Nat} {n : Int} (low : -(128 * 256 ^ k) ≤ n)
    (high : n < 128 * 256 ^ k) : (content n).length ≤ k + 1 := by
  induction k generalizing n with
  | zero => rw [content, if_pos (by omega)]; simp
  | succ k ih =>
    rw [pow_succ] at low high
    rw [content]
    split
    · simp
    · have := ih (n := n / 256) (by omega) (by omega)
      simp only [List.length_append, List.length_singleton]
      omega

theorem length_content_pos (n : Int) : 1 ≤ (content n).length :=
  List.length_pos_iff.2 (content_ne_nil n)

theorem toNat_content (n : Nat) : Octets.toNat (content n) = n := by
  have h : value (content n) = Octets.toNat (content n) :=
    value_eq_toNat (by rw [value_content]; omega)
  rw [value_content] at h
  omega

/-- A number of `8 k` bits that takes `k + 1` octets begins with a zero. -/
theorem head?_content {k n : Nat} (small : n < 256 ^ k) (len : (content n).length = k + 1) :
    (content n).head? = some 0 := by
  obtain ⟨first, rest, hc⟩ := List.exists_cons_of_ne_nil (content_ne_nil n)
  have hn := toNat_content n
  rw [hc, List.length_cons] at len
  rw [hc, Octets.toNat_cons, show rest.length = k by omega] at hn
  have hf : first.toNat = 0 := by
    by_contra hne
    have := Nat.le_mul_of_pos_left (256 ^ k) (Nat.pos_of_ne_zero hne)
    omega
  rw [hc, List.head?_cons, UInt8.toNat_inj.1 (hf.trans UInt8.toNat_zero.symm)]

end Ber.Integer

end NetWatch
