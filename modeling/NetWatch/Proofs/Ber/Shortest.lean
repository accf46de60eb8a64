import NetWatch.Proofs.Ber.Integer
import NetWatch.Proofs.Ber.Writing

/-!
# Shortest forms

A number has many definite lengths and many two's-complement forms. `Shortest` picks those that no
other form of the same number is shorter than, without saying how to find one. There is exactly one
each, and it is the one that is written (`shortest_definiteLength_iff`,
`shortest_twosComplement_iff`).
-/

namespace NetWatch

namespace Octets

theorem ofNat_toNat (content : Octets) : ofNat content.length (toNat content) = content := by
  induction content using List.reverseRecOn with
  | nil => rfl
  | append_singleton content b ih =>
    have hb := b.toNat_lt
    rw [toNat_append_singleton, List.length_append, List.length_singleton, ofNat,
      show (toNat content * 256 + b.toNat) / 256 = toNat content by omega, ih,
      show (toNat content * 256 + b.toNat) % 256 = b.toNat by omega, UInt8.ofNat_toNat]

theorem toNat_ofNat {width n : Nat} (h : n < 256 ^ width) : toNat (ofNat width n) = n := by
  induction width generalizing n with
  | zero =>
    rw [Nat.pow_zero, Nat.lt_one_iff] at h
    subst h
    rfl
  | succ width ih =>
    rw [Nat.pow_succ] at h
    rw [ofNat, toNat_append_singleton, ih (by omega), UInt8.toNat_ofNat']
    omega

/-- Octets of the same number differ only by zeros in front. -/
theorem eq_of_toNat_eq {c c' : Octets} (hlen : c.length = c'.length) (h : toNat c = toNat c') :
    c = c' := by
  rw [← ofNat_toNat c, ← ofNat_toNat c', hlen, h]

end Octets

namespace Ber

namespace Grammar

/-- Derived for a value, like no shorter octet string. -/
def Shortest (g : Grammar α) : Grammar α := fun d a => g d a ∧ ∀ d', g d' a → d.length ≤ d'.length

def TwosComplement : Grammar Int := fun content n => content ≠ [] ∧ Integer.value content = n

end Grammar

/-! ## Lengths -/

namespace Length

theorem encode_of_lt {len : Nat} (h : len < 128) : encode len = [UInt8.ofNat len] :=
  if_pos h

theorem encode_of_le {len : Nat} (h : 128 ≤ len) (short : len < bound) :
    encode len = UInt8.ofNat (128 + (Octets.digits len).length) :: Octets.digits len := by
  rw [encode, if_neg (Nat.not_lt.2 h), Nat.mod_eq_of_lt short]

end Length

namespace Grammar

variable {d : Octets} {n : Nat}

theorem DefiniteLength.lt_bound (h : DefiniteLength d n) : n < Length.bound := by
  have hbound : Length.bound = 256 ^ 4 := rfl
  cases h with
  | @short b _ =>
    have := b.toNat_lt
    omega
  | long _ _ hmax => exact hbound ▸ Octets.toNat_lt_of_length_le hmax

theorem DefiniteLength.length_encode_le (h : DefiniteLength d n) :
    (Length.encode n).length ≤ d.length := by
  have hn := h.lt_bound
  cases h with
  | @short b hb => rw [Length.encode_of_lt (UInt8.lt_iff_toNat_lt.1 hb)]; rfl
  | @long count digits _ hpos _ =>
    rcases Nat.lt_or_ge (Octets.toNat digits) 128 with hlt | hge
    · rw [Length.encode_of_lt hlt]
      exact Nat.le_add_left _ _
    · rw [Length.encode_of_le hge hn]
      exact Nat.succ_le_succ (Octets.length_digits_le (Octets.toNat_lt digits))

theorem DefiniteLength.eq_encode (h : DefiniteLength d n)
    (hle : d.length ≤ (Length.encode n).length) : d = Length.encode n := by
  have hn := h.lt_bound
  cases h with
  | @short b hb => rw [Length.encode_of_lt (UInt8.lt_iff_toNat_lt.1 hb), UInt8.ofNat_toNat]
  | @long count digits hcount hpos hmax =>
    rcases Nat.lt_or_ge (Octets.toNat digits) 128 with hlt | hge
    · rw [Length.encode_of_lt hlt] at hle
      simp only [List.length_cons, List.length_nil] at hle
      omega
    · rw [Length.encode_of_le hge hn] at hle ⊢
      have hlen : digits.length = (Octets.digits (Octets.toNat digits)).length :=
        Nat.le_antisymm (Nat.le_of_succ_le_succ hle)
          (Octets.length_digits_le (Octets.toNat_lt digits))
      have hdigits : digits = Octets.digits (Octets.toNat digits) :=
        Octets.eq_of_toNat_eq hlen (Octets.toNat_digits _).symm
      rw [← hdigits, ← hcount, UInt8.ofNat_toNat]

theorem shortest_definiteLength_iff :
    Shortest DefiniteLength d n ↔ n < Length.bound ∧ d = Length.encode n := by
  constructor
  · rintro ⟨h, hmin⟩
    exact ⟨h.lt_bound, h.eq_encode (hmin _ (definiteLength_encode h.lt_bound))⟩
  · rintro ⟨hn, rfl⟩
    exact ⟨definiteLength_encode hn, fun _ h => h.length_encode_le⟩

end Grammar

/-! ## Integers -/

namespace Integer

variable {content content' : Octets}

theorem length_content_value_le (h : content ≠ []) :
    (Integer.content (value content)).length ≤ content.length := by
  have hpos := List.length_pos_iff.2 h
  obtain ⟨low, high⟩ := value_range (k := content.length - 1) h (by omega)
  have := length_content_le low high
  omega

/-- Contents of the same length differ in value, since their plain numbers do. -/
theorem eq_of_value_eq (hlen : content.length = content'.length)
    (h : value content = value content') : content = content' := by
  have hlt : (Octets.toNat content : Int) < 256 ^ content.length := by
    exact_mod_cast Octets.toNat_lt content
  have hlt' : (Octets.toNat content' : Int) < 256 ^ content.length := by
    rw [hlen]
    exact_mod_cast Octets.toNat_lt content'
  refine Octets.eq_of_toNat_eq hlen ?_
  cases content with
  | nil => rw [List.eq_nil_of_length_eq_zero hlen.symm]
  | cons b rest =>
    cases content' with
    | nil => cases hlen
    | cons b' rest' =>
      simp only [value, Nat.pow_eq, ← hlen] at h
      push_cast at h
      split at h <;> split at h <;> omega

end Integer

namespace Grammar

theorem shortest_twosComplement_iff {content : Octets} {n : Int} :
    Shortest TwosComplement content n ↔ content = Integer.content n := by
  have hwritten : TwosComplement (Integer.content n) n :=
    ⟨Integer.content_ne_nil n, Integer.value_content n⟩
  constructor
  · rintro ⟨⟨hne, rfl⟩, hmin⟩
    exact Integer.eq_of_value_eq
      (Nat.le_antisymm (hmin _ hwritten) (Integer.length_content_value_le hne)) hwritten.2.symm
  · rintro rfl
    refine ⟨hwritten, ?_⟩
    rintro d ⟨hne, rfl⟩
    exact Integer.length_content_value_le hne

end Grammar

end Ber

end NetWatch
