import NetWatch.Ber.Element
import NetWatch.Proofs.Ber.Integer
import NetWatch.Proofs.Oid.Content

/-!
# Contents of the simple kinds of value

For each kind of content, `Element` accepts what the grammar derives, with the same value, and the
written content of a value is derived for it.
-/

namespace NetWatch.Ber

/-! ## Reading -/

namespace Element

variable {e : Element}

theorem integer32_eq_ok_iff {n : Int32} :
    e.integer32 = .ok n ↔ Grammar.integer32 e.content.octets n := by
  unfold integer32 Grammar.integer32 Window.fail
  simp only [List.isEmpty_iff]
  split
  · next h => simp [h]
  next hne =>
  have hpos := List.length_pos_iff.2 hne
  split
  · exact ⟨fun h => (by cases h), fun h => absurd h.2.1 (by omega)⟩
  · next hlen =>
    obtain ⟨low, high⟩ := Integer.value_range (k := 3) hne (by omega)
    have hv := Int32.toInt_ofInt_of_le (n := Integer.value e.content.octets) (by omega) (by omega)
    rw [Except.ok.injEq]
    constructor
    · rintro rfl
      exact ⟨hpos, by omega, hv⟩
    · rintro ⟨-, -, h⟩
      exact Int32.toInt_inj.1 (hv.trans h.symm)

theorem unsigned32_eq_ok_iff {n : UInt32} :
    e.unsigned32 = .ok n ↔ Grammar.unsigned32 e.content.octets n := by
  unfold unsigned32 Grammar.unsigned32 Window.fail
  simp only [List.isEmpty_iff]
  split
  · next h => simp [h]
  next hne =>
  have hpos := List.length_pos_iff.2 hne
  split
  · next hlen =>
    have hv : (UInt32.ofNat (Integer.value e.content.octets % 4294967296).toNat).toNat =
        (Integer.value e.content.octets % 4294967296).toNat :=
      UInt32.toNat_ofNat_of_lt' (show _ < 4294967296 by omega)
    rw [Except.ok.injEq, ← UInt32.toNat_inj, hv]
    constructor
    · intro h
      exact ⟨hlen.imp_left fun h => ⟨hpos, h⟩, by omega⟩
    · rintro ⟨-, h⟩
      omega
  · next hlen =>
    exact ⟨fun h => (by cases h), fun h => absurd (h.1.imp_left And.right) hlen⟩

theorem unsigned64_eq_ok_iff {n : UInt64} :
    e.unsigned64 = .ok n ↔ Grammar.unsigned64 e.content.octets n := by
  unfold unsigned64 Grammar.unsigned64 Window.fail
  simp only [List.isEmpty_iff]
  split
  · next h => simp [h]
  next hne =>
  have hpos := List.length_pos_iff.2 hne
  split
  · next hlen =>
    have hlt : Octets.toNat e.content.octets < 256 ^ 8 := by
      rcases hlen with hlen | ⟨hlen, hhead⟩
      · exact Octets.toNat_lt_of_length_le hlen
      · obtain ⟨b, rest, hc⟩ := List.exists_cons_of_ne_nil hne
        rw [hc] at hlen hhead ⊢
        cases hhead
        have : Octets.toNat rest < 256 ^ 8 :=
          Octets.toNat_lt_of_length_le (by simp at hlen; omega)
        rwa [Octets.toNat_cons, UInt8.toNat_zero, Nat.zero_mul, Nat.zero_add]
    have hv : (UInt64.ofNat (Octets.toNat e.content.octets)).toNat =
        Octets.toNat e.content.octets := UInt64.toNat_ofNat_of_lt' hlt
    rw [Except.ok.injEq, ← UInt64.toNat_inj, hv]
    exact ⟨fun h => ⟨hlen.imp_left fun h => ⟨hpos, h⟩, h.symm⟩, fun h => h.2.symm⟩
  · next hlen =>
    exact ⟨fun h => (by cases h), fun h => absurd (h.1.imp_left And.right) hlen⟩

theorem null_eq_ok_iff {u : Unit} : e.null = .ok u ↔ Grammar.empty e.content.octets u := by
  rw [null, Grammar.empty, ← List.isEmpty_iff]
  split <;> simp_all [Window.fail]

theorem oid_eq_ok_iff {oid : Oid} : e.oid = .ok oid ↔ Oid.IsContent e.content.octets oid := by
  rw [← Oid.ofContent_eq_ok_iff, Element.oid]
  split
  · next h => rw [h, Except.ok.injEq, Except.ok.injEq]
  · next h => simp [h, Window.fail]

end Element

/-! ## Writing -/

namespace Grammar

theorem integer32_content (n : Int32) : integer32 (Integer.content n.toInt) n := by
  have low := n.le_toInt
  have high := n.toInt_lt
  exact ⟨Integer.length_content_pos _, Integer.length_content_le (k := 3) (by omega) (by omega),
    (Integer.value_content _).symm⟩

theorem unsigned32_content (n : UInt32) : unsigned32 (Integer.content n.toNat) n := by
  have hn := n.toNat_lt
  have hpos := Integer.length_content_pos n.toNat
  have hlen := Integer.length_content_le (k := 4) (n := n.toNat) (by omega) (by omega)
  refine ⟨?_, by rw [Integer.value_content]; omega⟩
  by_cases h5 : (Integer.content n.toNat).length = 5
  · exact .inr ⟨h5, Integer.head?_content (k := 4) (by omega) h5⟩
  · exact .inl ⟨hpos, by omega⟩

theorem unsigned64_content (n : UInt64) : unsigned64 (Integer.content n.toNat) n := by
  have hn := n.toNat_lt
  have hpos := Integer.length_content_pos n.toNat
  have hlen := Integer.length_content_le (k := 8) (n := n.toNat) (by omega) (by omega)
  refine ⟨?_, (Integer.toNat_content _).symm⟩
  by_cases h9 : (Integer.content n.toNat).length = 9
  · exact .inr ⟨h9, Integer.head?_content (k := 8) (by omega) h9⟩
  · exact .inl ⟨hpos, by omega⟩

end Grammar

end NetWatch.Ber
