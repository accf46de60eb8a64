import NetWatch.Proofs.Ber.Grammar

/-!
# The extent of an element

An element says itself where it ends. Of the octet strings that begin the same string of octets, at
most one is a definite length and at most one is an element, so no element is a proper prefix of
another one, whatever their contents are. It is at least two octets longer than its content.
-/

namespace NetWatch.Ber.Grammar

variable {tag tag' : Tag} {g : Grammar α} {g' : Grammar β} {a : α} {b : β}
  {d d' rest rest' : Octets}

/-- The first octet of a definite length tells how many follow. -/
theorem DefiniteLength.eq_of_append_eq {n n' : Nat} (h : DefiniteLength d n)
    (h' : DefiniteLength d' n') (heq : d ++ rest = d' ++ rest') : d = d' ∧ n = n' := by
  have h80 : (0x80 : UInt8).toNat = 128 := rfl
  cases h with
  | short hb =>
    rw [UInt8.lt_iff_toNat_lt, h80] at hb
    cases h' with
    | short =>
      obtain rfl := (List.cons.inj heq).1
      exact ⟨rfl, rfl⟩
    | long hcount =>
      rw [(List.cons.inj heq).1] at hb
      omega
  | long hcount =>
    cases h' with
    | short hb =>
      rw [UInt8.lt_iff_toNat_lt, h80, ← (List.cons.inj heq).1] at hb
      omega
    | long hcount' =>
      obtain ⟨hfirst, hrest⟩ := List.cons.inj heq
      rw [hfirst, hcount'] at hcount
      obtain ⟨rfl, -⟩ := List.append_inj hrest (by omega)
      exact ⟨by rw [hfirst], rfl⟩

theorem Tlv.eq_of_append_eq (h : Tlv tag g d a) (h' : Tlv tag' g' d' b)
    (heq : d ++ rest = d' ++ rest') : d = d' := by
  cases h with
  | @intro length body _ hl _ =>
  cases h' with
  | @intro length' body' _ hl' _ =>
  simp only [List.cons_append, List.append_assoc, List.cons.injEq] at heq
  obtain ⟨rfl, heq⟩ := heq
  obtain ⟨rfl, hlen⟩ := hl.eq_of_append_eq hl' heq
  obtain ⟨rfl, -⟩ := List.append_inj (List.append_cancel_left heq) hlen
  rfl

theorem DefiniteLength.length_pos {n : Nat} (h : DefiniteLength d n) : 1 ≤ d.length := by
  cases h <;> simp

theorem Tlv.exists_content (h : Tlv tag g d a) : ∃ c, g c a ∧ c.length + 2 ≤ d.length := by
  cases h with
  | intro hlen hc =>
    have := hlen.length_pos
    refine ⟨_, hc, ?_⟩
    simp only [List.length_cons, List.length_append]
    omega

/-- Where a string of octets is cut for an element to be left is up to the string. -/
theorem Tlv.take_unique {j k : Nat} (h : Tlv tag g (d.take j) a) (h' : Tlv tag' g' (d.take k) b) :
    d.take j = d.take k :=
  h.eq_of_append_eq h' ((d.take_append_drop j).trans (d.take_append_drop k).symm)

end NetWatch.Ber.Grammar
