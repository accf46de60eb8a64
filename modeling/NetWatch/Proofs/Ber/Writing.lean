import NetWatch.Ber.Builder
import NetWatch.Ber.Element
import NetWatch.Proofs.Ber.Grammar

/-!
# Written elements

`encodeElement` writes an element that the grammar derives, as long as its length has an encoding
(`tlv_encodeElement`). A body `Prepends` octets if it puts them in front of any builder; what is
built from the end is then the concatenation of the parts, with the last one pushed in front.
-/

namespace NetWatch

namespace Octets

theorem length_digits_le {k n : Nat} (h : n < 256 ^ k) : (digits n).length ≤ k := by
  induction k generalizing n with
  | zero => rw [digits, if_pos (by omega)]; simp
  | succ k ih =>
    rw [digits]
    split
    · simp
    · rw [Nat.pow_succ] at h
      have := ih (n := n / 256) (by omega)
      simp only [List.length_append, List.length_singleton]
      omega

theorem digits_ne_nil {n : Nat} (h : n ≠ 0) : digits n ≠ [] := by
  rw [digits, if_neg h]
  simp

end Octets

namespace Ber

open Grammar

/-! ## Lengths and elements -/

theorem definiteLength_encode {len : Nat} (h : len < Length.bound) :
    DefiniteLength (Length.encode len) len := by
  have hbound : Length.bound = 256 ^ 4 := rfl
  unfold Length.encode
  split
  · next hs =>
    have hb : (UInt8.ofNat len).toNat = len := by rw [UInt8.toNat_ofNat']; omega
    have hd := DefiniteLength.short (b := UInt8.ofNat len)
      (UInt8.lt_iff_toNat_lt.2 (by rw [hb]; exact hs))
    rwa [hb] at hd
  · next hs =>
    rw [Nat.mod_eq_of_lt h]
    have hpos := List.length_pos_iff.2 (Octets.digits_ne_nil (n := len) (by omega))
    have hle : (Octets.digits len).length ≤ 4 := Octets.length_digits_le (hbound ▸ h)
    have hd : DefiniteLength (UInt8.ofNat (0x80 + (Octets.digits len).length) ::
        Octets.digits len) (Octets.toNat (Octets.digits len)) :=
      .long (by rw [UInt8.toNat_ofNat']; omega) hpos hle
    rwa [Octets.toNat_digits] at hd

theorem length_encodeElement (tag : Tag) (content : Octets) :
    (encodeElement tag content).length = 1 + Length.size content.length + content.length := by
  simp only [encodeElement, Length.size, List.length_cons, List.length_append]
  omega

theorem length_lt_length_encodeElement (tag : Tag) (content : Octets) :
    content.length < (encodeElement tag content).length := by
  simp only [encodeElement, List.length_cons, List.length_append]
  omega

theorem Length.length_encode_le (len : Nat) : (Length.encode len).length ≤ 5 := by
  unfold Length.encode
  split
  · simp
  · have hlt : len % Length.bound < 256 ^ 4 := Nat.mod_lt _ (by decide)
    have := Octets.length_digits_le hlt
    simp only [List.length_cons]
    omega

theorem length_encodeElement_le (tag : Tag) (content : Octets) :
    (encodeElement tag content).length ≤ content.length + 6 := by
  have := Length.length_encode_le content.length
  simp only [encodeElement, List.length_cons, List.length_append]
  omega

/-- An element is written as the grammar wants it, if it is not too long to be written at all. -/
theorem tlv_encodeElement {tag : Tag} {g : Grammar α} {content : Octets} {a : α}
    (short : (encodeElement tag content).length < Length.bound) (h : g content a) :
    Tlv tag g (encodeElement tag content) a :=
  .intro (definiteLength_encode
    (Nat.lt_trans (length_lt_length_encodeElement tag content) short)) h

namespace Builder

/-! ## Bodies -/

/-- The body puts `d` in front of whatever is there. -/
def Prepends (body : Builder → Builder) (d : Octets) : Prop :=
  ∀ b, (body b).octets = d ++ b.octets

section

variable {body : Builder → Builder} {d : Octets}

theorem Prepends.build_eq (h : Prepends body d) : build body = d := by
  rw [build, h, octets_empty, List.append_nil]

theorem prepends_pushElement (tag : Tag) (content : Octets) :
    Prepends (·.pushElement tag content) (encodeElement tag content) := by
  intro b
  simp [pushElement, pushLength, pushTag, encodeElement]

theorem prepends_pushEmpty (tag : Tag) : Prepends (·.pushEmpty tag) (encodeElement tag []) := by
  intro b
  simp [pushEmpty, pushLength, pushTag, encodeElement]

theorem Prepends.pushElement (h : Prepends body d) (tag : Tag) (content : Octets) :
    Prepends (fun b => (body b).pushElement tag content) (encodeElement tag content ++ d) := by
  intro b
  rw [prepends_pushElement, h, List.append_assoc]

/-- The length in front of a body counts what the body has put there. -/
theorem Prepends.pushConstructed (h : Prepends body d) (tag : Tag) :
    Prepends (·.pushConstructed tag body) (encodeElement tag d) := by
  intro b
  have hsize : (body b).size - b.size = d.length := by
    rw [(body b).size_eq, b.size_eq, h, List.length_append, Nat.add_sub_cancel]
  simp [Builder.pushConstructed, pushLength, pushTag, encodeElement, hsize, h b]

theorem prepends_foldr {push : α → Builder → Builder} {encode : α → Octets}
    (h : ∀ a, Prepends (push a) (encode a)) (as : List α) :
    Prepends (fun b => as.foldr push b) (as.flatMap encode) := by
  induction as with
  | nil => exact fun _ => rfl
  | cons a as ih =>
    intro b
    change (push a (as.foldr push b)).octets = _
    rw [h, ih b, List.flatMap_cons, List.append_assoc]

end

end Builder

end Ber

end NetWatch
