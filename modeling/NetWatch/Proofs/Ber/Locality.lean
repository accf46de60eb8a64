import NetWatch.Proofs.Ber.Agreement
import NetWatch.Proofs.Ber.Extent

/-!
# Reading is local

What a read finds at an offset of a buffer depends on the octets that it takes and on no others, and
it takes no fewer than it needs (`IsLocal`). This holds of every reader that recognises elements,
since an element says itself where it ends (`Recognises.isLocal`).
-/

namespace NetWatch.Ber

open Grammar

/-- A read at an offset depends on the octets from there to where it ends, and on all of them. -/
structure IsLocal (read : Octets → Nat → Except DecodeError (Nat × α)) : Prop where
  /-- It takes at least one octet, and none beyond the buffer. -/
  bounds {buf : Octets} {offset next : Nat} {a : α} (h : read buf offset = .ok (next, a)) :
    offset < next ∧ next ≤ buf.length
  /-- A buffer with the same octets there may have any others in front and behind. -/
  same {buf buf' : Octets} {offset next : Nat} {a : α} (h : read buf offset = .ok (next, a))
    (heq : buf'.extract offset next = buf.extract offset next) : read buf' offset = .ok (next, a)
  /-- The buffer must not end before that. -/
  cut {buf : Octets} {offset next k : Nat} {a : α} (h : read buf offset = .ok (next, a))
    (hk : k < next) : ∃ e, read (buf.take k) offset = .error e
  /-- More octets in front move the value by as many. -/
  moved {buf : Octets} {offset next : Nat} {a : α} (h : read buf offset = .ok (next, a))
    (front : Octets) : read (front ++ buf) (front.length + offset) = .ok (front.length + next, a)

/-! ## Grammars of elements -/

namespace Grammar

variable {g : Grammar α}

def OfElements (g : Grammar α) : Prop :=
  ∀ d a, g d a → ∃ tag, Tlv tag (fun _ (_ : Unit) => True) d ()

theorem Tlv.forget {tag : Tag} {d : Octets} {a : α} (h : Tlv tag g d a) :
    ∃ tag, Tlv tag (fun _ (_ : Unit) => True) d () :=
  ⟨tag, h.imp fun _ _ => trivial⟩

theorem ofElements_tlv {tag : Tag} : OfElements (Tlv tag g) := fun _ _ h => h.forget

theorem OfElements.ne_nil (hg : OfElements g) {d : Octets} {a : α} (h : g d a) : d ≠ [] := by
  obtain ⟨tag, htlv⟩ := hg d a h
  exact Reader.tlv_ne_nil htlv

theorem OfElements.eq_of_append_eq (hg : OfElements g) {d d' rest rest' : Octets} {a b : α}
    (h : g d a) (h' : g d' b) (heq : d ++ rest = d' ++ rest') : d = d' := by
  obtain ⟨tag, htlv⟩ := hg d a h
  obtain ⟨tag', htlv'⟩ := hg d' b h'
  exact htlv.eq_of_append_eq htlv' heq

end Grammar

namespace Reader

variable {r : Reader α} {g : Grammar α} {data : Octets} {offset next : Nat} {a : α}

/-- What a reader takes at an offset of a buffer, with the offset behind it. -/
def decodeAt (r : Reader α) (data : Octets) (offset : Nat) : Except DecodeError (Nat × α) :=
  match r (.startingAt data offset) with
  | .ok a w => .ok (w.offset, a)
  | .error e _ => .error e

theorem Agrees.decodeAt_eq {found : Except DecodeError (Nat × α)}
    (h : r.Agrees data offset found) : r.decodeAt data offset = found := by
  cases found with
  | error e =>
    obtain ⟨w, hr⟩ := h
    simp only [decodeAt, hr]
  | ok p =>
    rw [decodeAt, show r (.startingAt data offset) = .ok p.2 (.startingAt data p.1) from h]
    rfl

theorem Recognises.decodeAt_eq_ok_iff (h : r.Recognises g) :
    r.decodeAt data offset = .ok (next, a) ↔
      ∃ d rest, g d a ∧ data.drop offset = d ++ rest ∧ next = offset + d.length := by
  unfold decodeAt
  constructor
  · intro hr
    split at hr
    · next b w hw =>
      cases hr
      obtain ⟨d, hd, hp⟩ := (h _ _ _).1 hw
      exact ⟨d, w.octets, hd, hp.octets, hp.offset⟩
    · cases hr
  · rintro ⟨d, rest, hd, hdrop, rfl⟩
    have hr : r (.startingAt data offset) = .ok a ⟨offset + d.length, rest⟩ :=
      (h _ _ _).2 ⟨d, hd, hdrop, rfl⟩
    rw [hr]

theorem decodeAt_ne_ok (h : ∀ next a, r.decodeAt data offset ≠ .ok (next, a)) :
    ∃ e, r.decodeAt data offset = .error e := by
  cases hr : r.decodeAt data offset with
  | error e => exact ⟨e, rfl⟩
  | ok p => exact absurd hr (h p.1 p.2)

theorem Recognises.isLocal (h : r.Recognises g) (hg : g.OfElements) : IsLocal r.decodeAt where
  bounds hr := by
    obtain ⟨d, rest, hd, hdrop, rfl⟩ := h.decodeAt_eq_ok_iff.1 hr
    have hpos := List.length_pos_iff.2 (hg.ne_nil hd)
    have hlen := congrArg List.length hdrop
    rw [List.length_drop, List.length_append] at hlen
    omega
  same {buf buf' offset next a} hr heq := by
    obtain ⟨d, rest, hd, hdrop, rfl⟩ := h.decodeAt_eq_ok_iff.1 hr
    have hfront : (buf'.drop offset).take d.length = d := by
      rw [List.extract, List.extract, hdrop, Nat.add_sub_cancel_left, List.take_left] at heq
      exact heq
    refine h.decodeAt_eq_ok_iff.2 ⟨d, (buf'.drop offset).drop d.length, hd, ?_, rfl⟩
    conv_lhs => rw [← List.take_append_drop d.length (buf'.drop offset), hfront]
  cut {buf offset next k a} hr hk := by
    obtain ⟨d, rest, hd, hdrop, rfl⟩ := h.decodeAt_eq_ok_iff.1 hr
    refine decodeAt_ne_ok fun next' a' hr' => ?_
    obtain ⟨d', rest', hd', hdrop', -⟩ := h.decodeAt_eq_ok_iff.1 hr'
    -- what is found in the shorter buffer begins the longer one as well
    have heq : d' ++ (rest' ++ (buf.drop offset).drop (k - offset)) = d ++ rest := by
      rw [← List.append_assoc, ← hdrop', List.drop_take, List.take_append_drop, hdrop]
    have hsame := hg.eq_of_append_eq hd' hd heq
    have hpos := List.length_pos_iff.2 (hg.ne_nil hd')
    have hlen := congrArg List.length hdrop'
    rw [List.length_drop, List.length_append, List.length_take] at hlen
    rw [hsame] at hlen hpos
    omega
  moved {buf offset next a} hr front := by
    obtain ⟨d, rest, hd, hdrop, rfl⟩ := h.decodeAt_eq_ok_iff.1 hr
    refine h.decodeAt_eq_ok_iff.2 ⟨d, rest, hd, ?_, (Nat.add_assoc _ _ _).symm⟩
    rw [← List.drop_drop, List.drop_left, hdrop]

end Reader

end NetWatch.Ber
