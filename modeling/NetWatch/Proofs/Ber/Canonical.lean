import NetWatch.Proofs.Ber.Contents
import NetWatch.Proofs.Ber.Locality
import NetWatch.Proofs.Ber.Shortest

/-!
# Canonical form

Octets are canonical if each element in them, at every depth, has the shortest length for its content
and each integer the shortest content for its value. `IsCanonical` says so of the octets alone,
whatever they stand for. A grammar has `OneForm` if its canonical octets are those that are written
for their value, which is the case if a reader is lenient with lengths and integers only.
-/

namespace NetWatch.Ber

open Grammar

def unsignedTags : List Tag := [Tag.counter32, Tag.unsigned32, Tag.timeTicks, Tag.counter64]

/-- An integer takes the shortest two's-complement form of its value, which is not below zero if the
number has no sign: its content then begins with a zero octet where its top bit would be set. -/
def IsShortestContent (tag : Tag) (content : Octets) : Prop :=
  (tag = Tag.integer → ∃ n : Int, Shortest TwosComplement content n) ∧
    (tag ∈ unsignedTags → ∃ n : Nat, Shortest TwosComplement content n)

/-- Elements behind one another, with the shortest lengths and the shortest integers at every
depth. -/
inductive IsCanonical : Octets → Prop where
  | nil : IsCanonical []
  | cons {tag : Tag} {length content rest : Octets} :
      Shortest DefiniteLength length content.length →
      (tag.isConstructed → IsCanonical content) → IsShortestContent tag content →
      IsCanonical rest → IsCanonical (tag :: (length ++ content) ++ rest)

/-- What `IsCanonical` wants of the content of one element. -/
def HasCanonicalContent (tag : Tag) (content : Octets) : Prop :=
  (tag.isConstructed → IsCanonical content) ∧ IsShortestContent tag content

variable {tag : Tag} {g : Grammar α} {d content rest : Octets} {a : α}

/-! ## Elements in a row -/

theorem IsCanonical.append (h : IsCanonical d) (hrest : IsCanonical rest) :
    IsCanonical (d ++ rest) := by
  induction h with
  | nil => exact hrest
  | cons hlength hdeep hshort _ _ ih =>
    rw [List.append_assoc]
    exact .cons hlength hdeep hshort ih

/-- An element in front of others can be looked at by itself. -/
theorem IsCanonical.of_append (h : IsCanonical (d ++ rest)) (hd : Tlv tag g d a) :
    IsCanonical d ∧ IsCanonical rest := by
  generalize heq : d ++ rest = whole at h
  cases h with
  | nil => exact absurd (List.append_eq_nil_iff.1 heq).1 (Reader.tlv_ne_nil hd)
  | @cons tag' length body rest' hlength hdeep hshort hrest =>
    have hbody : Tlv tag' octets (tag' :: (length ++ body)) body := .intro hlength.1 rfl
    obtain rfl := hd.eq_of_append_eq hbody heq
    obtain rfl := List.append_cancel_left heq
    refine ⟨?_, hrest⟩
    rw [← List.append_nil (tag' :: (length ++ body))]
    exact .cons hlength hdeep hshort .nil

/-! ## One element -/

theorem isCanonical_encodeElement (short : content.length < Length.bound)
    (h : HasCanonicalContent tag content) : IsCanonical (encodeElement tag content) := by
  rw [← List.append_nil (encodeElement tag content)]
  exact .cons (shortest_definiteLength_iff.2 ⟨short, rfl⟩) h.1 h.2 .nil

theorem isCanonical_of_short (short : (encodeElement tag content).length < Length.bound)
    (h : HasCanonicalContent tag content) : IsCanonical (encodeElement tag content) :=
  isCanonical_encodeElement (Nat.lt_trans (length_lt_length_encodeElement tag content) short) h

theorem IsCanonical.exists_content (h : IsCanonical d) (hd : Tlv tag g d a) :
    ∃ content, g content a ∧ HasCanonicalContent tag content ∧ d = encodeElement tag content := by
  obtain ⟨hl, ha⟩ := hd
  rename_i length body
  generalize heq : tag :: (length ++ body) = whole at h
  cases h with
  | nil => cases heq
  | @cons tag' length' body' rest hlength hdeep hshort _ =>
    rw [List.cons_append, List.cons.injEq, List.append_assoc] at heq
    obtain ⟨rfl, heq⟩ := heq
    obtain ⟨rfl, hlen⟩ := hl.eq_of_append_eq hlength.1 heq
    rw [← List.append_nil body] at heq
    obtain ⟨rfl, rfl⟩ := List.append_inj (List.append_cancel_left heq) hlen
    refine ⟨body, ha, ⟨hdeep, hshort⟩, ?_⟩
    rw [encodeElement, ← (shortest_definiteLength_iff.1 hlength).2, List.append_nil]

theorem not_mem_unsignedTags (htag : tag.isConstructed) : tag ∉ unsignedTags := by
  intro hmem
  simp only [unsignedTags, List.mem_cons, List.not_mem_nil, or_false] at hmem
  rcases hmem with rfl | rfl | rfl | rfl <;> exact absurd htag (by decide)

/-- Constructed contents are looked into, and none of them is an integer. -/
theorem hasCanonicalContent_iff (htag : tag.isConstructed) :
    HasCanonicalContent tag content ↔ IsCanonical content := by
  constructor
  · exact fun h => h.1 htag
  · refine fun h => ⟨fun _ => h, ?_, fun hmem => absurd hmem (not_mem_unsignedTags htag)⟩
    rintro rfl
    exact absurd htag (by decide)

theorem hasCanonicalContent_integer (n : Int) :
    HasCanonicalContent Tag.integer (Integer.content n) := by
  refine ⟨fun h => absurd h (by decide), fun _ => ⟨n, shortest_twosComplement_iff.2 rfl⟩, fun h => ?_⟩
  exact absurd h (by decide)

theorem hasCanonicalContent_unsigned (htag : tag ∈ unsignedTags) (n : Nat) :
    HasCanonicalContent tag (Integer.content n) := by
  refine ⟨fun h => ?_, fun _ => ⟨n, ?_⟩, fun _ => ⟨n, shortest_twosComplement_iff.2 rfl⟩⟩
  · exact absurd htag (not_mem_unsignedTags h)
  · exact shortest_twosComplement_iff.2 rfl

/-- A primitive content that is no integer has no other form. -/
theorem hasCanonicalContent_plain (tag : Tag)
    (htag : ¬tag.isConstructed ∧ tag ≠ Tag.integer ∧ tag ∉ unsignedTags) (content : Octets) :
    HasCanonicalContent tag content :=
  ⟨fun h => absurd h htag.1, fun h => absurd h htag.2.1, fun h => absurd h htag.2.2⟩

theorem IsCanonical.exists_constructed (h : IsCanonical d) (htag : tag.isConstructed)
    (hd : Tlv tag g d a) :
    ∃ content, g content a ∧ IsCanonical content ∧ d = encodeElement tag content := by
  obtain ⟨content, ha, hcontent, rfl⟩ := h.exists_content hd
  exact ⟨content, ha, (hasCanonicalContent_iff htag).1 hcontent, rfl⟩

theorem isCanonical_constructed (htag : tag.isConstructed)
    (short : (encodeElement tag content).length < Length.bound)
    (h : content.length < Length.bound → IsCanonical content) :
    IsCanonical (encodeElement tag content) := by
  have hlt := Nat.lt_trans (length_lt_length_encodeElement tag content) short
  exact isCanonical_encodeElement hlt ((hasCanonicalContent_iff htag).2 (h hlt))

/-- A written element that is read as an element has a length that can be written: the octets of
another one would tell of another content. -/
theorem length_lt_bound_of_tlv {tag' : Tag} (h : Tlv tag g (encodeElement tag' content) a) :
    content.length < Length.bound := by
  by_contra hlong
  have hbound : Length.bound = 256 ^ 4 := rfl
  have hle : (Octets.digits (content.length % Length.bound)).length ≤ 4 :=
    Octets.length_digits_le (Nat.mod_lt _ (by decide))
  generalize heq : encodeElement tag' content = d at h
  cases h with
  | @intro length body _ hl _ =>
    rw [encodeElement, Length.encode, if_neg (by omega), List.cons.injEq, List.cons_append] at heq
    generalize Octets.digits (content.length % Length.bound) = digits at heq hle
    have hfirst : (UInt8.ofNat (0x80 + digits.length)).toNat = 128 + digits.length := by
      rw [UInt8.toNat_ofNat']
      omega
    have hbody := hl.lt_bound
    generalize body.length = n at hl
    cases hl with
    | short hb =>
      have hb := UInt8.lt_iff_toNat_lt.1 hb
      rw [← (List.cons.inj heq.2).1, hfirst] at hb
      exact absurd hb (by simp)
    | long hcount =>
      rw [← (List.cons.inj heq.2).1, hfirst] at hcount
      obtain ⟨-, rfl⟩ := List.append_inj (List.cons.inj heq.2).2 (by omega)
      exact hlong hbody

/-! ## One form for each value -/

/-- The only canonical octets for a value are those that are written for it. -/
def OneForm (g : Grammar α) (canonical : Octets → Prop) (write : α → Octets) : Prop :=
  ∀ d a, g d a → canonical d → d = write a

section

variable {write : α → Octets}

theorem OneForm.tlv (h : OneForm g (HasCanonicalContent tag) write) :
    OneForm (Tlv tag g) IsCanonical fun a => encodeElement tag (write a) := by
  intro d a hd hcanonical
  obtain ⟨content, ha, hcontent, rfl⟩ := hcanonical.exists_content hd
  rw [h content a ha hcontent]

/-- A content of which the reader accepts only what is written. -/
theorem OneForm.of_exact (h : ∀ d a, g d a → d = write a) (canonical : Octets → Prop) :
    OneForm g canonical write :=
  fun d a hd _ => h d a hd

theorem OneForm.many {tag : Tag} (h : OneForm (Tlv tag g) IsCanonical write) :
    OneForm (Many (Tlv tag g)) IsCanonical (·.flatMap write) := by
  intro d as hd
  induction hd with
  | nil => exact fun _ => rfl
  | @cons front back a as ha _ ih =>
    intro hcanonical
    obtain ⟨hfront, hback⟩ := hcanonical.of_append ha
    rw [h front a ha hfront, ih hback]
    rfl

theorem oneForm_integer32 : OneForm integer32 (HasCanonicalContent Tag.integer)
    fun n => Integer.content n.toInt := by
  rintro content n ⟨-, -, hn⟩ ⟨-, hshort, -⟩
  obtain ⟨m, hm⟩ := hshort rfl
  change content = Integer.content n.toInt
  rw [hn, hm.1.2]
  exact shortest_twosComplement_iff.1 hm

/-- The content of a number that is not below zero is its plain form. -/
theorem exists_toNat_of_isShortestContent (htag : tag ∈ unsignedTags)
    (h : IsShortestContent tag content) :
    Integer.value content = Octets.toNat content ∧
      content = Integer.content (Octets.toNat content) := by
  obtain ⟨n, hn⟩ := h.2 htag
  have hvalue : Integer.value content = Octets.toNat content :=
    Integer.value_eq_toNat (by rw [hn.1.2]; exact Int.natCast_nonneg n)
  refine ⟨hvalue, ?_⟩
  rw [← hvalue, hn.1.2]
  exact shortest_twosComplement_iff.1 hn

theorem oneForm_unsigned32 (htag : tag ∈ unsignedTags) :
    OneForm unsigned32 (HasCanonicalContent tag) fun n => Integer.content n.toNat := by
  rintro content n ⟨hlen, hn⟩ ⟨-, hshort⟩
  obtain ⟨hvalue, hcontent⟩ := exists_toNat_of_isShortestContent htag hshort
  have hlt : Octets.toNat content < 2 ^ 32 := by
    rcases hlen with ⟨-, hlen⟩ | ⟨hlen, hhead⟩
    · exact Octets.toNat_lt_of_length_le hlen
    · obtain ⟨rest, rfl⟩ := List.head?_eq_some_iff.1 hhead
      rw [Octets.toNat_cons, UInt8.toNat_zero, Nat.zero_mul, Nat.zero_add]
      exact Octets.toNat_lt_of_length_le (k := 4) (Nat.le_of_eq (Nat.succ.inj hlen))
  have hsame : n.toNat = Octets.toNat content := by omega
  change content = Integer.content n.toNat
  rwa [hsame]

theorem oneForm_unsigned64 (htag : tag ∈ unsignedTags) :
    OneForm unsigned64 (HasCanonicalContent tag) fun n => Integer.content n.toNat := by
  rintro content n ⟨-, hn⟩ ⟨-, hshort⟩
  change content = Integer.content n.toNat
  rw [hn]
  exact (exists_toNat_of_isShortestContent htag hshort).2

end

end NetWatch.Ber
