import NetWatch.Proofs.Ber.Agreement
import NetWatch.Proofs.Ber.Buffer
import NetWatch.Proofs.Ber.FixedWidth

/-!
# Numbers and their contents

Three kinds of number travel: integers of 32 bits and counters of 32 and of 64. Each is written as the
shortest content that has its value in two's complement, which for a counter is its plain digits with
a zero octet in front where these would show a sign. Each is read from a range of contents that is
wider than what is written, and each kind has a meaning of its own for them. `NumberKind.Sound` puts
both together, and `numbers_sound` says which contents and which meaning it is.
-/

namespace NetWatch

namespace Ber

namespace Grammar

def Signed : Grammar Int := fun content n => content ≠ [] ∧ content.twosComplement = n

def Unsigned : Grammar Nat := fun content n => content ≠ [] ∧ content.bigEndian = n

theorem signed_eq_twosComplement : Signed = TwosComplement := by
  funext content n
  rw [Signed, TwosComplement, Integer.value_eq_twosComplement]

theorem shortest_unsigned_plain (n : Nat) : Shortest Unsigned (Octets.plain n) n := by
  refine ⟨⟨Octets.plain_ne_nil n, ?_⟩, ?_⟩
  · rw [← Octets.toNat_eq_bigEndian, Octets.toNat_plain]
  · rintro other ⟨hne, rfl⟩
    rw [← Octets.toNat_eq_bigEndian]
    exact Octets.length_plain_le hne

end Grammar

/-- The content of a number that is not negative is the shortest one without a sign, or that behind a
zero octet: the latter exactly if the highest bit of its first octet is set. -/
def PadsHighBit (content : Octets) (n : Nat) : Prop :=
  ∃ plain, Grammar.Shortest Grammar.Unsigned plain n ∧
    content = if 0x80 ≤ plain.headD 0 then 0 :: plain else plain

theorem padsHighBit_content (n : Nat) : PadsHighBit (Integer.content n) n :=
  ⟨Octets.plain n, Grammar.shortest_unsigned_plain n, Integer.content_natCast n⟩

/-! ## Elements at an offset -/

/-- An element stands at the offset, its length in any form and its content at `start`. -/
def StandsAt (data : Octets) (offset : Nat) (tag : Tag) (content : Octets) (start : Nat) : Prop :=
  ∃ l, Grammar.DefiniteLength l content.length ∧ start = offset + 1 + l.length ∧
    tag :: (l ++ content) <+: data.drop offset

section

variable {data content : Octets} {offset start : Nat} {tag : Tag}

theorem standsAt_encodeElement (short : content.length < Length.bound)
    (h : encodeElement tag content <+: data.drop offset) :
    StandsAt data offset tag content (offset + 1 + Length.size content.length) :=
  ⟨_, definiteLength_encode short, rfl, h⟩

/-- What is read where an element stands depends on the content. -/
theorem StandsAt.parseAt_eq (h : StandsAt data offset tag content start) :
    ∃ e : Element, e.content = ⟨start, content⟩ ∧
      ∀ {α : Type} (item : Element → Except DecodeError α), parseAt item data offset =
        (item e).map fun a => ⟨start + content.length, tag, a⟩ := by
  obtain ⟨l, hlength, rfl, after, hafter⟩ := h
  have hpasses : (Window.startingAt data offset).Passes (tag :: (l ++ content))
      ⟨offset + 1 + l.length + content.length, after⟩ := by
    refine ⟨hafter.symm, ?_⟩
    simp only [Window.startingAt, List.length_cons, List.length_append]
    omega
  have he : (Window.startingAt data offset).element =
      .ok ⟨tag, offset, ⟨offset + 1 + l.length, content⟩, _⟩ :=
    Window.element_eq_ok_iff.2 ⟨rfl, l, hlength, rfl, hpasses⟩
  exact ⟨_, rfl, fun item => parseAt_ok he item⟩

end

/-! ## Contents that are read -/

def refusal (content : Octets) : DecodeProblem :=
  if content = [] then .emptyInteger else .integerOverflow

/-- A content of so many octets, or one more behind a zero, is not empty. -/
theorem ite_padded_eq {β : Type} {content : Octets} {most : Nat} (taken : β)
    (refused : DecodeProblem → β) :
    (if content = [] then refused .emptyInteger
      else if content.length ≤ most ∨ content.length = most + 1 ∧ content.head? = some 0 then taken
      else refused .integerOverflow) =
    if 1 ≤ content.length ∧ content.length ≤ most ∨
      content.length = most + 1 ∧ content.head? = some 0 then taken
    else refused (refusal content) := by
  unfold refusal
  by_cases hne : content = []
  · rw [if_pos hne, if_neg (by simp [hne]), if_pos hne]
  · have hpos := List.length_pos_iff.2 hne
    rw [if_neg hne, if_neg hne]
    exact if_congr (or_congr_left (and_iff_right hpos).symm) rfl rfl

namespace Element

theorem integer32_eq (e : Element) : e.integer32 =
    if 1 ≤ e.content.octets.length ∧ e.content.octets.length ≤ 4 then
      .ok (Int32.ofInt (Integer.value e.content.octets))
    else e.content.fail (refusal e.content.octets) := by
  simp only [integer32, List.isEmpty_iff, refusal]
  by_cases hne : e.content.octets = []
  · rw [if_pos hne, if_neg (by simp [hne]), if_pos hne]
  · have hpos := List.length_pos_iff.2 hne
    rw [if_neg hne, if_neg hne]
    split
    · next hlong => rw [if_neg (by omega)]
    · next hshort => rw [if_pos ⟨hpos, Nat.not_lt.1 hshort⟩]

theorem unsigned32_eq (e : Element) : e.unsigned32 =
    if 1 ≤ e.content.octets.length ∧ e.content.octets.length ≤ 4 ∨
      e.content.octets.length = 5 ∧ e.content.octets.head? = some 0 then
      .ok (UInt32.ofNat (Integer.value e.content.octets % 4294967296).toNat)
    else e.content.fail (refusal e.content.octets) := by
  simp only [unsigned32, List.isEmpty_iff]
  exact ite_padded_eq _ _

theorem unsigned64_eq (e : Element) : e.unsigned64 =
    if 1 ≤ e.content.octets.length ∧ e.content.octets.length ≤ 8 ∨
      e.content.octets.length = 9 ∧ e.content.octets.head? = some 0 then
      .ok (UInt64.ofNat (Octets.toNat e.content.octets))
    else e.content.fail (refusal e.content.octets) := by
  simp only [unsigned64, List.isEmpty_iff]
  exact ite_padded_eq _ _

end Element

/-! ## Kinds of number -/

/-- A kind of number: the integer that each one is, what is left of its octets in memory when those in
front are skipped, two ways to write it and one to read it. -/
structure NumberKind (α : Type) where
  toInt : α → Int
  skipped : α → Octets
  writeAt : Nat → Tag → α → BufferWriter Nat
  push : Builder → Tag → α → Builder
  readAt : Octets → Nat → Except DecodeError (Parsed α)

namespace NumberKind

def integer32 : NumberKind Int32 where
  toInt n := n.toInt
  skipped := Integer.signedOctets
  writeAt := BufferWriter.integer32
  push := Builder.pushIntegerTagged
  readAt := integer32At

def unsigned32 : NumberKind UInt32 where
  toInt n := n.toNat
  skipped n := Integer.unsignedOctets 4 n.toNat
  writeAt := BufferWriter.unsigned32
  push := Builder.pushUnsigned32
  readAt := unsigned32At

def unsigned64 : NumberKind UInt64 where
  toInt n := n.toNat
  skipped n := Integer.unsignedOctets 8 n.toNat
  writeAt := BufferWriter.unsigned64
  push := Builder.pushUnsigned64
  readAt := unsigned64At

structure Carries (k : NumberKind α) (tag : Tag) (n : α) (content : Octets) : Prop where
  written : ∀ offset buf, offset + (encodeElement tag content).length ≤ buf.length →
    k.writeAt offset tag n buf = .ok (offset + (encodeElement tag content).length)
      (buf.overwrite offset (encodeElement tag content))
  pushed : ∀ b, (k.push b tag n).octets = encodeElement tag content ++ b.octets
  readBack : ∀ data offset, encodeElement tag content <+: data.drop offset →
    k.readAt data offset = .ok ⟨offset + (encodeElement tag content).length, tag, n⟩

/-- A number travels as the shortest content for it, of at most so many octets, and back; skipping in
memory gives the same. Of all contents the legal ones are read, with their meaning, and the others
refused where they begin. -/
structure Sound (k : NumberKind α) (most : Nat) (legal : Octets → Prop) (meaning : Octets → Int) :
    Prop where
  carries : ∀ tag n, ∃ content, Grammar.Shortest Grammar.Signed content (k.toInt n) ∧
    content.length ≤ most ∧ (∀ m : Nat, k.toInt n = m → PadsHighBit content m) ∧
    k.skipped n = content ∧ k.Carries tag n content
  accepts : ∀ data offset tag content start, StandsAt data offset tag content start →
    legal content → ∃ n, k.toInt n = meaning content ∧
      k.readAt data offset = .ok ⟨start + content.length, tag, n⟩
  refuses : ∀ data offset tag content start, StandsAt data offset tag content start →
    ¬legal content → k.readAt data offset = .error ⟨start, refusal content⟩

/-- The kind is written as its shortest content. Its reader looks at nothing but a content, and takes
`value` from a legal one. -/
structure OnContents (k : NumberKind α) (item : Element → Except DecodeError α) (value : Octets → α)
    (most : Nat) (legal : Octets → Prop) [DecidablePred legal] (meaning : Octets → Int) : Prop where
  writeAt : ∀ offset tag n,
    k.writeAt offset tag n = BufferWriter.element offset tag (Integer.content (k.toInt n))
  push : ∀ b tag n, k.push b tag n = b.pushElement tag (Integer.content (k.toInt n))
  readAt : k.readAt = parseAt item
  skipped : ∀ n, k.skipped n = Integer.content (k.toInt n)
  length : ∀ n, (Integer.content (k.toInt n)).length ≤ most
  takes : ∀ e n, e.content.octets = Integer.content (k.toInt n) → item e = .ok n
  item_eq : ∀ e, item e = if legal e.content.octets then .ok (value e.content.octets)
    else e.content.fail (refusal e.content.octets)
  toInt_value : ∀ e : Element, legal e.content.octets →
    k.toInt (value e.content.octets) = meaning e.content.octets

section

variable {k : NumberKind α} {item : Element → Except DecodeError α} {value : Octets → α}
  {most : Nat} {legal : Octets → Prop} [DecidablePred legal] {meaning : Octets → Int}

theorem OnContents.carries (h : k.OnContents item value most legal meaning)
    (hmost : most < Length.bound) (tag : Tag) (n : α) :
    k.Carries tag n (Integer.content (k.toInt n)) where
  written offset buf room := by
    rw [h.writeAt]
    exact BufferWriter.element_eq_ok (Nat.lt_of_le_of_lt (h.length n) hmost) room
  pushed b := by
    rw [h.push]
    exact Builder.prepends_pushElement tag _ b
  readBack data offset stands := by
    have short := Nat.lt_of_le_of_lt (h.length n) hmost
    obtain ⟨e, he, hread⟩ := (standsAt_encodeElement short stands).parseAt_eq
    rw [h.readAt, hread, h.takes e n (congrArg Window.octets he), length_encodeElement]
    simp only [Except.map, Nat.add_assoc]

theorem OnContents.sound (h : k.OnContents item value most legal meaning)
    (hmost : most < Length.bound) : k.Sound most legal meaning where
  carries tag n := by
    refine ⟨Integer.content (k.toInt n), ?_, h.length n, ?_, h.skipped n, h.carries hmost tag n⟩
    · rw [Grammar.signed_eq_twosComplement]
      exact Grammar.shortest_twosComplement_iff.2 rfl
    · intro m hm
      rw [hm]
      exact padsHighBit_content m
  accepts data offset tag content start stands hlegal := by
    obtain ⟨e, he, hread⟩ := stands.parseAt_eq
    have hvalue := h.toInt_value e (by rwa [he])
    rw [he] at hvalue
    refine ⟨value content, hvalue, ?_⟩
    rw [h.readAt, hread, h.item_eq, he, if_pos hlegal, Except.map]
  refuses data offset tag content start stands hlegal := by
    obtain ⟨e, he, hread⟩ := stands.parseAt_eq
    rw [h.readAt, hread, h.item_eq, he, if_neg hlegal]
    rfl

end

theorem integer32_onContents : integer32.OnContents Element.integer32
    (fun c => Int32.ofInt (Integer.value c)) 4
    (fun c => 1 ≤ c.length ∧ c.length ≤ 4) Octets.twosComplement where
  writeAt _ _ _ := rfl
  push _ _ _ := rfl
  readAt := rfl
  skipped := Integer.signedOctets_eq
  length n := (Grammar.integer32_content n).2.1
  takes e n h := Element.integer32_eq_ok_iff.2 (h ▸ Grammar.integer32_content n)
  item_eq := Element.integer32_eq
  toInt_value e h := by
    rw [← Integer.value_eq_twosComplement]
    exact (Element.integer32_eq_ok_iff.1 (e.integer32_eq.trans (if_pos h))).2.2

theorem unsigned32_onContents : unsigned32.OnContents Element.unsigned32
    (fun c => UInt32.ofNat (Integer.value c % 4294967296).toNat) 5
    (fun c => 1 ≤ c.length ∧ c.length ≤ 4 ∨ c.length = 5 ∧ c.head? = some 0)
    (fun c => c.twosComplement % 2 ^ 32) where
  writeAt _ _ _ := rfl
  push _ _ _ := rfl
  readAt := rfl
  skipped n := Integer.unsignedOctets_eq n.toNat_lt
  length n := by
    have h := (Grammar.unsigned32_content n).1
    change (Integer.content n.toNat).length ≤ 5
    omega
  takes e n h := Element.unsigned32_eq_ok_iff.2 (h ▸ Grammar.unsigned32_content n)
  item_eq := Element.unsigned32_eq
  toInt_value e h := by
    rw [← Integer.value_eq_twosComplement]
    exact (Element.unsigned32_eq_ok_iff.1 (e.unsigned32_eq.trans (if_pos h))).2

theorem unsigned64_onContents : unsigned64.OnContents Element.unsigned64
    (fun c => UInt64.ofNat (Octets.toNat c)) 9
    (fun c => 1 ≤ c.length ∧ c.length ≤ 8 ∨ c.length = 9 ∧ c.head? = some 0)
    (fun c => c.bigEndian) where
  writeAt _ _ _ := rfl
  push _ _ _ := rfl
  readAt := rfl
  skipped n := Integer.unsignedOctets_eq n.toNat_lt
  length n := by
    have h := (Grammar.unsigned64_content n).1
    change (Integer.content n.toNat).length ≤ 9
    omega
  takes e n h := Element.unsigned64_eq_ok_iff.2 (h ▸ Grammar.unsigned64_content n)
  item_eq := Element.unsigned64_eq
  toInt_value e h := by
    rw [← Octets.toNat_eq_bigEndian]
    exact congrArg Nat.cast
      (Element.unsigned64_eq_ok_iff.1 (e.unsigned64_eq.trans (if_pos h))).2

/-- Every number of the three kinds travels as its shortest content. What is read besides:

- an integer from one to four octets, in two's complement;
- a counter of 32 bits from one to four octets in two's complement, or five behind a zero, modulo
  2^32;
- a counter of 64 bits from one to eight octets without a sign, or nine behind a zero. -/
theorem numbers_sound :
    integer32.Sound 4 (fun c => 1 ≤ c.length ∧ c.length ≤ 4) Octets.twosComplement ∧
    unsigned32.Sound 5
      (fun c => 1 ≤ c.length ∧ c.length ≤ 4 ∨ c.length = 5 ∧ c.head? = some 0)
      (fun c => c.twosComplement % 2 ^ 32) ∧
    unsigned64.Sound 9
      (fun c => 1 ≤ c.length ∧ c.length ≤ 8 ∨ c.length = 9 ∧ c.head? = some 0)
      (fun c => c.bigEndian) :=
  ⟨integer32_onContents.sound (by decide), unsigned32_onContents.sound (by decide),
    unsigned64_onContents.sound (by decide)⟩

/-- The largest counter of 32 bits comes back from the offset at which it was written, and is read
too behind a length in a longer form than is written. -/
theorem numbers_sound_largest :
    (∃ next left, BufferWriter.unsigned32 2 0x42 4294967295 (List.replicate 13 0xAA) = .ok next left ∧
      unsigned32At left 2 = .ok ⟨next, 0x42, 4294967295⟩) ∧
    StandsAt [0xAA, 0x42, 0x81, 5, 0, 0xFF, 0xFF, 0xFF, 0xFF] 1 0x42 [0, 0xFF, 0xFF, 0xFF, 0xFF] 4 ∧
    unsigned32At [0xAA, 0x42, 0x81, 5, 0, 0xFF, 0xFF, 0xFF, 0xFF] 1 =
      .ok ⟨9, 0x42, 4294967295⟩ := by
  obtain ⟨-, hcounter, -⟩ := numbers_sound
  have hstands : StandsAt [0xAA, 0x42, 0x81, 5, 0, 0xFF, 0xFF, 0xFF, 0xFF] 1 0x42
      [0, 0xFF, 0xFF, 0xFF, 0xFF] 4 :=
    ⟨[0x81, 5], .long rfl (by decide) (by decide), rfl, by decide⟩
  refine ⟨?_, hstands, ?_⟩
  · obtain ⟨content, -, hlen, -, -, hcarries⟩ := hcounter.carries 0x42 4294967295
    have hsize := length_encodeElement_le 0x42 content
    have hroom : 2 + (encodeElement 0x42 content).length ≤
        (List.replicate 13 (0xAA : UInt8)).length := by
      rw [List.length_replicate]
      omega
    refine ⟨_, _, hcarries.written 2 _ hroom, hcarries.readBack _ 2 ?_⟩
    rw [Octets.drop_overwrite hroom]
    exact List.prefix_append _ _
  · obtain ⟨n, hn, hread⟩ := hcounter.accepts _ 1 0x42 _ 4 hstands (.inr ⟨rfl, rfl⟩)
    have hvalue : Octets.twosComplement [0, 0xFF, 0xFF, 0xFF, 0xFF] % 2 ^ 32 = 4294967295 := by
      decide +kernel
    have hnat : (n.toNat : Int) = 4294967295 := hn.trans hvalue
    obtain rfl : n = 4294967295 := UInt32.toNat_inj.1 (Int.ofNat_inj.1 hnat)
    exact hread

end NumberKind

end Ber

end NetWatch
