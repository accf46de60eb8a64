import NetWatch.Proofs.Ber.FixedWidth
import NetWatch.Proofs.Ber.Recognition

/-!
# Definite lengths in a buffer

In memory a length is one word, whose four octets are cut behind their zeros in front. What is written
of it is the shortest definite form, as if the digits had been counted out (`inMemory_eq`,
`isShortestForm_encode`). `IsAt` says where in a buffer a length stands, in any form, and `Refused` why
there is none; one of the two is the case at every offset, and that is what a read finds
(`decodeAt_eq_ok_iff`, `decodeAt_eq_error_iff`).
-/

namespace NetWatch

/-- The octets behind the zeros in front are the digits of the number. -/
theorem Octets.dropWhile_zero_eq_digits (content : Octets) :
    content.dropWhile (· = 0) = digits (toNat content) := by
  induction content with
  | nil => rw [toNat_nil, digits, if_pos rfl, List.dropWhile_nil]
  | cons first rest ih =>
    by_cases h : first = 0
    · subst h
      rw [List.dropWhile_cons_of_pos (by simp), ih, toNat_zero_cons]
    · have hplain : plain (toNat (first :: rest)) = first :: rest := plain_toNat_of_ne_zero h
      have hne : toNat (first :: rest) ≠ 0 := by
        rw [toNat_cons]
        have hfirst : 0 < first.toNat := Nat.pos_of_ne_zero fun h0 => h (UInt8.toNat_inj.1 h0)
        have := Nat.mul_pos hfirst (Nat.pow_pos (n := rest.length) (by decide : 0 < 256))
        omega
      rw [plain, if_neg hne] at hplain
      rw [hplain]
      exact List.dropWhile_cons_of_neg (by simpa using h)

namespace Ber.Length

open Grammar

/-! ## Writing -/

/-- The low 32 bits of a length as one word, without the octets in front that are zero. -/
def significant (len : Nat) : Octets :=
  (Octets.ofNat 4 (UInt32.ofNat len).toNat).dropWhile (· = 0)

def inMemory (len : Nat) : Octets :=
  if len < 0x80 then [UInt8.ofNat len]
  else (0x80 ||| UInt8.ofNat (significant len).length) :: significant len

/-- One octet below 128. Else the count of the digits, with the top bit set, and the digits, which do
not begin with a zero. -/
inductive IsShortestForm (len : Nat) : Octets → Prop where
  | short : len < 128 → IsShortestForm len [UInt8.ofNat len]
  | long {digits : Octets} : 128 ≤ len → digits.bigEndian = len → digits.head? ≠ some 0 →
      digits.length ≤ 4 → IsShortestForm len (UInt8.ofNat (0x80 + digits.length) :: digits)

variable {data : Octets} {offset len next : Nat} {e : DecodeError}

theorem significant_eq (len : Nat) : significant len = Octets.digits (len % bound) := by
  have hbound : bound = 2 ^ 32 := rfl
  have hlt : len % 2 ^ 32 < 256 ^ 4 := Nat.mod_lt _ (by decide)
  rw [significant, Octets.dropWhile_zero_eq_digits, UInt32.toNat_ofNat', Octets.toNat_ofNat hlt,
    hbound]

theorem inMemory_eq (len : Nat) : inMemory len = encode len := by
  have hlt : len % bound < 256 ^ 4 := Nat.mod_lt _ (by decide)
  have hcount : ∀ k ≤ 4, 0x80 ||| UInt8.ofNat k = UInt8.ofNat (0x80 + k) := by decide
  rw [inMemory, encode, significant_eq, hcount _ (Octets.length_digits_le hlt)]

theorem head?_digits_ne (n : Nat) : (Octets.digits n).head? ≠ some 0 := by
  have hskip := Octets.dropWhile_zero_eq_digits (Octets.digits n)
  rw [Octets.toNat_digits] at hskip
  have hhead := List.head?_dropWhile_not (· = 0) (Octets.digits n)
  rw [hskip] at hhead
  intro hzero
  simp [hzero] at hhead

theorem isShortestForm_encode (h : len < 2 ^ 32) : IsShortestForm len (encode len) := by
  rcases Nat.lt_or_ge len 128 with hshort | hlong
  · rw [encode_of_lt hshort]
    exact .short hshort
  · rw [encode_of_le hlong h]
    refine .long hlong ?_ (head?_digits_ne len) (Octets.length_digits_le h)
    rw [← Octets.toNat_eq_bigEndian, Octets.toNat_digits]

/-! ## Reading -/

inductive IsAt (data : Octets) (offset : Nat) : (len next : Nat) → Prop where
  | short {first : UInt8} : data[offset]? = some first → first < 0x80 →
      IsAt data offset first.toNat (offset + 1)
  | long {first : UInt8} {count : Nat} : data[offset]? = some first → first.toNat = 0x80 + count →
      1 ≤ count → count ≤ 4 → offset + 1 + count ≤ data.length →
      IsAt data offset (Octets.bigEndian (data.extract (offset + 1) (offset + 1 + count)))
        (offset + 1 + count)

inductive Refused (data : Octets) (offset : Nat) : DecodeError → Prop where
  | nothing : data.length ≤ offset → Refused data offset ⟨offset, .truncated⟩
  | indefinite : data[offset]? = some 0x80 → Refused data offset ⟨offset, .indefiniteLength⟩
  | tooLong {first : UInt8} {count : Nat} : data[offset]? = some first →
      first.toNat = 0x80 + count → 4 < count → Refused data offset ⟨offset, .lengthTooLong count⟩
  | cut {first : UInt8} {count : Nat} : data[offset]? = some first → first.toNat = 0x80 + count →
      1 ≤ count → count ≤ 4 → data.length < offset + 1 + count →
      Refused data offset ⟨offset + 1, .truncated⟩

theorem isAt_or_refused (data : Octets) (offset : Nat) :
    (∃ len next, IsAt data offset len next) ∨ ∃ e, Refused data offset e := by
  cases hfirst : data[offset]? with
  | none => exact .inr ⟨_, .nothing (List.getElem?_eq_none_iff.1 hfirst)⟩
  | some first =>
    rcases Nat.lt_or_ge first.toNat 0x80 with hshort | hlong
    · exact .inl ⟨_, _, .short hfirst (UInt8.lt_iff_toNat_lt.2 hshort)⟩
    obtain ⟨count, hcount⟩ := Nat.exists_eq_add_of_le hlong
    rcases Nat.eq_zero_or_pos count with rfl | hpos
    · obtain rfl : first = 0x80 := UInt8.toNat_inj.1 hcount
      exact .inr ⟨_, .indefinite hfirst⟩
    rcases Nat.lt_or_ge 4 count with hmany | hfew
    · exact .inr ⟨_, .tooLong hfirst hcount hmany⟩
    rcases Nat.lt_or_ge data.length (offset + 1 + count) with hcut | hfits
    · exact .inr ⟨_, .cut hfirst hcount hpos hfew hcut⟩
    · exact .inl ⟨_, _, .long hfirst hcount hpos hfew hfits⟩

theorem decodeAt_of_stands {l : Octets} (hl : DefiniteLength l len) (h : l <+: data.drop offset) :
    decodeAt data offset = .ok (len, offset + l.length) := by
  obtain ⟨rest, hrest⟩ := h
  have hread : read (.startingAt data offset) = .ok (len, ⟨offset + l.length, rest⟩) :=
    read_eq_ok_iff.2 ⟨l, hl, hrest.symm, rfl⟩
  rw [decodeAt, hread]
  rfl

theorem drop_eq_cons {first : UInt8} (h : data[offset]? = some first) :
    data.drop offset = first :: data.drop (offset + 1) := by
  obtain ⟨hlt, rfl⟩ := List.getElem?_eq_some_iff.1 h
  exact List.drop_eq_getElem_cons hlt

theorem decodeAt_of_isAt (h : IsAt data offset len next) :
    decodeAt data offset = .ok (len, next) := by
  cases h with
  | @short first hfirst hlow =>
    refine decodeAt_of_stands (.short hlow) ?_
    rw [drop_eq_cons hfirst]
    exact ⟨_, rfl⟩
  | @long first count hfirst hcount hpos hfew hfits =>
    have hextract : data.extract (offset + 1) (offset + 1 + count) =
        (data.drop (offset + 1)).take count := by
      rw [List.extract, Nat.add_sub_cancel_left]
    have hlength : ((data.drop (offset + 1)).take count).length = count := by
      rw [List.length_take, List.length_drop]
      omega
    rw [hextract, ← Octets.toNat_eq_bigEndian]
    have hl : DefiniteLength (first :: (data.drop (offset + 1)).take count) _ :=
      .long (by rwa [hlength]) (by rwa [hlength]) (by rwa [hlength])
    rw [decodeAt_of_stands hl ?_, List.length_cons, hlength, Nat.add_assoc, Nat.add_comm count 1]
    rw [drop_eq_cons hfirst, List.cons_prefix_cons]
    exact ⟨rfl, List.take_prefix _ _⟩

/-- Behind an octet with the top bit set, the count in its other bits decides. -/
theorem decodeAt_of_count {first : UInt8} {count : Nat} (hfirst : data[offset]? = some first)
    (hcount : first.toNat = 0x80 + count) : decodeAt data offset =
      if count = 0 then .error ⟨offset, .indefiniteLength⟩
      else if count > maxOctets then .error ⟨offset, .lengthTooLong count⟩
      else match (Window.startingAt data (offset + 1)).split? count with
        | none => .error ⟨offset + 1, .truncated⟩
        | some (digits, after) => .ok (Octets.toNat digits, after.offset) := by
  have hlow : ¬ first < 0x80 := by
    have h80 : (0x80 : UInt8).toNat = 128 := rfl
    rw [UInt8.lt_iff_toNat_lt, h80]
    omega
  have hsub : first.toNat - 0x80 = count := by omega
  rw [decodeAt, Window.startingAt, drop_eq_cons hfirst, read]
  simp only [if_neg hlow, hsub]
  by_cases hzero : count = 0
  · simp only [if_pos hzero]
    rfl
  by_cases hmany : count > maxOctets
  · simp only [if_neg hzero, if_pos hmany]
    rfl
  simp only [if_neg hzero, if_neg hmany, Window.startingAt]
  cases Window.split? ⟨offset + 1, data.drop (offset + 1)⟩ count <;> rfl

theorem decodeAt_of_refused (h : Refused data offset e) : decodeAt data offset = .error e := by
  cases h with
  | nothing hend =>
    rw [decodeAt, Window.startingAt, List.drop_eq_nil_of_le hend]
    rfl
  | indefinite hfirst =>
    have hcount : (0x80 : UInt8).toNat = 0x80 + 0 := rfl
    rw [decodeAt_of_count hfirst hcount, if_pos rfl]
  | tooLong hfirst hcount hmany =>
    have hover : _ > maxOctets := hmany
    rw [decodeAt_of_count hfirst hcount, if_neg (by omega), if_pos hover]
  | @cut first count hfirst hcount hpos hfew hcut =>
    have hsplit : (Window.startingAt data (offset + 1)).split? count = none := by
      refine if_pos ?_
      rw [Window.startingAt, List.length_take, List.length_drop]
      omega
    have hwithin : ¬ count > maxOctets := Nat.not_lt.2 hfew
    rw [decodeAt_of_count hfirst hcount, if_neg (by omega), if_neg hwithin, hsplit]

theorem decodeAt_eq_ok_iff : decodeAt data offset = .ok (len, next) ↔ IsAt data offset len next := by
  refine ⟨fun h => ?_, decodeAt_of_isAt⟩
  rcases isAt_or_refused data offset with ⟨len', next', hat⟩ | ⟨e, hrefused⟩
  · rw [decodeAt_of_isAt hat] at h
    cases h
    exact hat
  · rw [decodeAt_of_refused hrefused] at h
    cases h

theorem decodeAt_eq_error_iff : decodeAt data offset = .error e ↔ Refused data offset e := by
  refine ⟨fun h => ?_, decodeAt_of_refused⟩
  rcases isAt_or_refused data offset with ⟨len', next', hat⟩ | ⟨e, hrefused⟩
  · rw [decodeAt_of_isAt hat] at h
    cases h
  · rw [decodeAt_of_refused hrefused] at h
    cases h
    exact hrefused

/-- How lengths are written and read.

- What is cut out of the word in memory is what counting the digits gives.
- A length of 32 bits is written in its shortest form, and no other definite form is shorter. Wherever
  that stands in a buffer, it is read back, and the read ends behind it.
- At any offset of any buffer a read finds the length that stands there, or says why there is none. -/
theorem definite_lengths :
    (∀ len, inMemory len = encode len) ∧
    (∀ len < 2 ^ 32, IsShortestForm len (encode len) ∧ Shortest DefiniteLength (encode len) len ∧
      ∀ data offset, encode len <+: data.drop offset →
        decodeAt data offset = .ok (len, offset + (encode len).length)) ∧
    ∀ data offset,
      (∀ len next, decodeAt data offset = .ok (len, next) ↔ IsAt data offset len next) ∧
      ∀ e, decodeAt data offset = .error e ↔ Refused data offset e := by
  refine ⟨inMemory_eq, fun len hlen => ?_,
    fun data offset => ⟨fun len next => decodeAt_eq_ok_iff, fun e => decodeAt_eq_error_iff⟩⟩
  exact ⟨isShortestForm_encode hlen, shortest_definiteLength_iff.2 ⟨hlen, rfl⟩,
    fun data offset => decodeAt_of_stands (definiteLength_encode hlen)⟩

/-- A length of three digits between other octets, a small one with zeros in front, and one whose last
digit is missing. -/
theorem definite_lengths_threeDigits :
    encode 70000 = [0x83, 0x01, 0x11, 0x70] ∧
    decodeAt [0xAA, 0x83, 0x01, 0x11, 0x70, 0xBB] 1 = .ok (70000, 5) ∧
    decodeAt [0xAA, 0x84, 0, 0, 0, 5] 1 = .ok (5, 6) ∧
    decodeAt [0xAA, 0x82, 1] 1 = .error ⟨2, .truncated⟩ := by
  obtain ⟨hmemory, hwritten, hread⟩ := definite_lengths
  have hencode : encode 70000 = [0x83, 0x01, 0x11, 0x70] :=
    (hmemory 70000).symm.trans (by decide)
  obtain ⟨-, -, hback⟩ := hwritten 70000 (by decide)
  rw [hencode] at hback
  have hzeros : IsAt [0xAA, 0x84, 0, 0, 0, 5] 1 5 6 :=
    @IsAt.long _ _ 0x84 4 rfl rfl (by decide) (by decide) (by decide)
  refine ⟨hencode, hback _ 1 ⟨[0xBB], rfl⟩, ((hread _ 1).1 5 6).2 hzeros, ((hread _ 1).2 _).2 ?_⟩
  exact @Refused.cut _ _ 0x82 2 rfl rfl (by decide) (by decide) (by decide)

end Ber.Length

end NetWatch
