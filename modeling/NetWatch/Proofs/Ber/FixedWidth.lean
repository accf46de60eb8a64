import NetWatch.Proofs.Ber.Shortest

/-!
# Numbers of a fixed width

In memory a number has a fixed count of octets, which side by side are one word (`twosComplement`).
To write it, those in front are skipped that say nothing: zeros before a digit, or octets that only
repeat the sign. What is left over is the shortest content (`signedOctets_eq`, `unsignedOctets_eq`).
An integer has only one content whose first nine bits differ, so it does not matter how that is found
(`IsShortest.eq_content`).
-/

namespace NetWatch

namespace Octets

def bigEndian (content : Octets) : Nat :=
  Nat.ofDigits 256 (content.reverse.map UInt8.toNat)

/-- The octets side by side as one word with a sign. -/
def twosComplement (content : Octets) : Int :=
  (BitVec.ofNat (8 * content.length) content.bigEndian).toInt

theorem toNat_eq_bigEndian (content : Octets) : toNat content = content.bigEndian := by
  induction content using List.reverseRecOn with
  | nil => rfl
  | append_singleton content b ih =>
    rw [toNat_append_singleton, ih]
    simp only [bigEndian, List.reverse_append, List.reverse_singleton, List.singleton_append,
      List.map_cons, Nat.ofDigits_cons]
    omega

/-- The shortest digits of a number, one of them for zero. -/
def plain (n : Nat) : Octets := if n = 0 then [0] else digits n

theorem plain_of_lt {n : Nat} (h : n < 256) : plain n = [UInt8.ofNat n] := by
  unfold plain
  split
  · next hn => rw [hn]; rfl
  · next hn =>
    rw [digits, if_neg hn, Nat.div_eq_of_lt h, Nat.mod_eq_of_lt h, digits, if_pos rfl]
    rfl

theorem plain_of_le {n : Nat} (h : 256 ≤ n) :
    plain n = plain (n / 256) ++ [UInt8.ofNat (n % 256)] := by
  rw [plain, if_neg (by omega), digits, if_neg (by omega), plain, if_neg (by omega)]

theorem plain_ne_nil (n : Nat) : plain n ≠ [] := by
  unfold plain
  split
  · simp
  · next hn => exact digits_ne_nil hn

theorem toNat_plain (n : Nat) : toNat (plain n) = n := by
  unfold plain
  split
  · next hn => rw [hn]; rfl
  · exact toNat_digits n

theorem length_plain_le {content : Octets} (h : content ≠ []) :
    (plain (toNat content)).length ≤ content.length := by
  unfold plain
  split
  · exact List.length_pos_iff.2 h
  · exact length_digits_le (toNat_lt content)

/-- Leaves out zeros in front, but not the last octet of all. -/
def skipZeros : Octets → Octets
  | first :: second :: rest =>
    if first = 0 then skipZeros (second :: rest) else first :: second :: rest
  | few => few

theorem toNat_zero_cons (content : Octets) : toNat (0 :: content) = toNat content := by
  rw [toNat_cons, UInt8.toNat_zero, Nat.zero_mul, Nat.zero_add]

theorem plain_toNat_of_ne_zero {first : UInt8} {rest : Octets} (h : first ≠ 0) :
    plain (toNat (first :: rest)) = first :: rest := by
  have hfirst : 1 ≤ first.toNat := Nat.pos_of_ne_zero fun h0 => h (UInt8.toNat_inj.1 h0)
  have hunits : 256 ^ rest.length ≤ toNat (first :: rest) := by
    rw [toNat_cons]
    exact Nat.le_add_right_of_le (Nat.le_mul_of_pos_left _ hfirst)
  have hlong : rest.length < (plain (toNat (first :: rest))).length := by
    have hlt := toNat_lt (plain (toNat (first :: rest)))
    rw [toNat_plain] at hlt
    exact (Nat.pow_lt_pow_iff_right (by decide)).1 (Nat.lt_of_le_of_lt hunits hlt)
  have hshort := length_plain_le (List.cons_ne_nil first rest)
  rw [List.length_cons] at hshort
  exact eq_of_toNat_eq (by rw [List.length_cons]; omega) (toNat_plain _)

/-- What is left over depends on the value of the number only. -/
theorem skipZeros_eq_plain (first : UInt8) (rest : Octets) :
    skipZeros (first :: rest) = plain (toNat (first :: rest)) := by
  induction rest generalizing first with
  | nil =>
    have hfirst : toNat [first] = first.toNat := by simp [toNat]
    have hskip : skipZeros [first] = [first] := rfl
    rw [hskip, hfirst, plain_of_lt first.toNat_lt, UInt8.ofNat_toNat]
  | cons second rest ih =>
    rw [skipZeros]
    split
    · next hzero => rw [hzero, toNat_zero_cons, ih]
    · next hne => rw [plain_toNat_of_ne_zero hne]

end Octets

namespace Ber

/-! ## Two's complement -/

namespace Integer

theorem value_eq_twosComplement (content : Octets) : value content = content.twosComplement := by
  cases content with
  | nil => rfl
  | cons first rest =>
    have h80 : (0x80 : UInt8).toNat = 128 := rfl
    have hrest := Octets.toNat_lt rest
    have hall := Octets.toNat_lt (first :: rest)
    have hsize : 2 ^ (8 * (first :: rest).length) = 256 ^ (first :: rest).length :=
      Nat.pow_mul 2 8 _
    rw [Octets.twosComplement, ← Octets.toNat_eq_bigEndian, BitVec.toInt_eq_toNat_cond,
      BitVec.toNat_ofNat, hsize, Nat.mod_eq_of_lt hall, Octets.toNat_cons, List.length_cons,
      Nat.pow_succ]
    simp only [value, UInt8.lt_iff_toNat_lt, h80, Octets.toNat_cons, List.length_cons, Nat.pow_eq,
      Nat.pow_succ]
    -- The first octet decides the sign: the others together are less than one of its units.
    rcases Nat.lt_or_ge first.toNat 128 with hlow | hhigh
    · have hunits : first.toNat * 256 ^ rest.length ≤ 127 * 256 ^ rest.length :=
        Nat.mul_le_mul_right _ (by omega)
      rw [if_pos hlow, if_pos (by omega)]
    · have hunits : 128 * 256 ^ rest.length ≤ first.toNat * 256 ^ rest.length :=
        Nat.mul_le_mul_right _ hhigh
      rw [if_neg (by omega), if_neg (by omega)]

theorem value_neg_iff (first : UInt8) (rest : Octets) :
    value (first :: rest) < 0 ↔ 0x80 ≤ first := by
  have hlt : (Octets.toNat (first :: rest) : Int) < 256 ^ (first :: rest).length := by
    exact_mod_cast Octets.toNat_lt (first :: rest)
  simp only [value, Nat.pow_eq]
  rw [← UInt8.not_lt]
  split
  · next h => exact ⟨fun hneg => absurd hneg (by omega), fun hnot => absurd h hnot⟩
  · next h => exact ⟨fun _ => h, fun _ => by push_cast; omega⟩

/-! ## Skipping what repeats the sign -/

theorem IsShortest.of_append {front more : Octets} (hne : front ≠ [])
    (h : IsShortest (front ++ more)) : IsShortest front := by
  match front with
  | [_] => trivial
  | _ :: _ :: _ => exact h

/-- Only the written content has first bits that differ. -/
theorem IsShortest.eq_content {c : Octets} (h : IsShortest c) : c = content (value c) := by
  induction c using List.reverseRecOn with
  | nil => exact h.elim
  | append_singleton front b ih =>
    have hb := b.toNat_lt
    by_cases hne : front = []
    · subst hne
      refine eq_of_value_eq (Nat.le_antisymm ?_ ?_) (value_content _).symm
      · exact length_content_pos _
      · exact length_content_value_le (by simp)
    · have hfront := ih (h.of_append hne)
      -- A front of 0 or -1 is one octet, and then the next bit shows that it was needed.
      have hlarge : ¬(-128 ≤ value (front ++ [b]) ∧ value (front ++ [b]) < 128) := by
        rw [value_append_singleton hne]
        rintro hsmall
        obtain ⟨hv, hlow⟩ | ⟨hv, hhigh⟩ : value front = 0 ∧ b.toNat < 128 ∨
            value front = -1 ∧ 128 ≤ b.toNat := by omega
        · rw [hfront, hv, show content 0 = [0] by rw [content]; rfl] at h
          exact h.1 ⟨rfl, UInt8.lt_iff_toNat_lt.2 hlow⟩
        · rw [hfront, hv, show content (-1) = [0xFF] by rw [content]; rfl] at h
          exact h.2 ⟨rfl, UInt8.le_iff_toNat_le.2 hhigh⟩
      rw [content, if_neg hlarge, value_append_singleton hne,
        show (value front * 256 + b.toNat) / 256 = value front by omega, ← hfront,
        show ((value front * 256 + b.toNat) % 256).toNat = b.toNat by omega, UInt8.ofNat_toNat]

/-- Whether the first octet says no more than the top bit of the second. -/
def repeatsSign (negative : Bool) (first second : UInt8) : Bool :=
  if negative then first = 0xFF && 0x80 ≤ second else first = 0 && second < 0x80

/-- Leaves out octets in front, but not the last one of all. -/
def skipSign (negative : Bool) : Octets → Octets
  | first :: second :: rest =>
    if repeatsSign negative first second then skipSign negative (second :: rest)
    else first :: second :: rest
  | few => few

theorem value_of_repeatsSign {negative : Bool} {first second : UInt8} {rest : Octets}
    (h : repeatsSign negative first second) :
    value (first :: second :: rest) = value (second :: rest) := by
  have h80 : (0x80 : UInt8).toNat = 128 := rfl
  unfold repeatsSign at h
  split at h <;> simp only [Bool.and_eq_true, decide_eq_true_iff] at h
  · obtain ⟨rfl, hsecond⟩ := h
    have hff : ¬(0xFF : UInt8) < 0x80 := by decide
    simp only [value, if_neg hff, if_neg (UInt8.not_lt.2 hsecond), Octets.toNat_cons 0xFF,
      List.length_cons, Nat.pow_eq, Nat.pow_succ]
    push_cast
    omega
  · obtain ⟨rfl, hsecond⟩ := h
    have hzero : (0 : UInt8) < 0x80 := by decide
    simp only [value, if_pos hzero, if_pos hsecond, Octets.toNat_zero_cons]

theorem skipSign_spec {negative : Bool} {first : UInt8} (rest : Octets)
    (hsign : 0x80 ≤ first ↔ negative = true) :
    IsShortest (skipSign negative (first :: rest)) ∧
      value (skipSign negative (first :: rest)) = value (first :: rest) := by
  induction rest generalizing first with
  | nil => exact ⟨trivial, rfl⟩
  | cons second rest ih =>
    rw [skipSign]
    by_cases h : repeatsSign negative first second = true
    · rw [if_pos h, value_of_repeatsSign h]
      refine ih ?_
      unfold repeatsSign at h
      cases negative <;> simp_all
    · rw [if_neg h]
      refine ⟨⟨?_, ?_⟩, rfl⟩
      · rintro ⟨rfl, hsecond⟩
        cases negative <;> simp_all [repeatsSign]
      · rintro ⟨rfl, hsecond⟩
        cases negative <;> simp_all [repeatsSign]

def signedOctets (n : Int32) : Octets :=
  skipSign (n < 0) (Octets.ofNat 4 n.toUInt32.toNat)

theorem value_octets (n : Int32) : value (Octets.ofNat 4 n.toUInt32.toNat) = n.toInt := by
  have hnat : Octets.toNat (Octets.ofNat 4 n.toUInt32.toNat) = n.toBitVec.toNat :=
    Octets.toNat_ofNat n.toBitVec.isLt
  rw [value_eq_twosComplement, Octets.twosComplement, ← Octets.toNat_eq_bigEndian, hnat,
    Octets.length_ofNat, BitVec.ofNat_toNat, BitVec.setWidth_eq]
  rfl

theorem signedOctets_eq (n : Int32) : signedOctets n = content n.toInt := by
  have hvalue := value_octets n
  obtain ⟨first, rest, hoctets⟩ : ∃ first rest, Octets.ofNat 4 n.toUInt32.toNat = first :: rest :=
    ⟨_, _, rfl⟩
  rw [hoctets] at hvalue
  have hsign : 0x80 ≤ first ↔ decide (n < 0) = true := by
    rw [← value_neg_iff first rest, hvalue, decide_eq_true_iff, Int32.lt_iff_toInt_lt]
    rfl
  obtain ⟨hshortest, hkept⟩ := skipSign_spec rest hsign
  rw [signedOctets, hoctets, hshortest.eq_content, hkept, hvalue]

/-! ## Skipping zeros -/

/-- A natural number is written as its plain digits, behind a zero octet where these would show a
sign. -/
theorem content_natCast (n : Nat) : content n =
    if 0x80 ≤ (Octets.plain n).headD 0 then 0 :: Octets.plain n else Octets.plain n := by
  have h80 : (0x80 : UInt8).toNat = 128 := rfl
  induction n using Nat.strongRecOn with
  | ind n ih =>
    rcases Nat.lt_or_ge n 256 with hn | hn
    · have hfirst : (UInt8.ofNat n).toNat = n := UInt8.toNat_ofNat_of_lt' hn
      have hsign : 0x80 ≤ UInt8.ofNat n ↔ 128 ≤ n := by
        rw [UInt8.le_iff_toNat_le, h80, hfirst]
      rw [Octets.plain_of_lt hn, List.headD_cons, content, show ((n : Int) % 256).toNat = n by omega]
      rcases Nat.lt_or_ge n 128 with hlow | hhigh
      · rw [if_pos (by omega), if_neg (mt hsign.1 (Nat.not_le.2 hlow))]
      · rw [if_neg (by omega), if_pos (hsign.2 hhigh), show (n : Int) / 256 = 0 by omega, content,
          if_pos (by omega)]
        rfl
    · obtain ⟨first, rest, hplain⟩ := List.exists_cons_of_ne_nil (Octets.plain_ne_nil (n / 256))
      rw [content, if_neg (by omega), show (n : Int) / 256 = (n / 256 : Nat) by omega,
        show ((n : Int) % 256).toNat = n % 256 by omega, ih (n / 256) (by omega),
        Octets.plain_of_le hn, hplain, List.cons_append, List.headD_cons, List.headD_cons]
      split <;> rfl

/-- The octets of a number, without the zeros in front, and with one of them again where a sign would
show. -/
def unsignedOctets (width n : Nat) : Octets :=
  if n = 0 then [0]
  else
    let digits := Octets.skipZeros (Octets.ofNat width n)
    if 0x80 ≤ digits.headD 0 then 0 :: digits else digits

theorem unsignedOctets_eq {width n : Nat} (h : n < 256 ^ width) :
    unsignedOctets width n = content n := by
  unfold unsignedOctets
  split
  · next hzero => rw [hzero, Nat.cast_zero, content]; rfl
  · next hne =>
    have hwidth : Octets.ofNat width n ≠ [] := by
      intro hnil
      have hzero : width = 0 := by rw [← Octets.length_ofNat width n, hnil, List.length_nil]
      rw [hzero, Nat.pow_zero] at h
      omega
    obtain ⟨first, rest, hoctets⟩ := List.exists_cons_of_ne_nil hwidth
    have hskip : Octets.skipZeros (Octets.ofNat width n) = Octets.plain n := by
      rw [hoctets, Octets.skipZeros_eq_plain, ← hoctets, Octets.toNat_ofNat h]
    simp only [hskip]
    exact (content_natCast n).symm

end Integer

end Ber

end NetWatch
