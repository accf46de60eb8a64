import Mathlib.Data.Nat.ModEq
import NetWatch.Icmp.Echo
import NetWatch.Proofs.Ber.Buffer

/-!
# The checksum in words

The sum of a message is taken in a word of 32 bits and its carries are added back in until it fits
16 bits. `machineChecksum?` does this with every addition checked and the rounds counted, and up to
`maxSummed` octets it comes to `checksum` in two rounds (`machineChecksum?_eq`). What comes out is
the complement of the sum in ones' complement arithmetic, which goes by the remainder modulo 65535
and has two forms of zero (`IsOnesSum`). So a message with its own checksum in a field that was zero
has the checksum zero (`checksum_overwrite`), and every echo packet is such a message.
-/

namespace NetWatch.Icmp

/-! ## In words of 32 bits -/

/-- The most octets whose sum is sure to fit a word. -/
def maxSummed : Nat := 131074

def word? (n : Nat) : Option UInt32 :=
  if n < UInt32.size then some (UInt32.ofNat n) else none

def add? (a b : UInt32) : Option UInt32 := word? (a.toNat + b.toNat)

def pair (high low : UInt8) : UInt32 := UInt32.ofNat (high.toNat * 256 + low.toNat)

/-- Adds the octets two by two, each addition checked. -/
def addPairs? (sum : UInt32) : Octets → Option UInt32
  | [] => some sum
  | [last] => add? sum (pair last 0)
  | high :: low :: rest => do addPairs? (← add? sum (pair high low)) rest

/-- Adds the high half to the low half until the high half is zero, in so many rounds at most. -/
def foldCarries? : (rounds : Nat) → UInt32 → Option UInt32
  | 0, sum => if sum > 0xFFFF then none else some sum
  | rounds + 1, sum =>
    if sum > 0xFFFF then do foldCarries? rounds (← add? (sum &&& 0xFFFF) (sum >>> 16))
    else some sum

/-- The checksum in words. There is none if an addition overflows or the rounds are not enough. -/
def machineChecksum? (rounds : Nat) (data : Octets) : Option UInt16 := do
  let sum ← addPairs? 0 data
  return ~~~(← foldCarries? rounds sum).toUInt16

variable {data front : Octets} {sum : UInt32} {n s s' : Nat}

theorem toNat_pair (high low : UInt8) : (pair high low).toNat = high.toNat * 256 + low.toNat := by
  have hhigh := high.toNat_lt
  have hlow := low.toNat_lt
  exact UInt32.toNat_ofNat_of_lt' (show _ < 4294967296 by omega)

theorem word?_eq_some (h : n < UInt32.size) : word? n = some (UInt32.ofNat n) := if_pos h

theorem bind_word? {f : UInt32 → Option UInt32} {m : Nat}
    (h : n < UInt32.size → f (UInt32.ofNat n) = word? m) (hnm : n ≤ m) :
    (word? n).bind f = word? m := by
  by_cases hn : n < UInt32.size
  · rw [word?_eq_some hn]
    exact h hn
  · rw [word?, word?, if_neg hn, if_neg (by omega)]
    rfl

/-- The additions overflow just if the sum of all the words is too large for one. -/
theorem addPairs?_eq (sum : UInt32) (data : Octets) :
    addPairs? sum data = word? (sum.toNat + wordSum data) := by
  induction data using wordSum.induct generalizing sum with
  | case1 =>
    rw [addPairs?, wordSum, Nat.add_zero, word?_eq_some sum.toNat_lt_size, UInt32.ofNat_toNat]
  | case2 last => rw [addPairs?, add?, toNat_pair, UInt8.toNat_zero, Nat.add_zero, wordSum]
  | case3 high low rest ih =>
    rw [addPairs?, wordSum, add?, toNat_pair]
    refine bind_word? (fun hn => ?_) (by omega)
    rw [ih, UInt32.toNat_ofNat_of_lt' hn, Nat.add_assoc]

theorem wordSum_le (data : Octets) : wordSum data ≤ (data.length + 1) / 2 * 65535 := by
  induction data using wordSum.induct with
  | case1 => exact Nat.zero_le _
  | case2 last =>
    have hlast := last.toNat_lt
    simp only [wordSum, List.length_singleton]
    omega
  | case3 high low rest ih =>
    have hhigh := high.toNat_lt
    have hlow := low.toNat_lt
    simp only [wordSum, List.length_cons]
    omega

theorem wordSum_lt (fits : data.length ≤ maxSummed) : wordSum data < UInt32.size := by
  have hle := wordSum_le data
  rw [maxSummed] at fits
  change wordSum data < 4294967296
  omega

theorem wordSum_replicate (n : Nat) :
    wordSum (List.replicate n 0xFF) = n / 2 * 65535 + n % 2 * 65280 := by
  induction n using Nat.twoStepInduction with
  | zero => rfl
  | one => rfl
  | more n ih _ =>
    rw [List.replicate_succ, List.replicate_succ, wordSum, ih,
      show (0xFF : UInt8).toNat = 255 from rfl]
    omega

theorem addPairs?_replicate_eq_none_iff :
    addPairs? 0 (List.replicate n 0xFF) = none ↔ maxSummed < n := by
  rw [addPairs?_eq, wordSum_replicate, word?, UInt32.toNat_zero, Nat.zero_add, maxSummed,
    show UInt32.size = 4294967296 from rfl]
  split
  · next h => exact ⟨nofun, fun _ => by omega⟩
  · next h => exact ⟨fun _ => by omega, fun _ => rfl⟩

/-! ## Carries -/

theorem fold_of_le (h : n ≤ 0xFFFF) : fold n = n := by
  rw [fold, if_neg (by omega)]

theorem fold_of_lt (h : 0xFFFF < n) : fold n = fold (n % 0x10000 + n / 0x10000) := by
  rw [fold, if_pos h]

theorem fold_le (n : Nat) : fold n ≤ 0xFFFF := by
  induction n using fold.induct with
  | case1 n h ih => rwa [fold_of_lt h]
  | case2 n h => rw [fold_of_le (by omega)]; omega

/-- A carry is worth 65536, which leaves the remainder one. -/
theorem fold_modEq (n : Nat) : fold n ≡ n [MOD 65535] := by
  induction n using fold.induct with
  | case1 n h ih =>
    rw [fold_of_lt h]
    refine ih.trans ?_
    change (n % 0x10000 + n / 0x10000) % 65535 = n % 65535
    omega
  | case2 n h => rw [fold_of_le (by omega)]

theorem fold_eq_zero_iff (n : Nat) : fold n = 0 ↔ n = 0 := by
  induction n using fold.induct with
  | case1 n h ih =>
    rw [fold_of_lt h, ih]
    omega
  | case2 n h => rw [fold_of_le (by omega)]

/-- A sum without its carries is a number of 16 bits with the same remainder, and zero only of
zero. -/
theorem fold_spec (n : Nat) :
    fold n ≤ 0xFFFF ∧ fold n % 65535 = n % 65535 ∧ (fold n = 0 ↔ n = 0) :=
  ⟨fold_le n, fold_modEq n, fold_eq_zero_iff n⟩

/-- The largest sum whose carries are gone after so many rounds. -/
def foldLimit : Nat → Nat
  | 0 => 0xFFFF
  | 1 => 0x1FFFE
  | _ => 0xFFFFFFFF

theorem carry_le_foldLimit {rounds : Nat} (h : n ≤ foldLimit (rounds + 1)) :
    n % 0x10000 + n / 0x10000 ≤ foldLimit rounds := by
  match rounds with
  | 0 => simp only [foldLimit] at h ⊢; omega
  | 1 => simp only [foldLimit] at h ⊢; omega
  | _ + 2 => simp only [foldLimit] at h ⊢; omega

theorem add?_halves (sum : UInt32) : add? (sum &&& 0xFFFF) (sum >>> 16) =
    some (UInt32.ofNat (sum.toNat % 0x10000 + sum.toNat / 0x10000)) := by
  have hlow : (sum &&& 0xFFFF).toNat = sum.toNat % 0x10000 :=
    (UInt32.toNat_and sum 0xFFFF).trans (Nat.and_two_pow_sub_one_eq_mod _ 16)
  have hhigh : (sum >>> 16).toNat = sum.toNat / 0x10000 :=
    (UInt32.toNat_shiftRight sum 16).trans (Nat.shiftRight_eq_div_pow _ _)
  have hsum := sum.toNat_lt
  rw [add?, hlow, hhigh]
  exact word?_eq_some (show _ < 4294967296 by omega)

theorem foldCarries?_of_le (h : sum.toNat ≤ 0xFFFF) (rounds : Nat) :
    foldCarries? rounds sum = some sum := by
  have hle : ¬ sum > 0xFFFF := Nat.not_lt.2 h
  cases rounds <;> rw [foldCarries?, if_neg hle]

theorem foldCarries?_eq {rounds : Nat} (h : sum.toNat ≤ foldLimit rounds) :
    foldCarries? rounds sum = some (UInt32.ofNat (fold sum.toNat)) := by
  induction rounds generalizing sum with
  | zero => rw [foldCarries?_of_le h, fold_of_le h, UInt32.ofNat_toNat]
  | succ rounds ih =>
    by_cases hcarry : 0xFFFF < sum.toNat
    · have hsum := sum.toNat_lt
      have hround := UInt32.toNat_ofNat_of_lt'
        (show sum.toNat % 0x10000 + sum.toNat / 0x10000 < 4294967296 by omega)
      have hgt : sum > 0xFFFF := hcarry
      have hlimit := carry_le_foldLimit h
      rw [← hround] at hlimit
      rw [foldCarries?, if_pos hgt, add?_halves, Option.bind_eq_bind, Option.bind_some, ih hlimit,
        hround, ← fold_of_lt hcarry]
    · have hle := Nat.not_lt.1 hcarry
      rw [foldCarries?_of_le hle, fold_of_le hle, UInt32.ofNat_toNat]

theorem toNat_checksum (fits : data.length ≤ maxSummed) :
    (checksum data).toNat = 65535 - fold (wordSum data) := by
  rw [checksum, Nat.mod_eq_of_lt (wordSum_lt fits)]
  exact UInt16.toNat_ofNat_of_lt' (show _ < 65536 by omega)

/-- No addition overflows, and the carries are gone after two rounds. -/
theorem machineChecksum?_eq (fits : data.length ≤ maxSummed) :
    machineChecksum? 2 data = some (checksum data) := by
  have hsum : addPairs? 0 data = some (UInt32.ofNat (wordSum data)) := by
    rw [addPairs?_eq, show (0 : UInt32).toNat = 0 from rfl, Nat.zero_add,
      word?_eq_some (wordSum_lt fits)]
  have htoNat := UInt32.toNat_ofNat_of_lt' (wordSum_lt fits)
  have hfold : foldCarries? 2 (UInt32.ofNat (wordSum data)) =
      some (UInt32.ofNat (fold (wordSum data))) := by
    rw [foldCarries?_eq, htoNat]
    exact Nat.le_of_lt_succ (UInt32.toNat_lt _)
  have hle := fold_le (wordSum data)
  rw [machineChecksum?, hsum, Option.bind_eq_bind, Option.bind_some, hfold]
  refine congrArg some (UInt16.toNat_inj.1 ?_)
  rw [toNat_checksum fits, UInt16.toNat_not, UInt32.toNat_toUInt16,
    UInt32.toNat_ofNat_of_lt' (show _ < 4294967296 by omega)]
  change 65536 - 1 - fold (wordSum data) % 65536 = _
  omega

/-! ## Ones' complement -/

/-- `s` is what the sum `w` comes to in 16 bits if carries are added back in: zero only of zero, and
else what leaves the remainder of `w` modulo 65535. -/
def IsOnesSum (w s : Nat) : Prop :=
  if w = 0 then s = 0 else 0 < s ∧ s ≤ 65535 ∧ s ≡ w [MOD 65535]

theorem isOnesSum_iff {w : Nat} : IsOnesSum w s ↔ s = fold w := by
  obtain ⟨hle, hmod, hzero⟩ := fold_spec w
  unfold IsOnesSum
  split
  · next h => rw [hzero.2 h]
  · next h =>
    constructor
    · rintro ⟨hpos, hs, hmods⟩
      have hsame : s % 65535 = fold w % 65535 := Eq.trans hmods hmod.symm
      omega
    · rintro rfl
      exact ⟨by omega, hle, hmod⟩

theorem checksum_iff (fits : data.length ≤ maxSummed) :
    (checksum data).toNat + s = 65535 ↔ IsOnesSum (wordSum data) s := by
  have hle := fold_le (wordSum data)
  rw [isOnesSum_iff, toNat_checksum fits]
  omega

theorem checksum_eq_zero_iff (fits : data.length ≤ maxSummed) :
    checksum data = 0 ↔ wordSum data ≠ 0 ∧ wordSum data % 65535 = 0 := by
  obtain ⟨hle, hmod, hzero⟩ := fold_spec (wordSum data)
  rw [← UInt16.toNat_inj, toNat_checksum fits]
  change 65535 - fold (wordSum data) = 0 ↔ _
  omega

/-! ## A message with its checksum -/

/-- Octets after an even number of others are paired as if they stood alone. -/
theorem wordSum_append (heven : front.length % 2 = 0) (rest : Octets) :
    wordSum (front ++ rest) = wordSum front + wordSum rest := by
  induction front using wordSum.induct with
  | case1 => exact (Nat.zero_add _).symm
  | case2 last => simp at heven
  | case3 high low tail ih =>
    have htail : tail.length % 2 = 0 := by
      simp only [List.length_cons] at heven
      omega
    rw [List.cons_append, List.cons_append, wordSum, wordSum, ih htail,
      Nat.add_assoc _ _ (wordSum rest)]

theorem wordSum_ofNat (n : UInt16) : wordSum (Octets.ofNat 2 n.toNat) = n.toNat := by
  have hn := n.toNat_lt
  simp only [Octets.ofNat, List.nil_append, List.singleton_append, wordSum, UInt8.toNat_ofNat']
  omega

theorem offset_add_two_le {offset : Nat} (hzero : data.extract offset (offset + 2) = [0, 0]) :
    offset + 2 ≤ data.length := by
  have hlength := congrArg List.length hzero
  rw [List.extract, List.length_take, List.length_drop, List.length_cons,
    List.length_singleton] at hlength
  omega

/-- The sum of a message grows by what is put in the place of zeros. -/
theorem wordSum_overwrite {offset : Nat} (heven : offset % 2 = 0)
    (hzero : data.extract offset (offset + 2) = [0, 0]) (value : UInt16) :
    wordSum (Octets.overwrite data offset (Octets.ofNat 2 value.toNat)) =
      wordSum data + value.toNat := by
  have hend := offset_add_two_le hzero
  have hfront : (data.take offset).length % 2 = 0 := by
    rw [List.length_take]
    omega
  have hdata : data = data.take offset ++ ([0, 0] ++ data.drop (offset + 2)) := by
    rw [← hzero, List.extract, Nat.add_sub_cancel_left, ← List.drop_drop, List.take_append_drop,
      List.take_append_drop]
  rw [Octets.overwrite, List.append_assoc, wordSum_append hfront, Octets.length_ofNat,
    wordSum_append (by rw [Octets.length_ofNat]), wordSum_ofNat]
  conv_rhs => rw [hdata, wordSum_append hfront, wordSum_append rfl]
  rw [show wordSum [0, 0] = 0 from rfl]
  omega

theorem length_overwrite_checksum {offset : Nat}
    (hzero : data.extract offset (offset + 2) = [0, 0]) (value : UInt16) :
    (Octets.overwrite data offset (Octets.ofNat 2 value.toNat)).length = data.length := by
  have hend := offset_add_two_le hzero
  rw [Octets.length_overwrite (by rw [Octets.length_ofNat]; exact hend)]

/-- A message that holds its own checksum, in a field that was zero before, has the checksum
zero. -/
theorem checksum_overwrite (fits : data.length ≤ maxSummed) {offset : Nat} (heven : offset % 2 = 0)
    (hzero : data.extract offset (offset + 2) = [0, 0]) :
    checksum (Octets.overwrite data offset (Octets.ofNat 2 (checksum data).toNat)) = 0 := by
  obtain ⟨hle, hmod, hfold⟩ := fold_spec (wordSum data)
  rw [checksum_eq_zero_iff (by rwa [length_overwrite_checksum hzero]),
    wordSum_overwrite heven hzero, toNat_checksum fits]
  omega

namespace Echo

theorem encode_eq_overwrite (p : Echo) :
    p.encode = Octets.overwrite ([p.kind, 0, 0, 0] ++ p.body) 2
      (Octets.ofNat 2 (checksum ([p.kind, 0, 0, 0] ++ p.body)).toNat) := rfl

theorem checksum_encode (p : Echo) : checksum p.encode = 0 := by
  have hlength : ([p.kind, 0, 0, 0] ++ p.body).length = size := rfl
  rw [encode_eq_overwrite]
  exact checksum_overwrite (by rw [hlength]; decide) rfl rfl

end Echo

/-! ## Main statement -/

/-- The checksum of a message that is not too long.

- In words of 32 bits no addition overflows, and the carries are gone after two rounds.
- What it lacks to 65535 is the sum of the message in ones' complement, and nothing else is.
- Put into a field of the message that was zero, it makes the checksum zero.
- So every echo packet has the checksum zero. -/
theorem checksum_of_message (data : Octets) (fits : data.length ≤ maxSummed) :
    machineChecksum? 2 data = some (checksum data) ∧
    (∀ s, (checksum data).toNat + s = 65535 ↔ IsOnesSum (wordSum data) s) ∧
    (∀ offset, offset % 2 = 0 → data.extract offset (offset + 2) = [0, 0] →
      checksum (Octets.overwrite data offset (Octets.ofNat 2 (checksum data).toNat)) = 0) ∧
    ∀ p : Echo, checksum p.encode = 0 :=
  ⟨machineChecksum?_eq fits, fun _ => checksum_iff fits, fun _ => checksum_overwrite fits,
    Echo.checksum_encode⟩

/-- A sum of 0x1FFFF, whose first round leaves a carry once more. -/
theorem checksum_of_message_twoRounds :
    let data : Octets := [0xFF, 0xFF, 0xFF, 0xFF, 0, 0, 0, 1]
    data.length ≤ maxSummed ∧ machineChecksum? 1 data = none ∧
      machineChecksum? 2 data = some 0xFFFE ∧
      checksum [0xFF, 0xFF, 0xFF, 0xFF, 0xFF, 0xFE, 0, 1] = 0 := by
  intro data
  have fits : data.length ≤ maxSummed := by decide
  obtain ⟨hwords, hsum, hstored, -⟩ := checksum_of_message data fits
  have hvalue : checksum data = 0xFFFE := by
    have hones : IsOnesSum (wordSum data) 1 := by
      rw [IsOnesSum, if_neg (by decide)]
      exact ⟨by decide, by decide, by decide⟩
    have hcomplement := (hsum 1).2 hones
    exact UInt16.toNat_inj.1 (Nat.succ.inj hcomplement)
  rw [hvalue] at hwords hstored
  exact ⟨fits, by decide, hwords, hstored 4 rfl rfl⟩

end NetWatch.Icmp
