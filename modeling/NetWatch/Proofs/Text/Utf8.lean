import Mathlib
import NetWatch.Text.Utf8

/-!
# UTF-8 and its texts

The reader takes a text from exactly the octets that are written for it. A sequence of more than one
octet is a lead octet and a `trail` of continuation octets, the base-64 digits of the scalar value;
`begins_iff` says which lead octet stands in front of which numbers, and `scan_eq_some_iff` what
follows from that for one sequence.
-/

namespace NetWatch.Text.Utf8

variable {bits more n : Nat} {b : UInt8} {c : Char} {data rest after : Octets}

/-! ## Continuation octets -/

/-- The `more` low base-64 digits of a number, each as a continuation octet. -/
def trail : (more n : Nat) → Octets
  | 0, _ => []
  | more + 1, n => UInt8.ofNat (n / 64 ^ more % 64 + 0x80) :: trail more n

theorem tail_trail (more n : Nat) (rest : Octets) :
    tail (n / 64 ^ more) more (trail more n ++ rest) = (some (Char.ofNat n), rest) := by
  induction more with
  | zero => simp [tail, trail]
  | succ more ih =>
    have hdigit : (UInt8.ofNat (n / 64 ^ more % 64 + 0x80)).toNat = n / 64 ^ more % 64 + 0x80 := by
      rw [UInt8.toNat_ofNat']
      omega
    have hbits : n / 64 ^ (more + 1) * 64 + (n / 64 ^ more % 64 + 0x80 - 0x80) = n / 64 ^ more := by
      rw [Nat.pow_succ, ← Nat.div_div_eq_div_mul]
      omega
    rw [trail, List.cons_append, tail, if_pos, hdigit, hbits, ih]
    simp only [UInt8.le_iff_toNat_le, hdigit, UInt8.reduceToNat]
    omega

theorem eq_trail_of_tail (h : tail bits more data = (some c, after)) :
    ∃ n, n / 64 ^ more = bits ∧ c = Char.ofNat n ∧ data = trail more n ++ after := by
  induction more generalizing bits data with
  | zero =>
    cases h
    exact ⟨bits, by simp, rfl, rfl⟩
  | succ more ih =>
    cases data with
    | nil => cases h
    | cons b rest =>
      rw [tail] at h
      split at h
      · next hb =>
        simp only [UInt8.le_iff_toNat_le, UInt8.reduceToNat] at hb
        obtain ⟨n, hn, hc, rfl⟩ := ih h
        have hdigit : b = UInt8.ofNat (n / 64 ^ more % 64 + 0x80) := by
          rw [← UInt8.toNat_inj, UInt8.toNat_ofNat', hn]
          omega
        refine ⟨n, ?_, hc, by rw [trail, ← hdigit, List.cons_append]⟩
        rw [Nat.pow_succ, ← Nat.div_div_eq_div_mul, hn]
        omega
      · cases h

/-! ## Lead octets -/

/-- The octet begins the sequence of a scalar value that `more` continuation octets end. -/
def Begins (b : UInt8) (more n : Nat) : Prop :=
  ∃ lead, lead? b = some lead ∧ more = lead.more + 1 ∧ n / 64 ^ more = lead.bits ∧
    lead.low.toNat ≤ n / 64 ^ lead.more % 64 + 0x80 ∧
    n / 64 ^ lead.more % 64 + 0x80 ≤ lead.high.toNat

theorem lead?_eq (b : UInt8) : lead? b =
    if 0xC2 ≤ b.toNat ∧ b.toNat ≤ 0xDF then some ⟨0x80, 0xBF, 0, b.toNat - 0xC0⟩
    else if b.toNat = 0xE0 then some ⟨0xA0, 0xBF, 1, 0⟩
    else if b.toNat = 0xED then some ⟨0x80, 0x9F, 1, 0xD⟩
    else if 0xE1 ≤ b.toNat ∧ b.toNat ≤ 0xEF then some ⟨0x80, 0xBF, 1, b.toNat - 0xE0⟩
    else if b.toNat = 0xF0 then some ⟨0x90, 0xBF, 2, 0⟩
    else if 0xF1 ≤ b.toNat ∧ b.toNat ≤ 0xF3 then some ⟨0x80, 0xBF, 2, b.toNat - 0xF0⟩
    else if b.toNat = 0xF4 then some ⟨0x80, 0x8F, 2, 4⟩
    else none := by
  simp only [lead?, UInt8.le_iff_toNat_le, ← UInt8.toNat_inj, UInt8.reduceToNat]

/-- The table of lead octets leaves out the sequences that are too long for their value, and those
of surrogates and of numbers behind the last scalar value. -/
theorem begins_iff : Begins b more n ↔ n.isValidChar ∧
    (more = 1 ∧ 0x80 ≤ n ∧ n ≤ 0x7ff ∧ b.toNat = n / 64 + 0xC0 ∨
      more = 2 ∧ 0x800 ≤ n ∧ n ≤ 0xffff ∧ b.toNat = n / 4096 + 0xE0 ∨
      more = 3 ∧ 0x10000 ≤ n ∧ b.toNat = n / 262144 + 0xF0) := by
  unfold Nat.isValidChar Begins
  rw [lead?_eq]
  constructor
  · rintro ⟨lead, hlead, rfl, hbits, hlow, hhigh⟩
    split_ifs at hlead <;> cases hlead <;>
      simp only [UInt8.reduceToNat, Nat.reduceAdd, Nat.reducePow, Nat.div_one, true_and]
        at hbits hlow hhigh ⊢ <;>
      omega
  · rintro ⟨hvalid, hrange⟩
    split_ifs <;> rcases hrange with ⟨rfl, hb⟩ | ⟨rfl, hb⟩ | ⟨rfl, hb⟩
    -- no other octet stands in front of a number of the range
    any_goals omega
    all_goals
      refine ⟨_, rfl, rfl, ?_⟩
      simp only [UInt8.reduceToNat, Nat.reducePow, Nat.div_one]
      omega

theorem toNat_ofNat_of_isValidChar (h : n.isValidChar) : (Char.ofNat n).toNat = n := by
  rw [Char.ofNat, dif_pos h]
  rfl

/-! ## One sequence -/

theorem utf8EncodeChar_of_lt (h : c.toNat < 0x80) :
    String.utf8EncodeChar c = [UInt8.ofNat c.toNat] :=
  if_pos (Nat.le_of_lt_succ h)

theorem utf8EncodeChar_of_begins (h : Begins b more n) :
    String.utf8EncodeChar (Char.ofNat n) = b :: trail more n := by
  obtain ⟨hvalid, h⟩ := begins_iff.1 h
  have hn : (Char.ofNat n).val.toNat = n := toNat_ofNat_of_isValidChar hvalid
  unfold Nat.isValidChar at hvalid
  have hb : b = UInt8.ofNat b.toNat := by simp
  rw [String.utf8EncodeChar, hn]
  rcases h with ⟨rfl, _, _, hlead⟩ | ⟨rfl, _, _, hlead⟩ | ⟨rfl, _, hlead⟩
  · rw [if_neg (by omega), if_pos (by omega), hb, hlead, Nat.mod_eq_of_lt (a := n / 64) (by omega)]
    simp [trail]
  · rw [if_neg (by omega), if_neg (by omega), if_pos (by omega), hb, hlead,
      Nat.mod_eq_of_lt (a := n / 4096) (by omega)]
    simp [trail]
  · rw [if_neg (by omega), if_neg (by omega), if_neg (by omega), hb, hlead,
      Nat.mod_eq_of_lt (a := n / 262144) (by omega)]
    simp [trail]

theorem exists_begins (h : 0x80 ≤ c.toNat) : ∃ b more, Begins b more c.toNat := by
  have hvalid : c.toNat.isValidChar := c.valid
  have hlast : c.toNat < 0x110000 := by
    unfold Nat.isValidChar at hvalid
    omega
  rcases Nat.lt_or_ge 0x7ff c.toNat with h' | h'
  · rcases Nat.lt_or_ge 0xffff c.toNat with h'' | h''
    · refine ⟨UInt8.ofNat (c.toNat / 262144 + 0xF0), 3, begins_iff.2 ⟨hvalid, .inr (.inr ?_)⟩⟩
      refine ⟨rfl, h'', ?_⟩
      rw [UInt8.toNat_ofNat']
      omega
    · refine ⟨UInt8.ofNat (c.toNat / 4096 + 0xE0), 2, begins_iff.2 ⟨hvalid, .inr (.inl ?_)⟩⟩
      refine ⟨rfl, h', h'', ?_⟩
      rw [UInt8.toNat_ofNat']
      omega
  · refine ⟨UInt8.ofNat (c.toNat / 64 + 0xC0), 1, begins_iff.2 ⟨hvalid, .inl ?_⟩⟩
    refine ⟨rfl, h, h', ?_⟩
    rw [UInt8.toNat_ofNat']
    omega

theorem lead_range {lead : Lead} (h : lead? b = some lead) :
    0x80 ≤ b.toNat ∧ 0x80 ≤ lead.low.toNat ∧ lead.high.toNat ≤ 0xBF := by
  rw [lead?_eq] at h
  split_ifs at h <;> cases h <;> simp only [UInt8.reduceToNat] <;> omega

theorem scan_lead {lead : Lead} (h : lead? b = some lead) :
    scan b rest = (some c, after) ↔ tail lead.bits (lead.more + 1) rest = (some c, after) ∧
      ∃ second, rest.head? = some second ∧ lead.low ≤ second ∧ second ≤ lead.high := by
  obtain ⟨hb, hlow, hhigh⟩ := lead_range h
  have hb : ¬ b < 0x80 := by
    simp only [UInt8.lt_iff_toNat_lt, UInt8.reduceToNat]
    omega
  cases rest with
  | nil => simp [scan, hb, h, tail]
  | cons second rest =>
    simp only [scan, if_neg hb, h, tail, List.head?_cons, Option.some.injEq, exists_eq_left']
    by_cases hs : lead.low ≤ second ∧ second ≤ lead.high
    · have hs' : 0x80 ≤ second ∧ second ≤ 0xBF := by
        simp only [UInt8.le_iff_toNat_le, UInt8.reduceToNat] at hs ⊢
        omega
      simp [hs, hs']
    · simp [hs]

theorem scan_of_lt (h : b.toNat < 0x80) (rest : Octets) :
    scan b rest = (some (Char.ofNat b.toNat), rest) :=
  if_pos (UInt8.lt_iff_toNat_lt.2 h)

/-- The octets that are read as one scalar value are those that are written for it. -/
theorem scan_eq_some_iff : scan b rest = (some c, after) ↔
    b :: rest = String.utf8EncodeChar c ++ after := by
  constructor
  · intro h
    rcases Nat.lt_or_ge b.toNat 0x80 with hb | hb
    · rw [scan_of_lt hb] at h
      cases h
      have hvalid : b.toNat.isValidChar := .inl (by omega)
      have hn := toNat_ofNat_of_isValidChar hvalid
      rw [utf8EncodeChar_of_lt (by rwa [hn]), hn]
      simp
    · cases hlead : lead? b with
      | none =>
        have hb : ¬ b < 0x80 := by simpa [UInt8.lt_iff_toNat_lt] using hb
        simp [scan, hb, hlead] at h
      | some lead =>
        obtain ⟨htail, second, hsecond, hlow, hhigh⟩ := (scan_lead hlead).1 h
        obtain ⟨n, hbits, rfl, rfl⟩ := eq_trail_of_tail htail
        have hdigit : second.toNat = n / 64 ^ lead.more % 64 + 0x80 := by
          obtain rfl := Option.some.inj hsecond
          rw [UInt8.toNat_ofNat']
          omega
        simp only [UInt8.le_iff_toNat_le, hdigit] at hlow hhigh
        rw [utf8EncodeChar_of_begins ⟨lead, hlead, rfl, hbits, hlow, hhigh⟩, List.cons_append]
  · intro h
    rcases Nat.lt_or_ge c.toNat 0x80 with hc | hc
    · rw [utf8EncodeChar_of_lt hc] at h
      obtain ⟨rfl, rfl⟩ := List.cons.inj h
      have hb : (UInt8.ofNat c.toNat).toNat = c.toNat := by
        rw [UInt8.toNat_ofNat']
        omega
      rw [scan_of_lt (by rwa [hb]), hb, Char.ofNat_toNat]
    · obtain ⟨b', more, hbegins⟩ := exists_begins hc
      have hencode := utf8EncodeChar_of_begins hbegins
      rw [Char.ofNat_toNat] at hencode
      rw [hencode] at h
      obtain ⟨rfl, rfl⟩ := List.cons.inj h
      obtain ⟨lead, hlead, rfl, hbits, hlow, hhigh⟩ := hbegins
      have htail := tail_trail (lead.more + 1) c.toNat after
      rw [hbits, Char.ofNat_toNat] at htail
      refine (scan_lead hlead).2 ⟨htail, _, rfl, ?_⟩
      have hdigit : (UInt8.ofNat (c.toNat / 64 ^ lead.more % 64 + 0x80)).toNat =
          c.toNat / 64 ^ lead.more % 64 + 0x80 := by
        rw [UInt8.toNat_ofNat']
        omega
      simp only [UInt8.le_iff_toNat_le, hdigit]
      exact ⟨hlow, hhigh⟩

/-! ## Texts -/

theorem scanAll_encode (cs : List Char) :
    scanAll (cs.flatMap String.utf8EncodeChar) = cs.map some := by
  induction cs with
  | nil => simp [scanAll]
  | cons c cs ih =>
    obtain ⟨b, rest, hb⟩ : ∃ b rest, String.utf8EncodeChar c = b :: rest :=
      List.exists_cons_of_ne_nil (by simp)
    have hscan : scan b (rest ++ cs.flatMap String.utf8EncodeChar) =
        (some c, cs.flatMap String.utf8EncodeChar) := by
      rw [scan_eq_some_iff, hb, List.cons_append]
    rw [List.flatMap_cons, hb, List.cons_append, scanAll, hscan, ih, List.map_cons]

theorem eq_encode_of_scanAll {cs : List Char} (h : scanAll data = cs.map some) :
    data = cs.flatMap String.utf8EncodeChar := by
  induction cs generalizing data with
  | nil =>
    cases data with
    | nil => rfl
    | cons b rest =>
      rw [scanAll] at h
      cases h
  | cons c cs ih =>
    cases data with
    | nil =>
      rw [scanAll] at h
      cases h
    | cons b rest =>
      rw [scanAll, List.map_cons] at h
      obtain ⟨hc, hcs⟩ := List.cons.inj h
      rw [List.flatMap_cons, ← ih hcs, ← scan_eq_some_iff, ← hc]

theorem mapM_id_eq_some_iff {α : Type} {xs : List (Option α)} {ys : List α} :
    xs.mapM id = some ys ↔ xs = ys.map some := by
  induction xs generalizing ys with
  | nil => cases ys <;> simp
  | cons x xs ih => cases ys <;> simp [List.mapM_cons, Option.bind_eq_some_iff, ih]

theorem decode?_eq_some_iff {s : String} : decode? data = some s ↔ data = encode s := by
  rw [decode?, Option.map_eq_some_iff, encode]
  constructor
  · rintro ⟨cs, hcs, rfl⟩
    rw [String.toList_ofList]
    exact eq_encode_of_scanAll (mapM_id_eq_some_iff.1 hcs)
  · rintro rfl
    exact ⟨s.toList, mapM_id_eq_some_iff.2 (scanAll_encode _), String.ofList_toList⟩

theorem decode?_eq_none_iff : decode? data = none ↔ ∀ s, data ≠ encode s := by
  simp only [Option.eq_none_iff_forall_ne_some, ne_eq, decode?_eq_some_iff]

end NetWatch.Text.Utf8
