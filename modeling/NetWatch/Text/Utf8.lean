import NetWatch.Octets

/-!
# UTF-8

`scan` reads one scalar value or refuses the longest run of octets that begins one without
finishing it. `decode?` accepts text without refusals, `decodeLossy` puts U+FFFD for each of them.
-/

namespace NetWatch.Text.Utf8

/-- The octets of a text. -/
def encode (s : String) : Octets :=
  s.toList.flatMap String.utf8EncodeChar

/-- What may follow a lead octet: the range of the second octet and how many come after it. -/
structure Lead where
  low : UInt8
  high : UInt8
  more : Nat
  bits : Nat

/-- The well-formed sequences of two to four octets by their lead octet. -/
def lead? (b : UInt8) : Option Lead :=
  if 0xC2 ≤ b ∧ b ≤ 0xDF then some ⟨0x80, 0xBF, 0, b.toNat - 0xC0⟩
  else if b = 0xE0 then some ⟨0xA0, 0xBF, 1, 0⟩
  else if b = 0xED then some ⟨0x80, 0x9F, 1, 0xD⟩
  else if 0xE1 ≤ b ∧ b ≤ 0xEF then some ⟨0x80, 0xBF, 1, b.toNat - 0xE0⟩
  else if b = 0xF0 then some ⟨0x90, 0xBF, 2, 0⟩
  else if 0xF1 ≤ b ∧ b ≤ 0xF3 then some ⟨0x80, 0xBF, 2, b.toNat - 0xF0⟩
  else if b = 0xF4 then some ⟨0x80, 0x8F, 2, 4⟩
  else none

/-- Takes `more` continuation octets after `bits`; the octets after the last one that fits. -/
def tail (bits : Nat) : (more : Nat) → Octets → Option Char × Octets
  | 0, rest => (some (Char.ofNat bits), rest)
  | _ + 1, [] => (none, [])
  | more + 1, b :: rest =>
    if 0x80 ≤ b ∧ b ≤ 0xBF then tail (bits * 64 + (b.toNat - 0x80)) more rest
    else (none, b :: rest)

/-- One scalar value, or `none` for a refused run, and the octets after it. -/
def scan (b : UInt8) (rest : Octets) : Option Char × Octets :=
  if b < 0x80 then (some (Char.ofNat b.toNat), rest)
  else match lead? b, rest with
    | none, _ => (none, rest)
    | some _, [] => (none, [])
    | some lead, second :: after =>
      if lead.low ≤ second ∧ second ≤ lead.high then
        tail (lead.bits * 64 + (second.toNat - 0x80)) lead.more after
      else (none, rest)

theorem length_tail_le (bits more : Nat) (data : Octets) :
    (tail bits more data).2.length ≤ data.length := by
  induction more generalizing bits data with
  | zero => simp [tail]
  | succ more ih =>
    cases data with
    | nil => simp [tail]
    | cons b rest =>
      simp only [tail]
      split
      · exact Nat.le_succ_of_le (ih _ rest)
      · simp

theorem length_scan_le (b : UInt8) (rest : Octets) : (scan b rest).2.length ≤ rest.length := by
  unfold scan
  split
  · simp
  · split
    · simp
    · simp
    · split
      · exact Nat.le_succ_of_le (length_tail_le _ _ _)
      · simp

/-- The scalar values in order, `none` where a run was refused. -/
def scanAll : Octets → List (Option Char)
  | [] => []
  | b :: rest => (scan b rest).1 :: scanAll (scan b rest).2
termination_by data => data.length
decreasing_by
  have := length_scan_le b rest
  simp only [List.length_cons]
  omega

/-- The text of well-formed UTF-8. -/
def decode? (data : Octets) : Option String :=
  ((scanAll data).mapM id).map String.ofList

/-- The text with U+FFFD in place of each refused run. -/
def decodeLossy (data : Octets) : String :=
  String.ofList ((scanAll data).map (·.getD '\uFFFD'))

end NetWatch.Text.Utf8
