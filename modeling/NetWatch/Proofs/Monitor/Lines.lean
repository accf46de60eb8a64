import NetWatch.Monitor.LineStream
import NetWatch.Proofs.Text.Blank
import NetWatch.Proofs.Text.Utf8

/-!
# The lines of a stream

A reader finds the lines of the whole stream one after the other, however the stream is cut into
segments. `cutLine` does not see where a segment ends (`cutLine_append`), so a line is taken from
the segments as from all octets at once (`takeLine_eq`). `Place` says what stands where in a stream,
and `Reads` what a read makes of it; `reads_place` ties every read to its place.
-/

namespace NetWatch.Monitor

open Net (IoError)

/-! ## Places -/

/-- The octets are those of the lines, with an LF behind each, and then those of `last`. -/
structure Splits (data : Octets) (lines : List Octets) (last : Octets) : Prop where
  eq : data = lines.flatMap (· ++ [10]) ++ last
  lines : ∀ line ∈ lines, 10 ∉ line
  last : 10 ∉ last

inductive Place where
  /-- A line with its LF, or without one at the end of the stream. -/
  | line (octets : Octets)
  /-- The stream is at its end. -/
  | nothing
  /-- The peer says nothing more before its next LF. -/
  | silence

/-- The lines stand in their order. What is behind the last LF is a line if the stream ends and
there is something. -/
def place (ending : StreamEnd) (lines : List Octets) (last : Octets) (n : Nat) : Place :=
  match lines[n]?, ending with
  | some line, _ => .line (line ++ [10])
  | none, .stalled => .silence
  | none, .closed => if n = lines.length ∧ last ≠ [] then .line last else .nothing

def IsTerminator (c : Char) : Prop := c = '\r' ∨ c = '\n'

abbrev Reading := Except IoError (Option (List Char))

/-- What a read makes of a place: the text of the line up to the CR and LF at its end, or an error
if the octets are those of no text or do not come. -/
inductive Reads : Place → Reading → Prop where
  | text {text : String} {kept trailing : List Char} : text.toList = kept ++ trailing →
      (∀ c ∈ trailing, IsTerminator c) → (∀ c ∈ kept.getLast?, ¬ IsTerminator c) →
      Reads (.line (Text.Utf8.encode text)) (.ok (some kept))
  | invalid {octets : Octets} : (∀ text, octets ≠ Text.Utf8.encode text) →
      Reads (.line octets) (.error .invalidText)
  | nothing : Reads .nothing (.ok none)
  | silence : Reads .silence (.error .wouldBlock)

namespace LineStream

def after (s : LineStream) : Nat → LineStream
  | 0 => s
  | n + 1 => s.readLine.2.after n

def read (s : LineStream) (n : Nat) : Reading := (s.after n).readLine.1

variable {s : LineStream} {line last data behind : Octets} {lines : List Octets}

/-! ## Lines of octets -/

theorem all_ne (h : 10 ∉ data) : ∀ b ∈ data, decide (b ≠ 10) = true := by
  intro b hb
  exact decide_eq_true fun heq => h (heq ▸ hb)

theorem cutLine_of_not_mem (h : 10 ∉ data) : cutLine data = none := by
  have hall : data.dropWhile (· ≠ 10) = [] := List.dropWhile_eq_nil_iff.2 (all_ne h)
  rw [cutLine, hall]

theorem cutLine_line (h : 10 ∉ line) (behind : Octets) :
    cutLine (line ++ 10 :: behind) = some (line ++ [10], behind) := by
  have hdrop : (line ++ 10 :: behind).dropWhile (· ≠ 10) = 10 :: behind := by
    rw [List.dropWhile_append_of_pos (all_ne h)]
    rfl
  have htake : (line ++ 10 :: behind).takeWhile (· ≠ 10) = line := by
    rw [List.takeWhile_append_of_pos (all_ne h), List.takeWhile_cons_of_neg (by simp),
      List.append_nil]
  rw [cutLine, hdrop, htake]

theorem line_or_not_mem (data : Octets) :
    10 ∉ data ∨ ∃ line behind, data = line ++ 10 :: behind ∧ 10 ∉ line := by
  by_cases h : 10 ∈ data
  · exact .inr (List.eq_append_cons_of_mem h)
  · exact .inl h

/-- A line that ends in front of a cut is the line of the whole; one that does not goes on. -/
theorem cutLine_append (front rest : Octets) : cutLine (front ++ rest) = match cutLine front with
    | some (line, behind) => some (line, behind ++ rest)
    | none => (cutLine rest).map fun cut => (front ++ cut.1, cut.2) := by
  rcases line_or_not_mem front with hfront | ⟨line, behind, rfl, hline⟩
  · rw [cutLine_of_not_mem hfront]
    rcases line_or_not_mem rest with hrest | ⟨line, behind, rfl, hline⟩
    · rw [cutLine_of_not_mem hrest, cutLine_of_not_mem (by simp [hfront, hrest])]
      rfl
    · have hwhole : 10 ∉ front ++ line := by simp [hfront, hline]
      rw [← List.append_assoc, cutLine_line hwhole, cutLine_line hline, Option.map_some,
        List.append_assoc]
  · rw [cutLine_line hline, List.append_assoc, List.cons_append, cutLine_line hline]

/-- What is collected over the segments is the line of all octets, and what is left of the segments
are the octets behind it. -/
theorem takeLine_eq (ending : StreamEnd) (sofar : Octets) (segments : List Octets) :
    (takeLine ending sofar segments).1 = (match cutLine segments.flatten, ending with
      | some (line, _), _ => some (sofar ++ line)
      | none, .closed => some (sofar ++ segments.flatten)
      | none, .stalled => none) ∧
    (takeLine ending sofar segments).2.flatten =
      ((cutLine segments.flatten).map (·.2)).getD [] := by
  induction segments generalizing sofar with
  | nil => cases ending <;> simp [takeLine, cutLine]
  | cons segment segments ih =>
    rw [takeLine, List.flatten_cons, cutLine_append]
    cases hsegment : cutLine segment with
    | some cut => simp
    | none =>
      obtain ⟨hline, hrest⟩ := ih (sofar ++ segment)
      simp only [hline, hrest]
      cases cutLine segments.flatten with
      | some cut => simp
      | none => cases ending <;> simp

/-! ## One read -/

theorem trimEnd_spec (cs : List Char) : ∃ trailing, cs = trimEnd cs ++ trailing ∧
    (∀ c ∈ trailing, IsTerminator c) ∧ ∀ c ∈ (trimEnd cs).getLast?, ¬ IsTerminator c := by
  rw [trimEnd, Text.dropEndWhile_eq_rdropWhile]
  refine ⟨cs.rtakeWhile fun c => c = '\r' || c = '\n', ?_, fun c hc => ?_, fun c hc => ?_⟩
  · exact List.rdropWhile_append_rtakeWhile.symm
  · simpa [IsTerminator] using List.mem_rtakeWhile_imp hc
  · simpa [IsTerminator] using Text.getLast?_rdropWhile_eq_false hc

theorem trimEnd_append {kept trailing : List Char} (htrailing : ∀ c ∈ trailing, IsTerminator c)
    (hkept : ∀ c ∈ kept.getLast?, ¬ IsTerminator c) : trimEnd (kept ++ trailing) = kept := by
  rw [trimEnd, Text.dropEndWhile_eq_rdropWhile,
    Text.rdropWhile_append_of_pos (by simpa [IsTerminator] using htrailing),
    Text.rdropWhile_eq_self_of_getLast? (by simpa [IsTerminator] using hkept)]

theorem readLine_rest (s : LineStream) : s.readLine.2.ending = s.ending ∧
    s.readLine.2.octets = ((cutLine s.octets).map (·.2)).getD [] := by
  have hrest : s.readLine.2 = ⟨(takeLine s.ending [] s.segments).2, s.ending⟩ := by
    unfold readLine
    simp only
    split
    · rfl
    · rfl
    · split <;> rfl
  rw [hrest]
  exact ⟨rfl, (takeLine_eq s.ending [] s.segments).2⟩

theorem reads_line {octets : Octets} (hne : octets ≠ [])
    (h : (takeLine s.ending [] s.segments).1 = some octets) :
    Reads (.line octets) s.readLine.1 := by
  obtain ⟨b, rest, rfl⟩ := List.exists_cons_of_ne_nil hne
  simp only [readLine, h]
  cases hdecode : Text.Utf8.decode? (b :: rest) with
  | none => exact .invalid (Text.Utf8.decode?_eq_none_iff.1 hdecode)
  | some text =>
    obtain ⟨trailing, htext, htrailing, hlast⟩ := trimEnd_spec text.toList
    rw [Text.Utf8.decode?_eq_some_iff.1 hdecode]
    exact .text htext htrailing hlast

theorem reads_terminated (h : s.octets = line ++ 10 :: behind) (hline : 10 ∉ line) :
    Reads (.line (line ++ [10])) s.readLine.1 ∧ s.readLine.2.octets = behind := by
  have hcut : cutLine s.octets = some (line ++ [10], behind) := h ▸ cutLine_line hline behind
  refine ⟨reads_line (by simp) ?_, by rw [(readLine_rest s).2, hcut]; rfl⟩
  rw [(takeLine_eq s.ending [] s.segments).1, ← octets, hcut]
  rfl

/-- Behind the last LF there is a line without one, the end, or nothing yet. -/
theorem reads_last (h : 10 ∉ s.octets) :
    Reads (place s.ending [] s.octets 0) s.readLine.1 ∧ s.readLine.2.octets = [] := by
  have hcut := cutLine_of_not_mem h
  refine ⟨?_, by rw [(readLine_rest s).2, hcut]; rfl⟩
  have htake := (takeLine_eq s.ending [] s.segments).1
  rw [← octets, hcut] at htake
  cases hending : s.ending with
  | stalled =>
    have hread : s.readLine.1 = .error .wouldBlock := by
      rw [hending] at htake
      simp only [readLine, hending, htake]
    rw [hread]
    exact .silence
  | closed =>
    rw [hending, List.nil_append] at htake
    by_cases hempty : s.octets = []
    · have hread : s.readLine.1 = .ok none := by
        simp only [readLine, hending, htake, hempty]
      rw [hread, hempty]
      exact .nothing
    · have hplace : place .closed [] s.octets 0 = .line s.octets := by simp [place, hempty]
      rw [hplace]
      exact reads_line hempty (by rw [hending, htake])

/-! ## All reads -/

theorem exists_splits (data : Octets) : ∃ lines last, Splits data lines last := by
  induction hlength : data.length using Nat.strongRecOn generalizing data with
  | _ n ih =>
    rcases line_or_not_mem data with hlast | ⟨line, behind, rfl, hline⟩
    · exact ⟨[], data, rfl, nofun, hlast⟩
    · have hlt : behind.length < n := by
        rw [← hlength, List.length_append, List.length_cons]
        omega
      obtain ⟨lines, last, heq, hlines, hlast⟩ := ih _ hlt behind rfl
      refine ⟨line :: lines, last, ?_, List.forall_mem_cons.2 ⟨hline, hlines⟩, hlast⟩
      rw [heq]
      simp

theorem place_nil_succ (ending : StreamEnd) (last : Octets) (n : Nat) :
    place ending [] last (n + 1) = place ending [] [] n := by
  cases ending <;> simp [place]

theorem place_cons_succ (ending : StreamEnd) (line : Octets) (lines : List Octets) (last : Octets)
    (n : Nat) : place ending (line :: lines) last (n + 1) = place ending lines last n := by
  simp [place]

/-- Each read gives what stands at its place, and the octets in front of that place are gone. -/
theorem reads_place (h : Splits s.octets lines last) (n : Nat) :
    Reads (place s.ending lines last n) (s.read n) ∧
      (n ≤ lines.length → (s.after n).octets = (lines.drop n).flatMap (· ++ [10]) ++ last) := by
  induction n generalizing s lines last with
  | zero =>
    refine ⟨?_, fun _ => h.eq⟩
    cases lines with
    | nil =>
      obtain rfl : s.octets = last := h.eq
      exact (reads_last h.last).1
    | cons line lines =>
      have hline := h.lines line List.mem_cons_self
      exact (reads_terminated (s := s) (by simpa using h.eq) hline).1
  | succ n ih =>
    have hending := (readLine_rest s).1
    cases lines with
    | nil =>
      obtain rfl : s.octets = last := h.eq
      have hnext : Splits s.readLine.2.octets [] [] :=
        ⟨(reads_last h.last).2, nofun, List.not_mem_nil⟩
      refine ⟨?_, fun hn => absurd hn (Nat.not_succ_le_zero n)⟩
      have hread := (ih hnext).1
      rwa [hending, ← place_nil_succ] at hread
    | cons line lines =>
      have hline := h.lines line List.mem_cons_self
      have hrest := (reads_terminated (by simpa using h.eq) hline).2
      have hnext : Splits s.readLine.2.octets lines last :=
        ⟨hrest, fun l hl => h.lines l (List.mem_cons_of_mem _ hl), h.last⟩
      obtain ⟨hread, hafter⟩ := ih hnext
      rw [hending, ← place_cons_succ _ line] at hread
      exact ⟨hread, fun hn => hafter (Nat.le_of_succ_le_succ hn)⟩

/-! ## Streams that are cut in different ways -/

theorem eq_of_reads {at₁ at₂ : Place} {r₁ r₂ : Reading}
    (h₁ : Reads at₁ r₁) (h₂ : Reads at₂ r₂) (hplace : at₁ = at₂) : r₁ = r₂ := by
  cases h₁ with
  | @text text₁ kept₁ trailing₁ htext₁ htrailing₁ hkept₁ => cases h₂ with
    | @text text₂ kept₂ trailing₂ htext₂ htrailing₂ hkept₂ =>
      have hsame := Text.Utf8.decode?_eq_some_iff.2 (Place.line.inj hplace)
      obtain rfl : text₁ = text₂ :=
        Option.some.inj ((Text.Utf8.decode?_eq_some_iff.2 rfl).symm.trans hsame)
      rw [← trimEnd_append htrailing₁ hkept₁, ← htext₁, htext₂, trimEnd_append htrailing₂ hkept₂]
    | invalid hinvalid => exact absurd (Place.line.inj hplace).symm (hinvalid _)
    | nothing | silence => cases hplace
  | invalid hinvalid => cases h₂ with
    | text => exact absurd (Place.line.inj hplace) (hinvalid _)
    | invalid => rfl
    | nothing | silence => cases hplace
  | nothing => cases h₂ with
    | nothing => rfl
    | text | invalid | silence => cases hplace
  | silence => cases h₂ with
    | silence => rfl
    | text | invalid | nothing => cases hplace

/-- All reads of a stream depend on its octets and its end only. -/
theorem read_congr {s' : LineStream} (hoctets : s'.octets = s.octets)
    (hending : s'.ending = s.ending) (n : Nat) : s'.read n = s.read n := by
  obtain ⟨lines, last, h⟩ := exists_splits s.octets
  have h' : Splits s'.octets lines last := hoctets ▸ h
  exact eq_of_reads (reads_place h' n).1 (reads_place h n).1 (by rw [hending])

end LineStream

end NetWatch.Monitor
