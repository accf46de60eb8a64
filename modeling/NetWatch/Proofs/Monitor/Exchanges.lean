import NetWatch.Monitor.Imap
import NetWatch.Monitor.Pop3
import NetWatch.Proofs.Monitor.Lines

/-!
# What an exchange makes of the lines

An exchange knows its peer by the lines that it reads. So the POP3 and the IMAP exchange are
functions of the first two and the first three reads (`Pop3.exchange_eq`, `Imap.exchange_eq`), and
what they come to can be said of the lines at these places of the stream.
-/

namespace NetWatch.Text

/-- A line is blanks, a word without any, and then nothing or one more blank with what follows. -/
def FirstWord (word line : List Char) : Prop :=
  ∃ blanks rest, line = blanks ++ word ++ rest ∧ (∀ c ∈ blanks, isBlank c) ∧
    word ≠ [] ∧ (∀ c ∈ word, ¬ isBlank c) ∧ ∀ c ∈ rest.head?, isBlank c

theorem firstWord_eq_iff {word line : List Char} (hword : word ≠ []) :
    firstWord line = word ↔ FirstWord word line := by
  constructor
  · rintro rfl
    let behind := line.dropWhile isBlank
    refine ⟨line.takeWhile isBlank, behind.dropWhile fun c => !isBlank c, ?_,
      fun c => List.mem_takeWhile_imp, hword, fun c hc => ?_, fun c hc => ?_⟩
    · rw [List.append_assoc, firstWord, List.takeWhile_append_dropWhile,
        List.takeWhile_append_dropWhile]
    · simpa using List.mem_takeWhile_imp hc
    · simpa using head?_dropWhile_eq_false hc
  · rintro ⟨blanks, rest, rfl, hblanks, -, hplain, hrest⟩
    obtain ⟨c, cs, rfl⟩ := List.exists_cons_of_ne_nil hword
    have hc : ¬ isBlank c = true := hplain c List.mem_cons_self
    have hrest : rest.takeWhile (fun c => !isBlank c) = [] := by
      cases rest with
      | nil => rfl
      | cons b bs => exact List.takeWhile_cons_of_neg (by simpa using hrest b rfl)
    rw [firstWord, List.append_assoc, List.dropWhile_append_of_pos hblanks, List.cons_append,
      List.dropWhile_cons_of_neg hc, ← List.cons_append,
      List.takeWhile_append_of_pos (by simpa using hplain), hrest, List.append_nil]

end NetWatch.Text

namespace NetWatch.Monitor

open Net (IoError)

/-! ## POP3 -/

namespace Pop3

def Passes (line : Reading) : Prop :=
  ∃ text, line = .ok (some text) ∧ Text.FirstWord "+OK".toList text

theorem isOk_iff {text : List Char} : isOk text = true ↔ Text.FirstWord "+OK".toList text := by
  rw [isOk, decide_eq_true_iff, Text.firstWord_eq_iff (by decide)]

@[simp] theorem not_passes_error {e : IoError} : ¬ Passes (.error e) := nofun

/-- A stream that is at its end passes as little as an empty line. -/
@[simp] theorem passes_ok_iff {answer : Option (List Char)} :
    Passes (.ok answer) ↔ isOk (answer.getD []) = true := by
  cases answer with
  | none => exact iff_of_false nofun (by decide)
  | some text => simp [Passes, isOk_iff]

theorem exchange_eq (s : LineStream) : exchange s = match s.read 0 with
    | .error e => ⟨.error e, []⟩
    | .ok none => ⟨.ok .unresponsive, []⟩
    | .ok (some banner) =>
      if isOk banner then match s.read 1 with
        | .error e => ⟨.error e, [quit]⟩
        | .ok answer => ⟨.ok (if isOk (answer.getD []) then .available else .unavailable), [quit]⟩
      else ⟨.ok .unavailable, []⟩ := by
  obtain ⟨first, rest, hfirst⟩ : ∃ first rest, s.readLine = (first, rest) := ⟨_, _, rfl⟩
  obtain ⟨second, behind, hsecond⟩ : ∃ second behind, rest.readLine = (second, behind) :=
    ⟨_, _, rfl⟩
  have h0 : s.read 0 = first := congrArg Prod.fst hfirst
  have h1 : s.read 1 = second := by
    simp only [LineStream.read, LineStream.after, hfirst, hsecond]
  simp only [exchange, hfirst, h0, h1]
  match first with
  | .error e => rfl
  | .ok none => rfl
  | .ok (some banner) => cases second <;> simp only [hsecond]

/-- What the exchange comes to by the first two lines. -/
structure Follows (read : Nat → Reading) (exchanged : Exchanged PollStatus) : Prop where
  available : exchanged.result = .ok .available ↔ Passes (read 0) ∧ Passes (read 1)
  unresponsive : exchanged.result = .ok .unresponsive ↔ read 0 = .ok none
  unavailable : exchanged.result = .ok .unavailable ↔
    (∃ text, read 0 = .ok (some text)) ∧ ¬ Passes (read 0) ∨
    Passes (read 0) ∧ (∃ answer, read 1 = .ok answer) ∧ ¬ Passes (read 1)
  failed : ∀ e, exchanged.result = .error e ↔
    read 0 = .error e ∨ Passes (read 0) ∧ read 1 = .error e
  sent : (Passes (read 0) → exchanged.sent = [quit]) ∧ (¬ Passes (read 0) → exchanged.sent = [])

theorem exchange_follows (s : LineStream) : Follows s.read (exchange s) := by
  rw [exchange_eq]
  match h0 : s.read 0 with
  | .error e => constructor <;> simp [h0]
  | .ok none => constructor <;> simp [h0, show isOk [] = false by decide]
  | .ok (some banner) =>
    by_cases hbanner : isOk banner = true
    · match h1 : s.read 1 with
      | .error e => constructor <;> simp [h0, h1, hbanner]
      | .ok answer =>
        by_cases hanswer : isOk (answer.getD []) = true <;>
          constructor <;> simp [h0, h1, hbanner, hanswer]
    · constructor <;> simp [h0, hbanner]

end Pop3

/-! ## IMAP -/

namespace Imap

variable {front : String}

def Begins (front : String) (line : Reading) : Prop :=
  ∃ rest, line = .ok (some (front.toList ++ rest))

@[simp] theorem not_begins_error {e : IoError} : ¬ Begins front (.error e) := nofun

@[simp] theorem begins_ok_iff {line : Option (List Char)} :
    Begins front (.ok line) ↔ startsWith front line = true := by
  cases line with
  | none => exact iff_of_false nofun nofun
  | some text =>
    have hstarts : startsWith front (some text) = true ↔ front.toList <+: text :=
      List.isPrefixOf_iff_prefix
    rw [hstarts]
    constructor
    · rintro ⟨rest, h⟩
      cases h
      exact ⟨rest, rfl⟩
    · rintro ⟨rest, rfl⟩
      exact ⟨rest, rfl⟩

theorem exchange_eq (s : LineStream) : exchange s = match s.read 0 with
    | .error e => ⟨.error e, []⟩
    | .ok greeting =>
      if startsWith "* OK " greeting then match s.read 1 with
        | .error e => ⟨.error e, [logout]⟩
        | .ok farewell =>
          if startsWith "* BYE " farewell then match s.read 2 with
            | .error e => ⟨.error e, [logout]⟩
            | .ok tagged => ⟨.ok (startsWith (requestTag ++ " OK ") tagged), [logout]⟩
          else ⟨.ok false, [logout]⟩
      else ⟨.ok false, []⟩ := by
  obtain ⟨first, rest, hfirst⟩ : ∃ first rest, s.readLine = (first, rest) := ⟨_, _, rfl⟩
  obtain ⟨second, behind, hsecond⟩ : ∃ second behind, rest.readLine = (second, behind) :=
    ⟨_, _, rfl⟩
  obtain ⟨third, beyond, hthird⟩ : ∃ third beyond, behind.readLine = (third, beyond) :=
    ⟨_, _, rfl⟩
  have h0 : s.read 0 = first := congrArg Prod.fst hfirst
  have h1 : s.read 1 = second := by
    simp only [LineStream.read, LineStream.after, hfirst, hsecond]
  have h2 : s.read 2 = third := by
    simp only [LineStream.read, LineStream.after, hfirst, hsecond, hthird]
  simp only [exchange, hfirst, h0, h1, h2]
  cases first with
  | error e => rfl
  | ok greeting => cases second <;> cases third <;> simp only [hsecond, hthird]

/-- What the exchange comes to by the first three lines. -/
structure Follows (read : Nat → Reading) (exchanged : Exchanged Bool) : Prop where
  complete : exchanged.result = .ok true ↔
    Begins "* OK " (read 0) ∧ Begins "* BYE " (read 1) ∧ Begins "SVCPOLL OK " (read 2)
  failed : ∀ e, exchanged.result = .error e ↔ read 0 = .error e ∨
    Begins "* OK " (read 0) ∧ (read 1 = .error e ∨ Begins "* BYE " (read 1) ∧ read 2 = .error e)
  sent : (Begins "* OK " (read 0) → exchanged.sent = [logout]) ∧
    (¬ Begins "* OK " (read 0) → exchanged.sent = [])

theorem exchange_follows (s : LineStream) : Follows s.read (exchange s) := by
  rw [exchange_eq]
  match h0 : s.read 0 with
  | .error e => constructor <;> simp [h0]
  | .ok greeting =>
    by_cases hgreeting : startsWith "* OK " greeting = true
    · match h1 : s.read 1 with
      | .error e => constructor <;> simp [h0, h1, hgreeting]
      | .ok farewell =>
        by_cases hfarewell : startsWith "* BYE " farewell = true
        · cases h2 : s.read 2 <;> constructor <;>
            simp [h0, h1, h2, hgreeting, hfarewell, requestTag]
        · constructor <;> simp [h0, h1, hgreeting, hfarewell]
    · constructor <;> simp [h0, hgreeting]

end Imap
namespace LineStream

theorem place_zero_eq_nothing_iff {ending : StreamEnd} {lines : List Octets} {last : Octets} :
    place ending lines last 0 = .nothing ↔ ending = .closed ∧ lines = [] ∧ last = [] := by
  cases lines <;> cases ending <;> simp [place]

/-- The first read finds the end only if the peer sends nothing and closes. -/
theorem read_zero_eq_none_iff (s : LineStream) :
    s.read 0 = .ok none ↔ s.octets = [] ∧ s.ending = .closed := by
  obtain ⟨lines, last, h⟩ := exists_splits s.octets
  have hread := (reads_place h 0).1
  have hnothing : s.read 0 = .ok none ↔ place s.ending lines last 0 = .nothing := by
    constructor
    · intro hnone
      rw [hnone] at hread
      generalize place s.ending lines last 0 = here at hread
      cases hread
      rfl
    · exact fun hplace => eq_of_reads hread .nothing hplace
  have hempty : s.octets = [] ↔ lines = [] ∧ last = [] := by
    rw [h.eq, List.append_eq_nil_iff, List.flatMap_eq_nil_iff]
    refine and_congr_left' ⟨fun hlines => ?_, ?_⟩
    · exact List.eq_nil_iff_forall_not_mem.2 fun line hline => by simpa using hlines line hline
    · rintro rfl
      exact nofun
  rw [hnothing, place_zero_eq_nothing_iff, hempty, and_comm]

/-- Whatever a peer sends, the reads give its lines one after the other, and the octets that a read
has not reached are still to come. How the stream is cut changes no read and no exchange. The POP3
exchange follows the first two lines and calls only a stream without octets unresponsive; the IMAP
exchange follows the first three. -/
theorem exchanges_follow_lines (s : LineStream) :
    (∃ lines last, Splits s.octets lines last) ∧
    (∀ lines last, Splits s.octets lines last →
      (∀ n, Reads (place s.ending lines last n) (s.read n)) ∧
      ∀ n ≤ lines.length, s.octets = (lines.take n).flatMap (· ++ [10]) ++ (s.after n).octets) ∧
    (∀ s' : LineStream, s'.octets = s.octets → s'.ending = s.ending →
      (∀ n, s'.read n = s.read n) ∧ Pop3.exchange s' = Pop3.exchange s ∧
      Imap.exchange s' = Imap.exchange s) ∧
    Pop3.Follows s.read (Pop3.exchange s) ∧
    ((Pop3.exchange s).result = .ok .unresponsive ↔ s.octets = [] ∧ s.ending = .closed) ∧
    Imap.Follows s.read (Imap.exchange s) := by
  have hpop := Pop3.exchange_follows s
  refine ⟨exists_splits _, fun lines last h => ⟨fun n => (reads_place h n).1, fun n hn => ?_⟩,
    fun s' hoctets hending => ?_, hpop, hpop.unresponsive.trans (read_zero_eq_none_iff s),
    Imap.exchange_follows s⟩
  · rw [(reads_place h n).2 hn, ← List.append_assoc, ← List.flatMap_append, List.take_append_drop]
    exact h.eq
  · have hread := read_congr hoctets hending
    simp only [Pop3.exchange_eq, Imap.exchange_eq, hread, implies_true, and_self]

/-- A stream that is cut inside of a character and between CR and LF. -/
theorem exchanges_follow_lines_cut :
    let cut : LineStream :=
      ⟨[Text.Utf8.encode "+OK caf" ++ [0xC3], [0xA9, 13], [10, 43], [79, 75, 13, 10]], .closed⟩
    let whole : LineStream := ⟨[Text.Utf8.encode "+OK café\r\n+OK\r\n"], .closed⟩
    Splits cut.octets [Text.Utf8.encode "+OK café\r", Text.Utf8.encode "+OK\r"] [] ∧
      whole.octets = cut.octets ∧ whole.ending = cut.ending ∧
      cut.read 0 = .ok (some "+OK café".toList) ∧ cut.read 1 = .ok (some "+OK".toList) ∧
      (Pop3.exchange cut).result = .ok .available ∧
      (Pop3.exchange whole).result = .ok .available ∧ (Imap.exchange whole).result ≠ .ok true := by
  intro cut whole
  have hsplits :
      Splits cut.octets [Text.Utf8.encode "+OK café\r", Text.Utf8.encode "+OK\r"] [] :=
    ⟨by decide, by decide, by decide⟩
  have hoctets : whole.octets = cut.octets := by decide
  obtain ⟨-, hlines, hsame, hpop, -, himap⟩ := exchanges_follow_lines cut
  obtain ⟨hreads, -⟩ := hlines _ _ hsplits
  obtain ⟨-, hpop', himap'⟩ := hsame whole hoctets rfl
  have hends : ∀ c ∈ ['\r', '\n'], IsTerminator c := by simp [IsTerminator]
  have h0 : cut.read 0 = .ok (some "+OK café".toList) := by
    have htext := @Reads.text "+OK café\r\n" "+OK café".toList ['\r', '\n'] (by decide) hends
      (by simp [IsTerminator])
    exact eq_of_reads (hreads 0) htext (congrArg Place.line (by decide))
  have h1 : cut.read 1 = .ok (some "+OK".toList) := by
    have htext := @Reads.text "+OK\r\n" "+OK".toList ['\r', '\n'] (by decide) hends
      (by simp [IsTerminator])
    exact eq_of_reads (hreads 1) htext (congrArg Place.line (by decide))
  have havailable : (Pop3.exchange cut).result = .ok .available := by
    rw [hpop.available, h0, h1, Pop3.passes_ok_iff, Pop3.passes_ok_iff]
    decide
  have hincomplete : ¬ Imap.Begins "* OK " (cut.read 0) := by
    rw [h0, Imap.begins_ok_iff]
    decide
  refine ⟨hsplits, hoctets, rfl, h0, h1, havailable, by rw [hpop', havailable], ?_⟩
  rw [himap']
  exact fun h => hincomplete (himap.complete.1 h).1

end LineStream

end NetWatch.Monitor
