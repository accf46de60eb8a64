import NetWatch.Proofs.Oid.Text
import NetWatch.Report.Trap

/-!
# Reading raw reports back

A raw report is meant to be cut up again: at the line feeds into rows, at the tabs into fields, and
before each row that begins with an address into records. Every field that is written keeps clear of
both separators but one: an octet string that is shown as text is written as it is, and a tab and a
line feed count as visible. `raw_stream_read_back_iff` says that this is the only way in which the
records that were written and those that are read may differ, and `forged_record` is a notification
that is read as two.
-/

namespace NetWatch.Report

open Net (Endpoint IpAddress Ipv4 Ipv6)
open Smi (Value)
open Snmp (Message PduBody PduType VarBind Version)

/-! ## Rows -/

abbrev Row := List String

def lineText (row : Row) : String := "\t".intercalate row ++ "\n"

/-- The lines of a text. What is behind the last line feed is no line. -/
def linesOf (text : String) : List (List Char) := (text.toList.splitOn '\n').dropLast

def rowOf (line : List Char) : Row := (line.splitOn '\t').map String.ofList

def rowsOf (text : String) : List Row := (linesOf text).map rowOf

/-- A row with nothing in its first field belongs to the row above it. -/
def recordsOf (text : String) : List (List Row) :=
  (rowsOf text).splitBy fun _ row => row.head? = some ""

def IsField (s : String) : Prop := ∀ c ∈ s.toList, c ≠ '\t' ∧ c ≠ '\n'

/-- What is to be read of a record: a row for the message, and one for each binding. -/
def TrapRecord.rows (r : TrapRecord) : List Row :=
  [r.source, r.pduType.name, (r.trapOid.map Oid.text).getD "-"] ::
    r.bindings.map fun b => ["", b.oid.text, b.shown.raw]

structure Received where
  source : Endpoint
  version : Version
  community : Octets
  body : PduBody

def Received.record (m : Received) (o : Options) : TrapRecord :=
  .ofMessage o m.source.text m.version m.community m.body

/-- The octets of a value that are written as they are. -/
def plainOctets (o : Options) : Value → Octets
  | .octetString data => if o.hex = false ∧ ∀ b ∈ data, isVisible b = true then data else []
  | _ => []

/-- The value brings a separator of its own. -/
def HasSeparator (o : Options) (value : Value) : Prop :=
  0x09 ∈ plainOctets o value ∨ 0x0A ∈ plainOctets o value

variable {o : Options} {s t sep : String} {rows : List Row} {cs part : List Char} {c : Char}

/-! ## Cutting a text up -/

theorem mem_splitOn (h : part ∈ cs.splitOn c) : c ∉ part ∧ part ⊆ cs := by
  induction cs generalizing part with
  | nil =>
    rw [List.splitOn_nil, List.mem_singleton] at h
    simp [h]
  | cons d cs ih =>
    rw [List.splitOn_cons_eq_if_modifyHead] at h
    split at h
    · rcases List.mem_cons.1 h with rfl | h
      · simp
      · exact ⟨(ih h).1, List.subset_cons_of_subset d (ih h).2⟩
    · next hne =>
      obtain ⟨first, parts, hparts⟩ := List.exists_cons_of_ne_nil (List.splitOn_ne_nil c cs)
      rw [hparts] at ih
      rw [hparts, List.modifyHead_cons, List.mem_cons] at h
      rcases h with rfl | h
      · obtain ⟨hfirst, hsub⟩ := ih List.mem_cons_self
        refine ⟨?_, List.cons_subset_cons d hsub⟩
        rw [List.mem_cons, not_or]
        exact ⟨fun e => hne (by simp [e]), hfirst⟩
      · obtain ⟨hpart, hsub⟩ := ih (List.mem_cons_of_mem first h)
        exact ⟨hpart, List.subset_cons_of_subset d hsub⟩

theorem length_splitOn (c : Char) (cs : List Char) : (cs.splitOn c).length = cs.count c + 1 := by
  induction cs with
  | nil => simp
  | cons d cs ih =>
    rw [List.splitOn_cons_eq_if_modifyHead, List.count_cons]
    split <;> simp [ih]

theorem length_linesOf (text : String) : (linesOf text).length = text.toList.count '\n' := by
  rw [linesOf, List.length_dropLast, length_splitOn, Nat.add_sub_cancel]

theorem toList_lineText (row : Row) :
    (lineText row).toList = ['\t'].intercalate (row.map String.toList) ++ ['\n'] := by
  simp [lineText, String.toList_intercalate]

theorem splitOn_lines {lines : List (List Char)} (h : ∀ line ∈ lines, '\n' ∉ line) :
    (lines.flatMap (· ++ ['\n'])).splitOn '\n' = lines ++ [[]] := by
  induction lines with
  | nil => simp
  | cons line lines ih =>
    rw [List.forall_mem_cons] at h
    rw [List.flatMap_cons, List.append_assoc, List.singleton_append,
      List.splitOn_append_cons_self_of_not_mem h.1, ih h.2, List.cons_append]

theorem forall_mem_intercalate {P : Char → Prop} {parts : List (List Char)} (hsep : ∀ c ∈ cs, P c)
    (h : ∀ part ∈ parts, ∀ c ∈ part, P c) : ∀ c ∈ cs.intercalate parts, P c := by
  induction parts with
  | nil => simp
  | cons part parts ih =>
    rw [List.forall_mem_cons] at h
    cases parts with
    | nil => simpa using h.1
    | cons next parts =>
      rw [List.intercalate_cons_cons, List.forall_mem_append, List.forall_mem_append]
      exact ⟨⟨h.1, hsep⟩, ih h.2⟩

theorem linesOf_join_lineText (h : ∀ row ∈ rows, ∀ field ∈ row, IsField field) :
    linesOf (String.join (rows.map lineText)) =
      rows.map fun row => ['\t'].intercalate (row.map String.toList) := by
  have htext : (String.join (rows.map lineText)).toList =
      (rows.map fun row => ['\t'].intercalate (row.map String.toList)).flatMap (· ++ ['\n']) := by
    simp only [String.toList_join, List.flatMap_map, toList_lineText]
  rw [linesOf, htext, splitOn_lines, List.dropLast_concat]
  intro line hline hmem
  obtain ⟨row, hrow, rfl⟩ := List.mem_map.1 hline
  refine forall_mem_intercalate (P := (· ≠ '\n')) (by simp) ?_ _ hmem rfl
  intro part hpart c hc
  obtain ⟨field, hfield, rfl⟩ := List.mem_map.1 hpart
  exact (h row hrow field hfield c hc).2

theorem rowOf_intercalate {row : Row} (hne : row ≠ []) (h : ∀ field ∈ row, IsField field) :
    rowOf (['\t'].intercalate (row.map String.toList)) = row := by
  rw [rowOf, List.splitOn_intercalate '\t' _ (by rwa [Ne, List.map_eq_nil_iff]), List.map_map]
  · simp [Function.comp_def]
  · intro part hpart hmem
    obtain ⟨field, hfield, rfl⟩ := List.mem_map.1 hpart
    exact (h field hfield '\t' hmem).1 rfl

/-- Rows are read back if nothing in them is a separator, and only then. -/
theorem rowsOf_join_iff (hne : ∀ row ∈ rows, row ≠ []) :
    rowsOf (String.join (rows.map lineText)) = rows ↔
      ∀ row ∈ rows, ∀ field ∈ row, IsField field := by
  constructor
  · intro h row hrow field hfield
    rw [← h, rowsOf] at hrow
    obtain ⟨line, hline, rfl⟩ := List.mem_map.1 hrow
    obtain ⟨part, hpart, rfl⟩ := List.mem_map.1 hfield
    obtain ⟨htab, hsub⟩ := mem_splitOn hpart
    have hfeed : '\n' ∉ line := (mem_splitOn (List.dropLast_subset _ hline)).1
    intro c hc
    rw [String.toList_ofList] at hc
    exact ⟨fun e => htab (e ▸ hc), fun e => hfeed (e ▸ hsub hc)⟩
  · intro h
    rw [rowsOf, linesOf_join_lineText h, List.map_map]
    have hrow : ∀ row ∈ rows, rowOf (['\t'].intercalate (row.map String.toList)) = row :=
      fun row hrow => rowOf_intercalate (hne row hrow) (h row hrow)
    exact (List.map_congr_left hrow).trans (List.map_id rows)

/-- Records that begin with a row of their own are told apart. -/
theorem recordsOf_eq_iff {text : String} {records : List (List Row)}
    (h : ∀ record ∈ records, ∃ header rest, record = header :: rest ∧ header.head? ≠ some "" ∧
      ∀ row ∈ rest, row.head? = some "") :
    recordsOf text = records ↔ rowsOf text = records.flatten := by
  constructor
  · rintro rfl
    exact (List.flatten_splitBy _ _).symm
  · intro htext
    rw [recordsOf, htext]
    refine List.splitBy_flatten ?_ ?_ ?_
    · intro hnil
      obtain ⟨_, _, hcons, -⟩ := h [] hnil
      cases hcons
    · intro record hrecord
      obtain ⟨header, rest, rfl, -, hrest⟩ := h record hrecord
      refine List.Pairwise.isChain (List.pairwise_cons.2 ⟨?_, ?_⟩)
      · exact fun row hrow => decide_eq_true (hrest row hrow)
      · exact List.pairwise_of_forall_mem_list fun _ _ row hrow => decide_eq_true (hrest row hrow)
    · refine List.Pairwise.isChain (List.pairwise_of_forall_mem_list fun a ha b hb => ?_)
      obtain ⟨_, _, rfl, -, -⟩ := h a ha
      obtain ⟨header, _, rfl, hheader, -⟩ := h b hb
      exact ⟨List.cons_ne_nil _ _, List.cons_ne_nil _ _, decide_eq_false hheader⟩

/-! ## Fields -/

theorem IsField.append (hs : IsField s) (ht : IsField t) : IsField (s ++ t) := by
  rw [IsField, String.toList_append, List.forall_mem_append]
  exact ⟨hs, ht⟩

theorem isField_intercalate_map {f : α → String} (hsep : IsField sep) (h : ∀ a, IsField (f a))
    (as : List α) : IsField (sep.intercalate (as.map f)) := by
  rw [IsField, String.toList_intercalate, List.map_map]
  refine forall_mem_intercalate hsep fun part hpart => ?_
  obtain ⟨a, -, rfl⟩ := List.mem_map.1 hpart
  exact h a

theorem isField_toString (n : Nat) : IsField (toString n) := by
  intro c hc
  rw [Nat.toString_eq_repr, Nat.toList_repr] at hc
  have hdigit := (Text.isDecimal_toDigits n).isDigit c hc
  constructor <;> (rintro rfl; cases hdigit)

theorem isField_toString_int (i : Int) : IsField (toString i) := by
  rw [Int.toString_eq_repr, Int.repr_eq_if]
  split
  · exact isField_toString _
  · exact .append (by simp [IsField]) (isField_toString _)

theorem isField_hexDigits (h : ∀ c ∈ cs, ∃ n < 16, Octets.hexDigit n = c) :
    IsField (String.ofList cs) := by
  have hdigit : ∀ n < 16, Octets.hexDigit n ≠ '\t' ∧ Octets.hexDigit n ≠ '\n' := by decide
  intro c hc
  rw [String.toList_ofList] at hc
  obtain ⟨n, hn, rfl⟩ := h c hc
  exact hdigit n hn

theorem isField_hex (data : Octets) : IsField data.hex := by
  refine isField_hexDigits fun c hc => ?_
  obtain ⟨b, -, hc⟩ := List.mem_flatMap.1 hc
  have hb := b.toNat_lt
  rcases List.mem_pair.1 hc with rfl | rfl
  · exact ⟨_, by omega, rfl⟩
  · exact ⟨_, by omega, rfl⟩

theorem isField_oid (oid : Oid) : IsField oid.text :=
  isField_intercalate_map (by simp [IsField]) (fun _ => isField_toString _) oid.arcs

theorem isField_ipv4 (ip : Ipv4) : IsField ip.text :=
  isField_intercalate_map (by simp [IsField]) (fun _ => isField_toString _) ip.octets

theorem isField_groupText (g : UInt16) : IsField (Ipv6.groupText g) := by
  have hg := g.toNat_lt
  unfold Ipv6.groupText
  dsimp only
  split
  · simp [IsField]
  · refine isField_hexDigits fun c hc => ?_
    obtain ⟨n, hn, rfl⟩ := List.mem_map.1 ((List.dropWhile_suffix _).subset hc)
    refine ⟨n, ?_, rfl⟩
    fin_cases hn <;> omega

theorem isField_groupsText (groups : List UInt16) : IsField (Ipv6.groupsText groups) :=
  isField_intercalate_map (by simp [IsField]) isField_groupText groups

theorem isField_ipv6 (ip : Ipv6) : IsField ip.text := by
  unfold Ipv6.text
  split
  · exact .append (by simp [IsField]) (isField_ipv4 _)
  · dsimp only
    split
    · exact .append (.append (isField_groupsText _) (by simp [IsField])) (isField_groupsText _)
    · exact isField_groupsText _

theorem isField_endpoint (e : Endpoint) : IsField e.text := by
  unfold Endpoint.text
  split
  · exact .append (.append (isField_ipv4 _) (by simp [IsField])) (isField_toString _)
  · refine .append (.append (.append (.append (by simp [IsField]) (isField_ipv6 _)) ?_)
      (by simp [IsField])) (isField_toString _)
    split
    · simp [IsField]
    · exact .append (by simp [IsField]) (isField_toString _)

theorem endpoint_text_ne_empty (e : Endpoint) : e.text ≠ "" := by
  unfold Endpoint.text
  split <;> simp

theorem isField_pduType (t : PduType) : IsField t.name := by
  cases t <;> simp [IsField, PduType.name]

/-! ## Values -/

theorem charOfOctet_injective : Function.Injective fun b : UInt8 => Char.ofNat b.toNat := by
  intro a b hab
  have htoNat : ∀ b : UInt8, (Char.ofNat b.toNat).toNat = b.toNat := fun b => by
    have hb := b.toNat_lt
    rw [Char.toNat_ofNat, if_pos (.inl (by omega))]
  have h := congrArg Char.toNat hab
  simp only [htoNat] at h
  exact UInt8.toNat_inj.1 h

theorem raw_showOctets (hex : Bool) (data : Octets) : (showOctets hex data).raw =
    if hex = false ∧ ∀ b ∈ data, isVisible b = true then visibleText data else data.hex := by
  have hcond : (hex || !data.all isVisible) = true ↔
      ¬(hex = false ∧ ∀ b ∈ data, isVisible b = true) := by
    cases hex <;> simp
  unfold showOctets
  split
  · next h => rw [if_neg (hcond.1 h)]; rfl
  · next h => rw [if_pos (not_not.1 (mt hcond.2 h))]; rfl

/-- An octet string that is shown as text is written as it is, and every other value as a field. -/
theorem raw_ofValue (o : Options) (value : Value) :
    (Shown.ofValue o.hex value).raw = visibleText (plainOctets o value) ∨
      plainOctets o value = [] ∧ IsField (Shown.ofValue o.hex value).raw := by
  have hempty : IsField "" := by simp [IsField]
  cases value with
  | octetString data =>
    rw [Shown.ofValue, raw_showOctets, plainOctets]
    split
    · exact .inl rfl
    · exact .inr ⟨rfl, isField_hex data⟩
  | int32 | unsigned32 | counter32 | timeTicks | counter64 =>
    exact .inr ⟨rfl, isField_toString_int _⟩
  | opaqueData data => exact .inr ⟨rfl, isField_hex data⟩
  | ipAddress ip => exact .inr ⟨rfl, isField_ipv4 ip⟩
  | objectId oid => exact .inr ⟨rfl, isField_oid oid⟩
  | null | noSuchObject | noSuchInstance | endOfMibView => exact .inr ⟨rfl, hempty⟩

theorem toList_visibleText (data : Octets) :
    (visibleText data).toList = data.map fun b => Char.ofNat b.toNat :=
  String.toList_ofList

theorem mem_visibleText_iff {b : UInt8} {data : Octets} :
    Char.ofNat b.toNat ∈ (visibleText data).toList ↔ b ∈ data := by
  rw [toList_visibleText]
  exact List.mem_map_of_injective charOfOctet_injective

theorem isField_visibleText_iff {data : Octets} :
    IsField (visibleText data) ↔ ¬(0x09 ∈ data ∨ 0x0A ∈ data) := by
  have htab : '\t' ∈ (visibleText data).toList ↔ 0x09 ∈ data := mem_visibleText_iff (b := 0x09)
  have hfeed : '\n' ∈ (visibleText data).toList ↔ 0x0A ∈ data := mem_visibleText_iff (b := 0x0A)
  rw [← htab, ← hfeed, not_or]
  constructor
  · exact fun h => ⟨fun hmem => (h _ hmem).1 rfl, fun hmem => (h _ hmem).2 rfl⟩
  · exact fun h c hc => ⟨fun e => h.1 (e ▸ hc), fun e => h.2 (e ▸ hc)⟩

theorem isField_raw_iff {value : Value} :
    IsField (Shown.ofValue o.hex value).raw ↔ ¬ HasSeparator o value := by
  rcases raw_ofValue o value with h | ⟨hnil, h⟩
  · rw [h, isField_visibleText_iff, HasSeparator]
  · simp [HasSeparator, hnil, h]

theorem IsField.count_newline (h : IsField s) : s.toList.count '\n' = 0 :=
  List.count_eq_zero.2 fun hmem => (h _ hmem).2 rfl

theorem count_newline_raw (o : Options) (value : Value) :
    (Shown.ofValue o.hex value).raw.toList.count '\n' = (plainOctets o value).count 0x0A := by
  rcases raw_ofValue o value with h | ⟨hnil, h⟩
  · rw [h, toList_visibleText]
    exact List.count_map_of_injective _ _ charOfOctet_injective 0x0A
  · rw [h.count_newline, hnil, List.count_nil]

/-! ## Records -/

theorem lineText_three (a b c : String) :
    lineText [a, b, c] = a ++ "\t" ++ b ++ "\t" ++ c ++ "\n" := by
  simp [lineText, String.intercalate_cons_cons, String.append_assoc]

theorem text_raw (r : TrapRecord) : r.text .raw = String.join (r.rows.map lineText) := by
  have hbinding : lineText ∘ (fun b : BindingRecord => ["", b.oid.text, b.shown.raw]) =
      BindingRecord.raw := by
    funext b
    rw [Function.comp_apply, lineText_three]
    rfl
  rw [TrapRecord.rows, List.map_cons, String.join_cons, List.map_map, hbinding, lineText_three]
  -- a record with a name and one without
  rcases r with ⟨_, _, _, _, _, _ | _, _, _, _, _⟩ <;> rfl

theorem rows_record (m : Received) (o : Options) : (m.record o).rows =
    [m.source.text, m.body.pduType.name, (m.body.trapOid?.map Oid.text).getD "-"] ::
      m.body.varbinds.map fun vb => ["", vb.oid.text, (Shown.ofValue o.hex vb.value).raw] := by
  simp [Received.record, TrapRecord.rows, TrapRecord.ofMessage, BindingRecord.ofVarBind]

theorem ne_nil_of_mem_rows {r : TrapRecord} {row : Row} (h : row ∈ r.rows) : row ≠ [] := by
  rw [TrapRecord.rows, List.mem_cons, List.mem_map] at h
  rcases h with rfl | ⟨b, -, rfl⟩ <;> exact List.cons_ne_nil _ _

theorem isField_trapOid (oid? : Option Oid) : IsField ((oid?.map Oid.text).getD "-") := by
  cases oid? with
  | none => simp [IsField]
  | some oid => exact isField_oid oid

theorem isField_rows_iff (m : Received) (o : Options) :
    (∀ row ∈ (m.record o).rows, ∀ field ∈ row, IsField field) ↔
      ∀ vb ∈ m.body.varbinds, ¬ HasSeparator o vb.value := by
  have hempty : IsField "" := by simp [IsField]
  rw [rows_record, List.forall_mem_cons, List.forall_mem_map]
  simp [hempty, isField_endpoint, isField_pduType, isField_trapOid, isField_oid, isField_raw_iff]

theorem count_newline_lineText (a b c : String) : (lineText [a, b, c]).toList.count '\n' =
    a.toList.count '\n' + b.toList.count '\n' + c.toList.count '\n' + 1 := by
  simp [lineText_three, Nat.add_assoc]

/-- One line for the message and one for each binding, and one more for each line feed in a value
that is written as it is. -/
theorem length_linesOf_text_raw (m : Received) (o : Options) :
    (linesOf ((m.record o).text .raw)).length =
      1 + (m.body.varbinds.map fun vb => 1 + (plainOctets o vb.value).count 0x0A).sum := by
  have hheader : (lineText [m.source.text, m.body.pduType.name,
      (m.body.trapOid?.map Oid.text).getD "-"]).toList.count '\n' = 1 := by
    rw [count_newline_lineText, (isField_endpoint _).count_newline,
      (isField_pduType _).count_newline, (isField_trapOid _).count_newline]
  have hbinding (vb : VarBind) : (lineText ["", vb.oid.text,
      (Shown.ofValue o.hex vb.value).raw]).toList.count '\n' =
        1 + (plainOctets o vb.value).count 0x0A := by
    rw [count_newline_lineText, (isField_oid _).count_newline, count_newline_raw]
    simp [Nat.add_comm]
  rw [length_linesOf, text_raw, String.toList_join, List.flatMap_map, List.count_flatMap,
    rows_record]
  simp [Function.comp_def, hheader, hbinding]

theorem join_text_raw (received : List Received) (o : Options) :
    String.join (received.map fun m => (m.record o).text .raw) =
      String.join ((received.map fun m => (m.record o).rows).flatten.map lineText) := by
  induction received with
  | nil => rfl
  | cons m received ih =>
    rw [List.map_cons, String.join_cons, ih, text_raw, List.map_cons, List.flatten_cons,
      List.map_append, String.join_append]

/-- What is read of raw reports.

- A message is written as its rows: a line for the message and one for each binding, and no more if
  no value brings a line feed.
- The records of a stream are read back exactly if no value in it brings a separator: a value brings
  one if it is an octet string, shown as text, with a tab or a line feed in it. -/
theorem raw_stream_read_back_iff (o : Options) :
    (∀ m : Received, (m.record o).text .raw = String.join ((m.record o).rows.map lineText) ∧
      (linesOf ((m.record o).text .raw)).length =
        1 + (m.body.varbinds.map fun vb => 1 + (plainOctets o vb.value).count 0x0A).sum) ∧
    ∀ received : List Received,
      recordsOf (String.join (received.map fun m => (m.record o).text .raw)) =
        received.map (fun m => (m.record o).rows) ↔
          ∀ m ∈ received, ∀ vb ∈ m.body.varbinds, ¬ HasSeparator o vb.value := by
  refine ⟨fun m => ⟨text_raw _, length_linesOf_text_raw m o⟩, fun received => ?_⟩
  rw [recordsOf_eq_iff, join_text_raw, rowsOf_join_iff]
  · rw [List.forall_mem_flatten, List.forall_mem_map]
    exact forall₂_congr fun m _ => isField_rows_iff m o
  · intro row hrow
    obtain ⟨_, hrows, hrow⟩ := List.mem_flatten.1 hrow
    obtain ⟨m, -, rfl⟩ := List.mem_map.1 hrows
    exact ne_nil_of_mem_rows hrow
  · intro record hrecord
    obtain ⟨m, -, rfl⟩ := List.mem_map.1 hrecord
    refine ⟨_, _, rows_record m o, ?_, ?_⟩
    · simp [endpoint_text_ne_empty]
    · simp

/-- A value that goes on, after a line feed, as another message would be written. -/
def forgedValue : Octets := [
  0x78, 0x0A, 0x31, 0x39, 0x32, 0x2E, 0x30, 0x2E, 0x32, 0x2E, 0x39, 0x3A, 0x31, 0x36, 0x32, 0x09,
  0x54, 0x72, 0x61, 0x70, 0x56, 0x32, 0x09, 0x2D]

def forgedDatagram : Octets := [
  0x30, 0x32, 0x02, 0x01, 0x01, 0x04, 0x01, 0x61, 0xA7, 0x2A, 0x02, 0x01, 0x07, 0x02, 0x01, 0x00,
  0x02, 0x01, 0x00, 0x30, 0x1F, 0x30, 0x1D, 0x06, 0x01, 0x2B, 0x04, 0x18] ++ forgedValue

def notice (value : Octets) : Received where
  source := ⟨.v4 .loopback, 40000, 0⟩
  version := .v2c
  community := [0x61]
  body := .pdu ⟨.trapV2, 7, 0, 0, [⟨⟨[1, 3]⟩, .octetString value⟩]⟩

/-- In hexadecimal the value brings no separator. -/
theorem raw_stream_read_back_in_hex :
    recordsOf (String.join [((notice forgedValue).record { hex := true }).text .raw]) =
      [((notice forgedValue).record { hex := true }).rows] := by
  refine ((raw_stream_read_back_iff { hex := true }).2 [notice forgedValue]).2 ?_
  simp [HasSeparator, plainOctets, notice, PduBody.varbinds]

/-- As text it does: one message is written just as two are, and the second never came. -/
theorem forged_record :
    let m := notice forgedValue
    let second : Received := ⟨⟨.v4 ⟨192, 0, 2, 9⟩, 162, 0⟩, .v2c, [], .pdu ⟨.trapV2, 0, 0, 0, []⟩⟩
    Message.decode forgedDatagram = .ok ⟨m.version, m.community, m.body⟩ ∧
      (m.record {}).text .raw =
        ((notice [0x78]).record {}).text .raw ++ (second.record {}).text .raw ∧
      (linesOf ((m.record {}).text .raw)).length ≠ 1 + m.body.varbinds.length := by
  exact ⟨by decide +kernel, by decide +kernel, by decide +kernel⟩

end NetWatch.Report
