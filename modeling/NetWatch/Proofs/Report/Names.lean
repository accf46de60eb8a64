import NetWatch.Proofs.Oid.Text
import NetWatch.Report.Names

/-!
# Names and the objects they stand for

`IsNamed` says which objects have a name: the entries of the table, and whatever lies below an entry
that is no single object. No entry lies below another, so an object has its name from one entry only
(`lookup_eq_some_iff`), and the entries differ before the first dot of their names, so a name leads
back to the entry and to the arcs behind it (`IsNamed.eq`).
-/

namespace NetWatch

theorem Oid.text_inj {a b : Oid} (ha : a.arcs ≠ []) (hb : b.arcs ≠ []) (h : a.text = b.text) :
    a = b := by
  have harcs := arcsOfText?_eq_some_iff.2 (isDotted_text ha)
  rw [h, arcsOfText?_eq_some_iff.2 (isDotted_text hb)] at harcs
  exact congrArg Oid.mk (Option.some.inj harcs).symm

namespace Report.Names

open Text

/-- The name is that of an entry, or of an entry with the arcs of an object below it. -/
inductive IsNamed : Oid → String → Prop where
  | entry {oid : Oid} {name : String} : (oid, name) ∈ table → IsNamed oid name
  | below {base : Oid} {name : String} {rest : List UInt32} : (base, name) ∈ table →
      ¬ ".0".toList <:+ name.toList → rest ≠ [] →
      IsNamed ⟨base.arcs ++ rest⟩ (name ++ "." ++ Oid.text ⟨rest⟩)

def BeginsWithDigit (s : String) : Prop :=
  ∃ dots c rest, s.toList = dots ++ c :: rest ∧ (∀ d ∈ dots, d = '.') ∧ c.isDigit = true

variable {oid base a b : Oid} {name s : String} {entry entry' : Oid × String}
  {entries : List (Oid × String)}

/-! ## The table -/

/-- No entry lies at or below another one. -/
theorem table_prefix_free (h : entry ∈ table) (h' : entry' ∈ table)
    (hle : entry.1.arcs <+: entry'.1.arcs) : entry = entry' := by
  have hall : ∀ e ∈ table, ∀ e' ∈ table, e.1.arcs.isPrefixOf e'.1.arcs → e = e' := by
    decide +kernel
  exact hall entry h entry' h' (List.isPrefixOf_iff_prefix.2 hle)

def stem (name : String) : List Char := name.toList.takeWhile (· ≠ '.')

theorem nodup_stems : (table.map fun entry => stem entry.2).Nodup := by decide +kernel

theorem eq_of_stem_eq (h : entry ∈ table) (h' : entry' ∈ table)
    (hstem : stem entry.2 = stem entry'.2) : entry = entry' :=
  List.inj_on_of_nodup_map nodup_stems h h' hstem

theorem stem_append_dot (name more : String) : stem (name ++ "." ++ more) = stem name := by
  simp only [stem, String.toList_append]
  induction name.toList with
  | nil => rfl
  | cons c cs ih => by_cases hc : c = '.' <;> simp_all

/-! ## Looking up -/

theorem mem_above_iff : entry ∈ above oid ↔
    entry ∈ table ∧ ¬ ".0".toList <:+ entry.2.toList ∧ entry.1.arcs <+: oid.arcs := by
  simp only [above, List.mem_filter, isInstance, Oid.startsWith, Bool.and_eq_true, Bool.not_eq_true',
    Bool.eq_false_iff, ne_eq, List.isSuffixOf_iff_suffix, List.isPrefixOf_iff_prefix]

theorem mem_of_longest (h : longest entries = some entry) : entry ∈ entries := by
  induction entries with
  | nil => cases h
  | cons first rest ih =>
    rw [longest] at h
    split at h
    · next best hbest =>
      split at h
      · exact Option.some.inj h ▸ List.mem_cons_self
      · exact List.mem_cons_of_mem _ (ih (hbest.trans h))
    · exact Option.some.inj h ▸ List.mem_cons_self

theorem exists_longest (h : entry ∈ entries) : ∃ best, longest entries = some best := by
  cases entries with
  | nil => cases h
  | cons first rest =>
    rw [longest]
    split
    · split <;> exact ⟨_, rfl⟩
    · exact ⟨_, rfl⟩

theorem isNamed_of_lookup (h : lookup oid = some name) : IsNamed oid name := by
  rw [lookup] at h
  split at h
  · next o n hfind =>
    obtain rfl : o = oid := by simpa using List.find?_some hfind
    exact Option.some.inj h ▸ .entry (List.mem_of_find?_eq_some hfind)
  · next hnone =>
    obtain ⟨⟨base, n⟩, hlongest, rfl⟩ := Option.map_eq_some_iff.1 h
    obtain ⟨hmem, hcolumn, rest, harcs⟩ := mem_above_iff.1 (mem_of_longest hlongest)
    obtain rfl : oid = ⟨base.arcs ++ rest⟩ := congrArg Oid.mk harcs.symm
    simp only [Oid.length, List.drop_left]
    refine .below hmem hcolumn fun hrest => ?_
    -- with nothing behind it the object would be the entry itself
    subst hrest
    exact List.find?_eq_none.1 hnone _ hmem (by simp)

theorem lookup_of_mem (h : (oid, name) ∈ table) : lookup oid = some name := by
  rw [lookup]
  split
  · next o n hfind =>
    obtain rfl : o = oid := by simpa using List.find?_some hfind
    have heq := table_prefix_free (List.mem_of_find?_eq_some hfind) h (List.prefix_refl _)
    exact congrArg some (congrArg Prod.snd heq)
  · next hnone => exact absurd (by simp) (List.find?_eq_none.1 hnone _ h)

theorem lookup_below {rest : List UInt32} (h : (base, name) ∈ table)
    (hcolumn : ¬ ".0".toList <:+ name.toList) (hrest : rest ≠ []) :
    lookup ⟨base.arcs ++ rest⟩ = some (name ++ "." ++ Oid.text ⟨rest⟩) := by
  have habove : (base, name) ∈ above ⟨base.arcs ++ rest⟩ :=
    mem_above_iff.2 ⟨h, hcolumn, List.prefix_append _ _⟩
  obtain ⟨best, hbest⟩ := exists_longest habove
  obtain ⟨hmem, -, hprefix⟩ := mem_above_iff.1 (mem_of_longest hbest)
  -- two entries above one object lie one above the other
  obtain rfl : (base, name) = best := by
    rcases List.prefix_or_prefix_of_prefix (List.prefix_append base.arcs rest) hprefix with
      hle | hle
    · exact table_prefix_free h hmem hle
    · exact (table_prefix_free hmem h hle).symm
  rw [lookup]
  split
  · next o n hfind =>
    obtain rfl : o = ⟨base.arcs ++ rest⟩ := by simpa using List.find?_some hfind
    have heq := table_prefix_free h (List.mem_of_find?_eq_some hfind) (List.prefix_append _ _)
    have harcs : base.arcs = base.arcs ++ rest := congrArg (fun entry => entry.1.arcs) heq
    exact absurd (List.self_eq_append_right.1 harcs) hrest
  · simp only [hbest, Option.map_some, Oid.length, List.drop_left]

/-- An object has its name from one entry, whatever the order of the table is. -/
theorem lookup_eq_some_iff : lookup oid = some name ↔ IsNamed oid name := by
  refine ⟨isNamed_of_lookup, fun h => ?_⟩
  cases h with
  | entry hmem => exact lookup_of_mem hmem
  | below hmem hcolumn hrest => exact lookup_below hmem hcolumn hrest

theorem isNamed_iff : (∃ name, IsNamed oid name) ↔ (∃ name, (oid, name) ∈ table) ∨
    ∃ base name, (base, name) ∈ table ∧ ¬ ".0".toList <:+ name.toList ∧
      base.arcs <+: oid.arcs ∧ base ≠ oid := by
  constructor
  · rintro ⟨_, h | ⟨hmem, hcolumn, hrest⟩⟩
    · exact .inl ⟨_, h⟩
    · refine .inr ⟨_, _, hmem, hcolumn, List.prefix_append _ _, fun heq => hrest ?_⟩
      exact List.self_eq_append_right.1 (congrArg Oid.arcs heq)
  · rintro (⟨name, h⟩ | ⟨base, name, hmem, hcolumn, ⟨rest, harcs⟩, hne⟩)
    · exact ⟨name, .entry h⟩
    · obtain rfl : oid = ⟨base.arcs ++ rest⟩ := congrArg Oid.mk harcs.symm
      refine ⟨_, .below hmem hcolumn fun hrest => hne ?_⟩
      rw [hrest, List.append_nil]

/-! ## Leading back -/

theorem IsNamed.exists_entry (h : IsNamed oid name) : ∃ entry ∈ table, stem name = stem entry.2 ∧
    (oid = entry.1 ∧ name = entry.2 ∨ ∃ rest : List UInt32, rest ≠ [] ∧
      oid = ⟨entry.1.arcs ++ rest⟩ ∧ name = entry.2 ++ "." ++ Oid.text ⟨rest⟩) := by
  cases h with
  | entry hmem => exact ⟨_, hmem, rfl, .inl ⟨rfl, rfl⟩⟩
  | below hmem _ hrest => exact ⟨_, hmem, stem_append_dot _ _, .inr ⟨_, hrest, rfl, rfl⟩⟩

theorem append_dot_ne (name more : String) : name ++ "." ++ more ≠ name := by
  intro h
  have hlength := congrArg String.length h
  have hdot : ".".length = 1 := rfl
  rw [String.length_append, String.length_append, hdot] at hlength
  omega

theorem IsNamed.eq (ha : IsNamed a name) (hb : IsNamed b name) : a = b := by
  obtain ⟨entry, hmem, hstem, ha⟩ := ha.exists_entry
  obtain ⟨entry', hmem', hstem', hb⟩ := hb.exists_entry
  obtain rfl := eq_of_stem_eq hmem hmem' (hstem.symm.trans hstem')
  rcases ha with ⟨rfl, rfl⟩ | ⟨rest, hrest, rfl, rfl⟩
  · rcases hb with ⟨rfl, -⟩ | ⟨rest, -, -, hname⟩
    · rfl
    · exact absurd hname.symm (append_dot_ne _ _)
  · rcases hb with ⟨-, hname⟩ | ⟨rest', hrest', rfl, hname⟩
    · exact absurd hname (append_dot_ne _ _)
    · have htext : Oid.text ⟨rest⟩ = Oid.text ⟨rest'⟩ := (String.append_right_inj _).1 hname
      rw [Oid.mk.injEq, List.append_cancel_left_eq]
      exact congrArg Oid.arcs (Oid.text_inj hrest hrest' htext)

/-! ## Reading -/

theorem isDotted_iff : isDotted s = true ↔ BeginsWithDigit s := by
  have hdigit (c : Char) : (digit? c).isSome = true ↔ c.isDigit = true := by
    rw [digit?_eq]
    split <;> simp_all
  rw [isDotted]
  constructor
  · intro h
    split at h
    · next c rest hrest =>
      refine ⟨s.toList.takeWhile (· = '.'), c, rest, ?_, fun d hd => ?_, (hdigit c).1 h⟩
      · rw [← hrest, List.takeWhile_append_dropWhile]
      · simpa using List.mem_takeWhile_imp hd
    · cases h
  · rintro ⟨dots, c, rest, hs, hdots, hc⟩
    have hne : ¬ decide (c = '.') = true := by
      simp only [decide_eq_true_iff]
      rintro rfl
      cases hc
    have hbehind : s.toList.dropWhile (· = '.') = c :: rest := by
      rw [hs, List.dropWhile_append_of_pos (by simpa using hdots)]
      exact List.dropWhile_cons_of_neg hne
    rw [hbehind]
    exact (hdigit c).2 hc

theorem parse_of_beginsWithDigit (h : BeginsWithDigit s) :
    parse s = (Oid.ofText s).mapError (.invalid s) :=
  if_pos (isDotted_iff.2 h)

theorem parse_eq_ok_iff (h : BeginsWithDigit s) : parse s = .ok oid ↔ Oid.ofText s = .ok oid := by
  rw [parse_of_beginsWithDigit h]
  cases Oid.ofText s <;> simp [Except.mapError]

/-- Names are for one object each.

- Two objects with one name are the same.
- An object has a name just if it is in the table or below an entry that is no single object.
- A text that begins with a digit, behind any dots, is read as dotted text is. -/
theorem names_unambiguous :
    (∀ a b name, lookup a = some name → lookup b = some name → a = b) ∧
    (∀ oid, (∃ name, lookup oid = some name) ↔ (∃ name, (oid, name) ∈ table) ∨
      ∃ base name, (base, name) ∈ table ∧ ¬ ".0".toList <:+ name.toList ∧
        base.arcs <+: oid.arcs ∧ base ≠ oid) ∧
    ∀ s, BeginsWithDigit s → ∀ oid, parse s = .ok oid ↔ Oid.ofText s = .ok oid := by
  refine ⟨fun a b name ha hb => ?_, fun oid => ?_, fun s hs oid => parse_eq_ok_iff hs⟩
  · exact (lookup_eq_some_iff.1 ha).eq (lookup_eq_some_iff.1 hb)
  · simp only [lookup_eq_some_iff, isNamed_iff]

/-- The state of the twelfth interface has a name that no other object has. Of two dots in front one
is too many, for a name as for dotted text. -/
theorem names_unambiguous_interface :
    lookup ⟨[1, 3, 6, 1, 2, 1, 2, 2, 1, 8, 12]⟩ = some "ifOperStatus.12" ∧
    lookup ⟨[1, 3, 6, 1, 2, 1, 2, 2, 1, 8, 1, 2]⟩ ≠ some "ifOperStatus.12" ∧
    BeginsWithDigit "..1.3" ∧ parse "..1.3" ≠ .ok ⟨[1, 3]⟩ ∧
    BeginsWithDigit ".1.3" ∧ parse ".1.3" = .ok ⟨[1, 3]⟩ := by
  obtain ⟨hinj, -, hparse⟩ := names_unambiguous
  have hname : lookup ⟨[1, 3, 6, 1, 2, 1, 2, 2, 1, 8, 12]⟩ = some "ifOperStatus.12" := by
    decide +kernel
  have htwo : BeginsWithDigit "..1.3" := ⟨['.', '.'], '1', ['.', '3'], rfl, by simp, by decide⟩
  have hone : BeginsWithDigit ".1.3" := ⟨['.'], '1', ['.', '3'], rfl, by simp, by decide⟩
  refine ⟨hname, fun hother => ?_, htwo, mt (hparse _ htwo _).1 ?_, hone, (hparse _ hone _).2 ?_⟩
  · exact absurd (hinj _ _ _ hname hother) (by decide)
  · decide +kernel
  · decide +kernel

end Report.Names

end NetWatch
