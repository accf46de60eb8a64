import NetWatch.Ber.Reader
import NetWatch.Proofs.Ber.Contents

/-!
# Readers recognise grammars

`r.Recognises g` says that a read succeeds with a value exactly when the window begins with octets
that `g` derives for that value, and that it passes exactly these octets. `r.Fills g` says the same
of a read that has to come to the end of its window. Both are put together along the structure of
a reader, so that each read of the library has one lemma here and the readers built from them need
no look inside.
-/

namespace NetWatch.Ber

open Grammar

/-! ## Windows -/

namespace Window

/-- `w'` is what is left of `w` behind the octets `d`. -/
structure Passes (w : Window) (d : Octets) (w' : Window) : Prop where
  octets : w.octets = d ++ w'.octets
  offset : w'.offset = w.offset + d.length

theorem passes_nil_iff {w w' : Window} : w.Passes [] w' ↔ w' = w := by
  constructor
  · rintro ⟨h, h'⟩
    cases w; cases w'
    simp_all
  · rintro rfl
    exact ⟨rfl, rfl⟩

theorem passes_append_iff {w w'' : Window} {front back : Octets} :
    w.Passes (front ++ back) w'' ↔ ∃ w', w.Passes front w' ∧ w'.Passes back w'' := by
  constructor
  · rintro ⟨h, h'⟩
    refine ⟨⟨w.offset + front.length, back ++ w''.octets⟩, ⟨by simp [h], rfl⟩, ⟨rfl, ?_⟩⟩
    simp [h', Nat.add_assoc]
  · rintro ⟨w', ⟨h, h'⟩, ⟨k, k'⟩⟩
    exact ⟨by rw [h, k, List.append_assoc], by simp [h', k', Nat.add_assoc]⟩

theorem passes_cons_iff {w' : Window} {o : Nat} {b c : UInt8} {rest d : Octets} :
    Passes ⟨o, b :: rest⟩ (c :: d) w' ↔ c = b ∧ Passes ⟨o + 1, rest⟩ d w' := by
  constructor
  · rintro ⟨h, h'⟩
    obtain ⟨hb, hd⟩ := List.cons.inj h
    exact ⟨hb.symm, hd, by rw [h', List.length_cons, Nat.add_right_comm, Nat.add_assoc]⟩
  · rintro ⟨rfl, h, h'⟩
    exact ⟨congrArg (c :: ·) h, by rw [h', List.length_cons, Nat.add_right_comm, Nat.add_assoc]⟩

theorem Passes.head?_eq {w w' : Window} {d : Octets} {b : UInt8} (hp : w.Passes d w')
    (h : d.head? = some b) : w.octets.head? = some b := by
  rw [hp.octets, List.head?_append, h]
  rfl

theorem split?_eq_some_iff {w w' : Window} {n : Nat} {d : Octets} :
    w.split? n = some (d, w') ↔ d.length = n ∧ w.Passes d w' := by
  unfold split?
  simp only [List.length_take]
  constructor
  · intro h
    split at h
    · cases h
    · cases h
      exact ⟨by rw [List.length_take]; omega, by simp, by simp; omega⟩
  · rintro ⟨rfl, h, h'⟩
    rw [h, if_neg (by simp), List.take_left, List.drop_left, ← h']

end Window

/-! ## Lengths, headers, elements -/

theorem Length.read_eq_ok_iff {w w' : Window} {n : Nat} :
    Length.read w = .ok (n, w') ↔ ∃ l, DefiniteLength l n ∧ w.Passes l w' := by
  obtain ⟨o, data⟩ := w
  cases data with
  | nil =>
    constructor
    · intro h
      cases h
    · rintro ⟨l, hl, h, -⟩
      cases hl <;> cases h
  | cons first rest =>
    have h80 : (0x80 : UInt8).toNat = 128 := rfl
    simp only [read, UInt8.lt_iff_toNat_lt, h80]
    constructor
    · intro h
      split at h
      · next hf =>
        cases h
        exact ⟨[first], .short (UInt8.lt_iff_toNat_lt.2 hf),
          Window.passes_cons_iff.2 ⟨rfl, Window.passes_nil_iff.2 rfl⟩⟩
      split at h
      · cases h
      split at h
      · cases h
      split at h
      · cases h
      next digits after hs =>
      cases h
      obtain ⟨hlen, hp⟩ := Window.split?_eq_some_iff.1 hs
      exact ⟨first :: digits, .long (by omega) (by omega) (by omega),
        Window.passes_cons_iff.2 ⟨rfl, hp⟩⟩
    · rintro ⟨l, hl, hp⟩
      cases hl with
      | @short b hb =>
        obtain ⟨rfl, hnil⟩ := Window.passes_cons_iff.1 hp
        have hb : b.toNat < 128 := UInt8.lt_iff_toNat_lt.1 hb
        rw [if_pos hb, Window.passes_nil_iff.1 hnil]
      | @long count digits hcount hpos hmax =>
        obtain ⟨rfl, hdigits⟩ := Window.passes_cons_iff.1 hp
        have hs := Window.split?_eq_some_iff.2 ⟨rfl, hdigits⟩
        rw [if_neg (by omega), if_neg (by omega), if_neg (by omega),
          show count.toNat - 128 = digits.length by omega, hs]

theorem Window.header_eq_ok_iff {w : Window} {h : Header} :
    w.header = .ok h ↔ h.length ≤ h.body.octets.length ∧
      ∃ l, DefiniteLength l h.length ∧ w.Passes (h.tag :: l) h.body := by
  obtain ⟨o, data⟩ := w
  obtain ⟨tag, n, body⟩ := h
  cases data with
  | nil =>
    constructor
    · intro h
      cases h
    · rintro ⟨-, l, -, h, -⟩
      cases h
  | cons b rest =>
    simp only [header, passes_cons_iff, bind, Except.bind]
    constructor
    · intro h
      split at h
      · cases h
      next p hp =>
      split at h
      · cases h
      next q hq =>
      cases h
      obtain ⟨l, hl, hp⟩ := Length.read_eq_ok_iff.1 hp
      obtain ⟨hlen, hq⟩ := split?_eq_some_iff.1 hq
      exact ⟨by rw [← hlen, hq.octets, List.length_append]; exact Nat.le_add_right _ _,
        l, hl, rfl, hp⟩
    · rintro ⟨hle, l, hl, rfl, hp⟩
      rw [Length.read_eq_ok_iff.2 ⟨l, hl, hp⟩]
      simp only
      split
      · next hs => simp [split?] at hs; omega
      · rfl

/-- An element is a header and the content that the header speaks of. -/
theorem Window.element_eq_ok_iff {w : Window} {e : Element} :
    w.element = .ok e ↔ e.start = w.offset ∧
      ∃ l, DefiniteLength l e.content.octets.length ∧ e.content.offset = w.offset + 1 + l.length ∧
        w.Passes (e.tag :: (l ++ e.content.octets)) e.after := by
  obtain ⟨tag, start, ⟨o, content⟩, after⟩ := e
  simp only [element, bind, Except.bind]
  constructor
  · intro h
    split at h
    · cases h
    next hd hhd =>
    split at h
    · cases h
    next body after' hs =>
    cases h
    obtain ⟨-, l, hl, hp⟩ := header_eq_ok_iff.1 hhd
    obtain ⟨hlen, hs⟩ := split?_eq_some_iff.1 hs
    refine ⟨rfl, l, hlen ▸ hl, ?_, ?_⟩
    · rw [hp.offset, List.length_cons]; omega
    · rw [← List.cons_append]
      exact passes_append_iff.2 ⟨_, hp, hs⟩
  · rintro ⟨rfl, l, hl, rfl, hp⟩
    rw [← List.cons_append] at hp
    obtain ⟨body, hp, hs⟩ := passes_append_iff.1 hp
    have hhd : w.header = .ok ⟨tag, content.length, body⟩ := by
      refine header_eq_ok_iff.2 ⟨?_, l, hl, hp⟩
      rw [hs.octets, List.length_append]
      exact Nat.le_add_right _ _
    rw [hhd]
    simp only
    rw [split?_eq_some_iff.2 ⟨rfl, hs⟩, hp.offset, List.length_cons]
    simp only [Except.ok.injEq, Element.mk.injEq, Window.mk.injEq, true_and, and_true]
    omega

namespace Reader

/-! ## Recognition -/

/-- The read succeeds on the octets that the grammar derives, wherever they stand at the front of
a window, and passes just these. -/
def Recognises (r : Reader α) (g : Grammar α) : Prop :=
  ∀ w a w', r w = .ok a w' ↔ ∃ d, g d a ∧ w.Passes d w'

def Fills (r : Reader α) (g : Grammar α) : Prop :=
  ∀ w a, (∃ w', r w = .ok a w') ↔ g w.octets a

theorem bind_eq_ok_iff {r : Reader α} {f : α → Reader β} {w w'' : Window} {b : β} :
    (r >>= f) w = .ok b w'' ↔ ∃ a w', r w = .ok a w' ∧ f a w' = .ok b w'' := by
  change EStateM.bind r f w = _ ↔ _
  unfold EStateM.bind
  cases h : r w with
  | ok a w' => simp
  | error e w' => simp

theorem map_eq_ok_iff {r : Reader α} {f : α → β} {w w' : Window} {b : β} :
    (f <$> r) w = .ok b w' ↔ ∃ a, r w = .ok a w' ∧ f a = b := by
  change EStateM.map f r w = _ ↔ _
  unfold EStateM.map
  cases h : r w with
  | ok a w' => simp [and_comm]
  | error e w' => simp

theorem ite_eq_ok_iff {c : Prop} [Decidable c] {r r' : Reader α} {w w' : Window} {a : α} :
    (if c then r else r') w = .ok a w' ↔ c ∧ r w = .ok a w' ∨ ¬c ∧ r' w = .ok a w' := by
  by_cases h : c <;> simp [h]

section Joining

variable {r : Reader α} {f : α → Reader β} {g g' : Grammar α} {next : α → Grammar β}

theorem Fills.congr (h : r.Fills g) (hg : ∀ d a, g d a ↔ g' d a) : r.Fills g' := by
  simpa only [Fills, hg] using h

theorem Fills.bind (h : r.Recognises g) (hf : ∀ a, (f a).Fills (next a)) :
    (r >>= f).Fills (Seq g next) := by
  intro w b
  simp only [bind_eq_ok_iff]
  constructor
  · rintro ⟨w'', a, w', ha, hb⟩
    obtain ⟨d, hd, hp⟩ := (h w a w').1 ha
    rw [hp.octets]
    exact .intro hd ((hf a w' b).1 ⟨w'', hb⟩)
  · obtain ⟨o, data⟩ := w
    rintro ⟨hfront, hback⟩
    rename_i front back a
    obtain ⟨w'', hb⟩ := (hf a ⟨o + front.length, back⟩ b).2 hback
    exact ⟨w'', a, _, (h _ a _).2 ⟨front, hfront, rfl, rfl⟩, hb⟩

theorem fills_expectEnd (a : α) : Fills (do expectEnd; return a) (Done a) := by
  intro w b
  simp only [bind_eq_ok_iff, expectEnd]
  constructor
  · rintro ⟨w'', _, w', h, hb⟩
    split at h
    · next he =>
      cases hb
      rw [List.isEmpty_iff.1 he]
      exact .intro
    · cases h
  · obtain ⟨o, data⟩ := w
    rintro ⟨⟩
    exact ⟨_, (), _, rfl, rfl⟩

theorem Fills.offset {f : Nat → Reader β} {g : Grammar β} (h : ∀ n, (f n).Fills g) :
    (Reader.offset >>= f).Fills g := fun w b => h w.offset w b

theorem Recognises.offset {f : Nat → Reader β} {g : Grammar β} (h : ∀ n, (f n).Recognises g) :
    (Reader.offset >>= f).Recognises g := fun w b => h w.offset w b

theorem peekTag?_bind (f : Option Tag → Reader β) (w : Window) :
    (peekTag? >>= f) w = f w.octets.head? w := rfl

/-- A window is a place of its own in the message: the offset does not matter. -/
theorem Recognises.within {body : Reader α} (h : body.Fills g) (inner w w' : Window) (a : α) :
    Reader.within inner body w = .ok a w' ↔ g inner.octets a ∧ w' = w := by
  rw [← h inner a, Reader.within]
  split
  · next b w1 hb =>
    simp only [hb, EStateM.Result.ok.injEq]
    constructor
    · rintro ⟨rfl, rfl⟩
      exact ⟨⟨w1, rfl, rfl⟩, rfl⟩
    · rintro ⟨⟨_, rfl, rfl⟩, rfl⟩
      exact ⟨rfl, rfl⟩
  · next e w1 hb => simp [hb]

end Joining

/-! ## Reads of one element -/

/-- A typed read recognises the elements of its tag. Its check of the content may rely on the
tag. -/
theorem recognises_tagged {tag : Tag} {item : Element → Except DecodeError α} {g : Grammar α}
    (h : ∀ e a, e.tag = tag → (item e = .ok a ↔ g e.content.octets a)) :
    (tagged tag item).Recognises (Tlv tag g) := by
  intro w a w'
  simp only [tagged, element, bind, Except.bind]
  constructor
  · intro hr
    split at hr
    · cases hr
    next e he =>
    split at hr
    · cases hr
    next b hb =>
    split at hb
    · cases hb
    next c hc =>
    split at hb
    · next htag =>
      cases hb
      cases hr
      obtain ⟨-, l, hl, -, hp⟩ := Window.element_eq_ok_iff.1 he
      exact ⟨_, .intro hl ((h e _ htag).1 hc), htag ▸ hp⟩
    · cases hb
  · rintro ⟨d, hd, hp⟩
    cases hd with
    | @intro l content a hl hc =>
    have he : w.element = .ok ⟨tag, w.offset, ⟨w.offset + 1 + l.length, content⟩, w'⟩ :=
      Window.element_eq_ok_iff.2 ⟨rfl, l, hl, rfl, hp⟩
    rw [he]
    simp only
    rw [(h _ a rfl).2 hc]
    simp [pure, Except.pure]

theorem recognises_integerTagged (tag : Tag) :
    (integerTagged tag).Recognises (Tlv tag integer32) :=
  recognises_tagged fun _ _ _ => Element.integer32_eq_ok_iff

theorem recognises_unsigned32 (tag : Tag) :
    (unsigned32 tag).Recognises (Tlv tag Grammar.unsigned32) :=
  recognises_tagged fun _ _ _ => Element.unsigned32_eq_ok_iff

theorem recognises_unsigned64 (tag : Tag) :
    (unsigned64 tag).Recognises (Tlv tag Grammar.unsigned64) :=
  recognises_tagged fun _ _ _ => Element.unsigned64_eq_ok_iff

theorem recognises_string {tag : Tag} (h : tag ≠ Tag.constructedString) :
    (string tag).Recognises (Tlv tag octets) := by
  refine recognises_tagged fun e a htag => ?_
  rw [Element.string, if_neg (by rwa [htag]), Except.ok.injEq]
  rfl

theorem recognises_empty (tag : Tag) : (empty tag).Recognises (Tlv tag Grammar.empty) :=
  recognises_tagged fun _ _ _ => Element.null_eq_ok_iff

theorem recognises_oid : oid.Recognises (Tlv Tag.objectIdentifier Oid.IsContent) :=
  recognises_tagged fun _ _ _ => Element.oid_eq_ok_iff

theorem recognises_ipAddress : ipAddress.Recognises (Tlv Tag.ipAddress Grammar.ipAddress) := by
  refine Recognises.offset fun start w ip w' => ?_
  rw [bind_eq_ok_iff]
  constructor
  · rintro ⟨data, w'', hdata, hip⟩
    obtain ⟨d, hd, hp⟩ := (recognises_string (by decide) w data w'').1 hdata
    cases hsome : Net.Ipv4.ofOctets? data with
    | none => rw [hsome] at hip; cases hip
    | some found =>
      rw [hsome] at hip
      cases hip
      cases hd with
      | intro hl hc =>
        cases hc
        exact ⟨_, .intro hl (Net.Ipv4.ofOctets?_eq_some_iff.1 hsome), hp⟩
  · rintro ⟨d, hd, hp⟩
    cases hd with
    | intro hl hc =>
      refine ⟨ip.octets, w', (recognises_string (by decide) w _ w').2 ⟨_, .intro hl hc, hp⟩, ?_⟩
      rw [Net.Ipv4.ofOctets?_octets]
      rfl

/-! ## Windows inside windows -/

theorem header_window_iff {w inner w' : Window} {tag : Tag} :
    (∃ n w₁, header w = .ok (tag, n) w₁ ∧ window n w₁ = .ok inner w') ↔
      ∃ l, DefiniteLength l inner.octets.length ∧ inner.offset = w.offset + 1 + l.length ∧
        w.Passes (tag :: (l ++ inner.octets)) w' := by
  obtain ⟨o, content⟩ := inner
  simp only [header, window, ← List.cons_append, Window.passes_append_iff]
  constructor
  · rintro ⟨n, w₁, hh, hw⟩
    split at hh
    · cases hh
    next h he =>
    cases hh
    split at hw
    · cases hw
    next data after hs =>
    cases hw
    obtain ⟨-, l, hl, hp⟩ := Window.header_eq_ok_iff.1 he
    obtain ⟨hlen, hs⟩ := Window.split?_eq_some_iff.1 hs
    refine ⟨l, hlen ▸ hl, ?_, _, hp, hs⟩
    rw [hp.offset, List.length_cons]
    omega
  · rintro ⟨l, hl, rfl, w₁, hp, hs⟩
    have hle : content.length ≤ w₁.octets.length := by
      rw [hs.octets, List.length_append]
      exact Nat.le_add_right _ _
    have hh : w.header = .ok ⟨tag, content.length, w₁⟩ :=
      Window.header_eq_ok_iff.2 ⟨hle, l, hl, hp⟩
    refine ⟨content.length, w₁, by rw [hh], ?_⟩
    rw [Window.split?_eq_some_iff.2 ⟨rfl, hs⟩, hp.offset, List.length_cons]
    simp only [EStateM.Result.ok.injEq, Window.mk.injEq, and_true]
    omega

/-- A read that fills the content announced by a header recognises the element. -/
theorem header_within_iff {tag : Tag} {body : Reader α} {g : Grammar α} (h : body.Fills g)
    {w w' : Window} {a : α} :
    (∃ n w₁, header w = .ok (tag, n) w₁ ∧ (do within (← window n) body : Reader α) w₁ = .ok a w') ↔
      ∃ d, Tlv tag g d a ∧ w.Passes d w' := by
  simp only [bind_eq_ok_iff, Recognises.within h]
  constructor
  · rintro ⟨n, w₁, hh, inner, _, hw, ha, rfl⟩
    obtain ⟨l, hl, -, hp⟩ := header_window_iff.1 ⟨n, w₁, hh, hw⟩
    exact ⟨_, .intro hl ha, hp⟩
  · rintro ⟨d, ⟨hl, ha⟩, hp⟩
    rename_i l content
    obtain ⟨n, w₁, hh, hw⟩ : ∃ n w₁, header w = .ok (tag, n) w₁ ∧
        window n w₁ = .ok ⟨w.offset + 1 + l.length, content⟩ w' :=
      header_window_iff.2 ⟨l, hl, rfl, hp⟩
    exact ⟨n, w₁, hh, _, w', hw, ha, rfl⟩

theorem recognises_constructed {tag : Tag} {body : Reader α} {g : Grammar α} (h : body.Fills g) :
    Recognises (do within (← constructed tag) body) (Tlv tag g) := by
  intro w a w'
  rw [← header_within_iff h]
  change ((header >>= fun p => if p.1 = tag then window p.2 else fail w.offset _) >>=
    fun inner => within inner body) w = _ ↔ _
  simp only [bind_eq_ok_iff, ite_eq_ok_iff]
  constructor
  · rintro ⟨inner, w₂, ⟨⟨_, n⟩, w₁, hh, ⟨rfl, hw⟩ | ⟨-, ⟨⟩⟩⟩, ha⟩
    exact ⟨n, w₁, hh, inner, w₂, hw, ha⟩
  · rintro ⟨n, w₁, hh, inner, w₂, hw, ha⟩
    exact ⟨inner, w₂, ⟨_, w₁, hh, .inl ⟨rfl, hw⟩⟩, ha⟩

/-! ## Series -/

theorem many_nil_iff {g : Grammar α} (hne : ∀ d a, g d a → d ≠ []) {as : List α} :
    Many g [] as ↔ as = [] := by
  constructor
  · intro hm
    generalize hd : ([] : Octets) = d at hm
    cases hm with
    | nil => rfl
    | cons ha _ => exact absurd (List.append_eq_nil_iff.1 hd.symm).1 (hne _ _ ha)
  · rintro rfl
    exact .nil

theorem repeatedly_succ (item : Reader α) (fuel : Nat) (w : Window) :
    repeatedly item (fuel + 1) w = if w.octets.isEmpty then .ok [] w else (do
      let a ← item
      let rest ← repeatedly item fuel
      return a :: rest : Reader (List α)) w := by
  obtain ⟨o, data⟩ := w
  cases data <;> rfl

/-- A window of items, none of them empty, is read to its end. -/
theorem repeatedly_eq_ok_iff {item : Reader α} {g : Grammar α} (h : item.Recognises g)
    (hne : ∀ d a, g d a → d ≠ []) {fuel : Nat} {w : Window} (hfuel : w.octets.length ≤ fuel)
    {as : List α} : (∃ w', repeatedly item fuel w = .ok as w') ↔ Many g w.octets as := by
  induction fuel generalizing w as with
  | zero =>
    rw [List.length_eq_zero_iff.1 (Nat.le_zero.1 hfuel), many_nil_iff hne]
    exact ⟨fun ⟨_, h⟩ => (by cases h; rfl), fun h => ⟨w, by rw [h]; rfl⟩⟩
  | succ fuel ih =>
    by_cases hw : w.octets = []
    · rw [repeatedly_succ, if_pos (List.isEmpty_iff.2 hw), hw, many_nil_iff hne]
      exact ⟨fun ⟨_, h⟩ => (by cases h; rfl), fun h => ⟨w, by rw [h]⟩⟩
    · rw [repeatedly_succ, if_neg (mt List.isEmpty_iff.1 hw)]
      simp only [bind_eq_ok_iff]
      constructor
      · rintro ⟨w', a, w1, ha, rest, w2, hrest, hr⟩
        cases hr
        obtain ⟨d, hd, hp⟩ := (h w a w1).1 ha
        have hlen := congrArg List.length hp.octets
        have hpos := List.length_pos_iff.2 (hne d a hd)
        rw [hp.octets]
        exact .cons hd ((ih (by simp at hlen; omega)).1 ⟨_, hrest⟩)
      · obtain ⟨o, data⟩ := w
        intro hm
        cases hm with
        | nil => exact absurd rfl hw
        | @cons front back a as ha hm =>
          have hpos := List.length_pos_iff.2 (hne _ _ ha)
          have hback : back.length ≤ fuel := by simp at hfuel; omega
          obtain ⟨w', hrest⟩ := (ih (w := ⟨o + front.length, back⟩) hback).2 hm
          exact ⟨w', a, _, (h _ a _).2 ⟨front, ha, rfl, rfl⟩, as, w', hrest, rfl⟩

theorem fills_untilEnd {item : Reader α} {g : Grammar α} (h : item.Recognises g)
    (hne : ∀ d a, g d a → d ≠ []) : (untilEnd item).Fills (Many g) :=
  fun _ _ => repeatedly_eq_ok_iff h hne (Nat.le_refl _)

theorem tlv_ne_nil {tag : Tag} {g : Grammar α} {d : Octets} {a : α} (h : Tlv tag g d a) :
    d ≠ [] := by
  cases h
  simp

end Reader

/-! ## Kinds by their tags -/

/-- Where each kind is found under its own key, it is found under no other. -/
theorem find?_key_eq_some_iff {κ : Type} [DecidableEq κ] {key : α → κ} {kinds : List α}
    (h : ∀ a, kinds.find? (key · = key a) = some a) {k : κ} {a : α} :
    kinds.find? (key · = k) = some a ↔ key a = k := by
  constructor
  · intro hfound
    simpa using List.find?_some hfound
  · rintro rfl
    exact h a

end NetWatch.Ber
