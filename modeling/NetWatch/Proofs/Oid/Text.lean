import NetWatch.Oid.Text
import NetWatch.Proofs.Text.Numeral

/-!
# Identifiers as dotted text

`IsDotted` says which texts stand for which arcs: between the dots there is one numeral for each. What
is read is the dotted text of a valid identifier, with or without a dot in front, and nothing else
(`ofText_eq_ok_iff`). An identifier is shown as text that is read back unless it is empty or not valid
(`ofText_text_iff`).
-/

namespace NetWatch

section

variable {f : α → Option β} {as : List α} {bs : List β}

theorem mapM_eq_some_iff : as.mapM f = some bs ↔ List.Forall₂ (fun a b => f a = some b) as bs := by
  induction as generalizing bs with
  | nil =>
    rw [List.mapM_nil, List.forall₂_nil_left_iff]
    exact ⟨fun h => (Option.some.inj h).symm, fun h => h ▸ rfl⟩
  | cons a as ih =>
    rw [List.mapM_cons]
    simp only [Option.bind_eq_bind, Option.bind_eq_some_iff, Option.pure_def, Option.some.injEq, ih]
    constructor
    · rintro ⟨b, hb, bs, hbs, rfl⟩
      exact .cons hb hbs
    · rintro (_ | ⟨hb, hbs⟩)
      exact ⟨_, hb, _, hbs, rfl⟩

theorem mapM_eq_none_iff : as.mapM f = none ↔ ∃ a ∈ as, f a = none := by
  induction as with
  | nil => simp
  | cons a as ih =>
    rw [List.mapM_cons, List.exists_mem_cons_iff, ← ih]
    cases f a <;> cases as.mapM f <;> simp

end

namespace Oid

open Text

/-! ## Parts and arcs -/

def IsDotted (body : List Char) (arcs : List UInt32) : Prop :=
  List.Forall₂ (fun part arc => IsNumeral part arc.toNat) (body.splitOn '.') arcs

/-- Something between the dots is no numeral of an arc. -/
def HasBadPart (body : List Char) : Prop :=
  ∃ part ∈ body.splitOn '.', ∀ arc : UInt32, ¬IsNumeral part arc.toNat

/-- The text behind the dot that may stand in front. -/
def behindDot (s : String) : List Char :=
  if s.toList.head? = some '.' then s.toList.tail else s.toList

variable {body part : List Char} {arcs : List UInt32} {s : String} {o : Oid} {problem : OidProblem}

theorem arcOfPart_eq_some_iff {arc : UInt32} :
    (natural? UInt32.size part).map UInt32.ofNat = some arc ↔ IsNumeral part arc.toNat := by
  rw [Option.map_eq_some_iff]
  constructor
  · rintro ⟨n, hn, rfl⟩
    obtain ⟨hpart, hlt⟩ := natural?_eq_some_iff.1 hn
    rwa [UInt32.toNat_ofNat_of_lt' hlt]
  · intro h
    exact ⟨arc.toNat, natural?_eq_some_iff.2 ⟨h, arc.toNat_lt⟩, UInt32.ofNat_toNat⟩

theorem arcsOfText?_eq_some_iff : arcsOfText? body = some arcs ↔ IsDotted body arcs := by
  rw [arcsOfText?, splitAt_eq_splitOn, mapM_eq_some_iff]
  simp only [arcOfPart_eq_some_iff, IsDotted]

theorem arcsOfText?_eq_none_iff : arcsOfText? body = none ↔ HasBadPart body := by
  rw [arcsOfText?, splitAt_eq_splitOn, mapM_eq_none_iff]
  simp only [Option.eq_none_iff_forall_ne_some, ne_eq, arcOfPart_eq_some_iff, HasBadPart]

/-- A part that is empty is no numeral, so there is something in front of each dot. -/
theorem IsDotted.head?_ne (h : IsDotted body arcs) : body.head? ≠ none ∧ body.head? ≠ some '.' := by
  have hempty : ∀ n, ¬IsNumeral [] n := by
    rintro n (h | _)
    exact h.ne_nil rfl
  cases body with
  | nil =>
    cases h with
    | cons hpart _ => exact absurd hpart (hempty _)
  | cons c rest =>
    refine ⟨nofun, fun hc => ?_⟩
    obtain rfl : c = '.' := Option.some.inj hc
    rw [IsDotted, List.splitOn_cons_eq_if_modifyHead, if_pos (by rfl)] at h
    cases h with
    | cons hpart _ => exact hempty _ hpart

theorem IsDotted.arcs_ne_nil (h : IsDotted body arcs) : arcs ≠ [] := by
  rintro rfl
  exact List.splitOn_ne_nil '.' body (List.forall₂_nil_right_iff.1 h)

/-! ## Reading -/

theorem dropDot_eq (s : String) : dropDot s.toList = behindDot s := by
  unfold dropDot behindDot
  split
  · next h => rw [h]; rfl
  · next hne =>
    rw [if_neg]
    intro hhead
    obtain ⟨rest, hrest⟩ := List.head?_eq_some_iff.1 hhead
    exact hne rest hrest

theorem behindDot_eq_nil_iff : behindDot s = [] ↔ s = "" ∨ s = "." := by
  simp only [← String.toList_inj, behindDot]
  rcases s.toList with _ | ⟨c, rest⟩
  · simp
  · by_cases hc : c = '.' <;> simp [hc]

theorem parse_of_nothing (h : behindDot s = []) : parse s.toList = .error .empty := by
  rw [parse, dropDot_eq, h]
  rfl

theorem parse_of_hasBadPart (hne : behindDot s ≠ []) (h : HasBadPart (behindDot s)) :
    parse s.toList = .error .invalidArc := by
  simp only [parse, dropDot_eq]
  rw [if_neg (mt List.isEmpty_iff.1 hne), arcsOfText?_eq_none_iff.2 h]

theorem parse_of_isDotted (h : IsDotted (behindDot s) arcs) :
    parse s.toList = (validate ⟨arcs⟩).map fun _ => ⟨arcs⟩ := by
  have hne : behindDot s ≠ [] := fun hnil => h.head?_ne.1 (by rw [hnil, List.head?_nil])
  simp only [parse, dropDot_eq]
  rw [if_neg (mt List.isEmpty_iff.1 hne), arcsOfText?_eq_some_iff.2 h]

/-- There is nothing to read, or a part that is no arc, or one arc for each part. -/
theorem behindDot_cases (s : String) : behindDot s = [] ∨
    behindDot s ≠ [] ∧ HasBadPart (behindDot s) ∨ ∃ arcs, IsDotted (behindDot s) arcs := by
  by_cases hnil : behindDot s = []
  · exact .inl hnil
  cases harcs : arcsOfText? (behindDot s) with
  | none => exact .inr (.inl ⟨hnil, arcsOfText?_eq_none_iff.1 harcs⟩)
  | some arcs => exact .inr (.inr ⟨arcs, arcsOfText?_eq_some_iff.1 harcs⟩)

theorem parse_eq_ok_iff : parse s.toList = .ok o ↔ IsDotted (behindDot s) o.arcs ∧ o.IsValid := by
  rw [← validate_eq_ok_iff]
  constructor
  · intro h
    rcases behindDot_cases s with hnil | ⟨hne, hbad⟩ | ⟨arcs, harcs⟩
    · rw [parse_of_nothing hnil] at h
      cases h
    · rw [parse_of_hasBadPart hne hbad] at h
      cases h
    · rw [parse_of_isDotted harcs] at h
      cases hvalid : validate ⟨arcs⟩ with
      | error _ => rw [hvalid] at h; cases h
      | ok => rw [hvalid] at h; cases h; exact ⟨harcs, hvalid⟩
  · rintro ⟨harcs, hvalid⟩
    rw [parse_of_isDotted harcs, hvalid]
    rfl

/-- Why a text is refused. What is between the dots is looked at before the count of arcs and the
first arcs are. -/
inductive Refused (s : String) : OidProblem → Prop where
  | nothing : s = "" ∨ s = "." → Refused s .empty
  | badPart : s ≠ "" → s ≠ "." → HasBadPart (behindDot s) → Refused s .invalidArc
  | notValid {arcs : List UInt32} {problem : OidProblem} : IsDotted (behindDot s) arcs →
      validate ⟨arcs⟩ = .error problem → Refused s problem

theorem parse_eq_error_iff : parse s.toList = .error problem ↔ Refused s problem := by
  constructor
  · intro h
    rcases behindDot_cases s with hnil | ⟨hne, hbad⟩ | ⟨arcs, harcs⟩
    · rw [parse_of_nothing hnil] at h
      cases h
      exact .nothing (behindDot_eq_nil_iff.1 hnil)
    · rw [parse_of_hasBadPart hne hbad] at h
      cases h
      rw [Ne, behindDot_eq_nil_iff, not_or] at hne
      exact .badPart hne.1 hne.2 hbad
    · rw [parse_of_isDotted harcs] at h
      cases hvalid : validate ⟨arcs⟩ with
      | error _ => rw [hvalid] at h; cases h; exact .notValid harcs hvalid
      | ok => rw [hvalid] at h; cases h
  · intro h
    cases h with
    | nothing h => exact parse_of_nothing (behindDot_eq_nil_iff.2 h)
    | badPart hempty hdot hbad =>
      exact parse_of_hasBadPart (mt behindDot_eq_nil_iff.1 (not_or.2 ⟨hempty, hdot⟩)) hbad
    | notValid harcs hvalid => rw [parse_of_isDotted harcs, hvalid]; rfl

theorem ofText_eq_ok_iff : ofText s = .ok o ↔ IsDotted (behindDot s) o.arcs ∧ o.IsValid := by
  rw [← parse_eq_ok_iff, ofText]
  cases parse s.toList <;> simp [Except.mapError]

theorem ofText_eq_error_iff {e : Error} :
    ofText s = .error e ↔ ∃ problem, Refused s problem ∧ e = .invalidOid problem (some s) := by
  simp only [← parse_eq_error_iff, ofText]
  cases parse s.toList <;> simp [Except.mapError, eq_comm]

/-! ## Showing -/

theorem toList_text (o : Oid) : o.text.toList =
    ['.'].intercalate ((o.arcs.map UInt32.toNat).map (Nat.toDigits 10)) := by
  simp [text, String.toList_intercalate, Function.comp_def]

theorem exists_toList_text (h : o.arcs ≠ []) :
    ∃ c rest, o.text.toList = c :: rest ∧ c.isDigit = true := by
  obtain ⟨arc, arcs, harcs⟩ := List.exists_cons_of_ne_nil h
  obtain ⟨c, cs, hdigits⟩ := List.exists_cons_of_ne_nil (isDecimal_toDigits arc.toNat).ne_nil
  have hc : c.isDigit = true :=
    (isDecimal_toDigits arc.toNat).isDigit c (hdigits ▸ List.mem_cons_self)
  rw [toList_text, harcs, List.map_cons, List.map_cons, hdigits]
  cases arcs with
  | nil => exact ⟨c, _, rfl, hc⟩
  | cons _ _ => exact ⟨c, _, rfl, hc⟩

theorem isDotted_text (h : o.arcs ≠ []) : IsDotted o.text.toList o.arcs := by
  have hne : o.arcs.map UInt32.toNat ≠ [] := by rwa [Ne, List.map_eq_nil_iff]
  rw [IsDotted, toList_text, splitOn_intercalate_toDigits (by decide) hne, List.map_map,
    List.forall₂_map_left_iff, List.forall₂_same]
  exact fun arc _ => .plain (isDecimal_toDigits _)

theorem behindDot_of_isDotted (h : IsDotted s.toList arcs) : behindDot s = s.toList :=
  if_neg h.head?_ne.2

/-- An identifier is read back from its text if it is valid and not empty, and only then. -/
theorem ofText_text_iff : ofText o.text = .ok o ↔ o.arcs ≠ [] ∧ o.IsValid := by
  rw [ofText_eq_ok_iff]
  constructor
  · exact fun h => ⟨h.1.arcs_ne_nil, h.2⟩
  · rintro ⟨hne, hvalid⟩
    have hdotted := isDotted_text hne
    exact ⟨by rwa [behindDot_of_isDotted hdotted], hvalid⟩

/-- What dotted text is, and what it stands for.

- It stands for valid arcs, one numeral for each between the dots, behind at most one dot in front.
- Any other text is refused, with the whole of it in the error and the first reason that applies.
- A valid identifier that is not empty is read back from its text, and so is what any text gave. -/
theorem dotted_text (s : String) :
    (∀ o, ofText s = .ok o ↔ IsDotted (behindDot s) o.arcs ∧ o.IsValid) ∧
    (∀ e, ofText s = .error e ↔ ∃ problem, Refused s problem ∧ e = .invalidOid problem (some s)) ∧
    (∀ o : Oid, o.arcs ≠ [] → o.validate = .ok () → ofText o.text = .ok o) ∧
    ∀ o, ofText s = .ok o → ofText o.text = .ok o := by
  refine ⟨fun o => ofText_eq_ok_iff, fun e => ofText_eq_error_iff, ?_, ?_⟩
  · intro o hne hvalid
    exact ofText_text_iff.2 ⟨hne, o.validate_eq_ok_iff.1 hvalid⟩
  · intro o h
    obtain ⟨hdotted, hvalid⟩ := ofText_eq_ok_iff.1 h
    exact ofText_text_iff.2 ⟨hdotted.arcs_ne_nil, hvalid⟩

/-- A dot in front, a sign and zeros are read over and not shown. A part that is no numeral is found
before a first arc that is too large. -/
theorem dotted_text_spellings :
    ofText ".1.+39.007" = .ok ⟨[1, 39, 7]⟩ ∧ ofText "1.39.7" = .ok ⟨[1, 39, 7]⟩ ∧
    ofText "3..1" = .error (.invalidOid .invalidArc (some "3..1")) := by
  obtain ⟨hok, -, -, hagain⟩ := dotted_text ".1.+39.007"
  obtain ⟨-, herror, -, -⟩ := dotted_text "3..1"
  have hread : ofText ".1.+39.007" = .ok ⟨[1, 39, 7]⟩ := by
    refine (hok _).2 ⟨?_, (validate_eq_ok_iff _).1 rfl⟩
    have hparts : (behindDot ".1.+39.007").splitOn '.' =
        [['1'], ['+', '3', '9'], ['0', '0', '7']] := by decide +kernel
    rw [IsDotted, hparts]
    exact .cons (.plain ⟨nofun, by simp [Char.isDigit], by decide +kernel⟩)
      (.cons (.signed ⟨nofun, by simp [Char.isDigit], by decide +kernel⟩)
      (.cons (.plain ⟨nofun, by simp [Char.isDigit], by decide +kernel⟩) .nil))
  have htext : text ⟨[1, 39, 7]⟩ = "1.39.7" := by decide +kernel
  refine ⟨hread, htext ▸ hagain _ hread, (herror _).2 ⟨_, .badPart (by decide) (by decide) ?_, rfl⟩⟩
  have hempty : [] ∈ (behindDot "3..1").splitOn '.' := by decide +kernel
  refine ⟨[], hempty, ?_⟩
  rintro arc (h | _)
  exact h.ne_nil rfl

end Oid

end NetWatch
