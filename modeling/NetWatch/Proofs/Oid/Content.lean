import NetWatch.Oid.Content
import NetWatch.Proofs.Ber.Grammar

/-!
# The grammar of object identifiers

A content is any number of subidentifiers, each a base-128 number without leading zeros whose
octets but the last have their top bits set. Reading accepts this grammar and nothing else
(`ofContent_eq_ok_iff`). What it gives is `IsSendable`: valid and not of exactly one arc
(`IsContent.isSendable`), and the written content of a sendable identifier is derived again
(`isContent_content`).
-/

namespace NetWatch.Oid

open Ber (Grammar)
open Ber.Grammar (Many)

/-! ## The grammar -/

/-- The rest of a base-128 number whose digits so far make `acc`. -/
inductive Base128 : (acc : Nat) → Grammar Nat where
  | last {acc : Nat} {b : UInt8} : b < 0x80 → Base128 acc [b] (acc * 128 + b.toNat)
  | more {acc n : Nat} {b : UInt8} {rest : Octets} : 0x80 ≤ b →
      Base128 (acc * 128 + (b.toNat - 0x80)) rest n → Base128 acc (b :: rest) n

def Subidentifier : Grammar Nat := fun s n => Base128 0 s n ∧ s.head? ≠ some 0x80

/-- The arcs that a series of numbers stands for; the first number holds two. -/
inductive Arcs : List Nat → List UInt32 → Prop where
  | nil : Arcs [] []
  | cons {a b : UInt32} (rest : List UInt32) : a ≤ 2 → (a < 2 → b < 40) →
      Arcs ((a.toNat * 40 + b.toNat) :: rest.map UInt32.toNat) (a :: b :: rest)

def IsContent : Grammar Oid := fun content oid =>
  ∃ ns, Many Subidentifier content ns ∧ Arcs ns oid.arcs ∧ oid.length ≤ maxArcs

/-- Valid and not of exactly one arc: what survives writing and reading. -/
def IsSendable (oid : Oid) : Prop := oid.validate = .ok () ∧ oid.length ≠ 1

/-! ## Numbers -/

theorem Base128.le {acc n : Nat} {s : Octets} (h : Base128 acc s n) : acc ≤ n := by
  induction h with
  | last => omega
  | more _ _ ih => omega

theorem Base128.ne_nil {acc n : Nat} {s : Octets} (h : Base128 acc s n) : s ≠ [] := by
  cases h <;> simp

/-- Written digits in front of a number that goes on from their value. -/
theorem Base128.continuation {m n : Nat} {s : Octets} (h : Base128 m s n) :
    Base128 0 (continuation m ++ s) n := by
  induction m using Nat.strongRecOn generalizing s with
  | ind m ih =>
    rw [Oid.continuation]
    split
    · next h0 => subst h0; exact h
    · next h0 =>
      have hb : (UInt8.ofNat (0x80 + m % 128)).toNat = 0x80 + m % 128 := by
        rw [UInt8.toNat_ofNat']; omega
      rw [List.append_assoc, List.singleton_append]
      refine ih (m / 128) (by omega) (.more ?_ ?_)
      · rw [UInt8.le_iff_toNat_le, hb]
        exact Nat.le_add_right _ _
      · rwa [hb, show m / 128 * 128 + (0x80 + m % 128 - 0x80) = m by omega]

theorem continuation_eq_nil_iff {m : Nat} : continuation m = [] ↔ m = 0 := by
  rw [continuation]
  split <;> simp_all

theorem head?_continuation (m : Nat) : (continuation m).head? ≠ some 0x80 := by
  induction m using Nat.strongRecOn with
  | ind m ih =>
    rw [continuation]
    split
    · simp
    · next h0 =>
      rw [List.head?_append, Ne, Option.or_eq_some_iff]
      rintro (h | ⟨hnil, h⟩)
      · exact ih (m / 128) (by omega) h
      · -- the leading digit is all of `m`, which is not zero
        have hm := continuation_eq_nil_iff.1 (List.head?_eq_none_iff.1 hnil)
        have := congrArg UInt8.toNat (Option.some.inj h)
        rw [UInt8.toNat_ofNat', show (0x80 : UInt8).toNat = 128 from rfl] at this
        omega

theorem subidentifier_subidentifier (n : Nat) : Subidentifier (subidentifier n) n := by
  have hb : (UInt8.ofNat (n % 128)).toNat = n % 128 := by rw [UInt8.toNat_ofNat']; omega
  have hlt : UInt8.ofNat (n % 128) < 0x80 := by
    rw [UInt8.lt_iff_toNat_lt, hb]
    exact Nat.mod_lt _ (by decide)
  refine ⟨Base128.continuation ?_, ?_⟩
  · have h : Base128 (n / 128) [UInt8.ofNat (n % 128)]
        (n / 128 * 128 + (UInt8.ofNat (n % 128)).toNat) := .last hlt
    rwa [hb, show n / 128 * 128 + n % 128 = n by omega] at h
  · rw [subidentifier, List.head?_append, Ne, Option.or_eq_some_iff]
    rintro (h | ⟨-, h⟩)
    · exact head?_continuation _ h
    · rw [Option.some.inj h] at hlt
      exact absurd hlt (by decide)

/-! ## Reading -/

theorem arcsOf?_false_eq_some_iff {n : Nat} {more : List UInt32} :
    arcsOf? false n = some more ↔ ∃ a : UInt32, n = a.toNat ∧ more = [a] := by
  simp only [arcsOf?, Bool.false_eq_true, if_false, Option.map_eq_some_iff]
  constructor
  · rintro ⟨a, h, rfl⟩
    split at h
    · next hn =>
      cases h
      exact ⟨_, by rw [UInt32.toNat_ofNat_of_lt' hn], rfl⟩
    · cases h
  · rintro ⟨a, rfl, rfl⟩
    exact ⟨a, by rw [if_pos a.toNat_lt, UInt32.ofNat_toNat], rfl⟩

/-- The first number tells its two arcs apart. -/
theorem arcsOf?_true_eq_some_iff {n : Nat} {more : List UInt32} :
    arcsOf? true n = some more ↔ ∃ a b : UInt32, a ≤ 2 ∧ (a < 2 → b < 40) ∧
      n = a.toNat * 40 + b.toNat ∧ more = [a, b] := by
  have one : (1 : UInt32).toNat = 1 := rfl
  have two : (2 : UInt32).toNat = 2 := rfl
  have forty : (40 : UInt32).toNat = 40 := rfl
  have size : UInt32.size = 4294967296 := rfl
  simp only [arcsOf?, if_true, UInt32.le_iff_toNat_le, UInt32.lt_iff_toNat_lt, two, forty]
  constructor
  · intro h
    split at h
    · rw [if_pos (by omega), Option.map_some] at h
      have hb : (UInt32.ofNat n).toNat = n := UInt32.toNat_ofNat_of_lt' (by omega)
      exact ⟨0, UInt32.ofNat n, by decide, by omega, by simp [hb], (Option.some.inj h).symm⟩
    split at h
    · rw [if_pos (by omega), Option.map_some] at h
      have hb : (UInt32.ofNat (n - 40)).toNat = n - 40 := UInt32.toNat_ofNat_of_lt' (by omega)
      exact ⟨1, UInt32.ofNat (n - 40), by decide, by omega, by rw [hb, one]; omega,
        (Option.some.inj h).symm⟩
    · obtain ⟨b, hb, rfl⟩ := Option.map_eq_some_iff.1 h
      split at hb
      · next hn =>
        cases hb
        have hb : (UInt32.ofNat (n - 80)).toNat = n - 80 := UInt32.toNat_ofNat_of_lt' hn
        exact ⟨2, UInt32.ofNat (n - 80), by decide, by rw [two]; omega, by rw [hb, two]; omega, rfl⟩
      · cases hb
  · rintro ⟨a, b, ha, hab, rfl, rfl⟩
    have hb := b.toNat_lt
    obtain h | h | h : a.toNat = 0 ∨ a.toNat = 1 ∨ a.toNat = 2 := by omega
    · obtain rfl : a = 0 := UInt32.toNat_inj.1 h
      rw [if_pos (by omega), if_pos (by omega)]
      simp
    · obtain rfl : a = 1 := UInt32.toNat_inj.1 h
      rw [if_neg (by omega), if_pos (by omega), if_pos (by omega)]
      simp
    · obtain rfl : a = 2 := UInt32.toNat_inj.1 h
      rw [if_neg (by omega), if_neg (by omega), if_pos (by omega)]
      simp

theorem le_subidentifierMax {isFirst : Bool} {n : Nat} {more : List UInt32}
    (h : arcsOf? isFirst n = some more) : n ≤ subidentifierMax := by
  cases isFirst with
  | false =>
    obtain ⟨a, rfl, -⟩ := arcsOf?_false_eq_some_iff.1 h
    have := a.toNat_lt
    unfold subidentifierMax
    omega
  | true =>
    obtain ⟨a, b, ha, -, rfl, -⟩ := arcsOf?_true_eq_some_iff.1 h
    have := b.toNat_lt
    have : a.toNat ≤ 2 := UInt32.le_iff_toNat_le.1 ha
    unfold subidentifierMax
    omega

/-- A number in front of a content gives its arcs, and reading goes on behind them. -/
theorem readArcs_append {arcs more : List UInt32} {acc n : Nat} {begun : Bool} {s rest : Octets}
    (hs : Base128 acc s n) (head : begun = false → s.head? ≠ some 0x80)
    (harcs : arcsOf? arcs.isEmpty n = some more) (hlen : (arcs ++ more).length ≤ maxArcs) :
    readArcs arcs acc begun (s ++ rest) = readArcs (arcs ++ more) 0 false rest := by
  have h80 : (0x80 : UInt8).toNat = 128 := rfl
  have hmax := le_subidentifierMax harcs
  induction hs generalizing begun with
  | @last acc b hb =>
    have hb' := UInt8.lt_iff_toNat_lt.1 hb
    rw [List.singleton_append, readArcs, if_neg (by cases begun <;> simp_all)]
    simp only [show b.toNat % 128 = b.toNat by omega]
    rw [if_neg (by omega), if_neg (UInt8.not_le.2 hb), harcs]
    exact if_neg (Nat.not_lt.2 hlen)
  | @more acc n b s hb hs ih =>
    have hb' := UInt8.le_iff_toNat_le.1 hb
    have hacc : b.toNat - 0x80 = b.toNat % 128 := by have := b.toNat_lt; omega
    have hle := hs.le
    rw [hacc] at hle ih
    rw [List.cons_append, readArcs, if_neg (by cases begun <;> simp_all)]
    simp only
    rw [if_neg (by omega), if_pos hb]
    exact ih (by simp) harcs hmax

/-- Reading that succeeds has taken one number off the front, or was at the end. -/
theorem exists_number_of_readArcs {arcs : List UInt32} {acc : Nat} {begun : Bool} {data : Octets}
    {oid : Oid} (h : readArcs arcs acc begun data = .ok oid) :
    (data = [] ∧ begun = false ∧ oid = ⟨arcs⟩) ∨
      ∃ s rest n more, data = s ++ rest ∧ Base128 acc s n ∧
        (begun = false → s.head? ≠ some 0x80) ∧ arcsOf? arcs.isEmpty n = some more ∧
        (arcs ++ more).length ≤ maxArcs ∧ readArcs (arcs ++ more) 0 false rest = .ok oid := by
  have h80 : (0x80 : UInt8).toNat = 128 := rfl
  induction data generalizing acc begun with
  | nil => cases begun <;> simp_all [readArcs]
  | cons b data ih =>
    rw [readArcs] at h
    simp only at h
    split at h
    · cases h
    next hlead =>
    have head : begun = false → some b ≠ some 0x80 := by
      rintro rfl hb
      exact hlead (by simp [Option.some.inj hb])
    split at h
    · cases h
    split at h
    · next hb =>
      have hb' := UInt8.le_iff_toNat_le.1 hb
      rcases ih h with ⟨-, hf, -⟩ | ⟨s, rest, n, more, rfl, hs, -, hmore⟩
      · cases hf
      · refine .inr ⟨b :: s, rest, n, more, rfl, .more hb ?_, head, hmore⟩
        rwa [show b.toNat - 0x80 = b.toNat % 128 by have := b.toNat_lt; omega]
    · next hb =>
      have hb := UInt8.not_le.1 hb
      have hb' := UInt8.lt_iff_toNat_lt.1 hb
      split at h
      · cases h
      next more harcs =>
      split at h
      · cases h
      next hlen =>
      rw [show b.toNat % 128 = b.toNat by omega] at harcs
      exact .inr ⟨[b], data, _, more, rfl, .last hb, head, harcs, Nat.not_lt.1 hlen, h⟩

theorem readArcs_eq_ok_iff {arcs : List UInt32} (hne : arcs ≠ []) (hlen : arcs.length ≤ maxArcs)
    {data : Octets} {oid : Oid} : readArcs arcs 0 false data = .ok oid ↔
      ∃ rest : List UInt32, Many Subidentifier data (rest.map UInt32.toNat) ∧
        oid.arcs = arcs ++ rest ∧ oid.length ≤ maxArcs := by
  have hempty : ∀ xs : List UInt32, (arcs ++ xs).isEmpty = false := by simp [hne]
  constructor
  · intro h
    induction hn : data.length using Nat.strongRecOn generalizing data arcs with
    | ind n ih =>
      rcases exists_number_of_readArcs h with ⟨rfl, -, rfl⟩ |
        ⟨s, back, n, more, rfl, hs, head, harcs, hlen', hback⟩
      · exact ⟨[], .nil, by simp, hlen⟩
      · rw [← List.append_nil arcs, hempty] at harcs
        obtain ⟨a, rfl, rfl⟩ := arcsOf?_false_eq_some_iff.1 harcs
        have hpos := List.length_pos_iff.2 hs.ne_nil
        obtain ⟨rest, hmany, heq, hle⟩ := ih back.length (by simp at hn; omega) (by simp) hlen'
          (by simp) hback rfl
        exact ⟨a :: rest, .cons ⟨hs, head rfl⟩ hmany, by simpa using heq, hle⟩
  · rintro ⟨rest, hmany, heq, hle⟩
    induction rest generalizing arcs data with
    | nil =>
      cases hmany
      rw [List.append_nil] at heq
      rw [readArcs, if_neg (by simp), ← heq]
    | cons a rest ih =>
      cases hmany with
      | cons hs hmany =>
        have hle' : (arcs ++ [a]).length ≤ maxArcs := by
          rw [length, heq] at hle
          simp at hle ⊢
          omega
        have ha : arcsOf? arcs.isEmpty a.toNat = some [a] := by
          rw [← List.append_nil arcs, hempty]
          exact arcsOf?_false_eq_some_iff.2 ⟨a, rfl, rfl⟩
        rw [readArcs_append hs.1 (fun _ => hs.2) ha hle']
        exact ih (by simp) hle' (by simp) hmany (by simpa using heq)

/-- Reading accepts the grammar of contents and nothing else. -/
theorem ofContent_eq_ok_iff {data : Octets} {oid : Oid} :
    ofContent data = .ok oid ↔ IsContent data oid := by
  unfold ofContent IsContent
  constructor
  · intro h
    rcases exists_number_of_readArcs h with ⟨rfl, -, rfl⟩ |
      ⟨s, back, n, more, rfl, hs, head, harcs, hlen, hback⟩
    · exact ⟨[], .nil, .nil, by simp [length]⟩
    · obtain ⟨a, b, ha, hab, rfl, rfl⟩ := arcsOf?_true_eq_some_iff.1 harcs
      obtain ⟨rest, hmany, heq, hle⟩ := (readArcs_eq_ok_iff (by simp) hlen).1 hback
      refine ⟨_, .cons ⟨hs, head rfl⟩ hmany, ?_, hle⟩
      rw [heq]
      exact .cons rest ha hab
  · rintro ⟨ns, hmany, harcs, hle⟩
    obtain ⟨arcs⟩ := oid
    cases harcs with
    | nil => cases hmany; rfl
    | @cons a b rest ha hab =>
      cases hmany with
      | cons hs hmany =>
        have hlen : [a, b].length ≤ maxArcs := show 2 ≤ 128 by decide
        have harcs : arcsOf? ([] : List UInt32).isEmpty (a.toNat * 40 + b.toNat) = some [a, b] :=
          arcsOf?_true_eq_some_iff.2 ⟨a, b, ha, hab, rfl, rfl⟩
        rw [readArcs_append hs.1 (fun _ => hs.2) harcs hlen]
        exact (readArcs_eq_ok_iff (by simp) hlen).2 ⟨rest, hmany, rfl, hle⟩

/-! ## Sendable identifiers -/

theorem IsContent.isSendable {data : Octets} {oid : Oid} (h : IsContent data oid) :
    oid.IsSendable := by
  obtain ⟨ns, -, harcs, hle⟩ := h
  obtain ⟨arcs⟩ := oid
  rw [IsSendable, validate_eq_ok_iff]
  cases harcs with
  | nil => exact ⟨⟨hle, by simp, by simp⟩, by simp [length]⟩
  | @cons a b rest ha hab =>
    refine ⟨⟨hle, ?_, ?_⟩, by simp [length]⟩
    · rintro x r ⟨⟩
      exact ha
    · rintro x y r ⟨⟩
      exact hab

theorem arcs_subidentifiers {oid : Oid} (h : oid.IsSendable) :
    Arcs oid.subidentifiers oid.arcs := by
  obtain ⟨hvalid, hlen⟩ := h
  obtain ⟨-, hfirst, hsecond⟩ := (validate_eq_ok_iff oid).1 hvalid
  obtain ⟨arcs⟩ := oid
  match arcs with
  | [] => exact .nil
  | [a] => exact absurd rfl hlen
  | a :: b :: rest => exact .cons rest (hfirst a _ rfl) (hsecond a b rest rfl)

theorem isContent_content {oid : Oid} (h : oid.IsSendable) : IsContent oid.content oid := by
  refine ⟨oid.subidentifiers, ?_, arcs_subidentifiers h,
    ((validate_eq_ok_iff oid).1 h.1).1⟩
  unfold content
  induction oid.subidentifiers with
  | nil => exact .nil
  | cons n ns ih => exact .cons (subidentifier_subidentifier n) ih

theorem ofContent_content_eq_ok_iff {oid : Oid} :
    ofContent oid.content = .ok oid ↔ oid.IsSendable :=
  ofContent_eq_ok_iff.trans ⟨IsContent.isSendable, isContent_content⟩

/-! ## Only one content -/

/-- What is written for the digits so far, with the rest of a number behind it, is what is written
for the number. The first digit must not be a zero. -/
theorem Base128.continuation_append {m n : Nat} {s : Octets} (h : Base128 m s n)
    (lead : m = 0 → s.head? ≠ some 0x80) : Oid.continuation m ++ s = subidentifier n := by
  induction h with
  | @last acc b hb =>
    have hlt : b.toNat < 128 := UInt8.lt_iff_toNat_lt.1 hb
    rw [subidentifier, show (acc * 128 + b.toNat) / 128 = acc by omega,
      show (acc * 128 + b.toNat) % 128 = b.toNat by omega, UInt8.ofNat_toNat]
  | @more acc n b rest hb _ ih =>
    have hle : 128 ≤ b.toNat := UInt8.le_iff_toNat_le.1 hb
    have hlt := b.toNat_lt
    have hne : acc * 128 + (b.toNat - 0x80) ≠ 0 := by
      intro hzero
      have hb0 : b = 0x80 := UInt8.toNat_inj.1 (show b.toNat = 128 by omega)
      exact lead (by omega) (by rw [hb0]; rfl)
    rw [← ih fun hzero => absurd hzero hne, Oid.continuation.eq_def (acc * 128 + _), if_neg hne,
      show (acc * 128 + (b.toNat - 0x80)) / 128 = acc by omega,
      show 0x80 + (acc * 128 + (b.toNat - 0x80)) % 128 = b.toNat by omega, UInt8.ofNat_toNat,
      List.append_assoc, List.singleton_append]

theorem Subidentifier.eq_subidentifier {s : Octets} {n : Nat} (h : Subidentifier s n) :
    s = subidentifier n := by
  have hs := h.1.continuation_append fun _ => h.2
  rwa [continuation_eq_nil_iff.2 rfl, List.nil_append] at hs

theorem Arcs.eq_subidentifiers {ns : List Nat} {oid : Oid} (h : Arcs ns oid.arcs) :
    ns = oid.subidentifiers := by
  obtain ⟨arcs⟩ := oid
  cases h <;> rfl

theorem IsContent.eq_content {data : Octets} {oid : Oid} (h : IsContent data oid) :
    data = oid.content := by
  obtain ⟨ns, hmany, harcs, -⟩ := h
  rw [content, ← harcs.eq_subidentifiers]
  clear harcs
  induction hmany with
  | nil => rfl
  | cons hs _ ih => rw [List.flatMap_cons, ← hs.eq_subidentifier, ← ih]

/-! ## Main statement -/

/-- Reading and writing contents undo each other: what is read is valid, does not have exactly one arc
and is written as the octets it was read from, and what is written is read back for all such
identifiers and for no others. -/
theorem ofContent_content_inverse :
    (∀ (data : Octets) (oid : Oid), ofContent data = .ok oid →
      oid.validate = .ok () ∧ oid.length ≠ 1 ∧ oid.content = data) ∧
    ∀ oid : Oid, ofContent oid.content = .ok oid ↔ oid.validate = .ok () ∧ oid.length ≠ 1 := by
  refine ⟨fun data oid h => ?_, fun oid => ⟨fun h => ?_, fun h => ?_⟩⟩
  · have hcontent := ofContent_eq_ok_iff.1 h
    obtain ⟨hvalid, hlen⟩ := hcontent.isSendable
    exact ⟨hvalid, hlen, hcontent.eq_content.symm⟩
  · exact (ofContent_eq_ok_iff.1 h).isSendable
  · exact ofContent_eq_ok_iff.2 (isContent_content h)

/-- The largest number that a first subidentifier may hold. -/
theorem ofContent_content_inverse_largest :
    let data : Octets := [0x90, 0x80, 0x80, 0x80, 0x4F]
    let oid : Oid := ⟨[2, 4294967295]⟩
    ofContent data = .ok oid ∧ oid.validate = .ok () ∧ oid.length ≠ 1 ∧ oid.content = data ∧
      ofContent oid.content = .ok oid := by
  intro data oid
  have hread : ofContent data = .ok oid := by decide +kernel
  obtain ⟨hvalid, hlen, hcontent⟩ := ofContent_content_inverse.1 data oid hread
  exact ⟨hread, hvalid, hlen, hcontent, (ofContent_content_inverse.2 oid).2 ⟨hvalid, hlen⟩⟩

end NetWatch.Oid
