import NetWatch.Proofs.Ber.Windows

/-!
# Rounds of a loop

A window of items is read by a loop that goes on as long as octets are left, with no bound of its
own (`Rounds`). Where each item takes some octets (`Advances`), the loop ends after no more rounds
than there is room for, and with what `untilEnd` gives (`rounds_untilEnd_iff`). What it reads comes
from parts of the window that follow each other and leave nothing out (`ReadFrom`).
-/

namespace NetWatch.Ber

open Grammar Window

/-! ## Parts of a window -/

namespace Window

variable {parts : List Window} {start finish : Nat}

/-- The parts follow each other, from `start` on and up to `finish`. -/
def Tiles (start : Nat) : (parts : List Window) → (finish : Nat) → Prop
  | [], finish => start = finish
  | part :: parts, finish => part.offset = start ∧ Tiles part.stop parts finish

theorem Tiles.start_le (h : Tiles start parts finish) : ∀ part ∈ parts, start ≤ part.offset := by
  induction parts generalizing start with
  | nil => exact fun _ hmem => nomatch hmem
  | cons first parts ih =>
    obtain ⟨rfl, hrest⟩ := h
    intro part hmem
    rcases List.mem_cons.1 hmem with rfl | hmem
    · exact Nat.le_refl _
    · exact Nat.le_trans first.offset_le_stop (ih hrest part hmem)

/-- No two of them meet. -/
theorem Tiles.pairwise (h : Tiles start parts finish) :
    parts.Pairwise fun part later => part.stop ≤ later.offset := by
  induction parts generalizing start with
  | nil => exact .nil
  | cons first parts ih => exact .cons h.2.start_le (ih h.2)

end Window

namespace Grammar

variable {g : Grammar α} {d : Octets} {as : List α}

/-- Octet strings in a row are parts that follow each other, wherever the first one begins. -/
theorem Many.exists_parts (h : Many g d as) (start : Nat) : ∃ parts : List Window,
    Tiles start parts (start + d.length) ∧ (parts.map Window.octets).flatten = d ∧
      List.Forall₂ (fun part a => g part.octets a) parts as := by
  induction h generalizing start with
  | nil => exact ⟨[], rfl, rfl, .nil⟩
  | @cons front back a as ha _ ih =>
    obtain ⟨parts, htiles, hoctets, hparts⟩ := ih (start + front.length)
    refine ⟨⟨start, front⟩ :: parts, ⟨rfl, ?_⟩, ?_, .cons ha hparts⟩
    · rw [List.length_append, ← Nat.add_assoc]
      exact htiles
    · rw [List.map_cons, List.flatten_cons, hoctets]

theorem many_of_forall₂ {parts : List Window}
    (h : List.Forall₂ (fun part a => g part.octets a) parts as) :
    Many g (parts.map Window.octets).flatten as := by
  induction h with
  | nil => exact .nil
  | cons ha _ ih => exact .cons ha ih

theorem Many.mul_length_le {k : Nat} (h : Many g d as) (hg : ∀ d a, g d a → k ≤ d.length) :
    k * as.length ≤ d.length := by
  induction h with
  | nil => exact Nat.le_refl 0
  | cons ha _ ih =>
    have hfront := hg _ _ ha
    rw [List.length_cons, List.length_append, Nat.mul_succ]
    omega

end Grammar

namespace Reader

variable {item : Reader α} {g : Grammar α} {k n n' : Nat} {w w' : Window} {done : List α}
  {result result' : EStateM.Result DecodeError Window (List α)}

/-! ## Reads that get on -/

/-- What is read takes at least `k` octets. -/
def Advances (r : Reader α) (k : Nat) : Prop :=
  ∀ {w w' : Window} {a : α}, r w = .ok a w' → ∃ d, k ≤ d.length ∧ w.Passes d w'

theorem Recognises.advances (h : item.Recognises g) (hg : ∀ d a, g d a → k ≤ d.length) :
    item.Advances k := by
  intro w w' a hr
  obtain ⟨d, hd, hp⟩ := (h w a w').1 hr
  exact ⟨d, hg d a hd, hp⟩

theorem Advances.offset_le (h : item.Advances k) {a : α} (hr : item w = .ok a w') :
    w.offset + k ≤ w'.offset ∧ w'.stop = w.stop := by
  obtain ⟨d, hk, hp⟩ := h hr
  rw [hp.offset]
  exact ⟨Nat.add_le_add_left hk _, Reaches.stop_eq ⟨d, hp⟩⟩

theorem Advances.length_le (h : item.Advances k) {a : α} (hr : item w = .ok a w') :
    k + w'.octets.length ≤ w.octets.length := by
  obtain ⟨d, hk, hp⟩ := h hr
  rw [hp.octets, List.length_append]
  exact Nat.add_le_add_right hk _

/-! ## The loop -/

/-- A loop that reads an item as long as octets are left. Nothing else ends it but an item that is
refused. `done` are the items so far, and `rounds` how many are still read. -/
inductive Rounds (item : Reader α) : (w : Window) → (done : List α) → (rounds : Nat) →
    (result : EStateM.Result DecodeError Window (List α)) → Prop where
  | finished {w : Window} {done : List α} : w.octets = [] → Rounds item w done 0 (.ok done w)
  | refused {w w' : Window} {done : List α} {e : DecodeError} : w.octets ≠ [] →
      item w = .error e w' → Rounds item w done 0 (.error e w')
  | round {w w' : Window} {done : List α} {a : α} {n : Nat}
      {result : EStateM.Result DecodeError Window (List α)} : w.octets ≠ [] →
      item w = .ok a w' → Rounds item w' (done ++ [a]) n result → Rounds item w done (n + 1) result

theorem Rounds.unique (h : Rounds item w done n result) (h' : Rounds item w done n' result') :
    n' = n ∧ result' = result := by
  induction h generalizing n' with
  | finished hw =>
    cases h' with
    | finished => exact ⟨rfl, rfl⟩
    | refused hne | round hne => exact absurd hw hne
  | refused hne hitem =>
    cases h' with
    | finished hw => exact absurd hw hne
    | refused _ hitem' =>
      cases hitem.symm.trans hitem'
      exact ⟨rfl, rfl⟩
    | round _ hitem' => cases hitem.symm.trans hitem'
  | round hne hitem _ ih =>
    cases h' with
    | finished hw => exact absurd hw hne
    | refused _ hitem' => cases hitem.symm.trans hitem'
    | round _ hitem' hrest =>
      cases hitem.symm.trans hitem'
      obtain ⟨rfl, rfl⟩ := ih hrest
      exact ⟨rfl, rfl⟩

theorem Rounds.mul_le (hitem : item.Advances k) (h : Rounds item w done n result) :
    k * n ≤ w.octets.length := by
  induction h with
  | finished => exact Nat.zero_le _
  | refused => exact Nat.zero_le _
  | round _ hr _ ih =>
    have hlen := hitem.length_le hr
    rw [Nat.mul_succ]
    omega

theorem map_congr {r r' : Reader α} (h : r w = r' w') (f : α → β) :
    (f <$> r) w = (f <$> r') w' := by
  change EStateM.map f r w = EStateM.map f r' w'
  rw [EStateM.map, EStateM.map, h]

theorem repeatedly_of_nil (hw : w.octets = []) (fuel : Nat) :
    repeatedly item fuel w = .ok [] w := by
  cases fuel with
  | zero => rfl
  | succ fuel => rw [repeatedly_succ, if_pos (List.isEmpty_iff.2 hw)]

theorem repeatedly_of_error {e : DecodeError} (hw : w.octets ≠ []) (hr : item w = .error e w')
    (fuel : Nat) : repeatedly item (fuel + 1) w = .error e w' := by
  rw [repeatedly_succ, if_neg (mt List.isEmpty_iff.1 hw)]
  exact bind_eq_error_iff.2 (.inl hr)

theorem repeatedly_of_ok {a : α} (hw : w.octets ≠ []) (hr : item w = .ok a w') (fuel : Nat) :
    repeatedly item (fuel + 1) w = ((a :: ·) <$> repeatedly item fuel) w' := by
  rw [repeatedly_succ, if_neg (mt List.isEmpty_iff.1 hw)]
  change EStateM.bind item _ w = _
  rw [EStateM.bind, hr]
  rfl

theorem rounds_of_nil (hw : w.octets = []) (fuel : Nat) (done : List α) :
    Rounds item w done 0 (((done ++ ·) <$> repeatedly item fuel) w) := by
  have hend : ((done ++ ·) <$> repeatedly item fuel) w = .ok done w :=
    map_eq_ok_iff.2 ⟨[], repeatedly_of_nil hw fuel, List.append_nil done⟩
  rw [hend]
  exact .finished hw

/-- A bound on the rounds is never felt if it is not below the number of octets. -/
theorem rounds_repeatedly (hitem : item.Advances k) (hk : 0 < k) {fuel : Nat}
    (hfuel : w.octets.length ≤ fuel) (done : List α) :
    ∃ n, Rounds item w done n (((done ++ ·) <$> repeatedly item fuel) w) := by
  -- a round takes an octet or more, so the octets run out before the bound does
  induction fuel generalizing w done with
  | zero => exact ⟨0, rounds_of_nil (List.length_eq_zero_iff.1 (Nat.le_zero.1 hfuel)) 0 done⟩
  | succ fuel ih =>
    by_cases hw : w.octets = []
    · exact ⟨0, rounds_of_nil hw (fuel + 1) done⟩
    cases hr : item w with
    | error e w' =>
      have hend : ((done ++ ·) <$> repeatedly item (fuel + 1)) w = .error e w' :=
        map_eq_error_iff.2 (repeatedly_of_error hw hr fuel)
      rw [hend]
      exact ⟨0, .refused hw hr⟩
    | ok a w' =>
      have hlen := hitem.length_le hr
      obtain ⟨n, hn⟩ := ih (w := w') (by omega) (done ++ [a])
      have hrest : ((done ++ ·) <$> repeatedly item (fuel + 1)) w =
          ((done ++ [a] ++ ·) <$> repeatedly item fuel) w' := calc
        _ = ((done ++ ·) <$> (a :: ·) <$> repeatedly item fuel) w' :=
          map_congr (repeatedly_of_ok hw hr fuel) _
        _ = _ := by simp only [Functor.map_map, List.append_assoc, List.singleton_append]
      rw [hrest]
      exact ⟨n + 1, .round hw hr hn⟩

/-- The loop ends, in one way only, and with what `untilEnd` gives. -/
theorem rounds_untilEnd_iff (hitem : item.Advances k) (hk : 0 < k) (w : Window) :
    ∃ rounds, ∀ n result, Rounds item w [] n result ↔ n = rounds ∧ result = untilEnd item w := by
  obtain ⟨rounds, h⟩ := rounds_repeatedly hitem hk (Nat.le_refl w.octets.length) []
  simp only [List.nil_append, id_map'] at h
  refine ⟨rounds, fun n result => ⟨fun h' => h.unique h', ?_⟩⟩
  rintro ⟨rfl, rfl⟩
  exact h

/-! ## Where the items come from -/

/-- The items come, in their order, from parts that follow each other and make up all of the window.
Each item is read from its part, whatever stands behind that. -/
structure ReadFrom (item : Reader α) (w : Window) (parts : List Window) (as : List α) : Prop where
  tiles : Tiles w.offset parts w.stop
  octets : (parts.map Window.octets).flatten = w.octets
  apart : parts.Pairwise fun part later => part.stop ≤ later.offset
  reads : List.Forall₂ (fun part a => ∀ behind,
    item ⟨part.offset, part.octets ++ behind⟩ = .ok a ⟨part.stop, behind⟩) parts as

/-- Where items are told by their octets, there are such parts exactly if the octets are items in a
row. -/
theorem Recognises.exists_readFrom_iff (h : item.Recognises g) {as : List α} :
    (∃ parts, ReadFrom item w parts as) ↔ Many g w.octets as := by
  constructor
  · rintro ⟨parts, -, hoctets, -, hreads⟩
    have hparts : List.Forall₂ (fun part a => g part.octets a) parts as :=
      hreads.imp fun part a hr => by
        obtain ⟨d, hd, hp⟩ := (h _ a _).1 (hr [])
        rwa [List.append_cancel_right hp.octets]
    rw [← hoctets]
    exact many_of_forall₂ hparts
  · intro hm
    obtain ⟨parts, htiles, hoctets, hparts⟩ := hm.exists_parts w.offset
    refine ⟨parts, htiles, hoctets, htiles.pairwise, hparts.imp fun part a ha behind => ?_⟩
    exact (h _ a _).2 ⟨part.octets, ha, rfl, rfl⟩

end Reader

end NetWatch.Ber
