import NetWatch.Proofs.Probing.Pending

/-!
# The keys of a run

A run gives out the keys behind its first one, one after the other: as long as it has not gone
once around, the next key is free and the search for a free key ends where it begins. So the keys
are distinct, and none is used again after its probe is gone.
-/

namespace NetWatch.Probing

namespace Correlator

/-! ## What happens along a run -/

section

variable {α : Type}

def trace (f : Correlator → Event → Option α) (c : Correlator) : List Event → List α
  | [] => []
  | e :: es => (f c e).toList ++ trace f (c.step e) es

theorem run_append (c : Correlator) (events more : List Event) :
    c.run (events ++ more) = (c.run events).run more :=
  List.foldl_append

theorem run_append_singleton (c : Correlator) (events : List Event) (e : Event) :
    c.run (events ++ [e]) = (c.run events).step e :=
  run_append c events [e]

theorem trace_append (f : Correlator → Event → Option α) (c : Correlator)
    (events more : List Event) :
    trace f c (events ++ more) = trace f c events ++ trace f (c.run events) more := by
  induction events generalizing c with
  | nil => rfl
  | cons e events ih =>
    rw [List.cons_append, trace, trace, ih, List.append_assoc]
    rfl

theorem trace_append_singleton (f : Correlator → Event → Option α) (c : Correlator)
    (events : List Event) (e : Event) :
    trace f c (events ++ [e]) = trace f c events ++ (f (c.run events) e).toList := by
  rw [trace_append, trace, trace, List.append_nil]

end

def registrations (c : Correlator) (events : List Event) : List (Nat × Key) :=
  trace registration? c events

theorem registrations_append_singleton (c : Correlator) (events : List Event) (e : Event) :
    c.registrations (events ++ [e]) =
      c.registrations events ++ ((c.run events).registration? e).toList :=
  trace_append_singleton ..

theorem registrations_subset (c : Correlator) (events more : List Event) :
    c.registrations events ⊆ c.registrations (events ++ more) := by
  unfold registrations
  rw [trace_append]
  exact List.subset_append_left ..

theorem length_registrations_lt {c : Correlator} {events more : List Event} {bound : Nat}
    (h : (c.registrations (events ++ more)).length < bound) :
    (c.registrations events).length < bound := by
  unfold registrations at *
  rw [trace_append, List.length_append] at h
  omega

/-! ## The invariant of a run -/

def nthKey (first : Key) (n : Nat) : Key := first + UInt64.ofNat n

theorem nthKey_inj {first : Key} {m n : Nat} (hm : m < 2 ^ 64) (hn : n < 2 ^ 64)
    (h : nthKey first m = nthKey first n) : m = n := by
  have h := congrArg UInt64.toNat ((UInt64.add_right_inj first).1 h)
  rwa [UInt64.toNat_ofNat_of_lt' hm, UInt64.toNat_ofNat_of_lt' hn] at h

/-- The keys behind one another do not repeat before they have gone once around. -/
theorem nodup_nthKeys (first : Key) {n : Nat} (hn : n ≤ 2 ^ 64) :
    ((List.range n).map (nthKey first)).Nodup := by
  refine List.nodup_range.map_on fun a ha b hb hab => ?_
  have ha := List.mem_range.1 ha
  have hb := List.mem_range.1 hb
  exact nthKey_inj (by omega) (by omega) hab

/-- The state of a correlator that has given out keys from the first one on. -/
structure Consistent (first : Key) (given : List (Nat × Key)) (c : Correlator) : Prop
    extends Tracked c where
  next : c.nextKey = nthKey first given.length
  keys : given.map (·.2) = (List.range given.length).map (nthKey first)
  once : (given.map (·.1)).Nodup
  held : ∀ (i : Nat) (p : Probe), c.probes[i]? = some p → p.isRegistered → (i, p.key) ∈ given
  kept : ∀ entry ∈ given, ∃ p : Probe, c.probes[entry.1]? = some p ∧ p.isFresh = false ∧
    p.key = entry.2

theorem consistent_start (first : Key) : Consistent first [] (start first) where
  distinct := List.nodup_nil
  owned := nofun
  signalled _ _ hp := by cases hp
  next := (UInt64.add_zero first).symm
  keys := rfl
  once := List.nodup_nil
  held _ _ hp := by cases hp
  kept := nofun

variable {first : Key} {given : List (Nat × Key)} {c : Correlator} {i j : Nat} {p : Probe}
  {key : Key} {e : Event}

theorem Consistent.nodup_keys (h : Consistent first given c) (hcount : given.length < 2 ^ 64) :
    (given.map (·.2)).Nodup := by
  rw [h.keys]
  exact nodup_nthKeys first (Nat.le_of_lt hcount)

theorem Consistent.probe_eq (h : Consistent first given c) (hcount : given.length < 2 ^ 64)
    (hi : (i, key) ∈ given) (hj : (j, key) ∈ given) : i = j :=
  congrArg Prod.fst (List.inj_on_of_nodup_map (h.nodup_keys hcount) hi hj rfl)

/-- A key in the map has been given to the probe that its entry belongs to. -/
theorem Consistent.mem_given (h : Consistent first given c) {entry : Key × Pending}
    (hmem : entry ∈ c.pending) :
    ∃ i p, c.probes[i]? = some p ∧ p.isRegistered ∧ p.key = entry.1 ∧ (i, entry.1) ∈ given := by
  obtain ⟨i, p, hp, hown⟩ := h.owned entry hmem
  exact ⟨i, p, hp, hown.registered, hown.key, hown.key ▸ h.held i p hp hown.registered⟩

theorem Consistent.next_free (h : Consistent first given c) (hcount : given.length < 2 ^ 64) :
    c.nextKey ∉ c.pending.map (·.1) := by
  intro hmem
  obtain ⟨entry, hentry, hkey⟩ := List.mem_map.1 hmem
  obtain ⟨i, p, _, _, _, hgiven⟩ := h.mem_given hentry
  have hmem : entry.1 ∈ given.map (·.2) := List.mem_map.2 ⟨_, hgiven, rfl⟩
  rw [h.keys] at hmem
  obtain ⟨n, hn, hnth⟩ := List.mem_map.1 hmem
  have hn := List.mem_range.1 hn
  have heq : n = given.length :=
    nthKey_inj (Nat.lt_trans hn hcount) hcount ((hnth.trans hkey).trans h.next)
  omega

/-! ## One step -/

theorem registration?_eq_some_iff : c.registration? e = some (i, key) ↔
    e = .register i ∧ c.hasFreeKey ∧ ∃ p, c.probes[i]? = some p ∧ p.phase = .admitted ∧
      key = freeKey c.pending c.nextKey (c.pending.length + 1) := by
  cases e with
  | register j =>
    rw [registration?]
    constructor
    · intro h
      split at h
      · next p hp =>
        split at h
        · next hphase =>
          split at h
          · next hfree =>
            cases h
            exact ⟨rfl, hfree, p, hp, hphase, rfl⟩
          · cases h
        · cases h
      · cases h
    · rintro ⟨⟨⟩, hfree, p, hp, hphase, rfl⟩
      simp [hp, hphase, hfree]
  | call | check | recheck | send | cancel | look | drop | route | leave | clear | shutdown
  | shutdownEnd =>
    constructor
    · intro h
      cases h
    · rintro ⟨h, _⟩
      cases h

theorem freeKey_of_not_mem {pending : List (Key × Pending)} (h : key ∉ pending.map (·.1))
    (fuel : Nat) : freeKey pending key fuel = key := by
  cases fuel with
  | zero => rfl
  | succ fuel =>
    have hany : pending.any (·.1 = key) = false := by
      rw [List.any_eq_false]
      exact fun entry hmem hkey => h (List.mem_map.2 ⟨entry, hmem, by simpa using hkey⟩)
    rw [freeKey, hany]
    rfl

theorem freeKey_of_mem {pending : List (Key × Pending)} (h : key ∈ pending.map (·.1))
    (fuel : Nat) : freeKey pending key (fuel + 1) = freeKey pending (key + 1) fuel := by
  obtain ⟨entry, hmem, hkey⟩ := List.mem_map.1 h
  exact if_pos (List.any_eq_true.2 ⟨entry, hmem, decide_eq_true hkey⟩)

theorem Moves.registration? {p' : Probe} (h : Moves c i p e p') : c.registration? e = none := by
  cases h <;> rfl

theorem Ends.registration? {p' : Probe} (h : Ends c i p e p') : c.registration? e = none := by
  cases h <;> rfl

/-- The counter moves with each registration, and with nothing else. -/
theorem nextKey_step (c : Correlator) (e : Event) :
    (c.step e).nextKey = c.nextKey + UInt64.ofNat (c.registration? e).toList.length := by
  have h := change_step c e
  generalize c.step e = c' at h
  cases h with
  | idle hr => rw [hr]; exact (UInt64.add_zero _).symm
  | moves hp hm => rw [hm.registration?]; exact (UInt64.add_zero _).symm
  | registers hp hphase hfree hkey =>
    rw [registration?_eq_some_iff.2 ⟨rfl, hfree, _, hp, hphase, hkey⟩]
    rfl
  | ends hp he => rw [he.registration?]; exact (UInt64.add_zero _).symm
  | clears => rw [cleared_eq]; exact (UInt64.add_zero _).symm
  | shut => rw [cleared_eq]; exact (UInt64.add_zero _).symm
  | call | answers | leaves | shuts => exact (UInt64.add_zero _).symm

theorem Consistent.registration_key (h : Consistent first given c)
    (hcount : given.length < 2 ^ 64) (hr : c.registration? e = some (i, key)) :
    key = nthKey first given.length := by
  obtain ⟨rfl, _, p, hp, hphase, rfl⟩ := registration?_eq_some_iff.1 hr
  rw [freeKey_of_not_mem (h.next_free hcount), h.next]

theorem Consistent.registration_new (h : Consistent first given c)
    (hr : c.registration? e = some (i, key)) : i ∉ given.map (·.1) := by
  obtain ⟨rfl, _, p, hp, hphase, _⟩ := registration?_eq_some_iff.1 hr
  intro hmem
  obtain ⟨entry, hgiven, rfl⟩ := List.mem_map.1 hmem
  obtain ⟨q, hq, hfresh, _⟩ := h.kept entry hgiven
  obtain rfl : q = p := Option.some.inj (hq.symm.trans hp)
  simp [Probe.isFresh, hphase] at hfresh

theorem probe_of_registration (hr : c.registration? e = some (i, key)) :
    ∃ p, (c.step e).probes[i]? = some p ∧ p.isFresh = false ∧ p.key = key := by
  have h := change_step c e
  generalize c.step e = c' at h
  cases h with
  | idle hnone => cases hr.symm.trans hnone
  | moves hp hm => cases hr.symm.trans hm.registration?
  | ends hp he => cases hr.symm.trans he.registration?
  | @registers j p _ hp hphase _ hkey =>
    obtain ⟨⟨⟩, _, q, _, _, hkey'⟩ := registration?_eq_some_iff.1 hr
    subst hkey hkey'
    exact ⟨_, getElem?_set_self hp _, rfl, rfl⟩
  | call | answers | leaves | clears | shuts | shut => cases hr

theorem Fares.kept {p' : Probe} (h : Fares c i p e p') (hp : p.isFresh = false) :
    p'.isFresh = false ∧ p'.key = p.key := by
  cases h with
  | stays => exact ⟨hp, rfl⟩
  | moves h =>
    refine ⟨?_, h.frame.1⟩
    cases h with
    | admitted h => simp [Probe.isFresh, h] at hp
    | withdrawn => exact hp
    | refused | confirmed | sent | timedOut | dropped => rfl
  | registers hphase => simp [Probe.isFresh, hphase] at hp
  | ends h =>
    refine ⟨?_, h.frame.1⟩
    cases h <;> rfl
  | answered | closes => exact ⟨hp, rfl⟩

theorem Consistent.held_step (h : Consistent first given c) :
    ∀ (i : Nat) (p : Probe), (c.step e).probes[i]? = some p → p.isRegistered →
      (i, p.key) ∈ given ++ (c.registration? e).toList := by
  refine forall_probes_step h.held (fun _ _ _ => nofun) ?_
  intro i p p' hp hf hheld hreg
  cases hf with
  | stays | answered | closes => exact List.mem_append_left _ (hheld hreg)
  | moves hm =>
    obtain ⟨hkey, _, _, hsame⟩ := hm.frame
    rw [hkey]
    exact List.mem_append_left _ (hheld (hsame ▸ hreg))
  | registers hphase hr =>
    refine List.mem_append_right _ ?_
    rw [hr]
    exact List.mem_singleton_self _
  | ends he => cases hreg.symm.trans he.frame.2.2.2.2

theorem Consistent.kept_step (h : Consistent first given c) :
    ∀ entry ∈ given ++ (c.registration? e).toList,
      ∃ p : Probe, (c.step e).probes[entry.1]? = some p ∧ p.isFresh = false ∧ p.key = entry.2 := by
  intro entry hmem
  rcases List.mem_append.1 hmem with hmem | hmem
  · obtain ⟨p, hp, hfresh, hkey⟩ := h.kept entry hmem
    obtain ⟨p', hp', hf⟩ := fares_step hp e
    have hkept := hf.kept hfresh
    exact ⟨p', hp', hkept.1, hkept.2.trans hkey⟩
  · exact probe_of_registration (Option.mem_toList.1 hmem)

theorem Consistent.step (h : Consistent first given c) (e : Event)
    (hcount : (given ++ (c.registration? e).toList).length < 2 ^ 64) :
    Consistent first (given ++ (c.registration? e).toList) (c.step e) := by
  have hgiven : given.length < 2 ^ 64 := by
    rw [List.length_append] at hcount
    omega
  refine {
    toTracked := h.toTracked.step e fun i key hr => ?_
    next := by
      rw [nextKey_step, h.next, List.length_append, nthKey, nthKey, UInt64.ofNat_add,
        UInt64.add_assoc]
    keys := ?_
    once := ?_
    held := h.held_step
    kept := h.kept_step }
  · rw [h.registration_key hgiven hr, ← h.next]
    exact h.next_free hgiven
  · cases hr : c.registration? e with
    | none => simpa using h.keys
    | some entry =>
      obtain ⟨i, key⟩ := entry
      rw [List.map_append, h.keys, h.registration_key hgiven hr]
      simp [List.range_succ]
  · cases hr : c.registration? e with
    | none => simpa using h.once
    | some entry =>
      rw [Option.toList_some, List.map_append]
      refine h.once.append (List.nodup_singleton _) ?_
      exact List.disjoint_singleton.2 (h.registration_new hr)

/-- A run gives out one key after the other, as long as it does not go once around. -/
theorem consistent_run (first : Key) (events : List Event)
    (hcount : ((start first).registrations events).length < 2 ^ 64) :
    Consistent first ((start first).registrations events) ((start first).run events) := by
  induction events using List.reverseRecOn with
  | nil => exact consistent_start first
  | append_singleton events e ih =>
    have hevents := ih (length_registrations_lt hcount)
    rw [registrations_append_singleton] at hcount ⊢
    rw [run_append_singleton]
    exact hevents.step e hcount

end Correlator

end NetWatch.Probing
