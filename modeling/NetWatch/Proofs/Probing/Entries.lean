import NetWatch.Proofs.Probing.Allocation

/-!
# Registered probes and their entries

Until the map is cleared, every registered probe has its entry in it, and no two of them have one
key. So the map holds the registered probes and nothing else. Once it is cleared, every probe past
its second check has a signal: the last probe to pass it was in the map before the correlator was
closed, and clearing closes the channel of each probe that is still silent. `Complete` says both,
and every run keeps it.
-/

namespace NetWatch.Probing

def Probe.isConfirmed (p : Probe) : Bool :=
  match p.phase with
  | .sending | .waiting => true
  | _ => false

theorem Probe.isRegistered_of_isConfirmed {p : Probe} (h : p.isConfirmed) : p.isRegistered := by
  cases hp : p.phase <;> simp [isConfirmed, isRegistered, hp] at h ⊢

namespace Correlator

def Entered (pending : List (Key × Pending)) (i : Nat) (p : Probe) : Prop :=
  ∃ entry, (p.key, entry) ∈ pending ∧ entry.Owns p.key i p

structure Complete (c : Correlator) : Prop extends Tracked c where
  /-- Whoever ends the receiver closes the correlator first. -/
  shut : c.receiver ≠ .running → c.closed = true
  entered : c.receiver ≠ .gone → ∀ (i : Nat) (p : Probe), c.probes[i]? = some p →
    p.isRegistered → Entered c.pending i p
  apart : c.receiver ≠ .gone → ∀ (i j : Nat) (p q : Probe), c.probes[i]? = some p →
    c.probes[j]? = some q → p.isRegistered → q.isRegistered → p.key = q.key → i = j
  woken : c.receiver = .gone → ∀ (i : Nat) (p : Probe), c.probes[i]? = some p →
    p.isConfirmed → p.signal ≠ .silent

variable {c : Correlator} {i j : Nat} {p p' : Probe} {e : Event} {key : Key}

/-! ## The receiver -/

theorem receiver_cleared (c : Correlator) : c.cleared.receiver = c.receiver := by rw [cleared_eq]

/-- The receiver leaves, and closes the correlator with that; then it clears the map and is gone. -/
theorem receiver_step (c : Correlator) (e : Event) :
    (c.step e).receiver = c.receiver ∧ (c.closed → (c.step e).closed) ∨
      c.receiver = .running ∧ (c.step e).receiver = .leaving ∧ (c.step e).closed ∨
      c.receiver = .leaving ∧ (c.step e).receiver = .gone ∧ (c.closed → (c.step e).closed) := by
  have h := change_step c e
  generalize c.step e = c' at h
  cases h with
  | leaves hr => exact .inr (.inl ⟨hr, rfl, rfl⟩)
  | clears hr =>
    rw [cleared_eq]
    exact .inr (.inr ⟨hr, rfl, id⟩)
  | shuts => exact .inl ⟨rfl, fun _ => rfl⟩
  | shut =>
    rw [cleared_eq]
    exact .inl ⟨rfl, id⟩
  | idle | call | moves | registers | ends | answers => exact .inl ⟨rfl, id⟩

theorem closed_step (h : c.closed) (e : Event) : (c.step e).closed := by
  obtain ⟨_, hclosed⟩ | ⟨_, _, hclosed⟩ | ⟨_, _, hclosed⟩ := receiver_step c e
  · exact hclosed h
  · exact hclosed
  · exact hclosed h

theorem closed_step_eq (hleave : e ≠ .leave) (hshutdown : e ≠ .shutdown) :
    (c.step e).closed = c.closed := by
  have h := change_step c e
  generalize c.step e = c' at h
  cases h with
  | leaves => exact absurd rfl hleave
  | shuts => exact absurd rfl hshutdown
  | clears | shut => rw [cleared_eq]
  | idle | call | moves | registers | ends | answers => rfl

theorem closed_run (h : c.closed) (events : List Event) : (c.run events).closed := by
  induction events generalizing c with
  | nil => exact h
  | cons e events ih => exact ih (closed_step h e)

theorem closed_shutdown (c : Correlator) : (c.step .shutdown).closed := by
  cases h : c.closed <;> simp [step, stepOwn, Event.probe?, h]

/-- An open correlator is closed by its receiver's end, if it has one. -/
theorem closed_leave_iff (hopen : c.closed = false) :
    (c.step .leave).closed ↔ c.receiver = .running := by
  by_cases h : c.receiver = .running <;> simp [step, stepOwn, Event.probe?, h, hopen]

theorem gone_step (h : c.receiver = .gone) (e : Event) : (c.step e).receiver = .gone := by
  obtain ⟨hr, _⟩ | ⟨hr, _⟩ | ⟨hr, _⟩ := receiver_step c e
  · exact hr.trans h
  · cases hr.symm.trans h
  · cases hr.symm.trans h

theorem Complete.shut_step (h : Complete c) (e : Event) :
    (c.step e).receiver ≠ .running → (c.step e).closed := by
  intro hr
  obtain ⟨hsame, hclosed⟩ | ⟨_, _, hclosed⟩ | ⟨hleaving, _, hclosed⟩ := receiver_step c e
  · exact hclosed (h.shut (hsame ▸ hr))
  · exact hclosed
  · exact hclosed (h.shut (by simp [hleaving]))

/-! ## Keys of registered probes -/

/-- A registered probe was registered before under the same key, or it has just been given one. -/
theorem Fares.registered (h : Fares c i p e p') (hreg : p'.isRegistered) :
    p.isRegistered ∧ p'.key = p.key ∨ c.registration? e = some (i, p'.key) := by
  cases h with
  | stays => exact .inl ⟨hreg, rfl⟩
  | moves hm =>
    obtain ⟨hkey, _, _, hsame⟩ := hm.frame
    exact .inl ⟨hsame ▸ hreg, hkey⟩
  | registers _ hr => exact .inr hr
  | ends he => cases hreg.symm.trans he.frame.2.2.2.2
  | answered | closes => exact .inl ⟨hreg, rfl⟩

theorem registered_step (hp : (c.step e).probes[i]? = some p) (hreg : p.isRegistered) :
    (∃ q, c.probes[i]? = some q ∧ q.isRegistered ∧ p.key = q.key) ∨
      c.registration? e = some (i, p.key) := by
  cases hq : c.probes[i]? with
  | none =>
    obtain ⟨_, _, rfl⟩ := called_of_step hq hp
    cases hreg
  | some q =>
    obtain ⟨p', hp', hf⟩ := fares_step hq e
    obtain rfl : p' = p := Option.some.inj (hp'.symm.trans hp)
    exact (hf.registered hreg).imp (fun h => ⟨q, rfl, h.1, h.2⟩) id

theorem receiver_ne_gone (h : (c.step e).receiver ≠ .gone) : c.receiver ≠ .gone :=
  fun hr => h (gone_step hr e)

theorem Complete.key_ne (h : Complete c) (hr : c.receiver ≠ .gone)
    (hnew : c.registration? e = some (j, key)) (hp : c.probes[i]? = some p)
    (hreg : p.isRegistered) : p.key ≠ key := by
  rintro rfl
  obtain ⟨entry, hmem, _⟩ := h.entered hr i p hp hreg
  exact registration_free hnew (List.mem_map_of_mem hmem)

theorem Complete.apart_step (h : Complete c) (e : Event) : (c.step e).receiver ≠ .gone →
    ∀ (i j : Nat) (p q : Probe), (c.step e).probes[i]? = some p → (c.step e).probes[j]? = some q →
      p.isRegistered → q.isRegistered → p.key = q.key → i = j := by
  intro hr i j p q hp hq hpreg hqreg hkey
  have hr := receiver_ne_gone hr
  obtain ⟨p₀, hp₀, hreg, hpkey⟩ | hpnew := registered_step hp hpreg
  · obtain ⟨q₀, hq₀, hreg', hqkey⟩ | hqnew := registered_step hq hqreg
    · exact h.apart hr i j p₀ q₀ hp₀ hq₀ hreg hreg' (hpkey.symm.trans (hkey.trans hqkey))
    · exact absurd (hpkey.symm.trans hkey) (h.key_ne hr hqnew hp₀ hreg)
  · obtain ⟨q₀, hq₀, hreg', hqkey⟩ | hqnew := registered_step hq hqreg
    · exact absurd (hqkey.symm.trans hkey.symm) (h.key_ne hr hpnew hq₀ hreg')
    · exact congrArg Prod.fst (Option.some.inj (hpnew.symm.trans hqnew))

/-! ## Entries -/

section

variable {probes : List Probe} {pending : List (Key × Pending)}

theorem forall_set {P : Nat → Probe → Prop} (hi : P i p')
    (h : ∀ (j : Nat) (q : Probe), i ≠ j → probes[j]? = some q → P j q) :
    ∀ (j : Nat) (q : Probe), (probes.set i p')[j]? = some q → P j q := by
  intro j q hq
  by_cases hj : i = j
  · subst hj
    have hlt := (List.getElem?_eq_some_iff.1 hq).1
    rw [List.length_set] at hlt
    rw [List.getElem?_set_self hlt] at hq
    exact Option.some.inj hq ▸ hi
  · rw [List.getElem?_set_ne hj] at hq
    exact h j q hj hq

theorem Entered.mono (h : Entered pending i p) {pending' : List (Key × Pending)}
    (hmem : ∀ entry, entry.1 = p.key → entry ∈ pending → entry ∈ pending') :
    Entered pending' i p := by
  obtain ⟨entry, hentry, hown⟩ := h
  exact ⟨entry, hmem _ rfl hentry, hown⟩

theorem Entered.moves (h : Entered pending i p) (hm : Moves c i p e p') :
    Entered pending i p' := by
  obtain ⟨entry, hentry, hown⟩ := h
  have hown : (p.key, entry).2.Owns p.key i p' := hm.owns hown
  exact ⟨entry, hm.frame.1 ▸ hentry, hm.frame.1 ▸ hown⟩

end

theorem mem_spend {entry : Key × Pending} (hmem : entry ∈ c.pending) (hne : entry.1 ≠ key) :
    entry ∈ (c.spend key).pending :=
  List.mem_map.2 ⟨entry, hmem, if_neg hne⟩

theorem mem_spend_self {target : Net.IpAddress} {signals : Option Nat}
    (hmem : (key, ⟨target, signals⟩) ∈ c.pending) :
    (key, ⟨target, none⟩) ∈ (c.spend key).pending :=
  List.mem_map.2 ⟨_, hmem, if_pos rfl⟩

/-- An answer leaves each registered probe its entry, the answered one without a sending end. -/
theorem Complete.entered_answered (h : Complete c) (hr : c.receiver = .running)
    {source : Net.IpAddress} (hl : c.lookup key = some ⟨source, some i⟩) :
    ∀ (j : Nat) (q : Probe), ((c.spend key).deliver .answered i).probes[j]? = some q →
      q.isRegistered → Entered (c.spend key).pending j q := by
  have hfound := mem_of_lookup hl
  have hne : c.receiver ≠ .gone := by simp [hr]
  obtain ⟨p, hp, hown, hs⟩ := h.owns hfound rfl
  rw [deliver_eq (c := c.spend key) hp hs]
  refine forall_set (P := fun j q => q.isRegistered → Entered (c.spend key).pending j q) ?_ ?_
  · intro _
    obtain rfl : p.key = key := hown.key
    exact ⟨_, mem_spend_self hfound, hown.registered, rfl, hown.target, .inr ⟨rfl, rfl⟩⟩
  · intro j q hj hq hreg
    refine (h.entered hne j q hq hreg).mono fun entry hkey hmem => mem_spend hmem fun heq => hj ?_
    exact h.apart hne i j p q hp hq hown.registered hreg (hown.key.trans (heq.symm.trans hkey))

theorem Complete.entered_step (h : Complete c) (e : Event) : (c.step e).receiver ≠ .gone →
    ∀ (i : Nat) (p : Probe), (c.step e).probes[i]? = some p → p.isRegistered →
      Entered (c.step e).pending i p := by
  intro hr
  have hold := h.entered (receiver_ne_gone hr)
  have hapart := h.apart (receiver_ne_gone hr)
  have hc := change_step c e
  generalize c.step e = c' at hr hc
  cases hc with
  | idle | leaves | shuts => exact hold
  | call target policy =>
    intro i p hp hreg
    rcases Nat.lt_or_ge i c.probes.length with hi | hi
    · rw [List.getElem?_append_left hi] at hp
      exact hold i p hp hreg
    · rw [List.getElem?_append_right hi] at hp
      obtain rfl := List.mem_singleton.1 (List.mem_of_getElem? hp)
      cases hreg
  | @moves j q q' _ hq hm =>
    refine forall_set (P := fun i p => p.isRegistered → Entered c.pending i p) ?_ ?_
    · exact fun hreg => (hold j q hq (hm.frame.2.2.2 ▸ hreg)).moves hm
    · exact fun i p _ hp hreg => hold i p hp hreg
  | @registers j q key hq hphase _ hkey =>
    refine forall_set (P := fun i p => p.isRegistered →
      Entered ((key, ⟨q.target, some j⟩) :: c.pending) i p) ?_ ?_
    · have hs := (h.signalled j q hq).fresh (by simp [Probe.isFresh, hphase])
      exact fun _ => ⟨_, .head _, rfl, rfl, rfl, .inl ⟨rfl, hs⟩⟩
    · exact fun i p _ hp hreg => (hold i p hp hreg).mono fun _ _ hmem => .tail _ hmem
  | @ends j q q' _ hq he =>
    obtain ⟨_, _, _, hqreg, hq'⟩ := he.frame
    refine forall_set (P := fun i p => p.isRegistered → Entered (c.erase q.key).pending i p) ?_ ?_
    · exact fun hreg => absurd hreg (by simp [hq'])
    · intro i p hi hp hreg
      refine (hold i p hp hreg).mono fun entry hkey hmem => List.mem_filter.2 ⟨hmem, ?_⟩
      refine decide_eq_true fun heq => hi ?_
      exact hapart j i q p hq hp hqreg hreg (heq.symm.trans hkey)
  | answers hrun hl => exact h.entered_answered hrun hl
  | clears => exact absurd rfl hr
  | shut _ hgone => exact absurd ((receiver_cleared c).trans hgone) hr

/-! ## Signals once the map is cleared -/

/-- Once the correlator is closed, no probe becomes silent again and no silent one gets ahead. -/
theorem Fares.woken (h : Fares c i p e p') (hclosed : c.closed)
    (hp : p.isConfirmed → p.signal ≠ .silent) : p'.isConfirmed → p'.signal ≠ .silent := by
  cases h with
  | stays => exact hp
  | moves hm =>
    cases hm with
    | sent hphase | timedOut hphase => exact fun _ => hp (by simp [Probe.isConfirmed, hphase])
    | confirmed _ hopen => simp [hopen] at hclosed
    | withdrawn => exact hp
    | admitted | refused | dropped => exact nofun
  | registers => exact nofun
  | ends he => cases he <;> exact nofun
  | answered | closes => exact fun _ => nofun

theorem Complete.woken_cleared (h : Complete c) (hr : c.receiver ≠ .gone) (i : Nat) (p : Probe)
    (hp : c.cleared.probes[i]? = some p) (hreg : p.isRegistered) : p.signal ≠ .silent := by
  rw [getElem?_cleared] at hp
  obtain ⟨q, hq, rfl⟩ := Option.map_eq_some_iff.1 hp
  by_cases hclose : i ∈ c.pending.filterMap (·.2.signals) ∧ q.signal = .silent
  · rw [if_pos hclose]
    exact nofun
  · rw [if_neg hclose] at hreg ⊢
    intro hs
    obtain ⟨entry, hmem, hown⟩ := h.entered hr i q hq hreg
    obtain ⟨hsignals, _⟩ | ⟨_, hanswered⟩ := hown.signal
    · exact hclose ⟨List.mem_filterMap.2 ⟨_, hmem, hsignals⟩, hs⟩
    · cases hs.symm.trans hanswered

theorem Complete.woken_step (h : Complete c) (e : Event) : (c.step e).receiver = .gone →
    ∀ (i : Nat) (p : Probe), (c.step e).probes[i]? = some p → p.isConfirmed →
      p.signal ≠ .silent := by
  intro hgone
  by_cases hr : c.receiver = .gone
  · have hclosed := h.shut (by simp [hr])
    exact forall_probes_step (h.woken hr) (fun _ _ _ => nofun) fun _ _ _ _ hf => hf.woken hclosed
  · have hc := change_step c e
    generalize c.step e = c' at hgone hc ⊢
    cases hc with
    | clears =>
      intro i p hp hconfirmed
      exact h.woken_cleared hr i p hp (Probe.isRegistered_of_isConfirmed hconfirmed)
    | leaves => cases hgone
    | shut _ hg => exact absurd hg hr
    | idle | call | moves | registers | ends | answers | shuts => exact absurd hgone hr

/-! ## Runs -/

theorem complete_start (first : Key) : Complete (start first) where
  toTracked := tracked_run first []
  shut h := absurd rfl h
  entered _ _ _ hp := by cases hp
  apart _ _ _ _ _ hp := by cases hp
  woken h := by cases h

theorem Complete.step (h : Complete c) (e : Event) : Complete (c.step e) where
  toTracked := h.toTracked.step e fun _ _ hr => registration_free hr
  shut := h.shut_step e
  entered := h.entered_step e
  apart := h.apart_step e
  woken := h.woken_step e

theorem complete_run (first : Key) (events : List Event) :
    Complete ((start first).run events) := by
  induction events using List.reverseRecOn with
  | nil => exact complete_start first
  | append_singleton events e ih =>
    rw [run_append_singleton]
    exact ih.step e

end Correlator

end NetWatch.Probing
