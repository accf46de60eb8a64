import NetWatch.Proofs.Probing.Fate

/-!
# The map of pending probes

`Tracked` says what ties the map to the probes: each entry stands under its own key and belongs to
a registered probe with this key and target, and it can signal that probe as long as the probe is
silent. A step keeps this as long as a registration takes a key that is not in the map.
-/

namespace NetWatch.Probing

def Probe.isFresh (p : Probe) : Bool :=
  match p.phase with
  | .called | .admitted => true
  | _ => false

/-- The entry of a registered probe. Its sending end is there until the probe is answered. -/
structure Pending.Owns (key : Key) (entry : Pending) (i : Nat) (p : Probe) : Prop where
  registered : p.isRegistered
  key : p.key = key
  target : p.target = entry.target
  signal : entry.signals = some i ∧ p.signal = .silent ∨
    entry.signals = none ∧ p.signal = .answered

/-- A probe has had no signal before it is registered, and has had one when it returns answered. -/
structure Probe.Signalled (p : Probe) : Prop where
  fresh : p.isFresh → p.signal = .silent
  answered {attempts : UInt32} : p.phase = .returned (.ok (.answered attempts)) →
    p.signal = .answered

theorem Probe.Signalled.of_isRegistered {p : Probe} (h : p.isRegistered) : p.Signalled where
  fresh hf := by cases hp : p.phase <;> simp [isRegistered, isFresh, hp] at h hf
  answered hp := by simp [isRegistered, hp] at h

namespace Correlator

def Owned (probes : List Probe) (entry : Key × Pending) : Prop :=
  ∃ i p, probes[i]? = some p ∧ entry.2.Owns entry.1 i p

structure Tracked (c : Correlator) : Prop where
  distinct : (c.pending.map (·.1)).Nodup
  owned : ∀ entry ∈ c.pending, Owned c.probes entry
  signalled : ∀ (i : Nat) (p : Probe), c.probes[i]? = some p → p.Signalled

variable {c : Correlator} {i : Nat} {p p' : Probe} {e : Event} {key : Key}

/-! ## The map -/

theorem mem_of_lookup {entry : Pending} (h : c.lookup key = some entry) :
    (key, entry) ∈ c.pending := by
  obtain ⟨⟨k, _⟩, hfind, rfl⟩ := Option.map_eq_some_iff.1 h
  have hk : k = key := by simpa using List.find?_some hfind
  exact hk ▸ List.mem_of_find?_eq_some hfind

theorem Tracked.entry_eq (h : Tracked c) {entry entry' : Pending} (he : (key, entry) ∈ c.pending)
    (he' : (key, entry') ∈ c.pending) : entry = entry' :=
  congrArg Prod.snd (List.inj_on_of_nodup_map h.distinct he he' rfl)

/-- An entry that can still signal belongs to the probe that it signals. -/
theorem Tracked.owns (h : Tracked c) {entry : Key × Pending} (hmem : entry ∈ c.pending)
    (hi : entry.2.signals = some i) :
    ∃ p, c.probes[i]? = some p ∧ entry.2.Owns entry.1 i p ∧ p.signal = .silent := by
  obtain ⟨j, p, hp, hown⟩ := h.owned entry hmem
  obtain ⟨hj, hs⟩ | ⟨hnone, _⟩ := hown.signal
  · obtain rfl : i = j := Option.some.inj (hi.symm.trans hj)
    exact ⟨p, hp, hown, hs⟩
  · cases hi.symm.trans hnone

/-! ## Signals -/

theorem Moves.signalled (h : Moves c i p e p') (hp : p.Signalled) : p'.Signalled where
  fresh := by
    cases h with
    | admitted h => exact fun _ => hp.fresh (by simp [Probe.isFresh, h])
    | withdrawn => exact hp.fresh
    | refused | confirmed | sent | timedOut | dropped => exact nofun
  answered := by
    cases h with
    | withdrawn => exact hp.answered
    | admitted | refused | confirmed | sent | timedOut | dropped => exact nofun

theorem Ends.signalled (h : Ends c i p e p') : p'.Signalled where
  fresh := by cases h <;> exact nofun
  answered := by
    cases h with
    | answered _ _ hs => exact fun _ => hs
    | overtaken | sendFailed | cancelled | channelClosed | exhausted | dropped => exact nofun

theorem Fares.signalled (h : Fares c i p e p') (hp : p.Signalled)
    (hreg : ∀ entry ∈ c.pending, entry.2.signals = some i → p.isRegistered) : p'.Signalled := by
  cases h with
  | stays => exact hp
  | moves h => exact h.signalled hp
  | registers h hkey => exact ⟨nofun, nofun⟩
  | ends h => exact h.signalled
  | answered hr hl hs => exact .of_isRegistered (hreg _ (mem_of_lookup hl) rfl)
  | closes hmem hi hs => exact .of_isRegistered (hreg _ hmem hi)

theorem Tracked.signalled_step (h : Tracked c) :
    ∀ (i : Nat) (p : Probe), (c.step e).probes[i]? = some p → p.Signalled := by
  refine forall_probes_step h.signalled (fun _ _ _ => ⟨fun _ => rfl, nofun⟩) ?_
  intro i p p' hp hf hs
  refine hf.signalled hs fun entry hmem hi => ?_
  obtain ⟨q, hq, hown, _⟩ := h.owns hmem hi
  obtain rfl : q = p := Option.some.inj (hq.symm.trans hp)
  exact hown.registered

/-! ## Entries and their owners -/

section

variable {probes : List Probe} {entry : Key × Pending}

theorem Owned.append (h : Owned probes entry) (new : List Probe) :
    Owned (probes ++ new) entry := by
  obtain ⟨j, q, hq, hown⟩ := h
  have hj := (List.getElem?_eq_some_iff.1 hq).1
  exact ⟨j, q, by rw [List.getElem?_append_left hj, hq], hown⟩

/-- A change of one probe leaves an entry its owner unless that probe was the owner. -/
theorem Owned.set (h : Owned probes entry) (hp : probes[i]? = some p)
    (hown : entry.2.Owns entry.1 i p → entry.2.Owns entry.1 i p') :
    Owned (probes.set i p') entry := by
  obtain ⟨j, q, hq, hown'⟩ := h
  by_cases hj : i = j
  · subst hj
    obtain rfl : q = p := Option.some.inj (hq.symm.trans hp)
    exact ⟨i, p', getElem?_set_self hq _, hown hown'⟩
  · exact ⟨j, q, by rw [List.getElem?_set_ne hj, hq], hown'⟩

theorem Moves.owns (h : Moves c i p e p') (hown : entry.2.Owns key i p) :
    entry.2.Owns key i p' := by
  obtain ⟨hkey, htarget, hsignal, hreg⟩ := h.frame
  exact ⟨hreg ▸ hown.registered, hkey ▸ hown.key, htarget ▸ hown.target, hsignal ▸ hown.signal⟩

end

theorem map_fst_spend (c : Correlator) (key : Key) :
    (c.spend key).pending.map (·.1) = c.pending.map (·.1) := by
  unfold spend
  rw [List.map_map]
  refine List.map_congr_left fun entry _ => ?_
  rw [Function.comp_apply]
  split
  · next h => exact h.symm
  · rfl

theorem deliver_eq (hp : c.probes[i]? = some p) (hs : p.signal = .silent) (signal : Signal) :
    c.deliver signal i = { c with probes := c.probes.set i { p with signal := signal } } := by
  unfold deliver
  rw [modifyProbe_eq hp, if_pos hs]

/-- An answer changes the entry that it finds and the owner of that entry together. -/
theorem Tracked.owned_answered (h : Tracked c) {source : Net.IpAddress}
    (hl : c.lookup key = some ⟨source, some i⟩) {entry : Key × Pending}
    (hmem : entry ∈ (c.spend key).pending) :
    Owned ((c.spend key).deliver .answered i).probes entry := by
  have hfound := mem_of_lookup hl
  obtain ⟨p, hp, hown, hs⟩ := h.owns hfound rfl
  rw [deliver_eq (c := c.spend key) hp hs]
  obtain ⟨⟨k, old⟩, hold, rfl⟩ := List.mem_map.1 hmem
  by_cases hk : k = key
  · subst hk
    obtain rfl : old = ⟨source, some i⟩ := h.entry_eq hold hfound
    rw [if_pos rfl]
    exact ⟨i, _, getElem?_set_self hp _,
      hown.registered, hown.key, hown.target, .inr ⟨rfl, rfl⟩⟩
  · rw [if_neg hk]
    exact (h.owned _ hold).set hp fun hother => absurd (hother.key.symm.trans hown.key) hk

/-- A step keeps the map and the probes together if a registration takes a free key. -/
theorem Tracked.step (h : Tracked c) (e : Event)
    (hfree : ∀ i key, c.registration? e = some (i, key) → key ∉ c.pending.map (·.1)) :
    Tracked (c.step e) := by
  suffices hmap : ((c.step e).pending.map (·.1)).Nodup ∧
      ∀ entry ∈ (c.step e).pending, Owned (c.step e).probes entry from
    ⟨hmap.1, hmap.2, h.signalled_step⟩
  have hc := change_step c e
  generalize c.step e = c' at hc
  have hd := h.distinct
  cases hc with
  | idle => exact ⟨hd, h.owned⟩
  | call target policy => exact ⟨hd, fun entry hmem => (h.owned entry hmem).append _⟩
  | moves hp hm => exact ⟨hd, fun entry hmem => (h.owned entry hmem).set hp hm.owns⟩
  | @registers i p key hp hphase hroom hkey =>
    have hnew := hfree i key (by simp [registration?, hp, hphase, hroom, hkey])
    refine ⟨List.nodup_cons.2 ⟨hnew, hd⟩, fun entry hmem => ?_⟩
    rcases List.mem_cons.1 hmem with rfl | hmem
    · have hs := (h.signalled i p hp).fresh (by simp [Probe.isFresh, hphase])
      exact ⟨i, _, getElem?_set_self hp _,
        rfl, rfl, rfl, .inl ⟨rfl, hs⟩⟩
    · refine (h.owned entry hmem).set hp fun hown => absurd hown.registered ?_
      simp [Probe.isRegistered, hphase]
  | @ends i p p' _ hp he =>
    refine ⟨hd.sublist (List.filter_sublist.map _), fun entry hmem => ?_⟩
    obtain ⟨hmem, hne⟩ := List.mem_filter.1 hmem
    exact (h.owned entry hmem).set hp fun hown => absurd hown.key.symm (by simpa using hne)
  | answers hr hl =>
    exact ⟨(map_fst_spend c _).symm ▸ hd, fun entry hmem => h.owned_answered hl hmem⟩
  | leaves => exact ⟨hd, h.owned⟩
  | clears =>
    rw [cleared_eq]
    exact ⟨List.nodup_nil, List.forall_mem_nil _⟩
  | shuts => exact ⟨hd, h.owned⟩
  | shut =>
    rw [cleared_eq]
    exact ⟨List.nodup_nil, List.forall_mem_nil _⟩

end Correlator

end NetWatch.Probing
