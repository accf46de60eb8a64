import NetWatch.Proofs.Probing.Step

/-!
# A step and one probe

`Fares` lists what may become of one probe in a step. A probe keeps its number for ever
(`fares_step`), and only a call adds one (`called_of_step`).
-/

namespace NetWatch.Probing

namespace Correlator

inductive Fares (c : Correlator) (i : Nat) (p : Probe) : Event → Probe → Prop where
  | stays {e : Event} : Fares c i p e p
  | moves {e : Event} {p' : Probe} : Moves c i p e p' → Fares c i p e p'
  | registers {key : Key} : p.phase = .admitted → c.registration? (.register i) = some (i, key) →
      Fares c i p (.register i) { p with phase := .registered, key := key }
  | ends {e : Event} {p' : Probe} : Ends c i p e p' → Fares c i p e p'
  | answered {source : Net.IpAddress} {key : Key} : c.receiver = .running →
      c.lookup key = some ⟨source, some i⟩ → p.signal = .silent →
      Fares c i p (.route source (some key)) { p with signal := .answered }
  | closes {e : Event} {entry : Key × Pending} : entry ∈ c.pending → entry.2.signals = some i →
      p.signal = .silent → Fares c i p e { p with signal := .closed }

/-! ## Signals from the map -/

theorem getElem?_deliver (c : Correlator) (signal : Signal) (j i : Nat) :
    (c.deliver signal j).probes[i]? = c.probes[i]?.map fun p =>
      if j = i ∧ p.signal = .silent then { p with signal := signal } else p := by
  unfold deliver modifyProbe
  rw [List.getElem?_modify]
  by_cases hj : j = i
  · simp [hj]
  · simp [hj]

theorem foldl_deliver_eq (signal : Signal) (js : List Nat) (c : Correlator) :
    js.foldl (fun c j => c.deliver signal j) c =
      { c with probes := (js.foldl (fun c j => c.deliver signal j) c).probes } := by
  induction js generalizing c with
  | nil => rfl
  | cons j js ih =>
    rw [List.foldl_cons, ih]
    rfl

theorem getElem?_foldl_deliver {signal : Signal} (hs : signal ≠ .silent) (js : List Nat)
    (c : Correlator) (i : Nat) :
    (js.foldl (fun c j => c.deliver signal j) c).probes[i]? = c.probes[i]?.map fun p =>
      if i ∈ js ∧ p.signal = .silent then { p with signal := signal } else p := by
  induction js generalizing c with
  | nil => simp
  | cons j js ih =>
    rw [List.foldl_cons, ih, getElem?_deliver, Option.map_map]
    congr 1
    funext p
    by_cases hj : j = i
    · by_cases hp : p.signal = .silent <;> simp [hj, hp, hs]
    · simp [hj, Ne.symm hj]

theorem cleared_eq (c : Correlator) :
    c.cleared = { c with pending := [], probes := c.cleared.probes } :=
  foldl_deliver_eq ..

theorem getElem?_cleared (c : Correlator) (i : Nat) :
    c.cleared.probes[i]? = c.probes[i]?.map fun p =>
      if i ∈ c.pending.filterMap (·.2.signals) ∧ p.signal = .silent
      then { p with signal := .closed } else p :=
  getElem?_foldl_deliver (by decide) ..

/-! ## The fate of each probe -/

theorem getElem?_set_self {probes : List Probe} {i : Nat} {p : Probe} (hp : probes[i]? = some p)
    (p' : Probe) : (probes.set i p')[i]? = some p' :=
  List.getElem?_set_self (List.getElem?_eq_some_iff.1 hp).1

section

variable {c : Correlator} {i j : Nat} {p q q' : Probe} {e : Event}

theorem fares_set (hp : c.probes[i]? = some p) (hq : c.probes[j]? = some q)
    (h : Fares c j q e q') : ∃ p', (c.probes.set j q')[i]? = some p' ∧ Fares c i p e p' := by
  by_cases hj : j = i
  · subst hj
    obtain rfl : q = p := Option.some.inj (hq.symm.trans hp)
    exact ⟨q', getElem?_set_self hq _, h⟩
  · exact ⟨p, by rw [List.getElem?_set_ne hj, hp], .stays⟩

theorem fares_cleared (hp : c.probes[i]? = some p) (e : Event) :
    ∃ p', c.cleared.probes[i]? = some p' ∧ Fares c i p e p' := by
  refine ⟨_, by rw [getElem?_cleared, hp, Option.map_some], ?_⟩
  split
  · next h =>
    obtain ⟨entry, hmem, hs⟩ := List.mem_filterMap.1 h.1
    exact .closes hmem hs h.2
  · exact .stays

/-- Each probe goes on under its number, in one of the listed ways. -/
theorem fares_step (hp : c.probes[i]? = some p) (e : Event) :
    ∃ p', (c.step e).probes[i]? = some p' ∧ Fares c i p e p' := by
  have h := change_step c e
  generalize c.step e = c' at h
  cases h with
  | idle => exact ⟨p, hp, .stays⟩
  | call target policy =>
    have hi := (List.getElem?_eq_some_iff.1 hp).1
    exact ⟨p, by rw [List.getElem?_append_left hi, hp], .stays⟩
  | moves hq hm => exact fares_set hp hq (.moves hm)
  | registers hq hphase hfree hkey =>
    subst hkey
    exact fares_set hp hq (.registers hphase (by simp [registration?, hq, hphase, hfree]))
  | ends hq he => exact fares_set hp hq (.ends he)
  | @answers source key j hr hl =>
    have hp' : (c.spend key).probes[i]? = some p := hp
    refine ⟨_, by rw [getElem?_deliver, hp', Option.map_some], ?_⟩
    split
    · next h =>
      obtain ⟨rfl, hs⟩ := h
      exact .answered hr hl hs
    · exact .stays
  | leaves => exact ⟨p, hp, .stays⟩
  | clears => exact fares_cleared hp _
  | shuts => exact ⟨p, hp, .stays⟩
  | shut => exact fares_cleared hp _

theorem called_of_step (hp : c.probes[i]? = none) (hq : (c.step e).probes[i]? = some q) :
    ∃ target policy, q = { target := target, policy := policy } := by
  have h := change_step c e
  generalize c.step e = c' at h hq
  have hset {j : Nat} {q' : Probe} : (c.probes.set j q')[i]? ≠ some q := by
    rw [List.getElem?_eq_none (by simpa using hp)]
    exact nofun
  have hcleared : c.cleared.probes[i]? ≠ some q := by
    rw [getElem?_cleared, hp]
    exact nofun
  cases h with
  | idle => exact absurd hq (by simp [hp])
  | call target policy =>
    have hi := List.getElem?_eq_none_iff.1 hp
    rw [List.getElem?_append_right hi] at hq
    exact ⟨target, policy, (List.mem_singleton.1 (List.mem_of_getElem? hq))⟩
  | moves => exact absurd hq hset
  | registers => exact absurd hq hset
  | ends => exact absurd hq hset
  | answers hr hl =>
    rw [getElem?_deliver] at hq
    exact absurd hq (by simp [spend, hp])
  | leaves => exact absurd hq (by simp [hp])
  | clears => exact absurd hq hcleared
  | shuts => exact absurd hq (by simp [hp])
  | shut => exact absurd hq hcleared

/-- What holds of every new probe and is kept in every fate holds of all probes after a step. -/
theorem forall_probes_step {P : Nat → Probe → Prop} {Q : Nat → Probe → Prop}
    (h : ∀ i p, c.probes[i]? = some p → P i p)
    (hnew : ∀ i target policy, Q i { target := target, policy := policy })
    (hfare : ∀ i p p', c.probes[i]? = some p → Fares c i p e p' → P i p → Q i p') :
    ∀ i p', (c.step e).probes[i]? = some p' → Q i p' := by
  intro i p' hp'
  cases hp : c.probes[i]? with
  | none =>
    obtain ⟨target, policy, rfl⟩ := called_of_step hp hp'
    exact hnew i target policy
  | some p =>
    obtain ⟨q, hq, hf⟩ := fares_step hp e
    obtain rfl : q = p' := Option.some.inj (hq.symm.trans hp')
    exact hfare i p q hp hf (h i p hp)

/-! ## What stays -/

theorem Moves.frame (h : Moves c i p e q) : q.key = p.key ∧ q.target = p.target ∧
    q.signal = p.signal ∧ q.isRegistered = p.isRegistered := by
  cases h with
  | admitted h | refused h | confirmed h | sent h | timedOut h =>
    simp [Probe.isRegistered, h]
  | withdrawn => exact ⟨rfl, rfl, rfl, rfl⟩
  | dropped h => rcases h with h | h <;> simp [Probe.isRegistered, h]

theorem Ends.frame (h : Ends c i p e q) : q.key = p.key ∧ q.target = p.target ∧
    q.signal = p.signal ∧ p.isRegistered ∧ q.isRegistered = false := by
  cases h with
  | overtaken h | sendFailed h | cancelled h | answered h | channelClosed h | exhausted h =>
    simp [Probe.isRegistered, h]
  | dropped h => exact ⟨rfl, rfl, rfl, h, rfl⟩

end

end Correlator

end NetWatch.Probing
