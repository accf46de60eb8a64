import NetWatch.Proofs.Probing.Entries
import NetWatch.Proofs.Probing.Routing

/-!
# What the map holds

The map of an open correlator holds the registered probes, each under its own key with its own
target. A probe that ends takes its entry away and touches nothing else. Replies with different keys
do not depend on each other, so the order in which they are routed does not matter.
-/

namespace NetWatch.Probing

namespace Correlator

variable {c : Correlator} {i : Nat} {p p' : Probe} {e : Event} {key other : Key}
  {source source' target : Net.IpAddress}

/-! ## Entries of registered probes -/

theorem Complete.mem_pending_iff (h : Complete c) (hr : c.receiver ≠ .gone) :
    (∃ signals, (key, ⟨target, signals⟩) ∈ c.pending) ↔ ∃ i, c.Asks i key target := by
  constructor
  · rintro ⟨signals, hmem⟩
    obtain ⟨i, p, hp, hown⟩ := h.owned _ hmem
    exact ⟨i, p, hp, hown.registered, hown.key, hown.target⟩
  · rintro ⟨i, p, hp, hreg, rfl, rfl⟩
    obtain ⟨⟨target, signals⟩, hmem, hown⟩ := h.entered hr i p hp hreg
    obtain rfl : p.target = target := hown.target
    exact ⟨signals, hmem⟩

theorem Complete.receiver_of_open (h : Complete c) (hopen : c.closed = false) :
    c.receiver = .running := by
  by_contra hr
  cases (h.shut hr).symm.trans hopen

/-! ## Ends -/

/-- An end takes away the entries under the probe's key and leaves everything else. -/
theorem ends_step (hp : c.probes[i]? = some p) (hreg : p.isRegistered)
    (hp' : (c.step e).probes[i]? = some p') (hend : p'.isRegistered = false) :
    Ends c i p e p' ∧ c.step e = { c.erase p.key with probes := c.probes.set i p' } := by
  have hkeeps {q : Probe} (hq : p'.isRegistered = q.isRegistered) (hpq : q = p) : False := by
    rw [hpq, hreg, hend] at hq
    cases hq
  -- a change of one probe ends ours only if it is ours and gives up its entry
  have hset {j : Nat} {q q' : Probe} (hq : c.probes[j]? = some q)
      (hj : (c.probes.set j q')[i]? = some p') : j = i ∧ q = p ∧ q' = p' := by
    by_cases hne : j = i
    · subst hne
      rw [getElem?_set_self hq] at hj
      exact ⟨rfl, Option.some.inj (hq.symm.trans hp), Option.some.inj hj⟩
    · rw [List.getElem?_set_ne hne, hp] at hj
      exact (hkeeps rfl (Option.some.inj hj).symm).elim
  have hcleared (hp' : c.cleared.probes[i]? = some p') : False := by
    rw [getElem?_cleared, hp, Option.map_some] at hp'
    refine hkeeps (q := p) ?_ rfl
    rw [← Option.some.inj hp']
    split <;> rfl
  have hc := change_step c e
  generalize c.step e = c' at hp' hc ⊢
  cases hc with
  | idle | leaves | shuts => exact (hkeeps rfl (Option.some.inj (hp'.symm.trans hp))).elim
  | call target policy =>
    rw [List.getElem?_append_left (List.getElem?_eq_some_iff.1 hp).1] at hp'
    exact (hkeeps rfl (Option.some.inj (hp'.symm.trans hp))).elim
  | moves hq hm =>
    obtain ⟨rfl, rfl, rfl⟩ := hset hq hp'
    exact (hkeeps hm.frame.2.2.2 rfl).elim
  | registers hq hphase =>
    obtain ⟨rfl, rfl, rfl⟩ := hset hq hp'
    cases hend
  | ends hq he =>
    obtain ⟨rfl, rfl, rfl⟩ := hset hq hp'
    exact ⟨he, rfl⟩
  | answers hr hl =>
    rw [getElem?_deliver] at hp'
    refine (hkeeps (q := p) ?_ rfl).elim
    obtain ⟨q, hq, rfl⟩ := Option.map_eq_some_iff.1 hp'
    obtain rfl : q = p := Option.some.inj (hq.symm.trans hp)
    split <;> rfl
  | clears => exact (hcleared hp').elim
  | shut => exact (hcleared hp').elim

/-! ## Replies with different keys -/

theorem lookup_spend_of_ne (h : key ≠ other) : (c.spend other).lookup key = c.lookup key := by
  unfold lookup spend
  have hkey (entry : Key × Pending) : ((fun entry : Key × Pending => decide (entry.1 = key)) ∘
      fun entry => if entry.1 = other then
        (other, { target := entry.2.target, signals := none }) else entry) entry =
      decide (entry.1 = key) := by
    rw [Function.comp_apply]
    split
    · next heq => rw [heq]
    · rfl
  rw [List.find?_map, funext hkey]
  cases hfind : c.pending.find? (·.1 = key) with
  | none => rfl
  | some entry =>
    have heq : entry.1 = key := by simpa using List.find?_some hfind
    rw [Option.map_some, if_neg (heq ▸ h)]

theorem spend_comm (c : Correlator) (key other : Key) :
    (c.spend key).spend other = (c.spend other).spend key := by
  simp only [spend, List.map_map, mk.injEq, and_true]
  refine List.map_congr_left fun entry _ => ?_
  simp only [Function.comp_apply]
  by_cases hk : entry.1 = key <;> by_cases ho : entry.1 = other <;> simp_all

theorem deliver_comm (c : Correlator) (signal : Signal) (i j : Nat) :
    (c.deliver signal i).deliver signal j = (c.deliver signal j).deliver signal i := by
  by_cases hij : i = j
  · rw [hij]
  · simp only [deliver, modifyProbe, List.modify_modify_ne _ _ _ hij]

theorem step_route_eq (c : Correlator) (source : Net.IpAddress) (key : Key) :
    c.step (.route source (some key)) = match c.signalled? (.route source (some key)) with
      | some i => (c.spend key).deliver .answered i
      | none => c := by
  have h := change_step c (.route source (some key))
  generalize c.step (.route source (some key)) = c' at h ⊢
  cases h with
  | idle _ hnone => rw [hnone]
  | moves _ hm => cases hm
  | ends _ he => cases he
  | answers hr hl => rw [signalled?_eq_some_iff.2 ⟨_, _, rfl, hr, hl⟩]

theorem signalled?_answered (h : key ≠ other) :
    ((c.spend other).deliver .answered i).signalled? (.route source (some key)) =
      c.signalled? (.route source (some key)) := by
  have hlookup : ((c.spend other).deliver .answered i).lookup key = c.lookup key :=
    lookup_spend_of_ne h
  simp only [signalled?, hlookup]
  rfl

theorem step_route_comm {key other : Option Key} (h : key ≠ other) :
    (c.step (.route source key)).step (.route source' other) =
      (c.step (.route source' other)).step (.route source key) := by
  cases key with
  | none => rw [step_route_none, step_route_none]
  | some key =>
    cases other with
    | none => rw [step_route_none, step_route_none]
    | some other =>
      have hne : key ≠ other := fun heq => h (congrArg some heq)
      rw [step_route_eq c source key, step_route_eq c source' other]
      cases hi : c.signalled? (.route source (some key)) with
      | none =>
        cases hj : c.signalled? (.route source' (some other)) with
        | none => simp only [step_route_eq, hi, hj]
        | some j => simp only [step_route_eq, signalled?_answered hne, hi, hj]
      | some i =>
        cases hj : c.signalled? (.route source' (some other)) with
        | none => simp only [step_route_eq, signalled?_answered hne.symm, hi, hj]
        | some j =>
          simp only [step_route_eq, signalled?_answered hne, signalled?_answered hne.symm, hi, hj]
          calc (((c.spend key).deliver .answered i).spend other).deliver .answered j
              = (((c.spend key).spend other).deliver .answered i).deliver .answered j := rfl
            _ = (((c.spend other).spend key).deliver .answered j).deliver .answered i := by
              rw [spend_comm, deliver_comm]
            _ = (((c.spend other).deliver .answered j).spend key).deliver .answered i := rfl

/-! ## All runs -/

/-- The map keeps the books of the probes. In every state that a run can come to:

- while the correlator is open, the keys in the map are those of the registered probes, each with
  the target of its probe; there is one entry for each key, and no two registered probes have one
  key;
- a registered probe that ends does so in one of the listed ways, and with it go the entries under
  its key; all other entries and all other probes stay as they are;
- two replies with different keys may be routed in either order. -/
theorem map_holds_registered_probes (first : Key) (events : List Event) :
    let c := (start first).run events
    (c.closed = false →
      (∀ key target, (∃ signals, (key, ⟨target, signals⟩) ∈ c.pending) ↔
        ∃ i, c.Asks i key target) ∧
      (c.pending.map (·.1)).Nodup ∧
      (∀ i j key target target', c.Asks i key target → c.Asks j key target' → i = j)) ∧
    (∀ e i p p', c.probes[i]? = some p → p.isRegistered → (c.step e).probes[i]? = some p' →
      p'.isRegistered = false → Ends c i p e p' ∧
        (c.step e).pending = c.pending.filter (·.1 ≠ p.key) ∧
        ∀ j, j ≠ i → (c.step e).probes[j]? = c.probes[j]?) ∧
    (∀ source source' (key other : Option Key), key ≠ other →
      (c.step (.route source key)).step (.route source' other) =
        (c.step (.route source' other)).step (.route source key)) := by
  intro c
  have hc : Complete c := complete_run first events
  refine ⟨?opened, ?ends, fun _ _ _ _ hne => step_route_comm hne⟩
  case opened =>
    intro hopen
    have hr : c.receiver ≠ .gone := by simp [hc.receiver_of_open hopen]
    refine ⟨fun _ _ => hc.mem_pending_iff hr, hc.distinct, ?_⟩
    rintro i j key target target' ⟨p, hp, hreg, rfl, _⟩ ⟨q, hq, hreg', hkey, _⟩
    exact hc.apart hr i j p q hp hq hreg hreg' hkey.symm
  case ends =>
    intro e i p p' hp hreg hp' hend
    obtain ⟨he, hstep⟩ := ends_step hp hreg hp' hend
    refine ⟨he, by rw [hstep]; rfl, fun j hj => ?_⟩
    rw [hstep]
    exact List.getElem?_set_ne (Ne.symm hj)

/-- The second probe is the only one in the map, and it leaves when it is dropped. -/
theorem map_holds_second_probe :
    let c := (start 7).run twoProbes
    c.closed = false ∧ (∃ signals, (8, ⟨.v4 .loopback, signals⟩) ∈ c.pending) ∧
      (c.step (.drop 1)).pending = c.pending.filter (·.1 ≠ 8) ∧
      (c.step (.route (.v4 .loopback) (some 7))).step (.route (.v4 .loopback) (some 8)) =
        (c.step (.route (.v4 .loopback) (some 8))).step (.route (.v4 .loopback) (some 7)) := by
  intro c
  obtain ⟨hopen, hends, hroute⟩ := map_holds_registered_probes 7 twoProbes
  refine ⟨rfl, ?_, ?_, hroute _ _ _ _ (by decide)⟩
  · exact ((hopen rfl).1 8 (.v4 .loopback)).2 ⟨1, _, rfl, rfl, rfl, rfl⟩
  · exact (hends (.drop 1) 1 _ _ rfl rfl rfl rfl).2.1

end Correlator

end NetWatch.Probing
