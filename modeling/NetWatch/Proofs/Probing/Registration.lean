import NetWatch.Proofs.Probing.Allocation

/-!
# What a registration does

The search for a key goes up from the counter, and around, without a bound of its own. `Finds` is the
search as it goes, and what it finds is the free key that is nearest (`finds_iff`). As long as the map
is not full it ends there, and the registration adds one entry under that key to the map and leaves
everything else alone (`registration_takes_first_free`).
-/

namespace NetWatch.Probing

namespace Correlator

/-- A key that is taken is passed over, and the first that is not ends the search. -/
inductive Finds (pending : List (Key × Pending)) : (key found : Key) → Prop where
  | free {key : Key} : key ∉ pending.map (·.1) → Finds pending key key
  | taken {key found : Key} : key ∈ pending.map (·.1) → Finds pending (key + 1) found →
      Finds pending key found

/-- How far it is from one key up to another, around if need be. -/
def distance (key other : Key) : Nat := (other - key).toNat

/-- A free key, and none is nearer on the way up from `key`. -/
structure IsFirstFree (pending : List (Key × Pending)) (key found : Key) : Prop where
  free : found ∉ pending.map (·.1)
  nearest : ∀ other, other ∉ pending.map (·.1) → distance key found ≤ distance key other

variable {pending : List (Key × Pending)} {key found other : Key} {c : Correlator} {i : Nat}
  {p : Probe}

/-! ## Distances -/

theorem distance_self (key : Key) : distance key key = 0 := by simp [distance]

theorem distance_of_ne (h : other ≠ key) : distance key other = distance (key + 1) other + 1 := by
  have hne : other.toNat ≠ key.toNat := fun heq => h (UInt64.toNat_inj.1 heq)
  have hkey := key.toNat_lt
  have hother := other.toNat_lt
  have hone : (1 : UInt64).toNat = 1 := rfl
  rw [distance, distance, UInt64.toNat_sub, UInt64.toNat_sub, UInt64.toNat_add, hone]
  omega

theorem eq_of_distance_eq (h : distance key found = distance key other) : found = other :=
  sub_left_injective (UInt64.toNat_inj.1 h)

theorem distance_nthKey_le (key : Key) (n : Nat) : distance key (nthKey key n) ≤ n := by
  have hsub : nthKey key n - key = UInt64.ofNat n := add_sub_cancel_left key _
  rw [distance, hsub, UInt64.toNat_ofNat']
  exact Nat.mod_le _ _

/-! ## The search -/

theorem IsFirstFree.unique (h : IsFirstFree pending key found) (h' : IsFirstFree pending key other) :
    found = other :=
  eq_of_distance_eq (Nat.le_antisymm (h.nearest other h'.free) (h'.nearest found h.free))

theorem isFirstFree_succ (hkey : key ∈ pending.map (·.1)) :
    IsFirstFree pending (key + 1) found ↔ IsFirstFree pending key found := by
  have hne {k : Key} (hk : k ∉ pending.map (·.1)) : k ≠ key := fun heq => hk (heq ▸ hkey)
  constructor
  · rintro ⟨hfree, hnearest⟩
    refine ⟨hfree, fun other hother => ?_⟩
    rw [distance_of_ne (hne hfree), distance_of_ne (hne hother)]
    exact Nat.succ_le_succ (hnearest other hother)
  · rintro ⟨hfree, hnearest⟩
    refine ⟨hfree, fun other hother => ?_⟩
    have hle := hnearest other hother
    rw [distance_of_ne (hne hfree), distance_of_ne (hne hother)] at hle
    exact Nat.le_of_succ_le_succ hle

/-- The search finds the nearest free key and no other. -/
theorem finds_iff : Finds pending key found ↔ IsFirstFree pending key found := by
  constructor
  · intro h
    induction h with
    | free hfree => exact ⟨hfree, fun other _ => (distance_self _).trans_le (Nat.zero_le _)⟩
    | taken hkey _ ih => exact (isFirstFree_succ hkey).1 ih
  · intro h
    -- each key that is passed over is one step nearer
    induction hn : distance key found generalizing key with
    | zero =>
      obtain rfl : found = key := eq_of_distance_eq (hn.trans (distance_self key).symm)
      exact .free h.free
    | succ n ih =>
      have hkey : key ∈ pending.map (·.1) := by
        by_contra hfree
        have hle := h.nearest key hfree
        rw [distance_self, hn] at hle
        omega
      have hne : found ≠ key := fun heq => h.free (heq ▸ hkey)
      rw [distance_of_ne hne] at hn
      exact .taken hkey (ih ((isFirstFree_succ hkey).2 h) (Nat.succ.inj hn))

theorem finds_freeKey {fuel : Nat} (h : freeKey pending key fuel ∉ pending.map (·.1)) :
    Finds pending key (freeKey pending key fuel) := by
  induction fuel generalizing key with
  | zero => exact .free h
  | succ fuel ih =>
    by_cases hkey : key ∈ pending.map (·.1)
    · rw [freeKey_of_mem hkey] at h ⊢
      exact .taken hkey (ih h)
    · rw [freeKey_of_not_mem hkey]
      exact .free hkey

/-- The keys that are passed over are taken, so they are no more than there are entries. -/
theorem IsFirstFree.distance_le (h : IsFirstFree pending key found) :
    distance key found ≤ pending.length := by
  have htaken : ∀ m < distance key found, nthKey key m ∈ pending.map (·.1) := by
    intro m hm
    by_contra hfree
    have hle := h.nearest _ hfree
    have := distance_nthKey_le key m
    omega
  exact le_length_of_taken (Nat.le_of_lt (UInt64.toNat_lt _)) htaken

/-! ## The registration -/

theorem step_register (hp : c.probes[i]? = some p) (hphase : p.phase = .admitted)
    (hroom : c.hasFreeKey) :
    let key := freeKey c.pending c.nextKey (c.pending.length + 1)
    c.step (.register i) = { c with
      pending := (key, ⟨p.target, some i⟩) :: c.pending
      nextKey := c.nextKey + 1
      probes := c.probes.set i { p with phase := .registered, key := key } } := by
  have hstep : c.step (.register i) = c.registered i p := by
    simp only [step, Event.probe?, hp, stepProbe, hphase, hroom, if_true]
  have hinserted : (c.insertFresh p.target i).2.probes[i]? = some p := hp
  rw [hstep, registered]
  exact modifyProbe_eq hinserted _

/-- In a run, nothing has a hold on the channel of a probe that is not registered yet. -/
theorem channel_fresh (first : Key) (events : List Event)
    (hp : ((start first).run events).probes[i]? = some p) (hphase : p.phase = .admitted) :
    p.signal = .silent ∧ ∀ entry ∈ ((start first).run events).pending, entry.2.signals ≠ some i := by
  have h := tracked_run first events
  refine ⟨(h.signalled i p hp).fresh (by simp [Probe.isFresh, hphase]), fun entry hmem hi => ?_⟩
  obtain ⟨q, hq, hown, -⟩ := h.owns hmem hi
  obtain rfl : q = p := Option.some.inj (hq.symm.trans hp)
  have hregistered := hown.registered
  simp [Probe.isRegistered, hphase] at hregistered

theorem lookup_cons (c : Correlator) (entry : Key × Pending) (key : Key) :
    { c with pending := entry :: c.pending }.lookup key =
      if entry.1 = key then some entry.2 else c.lookup key := by
  rw [lookup, List.find?_cons]
  by_cases h : entry.1 = key <;> simp [h, lookup]

/-- What a registration does to a map that is not full, wherever the counter stands.

- The search ends, with the first free key and with nothing else.
- The map gets an entry under that key, with the probe's target and the sending end of its channel.
  All other entries stay, and so does all else but the counter, which goes up by one, and the probe.
- The channel is new: it is silent, and no other entry can signal it. -/
theorem registration_takes_first_free (c : Correlator) (i : Nat) (p : Probe)
    (hp : c.probes[i]? = some p) (hphase : p.phase = .admitted) (hroom : c.pending.length < 2 ^ 64) :
    ∃ key, (∀ found, Finds c.pending c.nextKey found ↔ found = key) ∧
      IsFirstFree c.pending c.nextKey key ∧
      distance c.nextKey key ≤ c.pending.length ∧
      c.step (.register i) = { c with
        pending := (key, ⟨p.target, some i⟩) :: c.pending
        nextKey := c.nextKey + 1
        probes := c.probes.set i { p with phase := .registered, key := key } } ∧
      (∀ other, (c.step (.register i)).lookup other =
        if key = other then some ⟨p.target, some i⟩ else c.lookup other) ∧
      (c.step (.register i)).nextKey.toNat = (c.nextKey.toNat + 1) % 2 ^ 64 ∧
      ∀ first events, c = (start first).run events →
        p.signal = .silent ∧ ∀ entry ∈ c.pending, entry.2.signals ≠ some i := by
  have hfinds := finds_freeKey (freeKey_not_mem hroom c.nextKey)
  have hstep := step_register hp hphase (decide_eq_true hroom)
  have hfirst := finds_iff.1 hfinds
  refine ⟨_, fun found => ⟨fun h => (finds_iff.1 h).unique hfirst, fun h => h ▸ hfinds⟩, hfirst,
    hfirst.distance_le, hstep, fun other => ?_, ?_, ?_⟩
  · rw [hstep]
    exact lookup_cons c _ other
  · rw [hstep]
    exact UInt64.toNat_add _ _
  · rintro first events rfl
    exact channel_fresh first events hp hphase

/-- A correlator whose counter is at the last key, with the entries of two answered probes under that
key and under zero. -/
def atLastKey : Correlator where
  pending := [(0, ⟨.v4 .loopback, none⟩), (18446744073709551615, ⟨.v4 .loopback, none⟩)]
  nextKey := 18446744073709551615
  probes := [{ target := .v4 .loopback, policy := ⟨0, 800⟩, phase := .admitted }]

/-- Behind the last key comes zero, and behind that is the first free key. The counter goes to zero. -/
theorem registration_takes_first_free_wrapped : ∃ p, atLastKey.probes[0]? = some p ∧
    p.phase = .admitted ∧ atLastKey.pending.length < 2 ^ 64 ∧
    Finds atLastKey.pending atLastKey.nextKey 1 ∧
    (atLastKey.step (.register 0)).lookup 1 = some ⟨p.target, some 0⟩ ∧
    (atLastKey.step (.register 0)).lookup 0 = some ⟨.v4 .loopback, none⟩ ∧
    (atLastKey.step (.register 0)).nextKey.toNat = 0 := by
  have hroom : atLastKey.pending.length < 2 ^ 64 := by decide
  obtain ⟨key, hfinds, -, -, -, hlookup, hnext, -⟩ :=
    registration_takes_first_free atLastKey 0 _ rfl rfl hroom
  have hsearch : Finds atLastKey.pending atLastKey.nextKey 1 :=
    .taken (by decide) (.taken (by decide) (.free (by decide)))
  obtain rfl : 1 = key := (hfinds 1).1 hsearch
  exact ⟨_, rfl, rfl, hroom, hsearch, hlookup 1, hlookup 0, hnext⟩

end Correlator

end NetWatch.Probing
