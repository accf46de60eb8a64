import NetWatch.Proofs.Probing.Keys

/-!
# Replies and the probes that they reach

A probe that returns answered was heard: while it was registered, a reply with its key came from its
target. A reply reaches at most one probe, and each probe at most once; a reply that comes too
late, from elsewhere or with a foreign key reaches none.
-/

namespace NetWatch.Probing

namespace Correlator

def Asks (c : Correlator) (i : Nat) (key : Key) (target : Net.IpAddress) : Prop :=
  ∃ p, c.probes[i]? = some p ∧ p.isRegistered ∧ p.key = key ∧ p.target = target

/-- While the probe was registered, a reply with its key was routed that came from its target. -/
def Heard (c : Correlator) (events : List Event) (i : Nat) (p : Probe) : Prop :=
  ∃ before after, events = before ++ .route p.target (some p.key) :: after ∧
    (c.run before).receiver = .running ∧ (c.run before).Asks i p.key p.target

/-- The event puts an answer on the probe's channel. -/
def Signals (c : Correlator) (e : Event) (i : Nat) : Prop :=
  ∃ p, c.probes[i]? = some p ∧ p.signal ≠ .answered ∧
    ∃ p', (c.step e).probes[i]? = some p' ∧ p'.signal = .answered

/-- The probes that the replies of a run have signalled, one number for each signal. -/
def deliveries (c : Correlator) (events : List Event) : List Nat :=
  trace signalled? c events

variable {first : Key} {given : List (Nat × Key)} {c : Correlator} {events : List Event}
  {i : Nat} {p p' : Probe} {source : Net.IpAddress} {key : Key} {e : Event}

/-! ## Routing one reply -/

theorem step_route_none (c : Correlator) (source : Net.IpAddress) :
    c.step (.route source none) = c := rfl

theorem step_route_of_lookup_none (hl : c.lookup key = none) (source : Net.IpAddress) :
    c.step (.route source (some key)) = c := by
  simp only [step, Event.probe?, stepOwn, routed, hl, ite_self]

theorem step_route_of_target_ne {entry : Pending} (hl : c.lookup key = some entry)
    (hne : entry.target ≠ source) : c.step (.route source (some key)) = c := by
  obtain ⟨target, signals⟩ := entry
  cases signals with
  | none => simp only [step, Event.probe?, stepOwn, routed, hl, ite_self]
  | some i => simp only [step, Event.probe?, stepOwn, routed, hl, if_neg hne, ite_self]

theorem step_route_of_lookup (hr : c.receiver = .running)
    (hl : c.lookup key = some ⟨source, some i⟩) :
    c.step (.route source (some key)) = (c.spend key).deliver .answered i := by
  simp only [step, Event.probe?, stepOwn, routed, hl, if_pos hr, if_true]

theorem signalled?_eq_some_iff : c.signalled? e = some i ↔ ∃ source key,
    e = .route source (some key) ∧ c.receiver = .running ∧
      c.lookup key = some ⟨source, some i⟩ := by
  constructor
  · intro h
    unfold signalled? at h
    split at h
    · next source key =>
      refine ⟨source, key, rfl, ?_⟩
      split at h
      · next hr =>
        split at h
        · next entry hl =>
          split at h
          · next ht =>
            obtain ⟨target, signals⟩ := entry
            cases ht
            cases h
            exact ⟨hr, hl⟩
          · cases h
        · cases h
      · cases h
    · cases h
  · rintro ⟨source, key, rfl, hr, hl⟩
    simp only [signalled?, hr, hl, if_true]

/-! ## Signals -/

/-- A reply that finds an entry with its sending end reaches the probe of that entry. -/
theorem Tracked.answers (h : Tracked c) (hr : c.receiver = .running)
    (hl : c.lookup key = some ⟨source, some i⟩) :
    ∃ p, c.probes[i]? = some p ∧ p.isRegistered ∧ p.key = key ∧ p.target = source ∧
      p.signal = .silent ∧ (c.step (.route source (some key))).probes =
        c.probes.set i { p with signal := .answered } := by
  obtain ⟨p, hp, hown, hs⟩ := h.owns (mem_of_lookup hl) rfl
  refine ⟨p, hp, hown.registered, hown.key, hown.target, hs, ?_⟩
  rw [step_route_of_lookup hr hl, deliver_eq (c := c.spend key) hp hs]
  rfl

theorem Tracked.signals_iff (h : Tracked c) (e : Event) (i : Nat) :
    c.Signals e i ↔ c.signalled? e = some i := by
  constructor
  · rintro ⟨p, hp, hne, p', hp', hs⟩
    obtain ⟨q, hq, hf⟩ := fares_step hp e
    obtain rfl : q = p' := Option.some.inj (hq.symm.trans hp')
    cases hf with
    | stays | registers => exact absurd hs hne
    | moves h | ends h =>
      obtain ⟨_, _, hsignal, _⟩ := h.frame
      exact absurd (hsignal.symm.trans hs) hne
    | answered hr hl => exact signalled?_eq_some_iff.2 ⟨_, _, rfl, hr, hl⟩
    | closes => cases hs
  · intro hsig
    obtain ⟨source, key, rfl, hr, hl⟩ := signalled?_eq_some_iff.1 hsig
    obtain ⟨p, hp, _, _, _, hs, hstep⟩ := h.answers hr hl
    refine ⟨p, hp, by simp [hs], { p with signal := .answered }, ?_, rfl⟩
    rw [hstep, getElem?_set_self hp]

theorem Fares.stays_answered (h : Fares c i p e p') (hs : p.signal = .answered) :
    p'.signal = .answered := by
  cases h with
  | stays | registers => exact hs
  | moves h | ends h =>
    obtain ⟨_, _, hsignal, _⟩ := h.frame
    exact hsignal.trans hs
  | answered => rfl
  | closes _ _ hsilent => cases hsilent.symm.trans hs

/-! ## Runs -/

theorem Heard.append (h : c.Heard events i p) (more : List Event) :
    c.Heard (events ++ more) i p := by
  obtain ⟨before, after, rfl, hr, ha⟩ := h
  exact ⟨before, after ++ more, by simp, hr, ha⟩

theorem Heard.of_same (h : c.Heard events i p) (hkey : p'.key = p.key)
    (htarget : p'.target = p.target) : c.Heard events i p' := by
  rwa [Heard, hkey, htarget]

theorem heard_of_answered (first : Key) (events : List Event)
    (hcount : ((start first).registrations events).length < 2 ^ 64) :
    ∀ (i : Nat) (p : Probe), ((start first).run events).probes[i]? = some p →
      p.signal = .answered → (start first).Heard events i p := by
  induction events using List.reverseRecOn with
  | nil =>
    intro i p hp
    cases hp
  | append_singleton events e ih =>
    have hlt := length_registrations_lt hcount
    have hc := consistent_run first events hlt
    rw [run_append_singleton]
    refine forall_probes_step (ih hlt) (fun _ _ _ => nofun) ?_
    intro i p p' hp hf hheard hs
    cases hf with
    | stays => exact (hheard hs).append [e]
    | moves h | ends h =>
      obtain ⟨hkey, htarget, hsignal, _⟩ := h.frame
      exact ((hheard (hsignal ▸ hs)).append [e]).of_same hkey htarget
    | registers hphase =>
      have hsilent := (hc.signalled i p hp).fresh (by simp [Probe.isFresh, hphase])
      cases hsilent.symm.trans hs
    | answered hr hl =>
      obtain ⟨q, hq, hreg, rfl, rfl, _⟩ := hc.answers hr hl
      obtain rfl : q = p := Option.some.inj (hq.symm.trans hp)
      exact ⟨events, [], rfl, hr, q, hq, hreg, rfl, rfl⟩
    | closes => cases hs

/-- The signalled probes are answered, and each was signalled once. -/
theorem deliveries_answered (first : Key) (events : List Event)
    (hcount : ((start first).registrations events).length < 2 ^ 64) :
    ((start first).deliveries events).Nodup ∧ ∀ i ∈ (start first).deliveries events,
      ∃ p, ((start first).run events).probes[i]? = some p ∧ p.signal = .answered := by
  induction events using List.reverseRecOn with
  | nil => exact ⟨List.nodup_nil, nofun⟩
  | append_singleton events e ih =>
    have hlt := length_registrations_lt hcount
    have hc := consistent_run first events hlt
    obtain ⟨hnodup, hanswered⟩ := ih hlt
    have hone : (((start first).run events).signalled? e).toList.Nodup := by
      cases ((start first).run events).signalled? e <;> simp
    unfold deliveries at *
    rw [trace_append_singleton, run_append_singleton]
    refine ⟨hnodup.append hone fun i hold hnew => ?_, fun i hmem => ?_⟩
    · obtain ⟨p, hp, hne, _⟩ := (hc.signals_iff e i).2 (Option.mem_toList.1 hnew)
      obtain ⟨q, hq, hs⟩ := hanswered i hold
      obtain rfl : q = p := Option.some.inj (hq.symm.trans hp)
      exact hne hs
    · rcases List.mem_append.1 hmem with hold | hnew
      · obtain ⟨p, hp, hs⟩ := hanswered i hold
        obtain ⟨p', hp', hf⟩ := fares_step hp e
        exact ⟨p', hp', hf.stays_answered hs⟩
      · obtain ⟨_, _, _, hp'⟩ := (hc.signals_iff e i).2 (Option.mem_toList.1 hnew)
        exact hp'

/-- At any moment of a run, whoever is registered has the key that was given to it. -/
theorem mem_registrations_of_asks {before : List Event} (hbefore : before <+: events)
    (hcount : ((start first).registrations events).length < 2 ^ 64)
    (h : ((start first).run before).Asks i key source) :
    (i, key) ∈ (start first).registrations events := by
  obtain ⟨after, rfl⟩ := hbefore
  have hc := consistent_run first before (length_registrations_lt hcount)
  obtain ⟨p, hp, hreg, rfl, _⟩ := h
  exact registrations_subset _ _ _ (hc.held i p hp hreg)

theorem Consistent.lookup_eq_none (h : Consistent first given c)
    (hcount : given.length < 2 ^ 64) (hgiven : (i, key) ∈ given)
    (hgone : ∀ target, ¬ c.Asks i key target) : c.lookup key = none := by
  cases hl : c.lookup key with
  | none => rfl
  | some entry =>
    obtain ⟨j, p, hp, hreg, hkey, hj⟩ := h.mem_given (mem_of_lookup hl)
    obtain rfl := h.probe_eq hcount hgiven hj
    exact absurd ⟨p, hp, hreg, hkey, rfl⟩ (hgone p.target)

/-- Replies reach the probes that they answer, and no others. At any moment of a run that has
registered fewer than `2 ^ 64` probes:

- a probe has returned answered only if it was heard while it was registered;
- a reply changes nothing, or it signals the one registered probe that has its key and asks its
  source, and that had no signal before;
- nothing else signals a probe, and no probe has been signalled twice;
- no two probes have had one key at any moments;
- a reply to a probe that was registered once and is not any more changes nothing;
- neither does one without a key, with a key that is not in the map, or from elsewhere. -/
theorem replies_reach_their_probes (first : Key) (events : List Event)
    (hcount : ((start first).registrations events).length < 2 ^ 64) :
    let c := (start first).run events
    (∀ (i : Nat) (p : Probe) attempts, c.probes[i]? = some p →
      p.phase = .returned (.ok (.answered attempts)) → (start first).Heard events i p) ∧
    (∀ source key, c.step (.route source key) = c ∨ ∃ i p, c.probes[i]? = some p ∧
      p.isRegistered ∧ key = some p.key ∧ source = p.target ∧ p.signal = .silent ∧
      (c.step (.route source key)).probes = c.probes.set i { p with signal := .answered }) ∧
    (∀ e i, c.Signals e i ↔ c.signalled? e = some i) ∧
    ((start first).deliveries events).Nodup ∧
    (∀ before before' i j key target target', before <+: events → before' <+: events →
      ((start first).run before).Asks i key target →
      ((start first).run before').Asks j key target' → i = j) ∧
    (∀ before i key target source, before <+: events →
      ((start first).run before).Asks i key target → (∀ target', ¬ c.Asks i key target') →
      c.step (.route source (some key)) = c) ∧
    (∀ source, c.step (.route source none) = c) ∧
    (∀ source key, c.lookup key = none → c.step (.route source (some key)) = c) ∧
    (∀ source key entry, c.lookup key = some entry → entry.target ≠ source →
      c.step (.route source (some key)) = c) := by
  intro c
  have hc := consistent_run first events hcount
  refine ⟨?answered, ?reply, hc.signals_iff, (deliveries_answered first events hcount).1, ?keys,
    ?late, step_route_none c, fun source _ hl => step_route_of_lookup_none hl source,
    fun _ _ _ hl hne => step_route_of_target_ne hl hne⟩
  case answered =>
    intro i p attempts hp hphase
    exact heard_of_answered first events hcount i p hp ((hc.signalled i p hp).answered hphase)
  case reply =>
    intro source key
    have hchange := change_step c (.route source key)
    generalize hstep : c.step (.route source key) = c' at hchange ⊢
    cases hchange with
    | idle => exact .inl rfl
    | moves _ hm => cases hm
    | ends _ he => cases he
    | answers hr hl =>
      obtain ⟨p, hp, hreg, rfl, rfl, hs, hprobes⟩ := hc.answers hr hl
      exact .inr ⟨_, p, hp, hreg, rfl, rfl, hs, hstep ▸ hprobes⟩
  case keys =>
    intro before before' i j key target target' hb hb' hi hj
    exact hc.probe_eq hcount (mem_registrations_of_asks hb hcount hi)
      (mem_registrations_of_asks hb' hcount hj)
  case late =>
    intro before i key target source hb hi hgone
    have hgiven := mem_registrations_of_asks hb hcount hi
    exact step_route_of_lookup_none (hc.lookup_eq_none hcount hgiven hgone) source

/-- The first probe is answered and gone when the second one is registered. -/
def twoProbes : List Event :=
  let target := .v4 .loopback
  [.call target ⟨1, 100⟩, .check 0, .register 0, .recheck 0, .send 0 true,
    .route target (some 7), .look 0 false,
    .call target ⟨1, 100⟩, .check 1, .register 1, .recheck 1, .send 1 true]

/-- The first probe was heard, and a duplicate of its reply does not answer the second one. -/
theorem replies_reach_two_probes : ((start 7).registrations twoProbes).length < 2 ^ 64 ∧
    (∃ p, ((start 7).run twoProbes).probes[0]? = some p ∧ (start 7).Heard twoProbes 0 p) ∧
    ((start 7).run twoProbes).step (.route (.v4 .loopback) (some 7)) =
      (start 7).run twoProbes := by
  have hcount : ((start 7).registrations twoProbes).length < 2 ^ 64 := by decide +kernel
  obtain ⟨hanswered, _, _, _, _, hlate, _⟩ := replies_reach_their_probes 7 twoProbes hcount
  have hasks : ((start 7).run (twoProbes.take 3)).Asks 0 7 (.v4 .loopback) :=
    ⟨_, rfl, rfl, rfl, rfl⟩
  have hgone : ∀ target, ¬ ((start 7).run twoProbes).Asks 0 7 target := by
    rintro target ⟨p, hp, hreg, _⟩
    cases hp
    cases hreg
  obtain ⟨p, hp, hphase⟩ : ∃ p, ((start 7).run twoProbes).probes[0]? = some p ∧
      p.phase = .returned (.ok (.answered 1)) := ⟨_, rfl, rfl⟩
  exact ⟨hcount, ⟨p, hp, hanswered 0 p 1 hp hphase⟩,
    hlate _ 0 7 _ _ (List.take_prefix ..) hasks hgone⟩

end Correlator

end NetWatch.Probing
