import NetWatch.Proofs.Probing.Entries

/-!
# The end of the receiver

When the receiver has gone, no probe waits for it any more: whoever was in the map has a signal or a
closed channel, and whoever comes later is turned away at one of the two checks. The only thing that
matters for this is the order of the steps: a probe registers and then looks whether the correlator
is closed, while the receiver closes the correlator and then clears the map.
-/

namespace NetWatch.Probing

namespace Probe

/-- A probe that has not begun, or that ended without having been let in. -/
def StaysOut (p : Probe) : Prop :=
  p.phase = .called ∨ p.phase = .dropped ∨ p.phase = .returned (.error .shutDown)

theorem StaysOut.isRegistered {p : Probe} (h : p.StaysOut) : p.isRegistered = false := by
  rcases h with h | h | h <;> simp [Probe.isRegistered, h]

/-- The call has returned, or its caller has given it up. -/
def isOver (p : Probe) : Bool :=
  match p.phase with
  | .returned _ | .dropped => true
  | _ => false

def verdict (p : Probe) : Except Error Outcome :=
  if p.cancelled then .error (.cancelled (some p.target))
  else if p.signal = .answered then .ok (.answered p.attempts)
  else .error .shutDown

end Probe

namespace Correlator

/-- Why a probe may return something else than that its correlator is shut down. Time is up only
while the receiver is there. -/
inductive Excused (c : Correlator) (i : Nat) : Event → Except Error Outcome → Prop where
  | answered {p : Probe} {expired : Bool} : c.probes[i]? = some p → p.phase = .waiting →
      p.signal = .answered → Excused c i (.look i expired) (.ok (.answered p.attempts))
  | cancelled {p : Probe} {expired : Bool} : c.probes[i]? = some p → p.phase = .waiting →
      p.cancelled → Excused c i (.look i expired) (.error (.cancelled (some p.target)))
  | exhausted {p : Probe} : c.probes[i]? = some p → p.phase = .waiting → p.signal = .silent →
      p.policy.retries < p.attempts → c.receiver ≠ .gone →
      Excused c i (.look i true) (.ok (.unanswered p.attempts))
  | sendFailed {p : Probe} : c.probes[i]? = some p → p.phase = .sending →
      Excused c i (.send i false) (.ok (.unanswered (p.attempts + 1)))

def send? (c : Correlator) : Event → Option Nat
  | .send i _ => match c.probes[i]? with
    | some p => match p.phase with
      | .sending => some i
      | _ => none
    | none => none
  | _ => none

def sends (c : Correlator) (events : List Event) : List Nat := trace send? c events

variable {c : Correlator} {i : Nat} {p p' : Probe} {e : Event} {result : Except Error Outcome}

/-! ## Probes with a signal -/

/-- A signal ends the wait, whether or not the time is up. -/
theorem step_look_signalled (hp : c.probes[i]? = some p) (hphase : p.phase = .waiting)
    (hs : p.signal ≠ .silent) (expired : Bool) : (c.step (.look i expired)).probes[i]? =
      some { p with phase := .returned p.verdict } := by
  have hstep : c.step (.look i expired) = c.finish i p p.verdict := by
    simp only [step, Event.probe?, hp, stepProbe, hphase, looked, Probe.verdict]
    split
    · rfl
    · cases hsignal : p.signal with
      | silent => exact absurd hsignal hs
      | answered => rfl
      | closed => rfl
  rw [hstep, finish_eq hp]
  exact getElem?_set_self hp _

/-! ## Results -/

theorem Complete.confirmed_silent (h : Complete c) (hp : c.probes[i]? = some p)
    (hconfirmed : p.isConfirmed) (hs : p.signal = .silent) : c.receiver ≠ .gone :=
  fun hr => h.woken hr i p hp hconfirmed hs

theorem Ends.excused (h : Ends c i p e p') (hc : Complete c) (hp : c.probes[i]? = some p)
    (hresult : p'.phase = .returned result) : result = .error .shutDown ∨ Excused c i e result := by
  cases h with
  | overtaken | channelClosed =>
    cases hresult
    exact .inl rfl
  | sendFailed hphase =>
    cases hresult
    exact .inr (.sendFailed hp hphase)
  | cancelled hphase hcancelled =>
    cases hresult
    exact .inr (.cancelled hp hphase hcancelled)
  | answered hphase _ hs =>
    cases hresult
    exact .inr (.answered hp hphase hs)
  | exhausted hphase _ hs hlt =>
    cases hresult
    have hr := hc.confirmed_silent hp (by simp [Probe.isConfirmed, hphase]) hs
    exact .inr (.exhausted hp hphase hs hlt hr)
  | dropped => cases hresult

theorem Moves.returned (h : Moves c i p e p') (hresult : p'.phase = .returned result) :
    p.phase = .returned result ∨ result = .error .shutDown := by
  cases h with
  | refused =>
    cases hresult
    exact .inr rfl
  | withdrawn => exact .inl hresult
  | admitted | confirmed | sent | timedOut | dropped => cases hresult

/-- Whatever a probe has returned, it was shut out, or it had an excuse at some moment of the
run. -/
theorem excused_of_returned (first : Key) (events : List Event) :
    ∀ (i : Nat) (p : Probe), ((start first).run events).probes[i]? = some p →
      ∀ result, p.phase = .returned result → result = .error .shutDown ∨
        ∃ before e after, events = before ++ e :: after ∧
          ((start first).run before).Excused i e result := by
  induction events using List.reverseRecOn with
  | nil =>
    intro i p hp
    cases hp
  | append_singleton events e ih =>
    rw [run_append_singleton]
    refine forall_probes_step ih (fun _ _ _ => nofun) ?_
    intro i p p' hp hf hold result hresult
    have hlater : (result = .error .shutDown ∨ ∃ before e after, events = before ++ e :: after ∧
        ((start first).run before).Excused i e result) → result = .error .shutDown ∨
        ∃ before e' after, events ++ [e] = before ++ e' :: after ∧
          ((start first).run before).Excused i e' result := by
      rintro (h | ⟨before, e', after, rfl, h⟩)
      · exact .inl h
      · exact .inr ⟨before, e', after ++ [e], by simp, h⟩
    cases hf with
    | stays | answered | closes => exact hlater (hold result hresult)
    | moves hm =>
      obtain hphase | hshut := hm.returned hresult
      · exact hlater (hold result hphase)
      · exact .inl hshut
    | registers => cases hresult
    | ends he =>
      exact (he.excused (complete_run first events) hp hresult).imp id
        fun h => ⟨events, e, [], rfl, h⟩

/-! ## Probes that come too late -/

/-- A closed correlator lets nobody in. -/
theorem Fares.staysOut (h : Fares c i p e p') (hclosed : c.closed) (hp : p.StaysOut) :
    p'.StaysOut := by
  have hreg := hp.isRegistered
  cases h with
  | stays | answered | closes => exact hp
  | moves hm =>
    cases hm with
    | admitted _ hopen => simp [hopen] at hclosed
    | refused => exact .inr (.inr rfl)
    | confirmed h | sent h | timedOut h => simp [Probe.isRegistered, h] at hreg
    | withdrawn => exact hp
    | dropped => exact .inr (.inl rfl)
  | registers h => rcases hp with hp | hp | hp <;> cases h.symm.trans hp
  | ends he => cases he.frame.2.2.2.1.symm.trans hreg

theorem staysOut_step (hclosed : c.closed)
    (hout : ∀ p, c.probes[i]? = some p → p.StaysOut) (hp : (c.step e).probes[i]? = some p) :
    p.StaysOut := by
  cases hq : c.probes[i]? with
  | none =>
    obtain ⟨_, _, rfl⟩ := called_of_step hq hp
    exact .inl rfl
  | some q =>
    obtain ⟨p', hp', hf⟩ := fares_step hq e
    obtain rfl : p' = p := Option.some.inj (hp'.symm.trans hp)
    exact hf.staysOut hclosed (hout q hq)

theorem send?_ne_of_staysOut (hout : ∀ p, c.probes[i]? = some p → p.StaysOut) (e : Event) :
    c.send? e ≠ some i := by
  intro hsend
  unfold send? at hsend
  split at hsend
  · split at hsend
    · next p hp =>
      split at hsend
      · next hphase =>
        cases hsend
        have hreg := (hout p hp).isRegistered
        simp [Probe.isRegistered, hphase] at hreg
      · cases hsend
    · cases hsend
  · cases hsend

/-- Who has not begun when the correlator is closed never sends, and is never let in. -/
theorem staysOut_run (hclosed : c.closed) (hout : ∀ p, c.probes[i]? = some p → p.StaysOut)
    (events : List Event) : i ∉ c.sends events ∧
      ∀ p, (c.run events).probes[i]? = some p → p.StaysOut := by
  induction events generalizing c with
  | nil => exact ⟨List.not_mem_nil, hout⟩
  | cons e events ih =>
    obtain ⟨hsends, hlast⟩ := ih (closed_step hclosed e) fun p hp => staysOut_step hclosed hout hp
    refine ⟨fun hmem => ?_, hlast⟩
    rcases List.mem_append.1 hmem with hnow | hlater
    · exact send?_ne_of_staysOut hout e (Option.mem_toList.1 hnow)
    · exact hsends hlater

theorem step_check_closed (hclosed : c.closed) (hp : c.probes[i]? = some p)
    (hphase : p.phase = .called) : (c.step (.check i)).probes[i]? =
      some { p with phase := .returned (.error .shutDown) } := by
  simp only [step, Event.probe?, hp, stepProbe, hphase, checked, hclosed, if_true]
  rw [modifyProbe_eq hp]
  exact getElem?_set_self hp _

/-! ## All runs -/

theorem Tracked.pending_eq_nil (h : Tracked c) (hover : ∀ p ∈ c.probes, p.isOver) :
    c.pending = [] := by
  refine List.eq_nil_iff_forall_not_mem.2 fun entry hmem => ?_
  obtain ⟨i, p, hp, hown⟩ := h.owned entry hmem
  have hreg := hown.registered
  have hp := hover p (List.mem_of_getElem? hp)
  cases hphase : p.phase <;> simp [Probe.isRegistered, Probe.isOver, hphase] at hreg hp

/-- The end of the receiver strands nobody. At any moment of a run:

- once the receiver is gone, having closed the correlator and cleared the map, every probe past its
  second check has been answered or finds its channel closed: its next look at the wait ends it,
  whether or not its time is up;
- what a probe has returned is that the correlator is shut down, unless it was answered, cancelled,
  out of attempts before the receiver was gone, or could not send;
- a probe that had not begun when the correlator was closed never sends, and gets nothing but that
  the correlator is shut down;
- when all calls are over, the map is empty. -/
theorem no_probe_is_stranded (first : Key) (events : List Event) :
    let c := (start first).run events
    (c.receiver = .gone → c.closed ∧ ∀ i p, c.probes[i]? = some p → p.isConfirmed →
      (p.signal = .answered ∨ p.signal = .closed) ∧
      (p.phase = .waiting → ∀ expired, (c.step (.look i expired)).probes[i]? =
        some { p with phase := .returned p.verdict })) ∧
    (∀ i p result, c.probes[i]? = some p → p.phase = .returned result →
      result = .error .shutDown ∨ ∃ before e after, events = before ++ e :: after ∧
        ((start first).run before).Excused i e result) ∧
    (∀ before after i, events = before ++ after → ((start first).run before).closed →
      (∀ p, ((start first).run before).probes[i]? = some p → p.phase = .called) →
      i ∉ ((start first).run before).sends after ∧ ∀ p, c.probes[i]? = some p → p.StaysOut ∧
        (p.phase = .called → (c.step (.check i)).probes[i]? =
          some { p with phase := .returned (.error .shutDown) })) ∧
    ((∀ p ∈ c.probes, p.isOver) → c.pending = []) := by
  intro c
  have hc : Complete c := complete_run first events
  refine ⟨?gone, fun i p result hp => excused_of_returned first events i p hp result, ?late,
    hc.pending_eq_nil⟩
  case gone =>
    intro hr
    refine ⟨hc.shut (by simp [hr]), fun i p hp hconfirmed => ?_⟩
    have hs := hc.woken hr i p hp hconfirmed
    refine ⟨?_, fun hphase => step_look_signalled hp hphase hs⟩
    cases hsignal : p.signal with
    | silent => exact absurd hsignal hs
    | answered => exact .inl rfl
    | closed => exact .inr rfl
  case late =>
    intro before after i hevents hclosed hcalled
    obtain ⟨hsends, hout⟩ := staysOut_run hclosed (fun p hp => .inl (hcalled p hp)) after
    have hrun : c = ((start first).run before).run after := by
      rw [← run_append, ← hevents]
    have hstill : c.closed := by
      rw [hrun]
      exact closed_run hclosed after
    refine ⟨hsends, fun p hp => ⟨hout p (hrun ▸ hp), fun hphase => ?_⟩⟩
    exact step_check_closed hstill hp hphase

/-- When the receiver goes, the first probe waits, and the second one is past its first check. The
third one comes later. -/
def receiverGoes : List Event :=
  let target := .v4 .loopback
  [.call target ⟨1, 100⟩, .check 0, .register 0, .recheck 0, .send 0 true,
    .call target ⟨1, 100⟩, .check 1, .leave, .clear, .register 1, .call target ⟨1, 100⟩]

/-- All three get to know, and the map is empty when they do. -/
theorem no_probe_is_stranded_of_three :
    let c := (start 7).run receiverGoes
    let last := (start 7).run (receiverGoes ++ [.look 0 true, .recheck 1, .check 2])
    c.receiver = .gone ∧
      (∃ p, c.probes[0]? = some p ∧ p.isConfirmed ∧ (p.signal = .answered ∨ p.signal = .closed)) ∧
      (∃ p, last.probes[0]? = some p ∧ p.phase = .returned (.error .shutDown)) ∧
      2 ∉ ((start 7).run (receiverGoes.take 9)).sends (receiverGoes.drop 9) ∧
      last.pending = [] := by
  intro c last
  obtain ⟨hgone, _, hlate, _⟩ := no_probe_is_stranded 7 receiverGoes
  obtain ⟨_, _, _, hover⟩ :=
    no_probe_is_stranded 7 (receiverGoes ++ [.look 0 true, .recheck 1, .check 2])
  obtain ⟨_, hconfirmed⟩ := hgone rfl
  obtain ⟨hsignal, hlook⟩ := hconfirmed 0 _ rfl rfl
  have hsends := (hlate (receiverGoes.take 9) (receiverGoes.drop 9) 2 rfl rfl nofun).1
  have hend : (c.step (.look 0 true)).probes[0]? = last.probes[0]? := rfl
  refine ⟨rfl, ⟨_, rfl, rfl, hsignal⟩, ⟨_, hend ▸ hlook rfl true, rfl⟩, hsends, hover ?_⟩
  intro p hp
  have hlast : last.probes.all Probe.isOver := rfl
  exact List.all_eq_true.1 hlast p hp

end Correlator

end NetWatch.Probing
