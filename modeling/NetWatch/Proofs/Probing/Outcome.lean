import NetWatch.Monitor.Icmp
import NetWatch.Proofs.Probing.Attempts
import NetWatch.Proofs.Probing.Routing

/-!
# What the attempts of a probe lead to

The result of a probe can be read off its attempts, and its attempts off its result. Every attempt
but the last one timed out; the last one ended the probe if its send failed, if a look at its wait
saw a withdrawal, an answer or a closed channel, or if it timed out and no other one was left.
-/

namespace NetWatch.Probing

open Net (IpAddress)

namespace Correlator

def HasPassed (c : Correlator) (i : Nat) (events : List Event) : Prop :=
  ∃ before q, before <+: events ∧ (c.run before).probes[i]? = some q ∧ q.isConfirmed

variable {c : Correlator} {i n : Nat} {p p' : Probe} {e : Event} {as : List Attempt} {a : Attempt}
  {l : Look} {phase : Phase} {target : IpAddress} {retries : UInt32}
  {result : Except Error Outcome} {first : Key} {events : List Event}

/-! ## Attempts are sends -/

theorem send?_eq_some_iff : c.send? e = some i ↔
    ∃ sent p, e = .send i sent ∧ c.probes[i]? = some p ∧ p.phase = .sending := by
  constructor
  · intro h
    unfold send? at h
    split at h
    · next j sent =>
      split at h
      · next p hp =>
        split at h
        · next hphase =>
          cases h
          exact ⟨sent, p, rfl, hp, hphase⟩
        · cases h
      · cases h
    · cases h
  · rintro ⟨sent, p, rfl, hp, hphase⟩
    simp only [send?, hp, hphase]

theorem length_marked (c : Correlator) (i : Nat) (e : Event) (as : List Attempt) :
    ((mark? i c e).toList.foldl Mark.add as).length = as.length + (c.send? e).toList.count i := by
  have hno (hmark : mark? i c e = none) (hsend : c.send? e ≠ some i) :
      ((mark? i c e).toList.foldl Mark.add as).length =
        as.length + (c.send? e).toList.count i := by
    rw [hmark, List.count_eq_zero_of_not_mem (mt Option.mem_toList.1 hsend)]
    rfl
  cases hp : c.probes[i]? with
  | none =>
    refine hno (by rw [mark?, hp]; rfl) fun h => ?_
    obtain ⟨_, _, _, hq, _⟩ := send?_eq_some_iff.1 h
    cases hp.symm.trans hq
  | some p =>
    rcases mark?_cases hp e with ⟨sent, rfl, hphase, hmark⟩ | ⟨expired, rfl, hphase, hmark⟩ |
      ⟨hmark, hsend, _⟩
    · rw [hmark, send?_eq_some_iff.2 ⟨sent, p, rfl, hp, hphase⟩]
      simp [Mark.add]
    · rw [hmark]
      exact List.length_modify ..
    · refine hno hmark fun h => ?_
      obtain ⟨sent, q, he, hq, hphase⟩ := send?_eq_some_iff.1 h
      obtain rfl : q = p := Option.some.inj (hq.symm.trans hp)
      exact hsend sent he hphase

theorem length_attempts (c : Correlator) (i : Nat) (events : List Event) :
    (c.attempts i events).length = (c.sends events).count i := by
  induction events using List.reverseRecOn with
  | nil => rfl
  | append_singleton events e ih =>
    rw [attempts_append_singleton, length_marked, ih, sends, sends, trace_append_singleton,
      List.count_append]

/-! ## Probes that were let in -/

theorem Fares.let_in (h : Fares c i p e p') (hp : p.isConfirmed = true ∨ p.phase = .dropped)
    (hsend : ∀ sent, e = .send i sent → p.phase ≠ .sending)
    (hlook : ∀ expired, e = .look i expired → p.phase ≠ .waiting) :
    p'.isConfirmed = true ∨ p'.phase = .dropped := by
  cases h with
  | stays | answered | closes => exact hp
  | registers hphase => simp [Probe.isConfirmed, hphase] at hp
  | moves hm =>
    cases hm with
    | admitted hphase | refused hphase | confirmed hphase => simp [Probe.isConfirmed, hphase] at hp
    | sent hphase => exact absurd hphase (hsend _ rfl)
    | timedOut hphase => exact absurd hphase (hlook _ rfl)
    | withdrawn => exact hp
    | dropped => exact .inr rfl
  | ends he =>
    cases he with
    | overtaken hphase => simp [Probe.isConfirmed, hphase] at hp
    | sendFailed hphase => exact absurd hphase (hsend _ rfl)
    | cancelled hphase | answered hphase | channelClosed hphase | exhausted hphase =>
      exact absurd hphase (hlook _ rfl)
    | dropped => exact .inr rfl

/-- A probe that was let in goes on to its first send, unless it is given up. -/
theorem sends_of_passed (hpassed : (start first).HasPassed i events) :
    ∃ p, ((start first).run events).probes[i]? = some p ∧
      ((start first).attempts i events = [] → p.isConfirmed = true ∨ p.phase = .dropped) := by
  obtain ⟨before, q, ⟨after, rfl⟩, hq, hconfirmed⟩ := hpassed
  induction after using List.reverseRecOn with
  | nil => exact ⟨q, by rwa [List.append_nil], fun _ => .inl hconfirmed⟩
  | append_singleton after e ih =>
    obtain ⟨p, hp, hin⟩ := ih
    have hcourse := ((recorded_run first (before ++ after) i).2 p hp).course
    obtain ⟨p', hp', hf⟩ := fares_step hp e
    rw [← List.append_assoc, run_append_singleton, attempts_append_singleton]
    refine ⟨p', hp', fun hnone => ?_⟩
    have hlength := congrArg List.length hnone
    rw [length_marked, List.length_nil] at hlength
    have hearlier := List.eq_nil_of_length_eq_zero (Nat.eq_zero_of_add_eq_zero_right hlength)
    rcases mark?_cases hp e with ⟨sent, rfl, hphase, hmark⟩ | ⟨expired, rfl, hphase, hmark⟩ |
      ⟨_, hsend, hlook⟩
    · simp [hmark, Mark.add] at hnone
    · rw [hphase] at hcourse
      exact absurd hearlier hcourse.waiting_ne_nil
    · exact hf.let_in (hin hearlier) hsend hlook

/-! ## Courses -/

/-- An attempt timed out and left another one, or it is the last and waits, or it is the last and
has ended the probe. -/
theorem Course.attempt_cases (h : Course target retries phase as) (ha : as[n]? = some a) :
    (a.Ends Look.TimesOut ∧ UInt32.ofNat (n + 1) ≤ retries) ∨ (as.length = n + 1 ∧ a.Waits) ∨
      (as.length = n + 1 ∧ ∃ result, phase = .returned result ∧
        a.Closes target retries (UInt32.ofNat (n + 1)) result) := by
  have hearlier {front : List Attempt} (hfront : Earlier retries front)
      (ha : front[n]? = some a) : a.Ends Look.TimesOut ∧ UInt32.ofNat (n + 1) ≤ retries :=
    ⟨hfront.timedOut a (List.mem_of_getElem? ha),
      hfront.within n (List.getElem?_eq_some_iff.1 ha).1⟩
  have hconcat {front : List Attempt} {b : Attempt} (ha : (front ++ [b])[n]? = some a) :
      front[n]? = some a ∨ n = front.length ∧ b = a := by
    rcases Nat.lt_or_ge n front.length with hn | hn
    · exact .inl (List.getElem?_append_left hn ▸ ha)
    · rw [List.getElem?_append_right hn, List.getElem?_singleton] at ha
      split at ha
      · exact .inr ⟨by omega, Option.some.inj ha⟩
      · cases ha
  cases h with
  | called | admitted | registered | shutOut => simp at ha
  | sending hfront | dropped hfront => exact .inl (hearlier hfront ha)
  | waiting hfront hb | droppedWaiting hfront hb =>
    rcases hconcat ha with ha | ⟨rfl, rfl⟩
    · exact .inl (hearlier hfront ha)
    · exact .inr (.inl ⟨by simp, hb⟩)
  | ended hfront hcloses =>
    rcases hconcat ha with ha | ⟨rfl, rfl⟩
    · exact .inl (hearlier hfront ha)
    · exact .inr (.inr ⟨by simp, _, rfl, hcloses⟩)

theorem Course.timedOut (h : Course target retries phase as) (ha : as[n]? = some a)
    (hn : n + 1 < as.length) : a.Ends Look.TimesOut ∧ UInt32.ofNat (n + 1) ≤ retries := by
  rcases h.attempt_cases ha with hend | ⟨hlast, _⟩ | ⟨hlast, _⟩
  · exact hend
  · omega
  · omega

/-- The count of 32 bits is right as long as it does not go around. -/
theorem Course.le_retries (h : Course target retries phase as) (hn : n + 1 < as.length)
    (hlt : n + 1 < 2 ^ 32) : n + 1 ≤ retries.toNat := by
  have hle := (h.timedOut (List.getElem?_eq_getElem (Nat.lt_of_succ_lt hn)) hn).2
  rwa [UInt32.le_iff_toNat_le, UInt32.toNat_ofNat_of_lt' hlt] at hle

theorem Course.length_le (h : Course target retries phase as) (hlt : as.length < 2 ^ 32) :
    as.length ≤ retries.toNat + 1 := by
  match hlength : as.length with
  | 0 | 1 => omega
  | n + 2 => exact Nat.succ_le_succ (h.le_retries (by omega) (by omega))

/-- A result that a look leads to is that of the probe: to see nothing leads to more of the same wait,
and a time that is up before the last attempt to the next send. -/
theorem Course.returned_of_look (h : Course target retries phase as) (ha : as[n]? = some a)
    (hl : l ∈ a.looks)
    (hleads : l.Leads target retries (UInt32.ofNat (n + 1)) (.returned result)) :
    phase = .returned result := by
  have hidle : ¬ l.Idles := fun h => by cases hleads.unique (.idle h)
  rcases h.attempt_cases ha with ⟨hend, hle⟩ | ⟨_, hwaits⟩ | ⟨_, result', rfl, hcloses⟩
  · rcases hend.of_mem hl with h | h
    · exact absurd h hidle
    · cases hleads.unique (.again h hle)
  · exact absurd (hwaits.2 l hl) hidle
  · cases hcloses with
    | refused _ hnone => simp [hnone] at hl
    | seen hend =>
      rcases hend.of_mem hl with h | h
      · exact absurd h hidle
      · exact h.unique hleads

theorem Course.returned_of_refused (h : Course target retries phase as) (ha : as[n]? = some a)
    (hsent : a.sent = false) :
    phase = .returned (.ok (.unanswered (UInt32.ofNat (n + 1)))) := by
  rcases h.attempt_cases ha with ⟨hend, _⟩ | ⟨_, hwaits⟩ | ⟨_, result, rfl, hcloses⟩
  · cases hsent.symm.trans hend.1
  · cases hsent.symm.trans hwaits.1
  · cases hcloses with
    | refused => rfl
    | seen hend => cases hsent.symm.trans hend.1

/-- A probe that was let in has the result that a look at one of its waits led to, or one of its
sends failed. -/
theorem Course.returned_iff (h : Course target retries phase as) (result : Except Error Outcome)
    (hin : phase = .returned result → result = .error .shutDown → as ≠ []) :
    phase = .returned result ↔ ∃ n a, as[n]? = some a ∧
      ((a.sent = false ∧ result = .ok (.unanswered (UInt32.ofNat (n + 1)))) ∨
        ∃ l ∈ a.looks, l.Leads target retries (UInt32.ofNat (n + 1)) (.returned result)) := by
  constructor
  · rintro rfl
    cases h with
    | shutOut => exact absurd rfl (hin rfl rfl)
    | @ended front a _ _ hcloses =>
      refine ⟨front.length, a, by simp, ?_⟩
      cases hcloses with
      | refused hsent => exact .inl ⟨hsent, rfl⟩
      | seen hend =>
        obtain ⟨-, idle, l, hlooks, -, hl⟩ := hend
        exact .inr ⟨l, hlooks ▸ List.mem_concat_self, hl⟩
  · rintro ⟨n, a, ha, ⟨hsent, rfl⟩ | ⟨l, hl, hleads⟩⟩
    · exact h.returned_of_refused ha hsent
    · exact h.returned_of_look ha hl hleads

/-! ## The outcome -/

theorem eq_ofNat_iff {k : UInt32} (hn : n < 2 ^ 32) : k = UInt32.ofNat n ↔ k.toNat = n := by
  constructor
  · rintro rfl
    exact UInt32.toNat_ofNat_of_lt' hn
  · rintro rfl
    exact UInt32.ofNat_toNat.symm

theorem lt_of_getElem? (ha : as[n]? = some a) (hlt : as.length < 2 ^ 32) : n + 1 < 2 ^ 32 := by
  have hn := (List.getElem?_eq_some_iff.1 ha).1
  omega

theorem Course.answered_iff (h : Course target retries phase as) (hlt : as.length < 2 ^ 32)
    (k : UInt32) : phase = .returned (.ok (.answered k)) ↔
      ∃ n a, k.toNat = n + 1 ∧ as[n]? = some a ∧ a.Finds Look.Answers := by
  rw [h.returned_iff (.ok (.answered k)) fun _ => nofun]
  constructor
  · rintro ⟨n, a, ha, ⟨_, hresult⟩ | ⟨l, hl, hleads⟩⟩
    · cases hresult
    · obtain ⟨hk, hanswers⟩ := Look.leads_answered_iff.1 hleads
      exact ⟨n, a, (eq_ofNat_iff (lt_of_getElem? ha hlt)).1 hk, ha, l, hl, hanswers⟩
  · rintro ⟨n, a, hk, ha, l, hl, hanswers⟩
    have hk := (eq_ofNat_iff (lt_of_getElem? ha hlt)).2 hk
    exact ⟨n, a, ha, .inr ⟨l, hl, Look.leads_answered_iff.2 ⟨hk, hanswers⟩⟩⟩

theorem Course.lt_count_iff (h : Course target retries phase as) (hlt : as.length < 2 ^ 32)
    (ha : as[n]? = some a) : retries < UInt32.ofNat (n + 1) ↔ n = retries.toNat := by
  have hn := (List.getElem?_eq_some_iff.1 ha).1
  have hlength := h.length_le hlt
  rw [UInt32.lt_iff_toNat_lt, UInt32.toNat_ofNat_of_lt' (lt_of_getElem? ha hlt)]
  omega

theorem Course.unanswered_iff (h : Course target retries phase as) (hlt : as.length < 2 ^ 32)
    (k : UInt32) : phase = .returned (.ok (.unanswered k)) ↔
      ∃ n a, k.toNat = n + 1 ∧ as[n]? = some a ∧
        (a.sent = false ∨ n = retries.toNat ∧ a.Finds Look.TimesOut) := by
  rw [h.returned_iff (.ok (.unanswered k)) fun _ => nofun]
  constructor
  · rintro ⟨n, a, ha, hcause⟩
    have hk := eq_ofNat_iff (k := k) (lt_of_getElem? ha hlt)
    rcases hcause with ⟨hsent, hresult⟩ | ⟨l, hl, hleads⟩
    · cases hresult
      exact ⟨n, a, hk.1 rfl, ha, .inl hsent⟩
    · obtain ⟨hcount, htime, hover⟩ := Look.leads_unanswered_iff.1 hleads
      exact ⟨n, a, hk.1 hcount, ha, .inr ⟨(h.lt_count_iff hlt ha).1 hover, l, hl, htime⟩⟩
  · rintro ⟨n, a, hk, ha, hcause⟩
    have hk := (eq_ofNat_iff (lt_of_getElem? ha hlt)).2 hk
    rcases hcause with hsent | ⟨hn, l, hl, htime⟩
    · exact ⟨n, a, ha, .inl ⟨hsent, by rw [hk]⟩⟩
    · have hover := (h.lt_count_iff hlt ha).2 hn
      exact ⟨n, a, ha, .inr ⟨l, hl, Look.leads_unanswered_iff.2 ⟨hk, htime, hover⟩⟩⟩

theorem Course.cancelled_iff (h : Course target retries phase as) (withdrawn : Option IpAddress) :
    phase = .returned (.error (.cancelled withdrawn)) ↔
      withdrawn = some target ∧ ∃ a ∈ as, a.Finds Look.Withdraws := by
  rw [h.returned_iff (.error (.cancelled withdrawn)) fun _ => nofun]
  simp only [Look.leads_cancelled_iff, reduceCtorEq, and_false, false_or]
  constructor
  · rintro ⟨n, a, ha, l, hl, htarget, hwithdraws⟩
    exact ⟨htarget, a, List.mem_of_getElem? ha, l, hl, hwithdraws⟩
  · rintro ⟨htarget, a, hmem, l, hl, hwithdraws⟩
    obtain ⟨n, ha⟩ := List.mem_iff_getElem?.1 hmem
    exact ⟨n, a, ha, l, hl, htarget, hwithdraws⟩

theorem Course.shutDown_iff (h : Course target retries phase as)
    (hin : phase = .returned (.error .shutDown) → as ≠ []) :
    phase = .returned (.error .shutDown) ↔ ∃ a ∈ as, a.Finds Look.Breaks := by
  rw [h.returned_iff (.error .shutDown) fun hphase _ => hin hphase]
  simp only [Look.leads_shutDown_iff, reduceCtorEq, and_false, false_or]
  constructor
  · rintro ⟨n, a, ha, l, hl, hbreaks⟩
    exact ⟨a, List.mem_of_getElem? ha, l, hl, hbreaks⟩
  · rintro ⟨a, hmem, l, hl, hbreaks⟩
    obtain ⟨n, ha⟩ := List.mem_iff_getElem?.1 hmem
    exact ⟨n, a, ha, l, hl, hbreaks⟩

theorem Course.error_cases {error : Error}
    (h : Course target retries (.returned (.error error)) as) :
    error = .cancelled (some target) ∨ error = .shutDown := by
  cases h with
  | shutOut => exact .inr rfl
  | ended _ hcloses =>
    cases hcloses with
    | seen hend =>
      obtain ⟨-, _, l, -, -, hl⟩ := hend
      cases hl with
      | withdrawn => exact .inl rfl
      | broken => exact .inr rfl

/-- An answer is not lost before a look at a wait has seen it. -/
theorem answered_stays (hp : ((start first).run events).probes[i]? = some p)
    (hs : p.signal = .answered) (more : List Event) :
    ∃ q, ((start first).run (events ++ more)).probes[i]? = some q ∧ q.signal = .answered := by
  induction more using List.reverseRecOn with
  | nil => exact ⟨p, by rwa [List.append_nil], hs⟩
  | append_singleton more e ih =>
    obtain ⟨q, hq, hs⟩ := ih
    obtain ⟨q', hq', hf⟩ := fares_step hq e
    rw [← List.append_assoc, run_append_singleton]
    exact ⟨q', hq', hf.stays_answered hs⟩

theorem check_eq_map (target : IpAddress) (hv4 : target.isV6 = false)
    (result : Except Error Outcome) :
    Monitor.Icmp.check target result = result.map Monitor.Icmp.verdict := by
  rw [Monitor.Icmp.check, Icmp.Service.accept, hv4]
  rfl

/-- The outcome of a probe that was let in, over any course of fewer than `2 ^ 32` sends:

- its attempts are its sends, the count is theirs, and there is at most one more than retries;
- all go to the target under the probe's key, and each but the last one timed out;
- it is answered with a count if a look at the wait of that attempt saw the answer;
- it is unanswered with a count if that send failed, or if it was the last one that the policy
  allows and its time was up;
- it is cancelled if a look saw the withdrawal, and shut down if one saw the channel closed; there
  are no other errors;
- an answer stays until a look sees it, and the next look at a wait does;
- a poll gives these outcomes as its verdicts and errors. -/
theorem probe_outcome (first : Key) (events : List Event) (i : Nat) (p : Probe)
    (hp : ((start first).run events).probes[i]? = some p)
    (hpassed : (start first).HasPassed i events)
    (hcount : ((start first).sends events).count i < 2 ^ 32) :
    let attempts := (start first).attempts i events
    (attempts.length = ((start first).sends events).count i ∧
      p.attempts.toNat = attempts.length ∧ attempts.length ≤ p.policy.retries.toNat + 1) ∧
    (∀ a ∈ attempts, a.target = p.target ∧ a.key = p.key) ∧
    (∀ n a, attempts[n]? = some a → n + 1 < attempts.length → a.Ends Look.TimesOut) ∧
    (∀ k, p.phase = .returned (.ok (.answered k)) ↔
      ∃ n a, k.toNat = n + 1 ∧ attempts[n]? = some a ∧ a.Finds Look.Answers) ∧
    (∀ k, p.phase = .returned (.ok (.unanswered k)) ↔
      ∃ n a, k.toNat = n + 1 ∧ attempts[n]? = some a ∧
        (a.sent = false ∨ n = p.policy.retries.toNat ∧ a.Finds Look.TimesOut)) ∧
    (∀ withdrawn, p.phase = .returned (.error (.cancelled withdrawn)) ↔
      withdrawn = some p.target ∧ ∃ a ∈ attempts, a.Finds Look.Withdraws) ∧
    (p.phase = .returned (.error .shutDown) ↔ ∃ a ∈ attempts, a.Finds Look.Breaks) ∧
    (∀ e, p.phase = .returned (.error e) → e = .cancelled (some p.target) ∨ e = .shutDown) ∧
    (p.signal = .answered → ∀ more, ∃ q,
      ((start first).run (events ++ more)).probes[i]? = some q ∧ q.signal = .answered ∧
      (q.phase = .waiting → ∀ expired,
        (((start first).run (events ++ more)).step (.look i expired)).probes[i]? =
          some { q with phase := .returned q.verdict })) ∧
    ∀ result, p.phase = .returned result → p.target.isV6 = false →
      (Monitor.Icmp.check p.target result = .ok .available ↔ ∃ k, result = .ok (.answered k)) ∧
      (Monitor.Icmp.check p.target result = .ok .unavailable ↔
        ∃ k, result = .ok (.unanswered k)) ∧
      ∀ e, Monitor.Icmp.check p.target result = .error e ↔ result = .error e := by
  intro attempts
  have hrecorded := (recorded_run first events i).2 p hp
  have hcourse : Course p.target p.policy.retries p.phase attempts := hrecorded.course
  have hlength : attempts.length = ((start first).sends events).count i :=
    length_attempts (start first) i events
  have hlt : attempts.length < 2 ^ 32 := hlength ▸ hcount
  refine ⟨⟨hlength, (eq_ofNat_iff hlt).1 hrecorded.counted, hcourse.length_le hlt⟩,
    hrecorded.addressed, fun n a ha hn => (hcourse.timedOut ha hn).1, hcourse.answered_iff hlt,
    hcourse.unanswered_iff hlt, hcourse.cancelled_iff, hcourse.shutDown_iff ?passed, ?errors,
    ?stays, ?poll⟩
  case passed =>
    intro hphase hnone
    obtain ⟨q, hq, hin⟩ := sends_of_passed hpassed
    obtain rfl : q = p := Option.some.inj (hq.symm.trans hp)
    rcases hin hnone with hin | hin
    · simp [Probe.isConfirmed, hphase] at hin
    · cases hphase.symm.trans hin
  case errors =>
    intro e hphase
    rw [hphase] at hcourse
    exact hcourse.error_cases
  case stays =>
    intro hs more
    obtain ⟨q, hq, hs⟩ := answered_stays hp hs more
    exact ⟨q, hq, hs, fun hphase => step_look_signalled hq hphase (by simp [hs])⟩
  case poll =>
    intro result _ hv4
    rw [check_eq_map p.target hv4]
    rcases result with _ | _ | _ <;> simp [Except.map, Monitor.Icmp.verdict]

/-- The answer comes between two attempts. The caller withdraws before the next look. -/
def withdrawnBetween : List Event :=
  let target := .v4 .loopback
  [.call target ⟨1, 100⟩, .check 0, .register 0, .recheck 0, .send 0 true, .look 0 false,
    .look 0 true, .route target (some 7), .send 0 true, .cancel 0, .look 0 true]

/-- The probe sent twice, and the withdrawal goes before the answer. -/
theorem probe_outcome_withdrawn : ∃ p : Probe,
    ((start 7).run withdrawnBetween).probes[0]? = some p ∧
    (start 7).HasPassed 0 withdrawnBetween ∧ ((start 7).sends withdrawnBetween).count 0 < 2 ^ 32 ∧
    p.signal = .answered ∧ p.attempts.toNat = 2 ∧
    p.phase = .returned (.error (.cancelled (some (.v4 .loopback)))) ∧
    Monitor.Icmp.check p.target (.error (.cancelled (some p.target))) =
      .error (.cancelled (some p.target)) := by
  obtain ⟨p, hp, hfields⟩ : ∃ p : Probe, ((start 7).run withdrawnBetween).probes[0]? = some p ∧
      p.signal = .answered ∧ p.target = .v4 .loopback := ⟨_, rfl, rfl, rfl⟩
  obtain ⟨hs, htarget⟩ := hfields
  have hpassed : (start 7).HasPassed 0 withdrawnBetween :=
    ⟨withdrawnBetween.take 4, _, List.take_prefix .., rfl, rfl⟩
  have hcount : ((start 7).sends withdrawnBetween).count 0 < 2 ^ 32 := by decide +kernel
  obtain ⟨⟨hlength, hsends, _⟩, _, _, _, _, hcancelled, _, _, _, hpoll⟩ :=
    probe_outcome 7 withdrawnBetween 0 p hp hpassed hcount
  have hlast : ((start 7).attempts 0 withdrawnBetween)[1]? =
      some ⟨.v4 .loopback, 7, true, [⟨true, .answered, true⟩]⟩ := rfl
  have hwithdraws : ∃ a ∈ (start 7).attempts 0 withdrawnBetween, a.Finds Look.Withdraws :=
    ⟨_, List.mem_of_getElem? hlast, _, List.mem_singleton_self _, rfl⟩
  have hphase := (hcancelled _).2 ⟨rfl, hwithdraws⟩
  refine ⟨p, hp, hpassed, hcount, hs, hsends.trans rfl, htarget ▸ hphase, ?_⟩
  exact ((hpoll _ hphase (by rw [htarget]; rfl)).2.2 _).2 rfl

end Correlator

end NetWatch.Probing
