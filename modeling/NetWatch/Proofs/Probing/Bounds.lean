import NetWatch.Proofs.Probing.Outcome

/-!
# When a probe gives up

A probe that nobody answers sends once more than its retries and then gives up, for every number of
retries but the last one of 32 bits. With that one no count is above the retries: after the last
count comes zero, and the probe sends for ever (`gives_up_iff`).
-/

namespace NetWatch.Probing

namespace Correlator

/-- Whatever else happens, a probe that was let in and whose attempts have all timed out so far has
a true count. It is about to send and may do so, or its last attempt still waits, or it has given up
after one attempt more than retries. -/
def GivesUpInTime (retries : UInt32) : Prop :=
  ∀ (first : Key) (events : List Event) (i : Nat) (p : Probe),
    ((start first).run events).probes[i]? = some p → p.policy.retries = retries →
    (start first).HasPassed i events → p.phase ≠ .dropped →
    (∀ a ∈ (start first).attempts i events, a.Ends Look.TimesOut ∨ a.Waits) →
    let sends := ((start first).sends events).count i
    p.attempts.toNat = sends ∧
      (p.phase = .sending ∧ sends ≤ retries.toNat ∨
        (p.phase = .waiting ∧ sends ≤ retries.toNat + 1 ∧
          ∃ a ∈ (start first).attempts i events, a.Waits) ∨
        p.phase = .returned (.ok (.unanswered p.attempts)) ∧ sends = retries.toNat + 1)

def letIn (policy : Policy) : List Event :=
  [.call (.v4 .loopback) policy, .check 0, .register 0, .recheck 0]

/-- The first probe sends so many times, and each time nobody answers in time. -/
def timeouts : Nat → List Event
  | 0 => []
  | n + 1 => timeouts n ++ [.send 0 true, .look 0 true]

variable {c : Correlator} {i n : Nat} {p : Probe} {as : List Attempt} {phase : Phase}
  {target : Net.IpAddress} {retries : UInt32}

/-! ## Below the last value -/

/-- Below the last value the count has room for one attempt more than retries. -/
theorem Course.length_le_of_ne (h : Course target retries phase as) (hne : retries ≠ 4294967295) :
    as.length ≤ retries.toNat + 1 ∧ as.length < 2 ^ 32 := by
  have hlast : retries.toNat ≠ 4294967295 := fun heq => hne (UInt32.toNat_inj.1 heq)
  have hsize := retries.toNat_lt
  suffices as.length ≤ retries.toNat + 1 by omega
  refine Nat.le_of_not_lt fun hlt => ?_
  have hle := h.le_retries (n := retries.toNat) hlt (by omega)
  omega

theorem Earlier.length_le (h : Earlier retries as) (hlt : as.length < 2 ^ 32) :
    as.length ≤ retries.toNat := by
  cases hlength : as.length with
  | zero => exact Nat.zero_le _
  | succ n =>
    have hle := h.within n (by omega)
    rwa [UInt32.le_iff_toNat_le, UInt32.toNat_ofNat_of_lt' (hlength ▸ hlt)] at hle

/-- Where a probe stands that was let in and whose attempts have timed out so far. -/
theorem Course.stands (h : Course target retries phase as) (hlt : as.length < 2 ^ 32)
    (hin : as = [] → phase = .sending) (hdropped : phase ≠ .dropped)
    (hends : ∀ a ∈ as, a.Ends Look.TimesOut ∨ a.Waits) :
    phase = .sending ∧ as.length ≤ retries.toNat ∨
      (phase = .waiting ∧ as.length ≤ retries.toNat + 1 ∧ ∃ a ∈ as, a.Waits) ∨
      phase = .returned (.ok (.unanswered (UInt32.ofNat as.length))) ∧
        as.length = retries.toNat + 1 := by
  have hlength := h.length_le hlt
  cases h with
  | called | admitted | registered | shutOut => cases hin rfl
  | dropped | droppedWaiting => exact absurd rfl hdropped
  | sending hfront => exact .inl ⟨rfl, hfront.length_le hlt⟩
  | waiting hfront hwaits => exact .inr (.inl ⟨rfl, hlength, _, List.mem_concat_self, hwaits⟩)
  | @ended front a result hfront hcloses =>
    have ha : (front ++ [a])[front.length]? = some a := List.getElem?_concat_length
    have hlast := (Course.ended hfront hcloses).lt_count_iff hlt ha
    have hend := hends a List.mem_concat_self
    cases hcloses with
    | refused hsent =>
      rcases hend with hend | hwaits
      · cases hsent.symm.trans hend.1
      · cases hsent.symm.trans hwaits.1
    | seen hseen =>
      obtain ⟨-, idle, l, hlooks, -, hleads⟩ := hseen
      have hl : l ∈ a.looks := hlooks ▸ List.mem_concat_self
      have hidle : ¬ l.Idles := fun h => by cases hleads.unique (.idle h)
      have htime : l.TimesOut := by
        rcases hend with hend | hwaits
        · exact (hend.of_mem hl).resolve_left hidle
        · exact absurd (hwaits.2 l hl) hidle
      by_cases hle : UInt32.ofNat (front.length + 1) ≤ retries
      · cases hleads.unique (.again htime hle)
      · have hover := UInt32.not_le.1 hle
        rw [List.length_append, List.length_singleton]
        exact .inr (.inr ⟨hleads.unique (.exhausted htime hover), by rw [hlast.1 hover]⟩)

theorem givesUpInTime_of_ne (hne : retries ≠ 4294967295) : GivesUpInTime retries := by
  rintro first events i p hp rfl hpassed hdropped hends sends
  have hrecorded := (recorded_run first events i).2 p hp
  have hcourse := hrecorded.course
  have hlt := (hcourse.length_le_of_ne hne).2
  have hsends : ((start first).attempts i events).length = sends := length_attempts ..
  have hin : (start first).attempts i events = [] → p.phase = .sending := by
    intro hnone
    obtain ⟨q, hq, hconfirmed⟩ := sends_of_passed hpassed
    obtain rfl : q = p := Option.some.inj (hq.symm.trans hp)
    rcases hconfirmed hnone with hconfirmed | hphase
    · cases hphase : q.phase with
      | sending => rfl
      | waiting => exact absurd hnone (Course.waiting_ne_nil (hphase ▸ hcourse))
      | called | admitted | registered | returned | dropped =>
        simp [Probe.isConfirmed, hphase] at hconfirmed
    · exact absurd hphase hdropped
  rw [← hsends, hrecorded.counted]
  exact ⟨UInt32.toNat_ofNat_of_lt' hlt, hcourse.stands hlt hin hdropped hends⟩

/-! ## Timeouts in a row -/

theorem run_timeout (hp : c.probes[i]? = some p) (hphase : p.phase = .sending)
    (hs : p.signal = .silent) (hcancelled : p.cancelled = false) :
    ∃ phase, (c.run [.send i true, .look i true]).probes[i]? =
        some { p with phase := phase, attempts := p.attempts + 1 } ∧
      (p.attempts + 1 ≤ p.policy.retries → phase = .sending) ∧
      (p.policy.retries < p.attempts + 1 →
        phase = .returned (.ok (.unanswered (p.attempts + 1)))) := by
  have hsent := step_send hp hphase true
  obtain ⟨phase, hp', hleads⟩ := step_look hsent rfl true
  have htime : Look.TimesOut ⟨p.cancelled, p.signal, true⟩ := ⟨hcancelled, hs, rfl⟩
  exact ⟨phase, hp', fun hle => hleads.unique (.again htime hle),
    fun hlt => hleads.unique (.exhausted htime hlt)⟩

theorem count_sends_timeout (hp : c.probes[i]? = some p) (hphase : p.phase = .sending) :
    (c.sends [.send i true, .look i true]).count i = 1 := by
  have hsend : c.send? (.send i true) = some i :=
    send?_eq_some_iff.2 ⟨true, p, rfl, hp, hphase⟩
  have hlook : (c.step (.send i true)).send? (.look i true) = none := rfl
  simp [sends, trace, hsend, hlook]

theorem run_timeouts (first : Key) (policy : Policy) (n : Nat)
    (hn : ∀ m < n, UInt32.ofNat (m + 1) ≤ policy.retries) :
    ∃ p : Probe, ((start first).run (letIn policy ++ timeouts n)).probes[0]? = some p ∧
      p.policy = policy ∧ p.phase = .sending ∧ p.signal = .silent ∧ p.cancelled = false ∧
      p.attempts = UInt32.ofNat n ∧
      ((start first).sends (letIn policy ++ timeouts n)).count 0 = n := by
  induction n with
  | zero => exact ⟨_, rfl, rfl, rfl, rfl, rfl, rfl, rfl⟩
  | succ n ih =>
    obtain ⟨p, hp, rfl, hphase, hs, hcancelled, hattempts, hsends⟩ :=
      ih fun m hm => hn m (Nat.lt_succ_of_lt hm)
    have hcount : p.attempts + 1 = UInt32.ofNat (n + 1) := by
      rw [hattempts, UInt32.ofNat_add]
      rfl
    obtain ⟨phase, hp', hagain, -⟩ := run_timeout hp hphase hs hcancelled
    obtain rfl := hagain (hcount ▸ hn n (Nat.lt_succ_self n))
    rw [timeouts, ← List.append_assoc, run_append]
    refine ⟨_, hp', rfl, rfl, hs, hcancelled, hcount, ?_⟩
    rw [sends, trace_append, List.count_append, ← sends, hsends, ← sends,
      count_sends_timeout hp hphase]

theorem le_last (count : UInt32) : count ≤ 4294967295 :=
  UInt32.le_iff_toNat_le.2 (Nat.le_of_lt_succ count.toNat_lt)

/-- No count is above the last value, so there is always another attempt. -/
theorem not_givesUpInTime_last : ¬ GivesUpInTime 4294967295 := by
  intro h
  obtain ⟨p, hp, hpolicy, hphase, -, -, -, hsends⟩ :=
    run_timeouts 0 ⟨4294967295, 0⟩ (2 ^ 32) fun m _ => le_last _
  have hpassed : (start 0).HasPassed 0 (letIn ⟨4294967295, 0⟩ ++ timeouts (2 ^ 32)) :=
    ⟨letIn ⟨4294967295, 0⟩, _, List.prefix_append .., rfl, rfl⟩
  have hcourse := ((recorded_run 0 _ 0).2 p hp).course
  rw [hphase] at hcourse
  cases hcourse with
  | sending hfront =>
    have hcount := (h 0 _ 0 p hp (congrArg Policy.retries hpolicy) hpassed (by simp [hphase])
      fun a ha => .inl (hfront.timedOut a ha)).1
    have hlt := p.attempts.toNat_lt
    omega

/-- Timeouts in a row end a probe with the attempt behind its last retry. -/
theorem run_timeouts_of_ne (hne : retries ≠ 4294967295) (first : Key) (timeout : Nat) :
    ∃ p : Probe, ((start first).run
        (letIn ⟨retries, timeout⟩ ++ timeouts (retries.toNat + 1))).probes[0]? = some p ∧
      p.phase = .returned (.ok (.unanswered (retries + 1))) ∧
      p.attempts.toNat = retries.toNat + 1 := by
  have hlast : retries.toNat ≠ 4294967295 := fun heq => hne (UInt32.toNat_inj.1 heq)
  have hsize := retries.toNat_lt
  have hwithin : ∀ m < retries.toNat, UInt32.ofNat (m + 1) ≤ retries := by
    intro m hm
    have hlt : m + 1 < 2 ^ 32 := by omega
    rwa [UInt32.le_iff_toNat_le, UInt32.toNat_ofNat_of_lt' hlt]
  obtain ⟨p, hp, hpolicy, hphase, hs, hcancelled, hattempts, -⟩ :=
    run_timeouts first ⟨retries, timeout⟩ retries.toNat hwithin
  rw [UInt32.ofNat_toNat] at hattempts
  have hcount : (retries + 1).toNat = retries.toNat + 1 := by
    rw [UInt32.toNat_add, UInt32.toNat_one, Nat.mod_eq_of_lt (by omega)]
  obtain ⟨phase, hp', -, hover⟩ := run_timeout hp hphase hs hcancelled
  have hlt : p.policy.retries < p.attempts + 1 := by
    rw [hpolicy, hattempts, UInt32.lt_iff_toNat_lt, hcount]
    exact Nat.lt_succ_self _
  rw [timeouts, ← List.append_assoc, run_append]
  exact ⟨_, hp', by rw [hover hlt, hattempts], by rw [hattempts, hcount]⟩

/-- A probe gives up in time for all numbers of retries but the last one. There its count goes back
to zero after `2 ^ 32` sends, and it never gives up. -/
theorem gives_up_iff (retries : UInt32) :
    (GivesUpInTime retries ↔ retries ≠ 4294967295) ∧
    (retries ≠ 4294967295 → ∀ first timeout, ∃ p : Probe,
      ((start first).run
        (letIn ⟨retries, timeout⟩ ++ timeouts (retries.toNat + 1))).probes[0]? = some p ∧
      p.phase = .returned (.ok (.unanswered (retries + 1))) ∧
      p.attempts.toNat = retries.toNat + 1) ∧
    (retries = 4294967295 → ∀ first timeout n, ∃ p : Probe,
      ((start first).run (letIn ⟨retries, timeout⟩ ++ timeouts n)).probes[0]? = some p ∧
      p.phase = .sending ∧ p.attempts = UInt32.ofNat n) := by
  refine ⟨⟨?last, givesUpInTime_of_ne⟩, run_timeouts_of_ne, ?never⟩
  case last =>
    rintro h rfl
    exact not_givesUpInTime_last h
  case never =>
    rintro rfl first timeout n
    obtain ⟨p, hp, -, hphase, -, -, hattempts, -⟩ :=
      run_timeouts first ⟨4294967295, timeout⟩ n fun m _ => le_last _
    exact ⟨p, hp, hphase, hattempts⟩

/-- With two retries there are three sends. -/
theorem gives_up_after_three : (2 : UInt32) ≠ 4294967295 ∧ GivesUpInTime 2 ∧ ∃ p : Probe,
    ((start 7).run (letIn ⟨2, 800⟩ ++ timeouts 3)).probes[0]? = some p ∧
      p.phase = .returned (.ok (.unanswered 3)) ∧ p.attempts.toNat = 3 := by
  have hne : (2 : UInt32) ≠ 4294967295 := by decide
  obtain ⟨hiff, hends, -⟩ := gives_up_iff 2
  exact ⟨hne, hiff.2 hne, hends hne 7 800⟩

/-- A poll may ask for the last number of retries. Its probe has then sent `2 ^ 32` times, counts
none, and is about to send. -/
theorem never_gives_up_at_last_value :
    let policy := Monitor.Icmp.policy (.ofList [("retry", "4294967295"), ("timeout", "0")])
    policy = ⟨4294967295, 0⟩ ∧ ¬ GivesUpInTime policy.retries ∧ ∃ p : Probe,
      ((start 0).run (letIn policy ++ timeouts (2 ^ 32))).probes[0]? = some p ∧
        ((start 0).sends (letIn policy ++ timeouts (2 ^ 32))).count 0 = 2 ^ 32 ∧
        p.phase = .sending ∧ p.attempts = 0 := by
  intro policy
  have hpolicy : policy = ⟨4294967295, 0⟩ := by decide +kernel
  rw [hpolicy]
  obtain ⟨p, hp, -, hphase, -, -, hattempts, hsends⟩ :=
    run_timeouts 0 ⟨4294967295, 0⟩ (2 ^ 32) fun m _ => le_last _
  exact ⟨rfl, not_givesUpInTime_last, p, hp, hsends, hphase, hattempts⟩

end Correlator

end NetWatch.Probing
