import NetWatch.Proofs.Probing.Exit

/-!
# The attempts of a probe

A run leaves a mark wherever a probe sends and wherever it looks at its wait. The attempts of a
probe are its sends, each with the looks behind it: what a look could see, and not what came of it.
`Course` says how the attempts may have gone for a probe that stands in a given phase, and
`recorded_run` that the attempts of every probe have gone so, at every moment of a run.
-/

namespace NetWatch.Probing

open Net (IpAddress)

/-! ## Looks and attempts -/

/-- What a probe can see when it looks at its wait. -/
structure Look where
  /-- Whether the caller has asked to withdraw. -/
  cancelled : Bool
  signal : Signal
  /-- Whether the time is up. -/
  expired : Bool

namespace Look

/-- The caller has asked to withdraw. There may be a signal as well. -/
def Withdraws (l : Look) : Prop := l.cancelled = true

def Answers (l : Look) : Prop := l.cancelled = false ∧ l.signal = .answered

def Breaks (l : Look) : Prop := l.cancelled = false ∧ l.signal = .closed

def TimesOut (l : Look) : Prop :=
  l.cancelled = false ∧ l.signal = .silent ∧ l.expired = true

def Idles (l : Look) : Prop := l.cancelled = false ∧ l.signal = .silent ∧ l.expired = false

/-- Where a look leaves a probe that has sent `count` times. -/
inductive Leads (target : IpAddress) (retries count : UInt32) (l : Look) : Phase → Prop where
  | withdrawn : l.Withdraws →
      Leads target retries count l (.returned (.error (.cancelled (some target))))
  | answered : l.Answers → Leads target retries count l (.returned (.ok (.answered count)))
  | broken : l.Breaks → Leads target retries count l (.returned (.error .shutDown))
  | again : l.TimesOut → count ≤ retries → Leads target retries count l .sending
  | exhausted : l.TimesOut → retries < count →
      Leads target retries count l (.returned (.ok (.unanswered count)))
  | idle : l.Idles → Leads target retries count l .waiting

variable {l : Look} {target : IpAddress} {retries count k : UInt32} {phase phase' : Phase}

theorem leads_answered_iff : l.Leads target retries count (.returned (.ok (.answered k))) ↔
    k = count ∧ l.Answers := by
  constructor
  · intro h
    cases h with
    | answered h => exact ⟨rfl, h⟩
  · rintro ⟨rfl, h⟩
    exact .answered h

theorem leads_unanswered_iff : l.Leads target retries count (.returned (.ok (.unanswered k))) ↔
    k = count ∧ l.TimesOut ∧ retries < count := by
  constructor
  · intro h
    cases h with
    | exhausted h hlt => exact ⟨rfl, h, hlt⟩
  · rintro ⟨rfl, h, hlt⟩
    exact .exhausted h hlt

theorem leads_cancelled_iff {withdrawn : Option IpAddress} :
    l.Leads target retries count (.returned (.error (.cancelled withdrawn))) ↔
      withdrawn = some target ∧ l.Withdraws := by
  constructor
  · intro h
    cases h with
    | withdrawn h => exact ⟨rfl, h⟩
  · rintro ⟨rfl, h⟩
    exact .withdrawn h

theorem leads_shutDown_iff : l.Leads target retries count (.returned (.error .shutDown)) ↔
    l.Breaks := by
  constructor
  · intro h
    cases h with
    | broken h => exact h
  · exact .broken

theorem Leads.unique (h : l.Leads target retries count phase)
    (h' : l.Leads target retries count phase') : phase = phase' := by
  cases h <;> cases h' <;> grind [Withdraws, Answers, Breaks, TimesOut, Idles]

end Look

/-- A send, and the looks at the wait behind it. -/
structure Attempt where
  target : IpAddress
  key : Key
  /-- Whether the request went out. -/
  sent : Bool
  looks : List Look := []

namespace Attempt

def Finds (a : Attempt) (P : Look → Prop) : Prop := ∃ l ∈ a.looks, P l

def Waits (a : Attempt) : Prop := a.sent = true ∧ ∀ l ∈ a.looks, l.Idles

/-- The last look saw this, and those before it nothing. -/
def Ends (a : Attempt) (P : Look → Prop) : Prop :=
  a.sent = true ∧ ∃ idle l, a.looks = idle ++ [l] ∧ (∀ l ∈ idle, l.Idles) ∧ P l

/-- The attempt has ended a probe that has sent `count` times: the request did not go out, or the
last look led to a result. -/
inductive Closes (target : IpAddress) (retries count : UInt32) (a : Attempt) :
    Except Error Outcome → Prop where
  | refused : a.sent = false → a.looks = [] →
      Closes target retries count a (.ok (.unanswered count))
  | seen {result : Except Error Outcome} :
      a.Ends (fun l => l.Leads target retries count (.returned result)) →
      Closes target retries count a result

theorem Ends.of_mem {a : Attempt} {P : Look → Prop} {l : Look} (h : a.Ends P)
    (hl : l ∈ a.looks) : l.Idles ∨ P l := by
  obtain ⟨-, idle, last, hlooks, hidle, hlast⟩ := h
  rw [hlooks] at hl
  rcases List.mem_append.1 hl with hl | hl
  · exact .inl (hidle l hl)
  · exact .inr (List.mem_singleton.1 hl ▸ hlast)

end Attempt

/-! ## The attempts of a run -/

inductive Mark where
  | send (target : IpAddress) (key : Key) (sent : Bool)
  | look (l : Look)

/-- A send begins an attempt, a look belongs to the last one. -/
def Mark.add (attempts : List Attempt) : Mark → List Attempt
  | .send target key sent => attempts ++ [{ target := target, key := key, sent := sent }]
  | .look l => attempts.modify (attempts.length - 1) fun a => { a with looks := a.looks ++ [l] }

theorem Mark.add_look_concat (front : List Attempt) (a : Attempt) (l : Look) :
    Mark.add (front ++ [a]) (.look l) = front ++ [{ a with looks := a.looks ++ [l] }] := by
  have hlast : (front ++ [a]).length - 1 = front.length := by simp
  rw [Mark.add, hlast, List.modify_eq_take_cons_drop (by simp)]
  simp

namespace Correlator

def mark? (i : Nat) (c : Correlator) (e : Event) : Option Mark := do
  let p ← c.probes[i]?
  match e, p.phase with
  | .send j sent, .sending => if j = i then some (.send p.target p.key sent) else none
  | .look j expired, .waiting =>
    if j = i then some (.look ⟨p.cancelled, p.signal, expired⟩) else none
  | _, _ => none

def attempts (c : Correlator) (i : Nat) (events : List Event) : List Attempt :=
  (trace (mark? i) c events).foldl Mark.add []

/-- Each of these attempts timed out and left another one. -/
structure Earlier (retries : UInt32) (attempts : List Attempt) : Prop where
  timedOut : ∀ a ∈ attempts, a.Ends Look.TimesOut
  within : ∀ n < attempts.length, UInt32.ofNat (n + 1) ≤ retries

/-- The attempts that a probe may have behind it where it stands. -/
inductive Course (target : IpAddress) (retries : UInt32) : Phase → List Attempt → Prop where
  | called : Course target retries .called []
  | admitted : Course target retries .admitted []
  | registered : Course target retries .registered []
  | shutOut : Course target retries (.returned (.error .shutDown)) []
  | sending {front : List Attempt} : Earlier retries front → Course target retries .sending front
  | waiting {front : List Attempt} {a : Attempt} : Earlier retries front → a.Waits →
      Course target retries .waiting (front ++ [a])
  | ended {front : List Attempt} {a : Attempt} {result : Except Error Outcome} :
      Earlier retries front → a.Closes target retries (UInt32.ofNat (front.length + 1)) result →
      Course target retries (.returned result) (front ++ [a])
  | dropped {front : List Attempt} : Earlier retries front → Course target retries .dropped front
  | droppedWaiting {front : List Attempt} {a : Attempt} : Earlier retries front → a.Waits →
      Course target retries .dropped (front ++ [a])

structure Recorded (p : Probe) (attempts : List Attempt) : Prop where
  counted : p.attempts = UInt32.ofNat attempts.length
  addressed : ∀ a ∈ attempts, a.target = p.target ∧ a.key = p.key
  course : Course p.target p.policy.retries p.phase attempts

variable {c : Correlator} {i : Nat} {p p' : Probe} {e : Event} {as front : List Attempt}
  {a : Attempt} {l : Look} {phase : Phase} {target : IpAddress} {retries : UInt32}

/-! ## Steps that leave a mark -/

theorem attempts_append_singleton (c : Correlator) (i : Nat) (events : List Event) (e : Event) :
    c.attempts i (events ++ [e]) =
      (mark? i (c.run events) e).toList.foldl Mark.add (c.attempts i events) := by
  rw [attempts, trace_append_singleton, List.foldl_append]
  rfl

theorem mark?_cases (hp : c.probes[i]? = some p) (e : Event) :
    (∃ sent, e = .send i sent ∧ p.phase = .sending ∧
      mark? i c e = some (.send p.target p.key sent)) ∨
    (∃ expired, e = .look i expired ∧ p.phase = .waiting ∧
      mark? i c e = some (.look ⟨p.cancelled, p.signal, expired⟩)) ∨
    (mark? i c e = none ∧ (∀ sent, e = .send i sent → p.phase ≠ .sending) ∧
      ∀ expired, e = .look i expired → p.phase ≠ .waiting) := by
  have hmark : mark? i c e = match e, p.phase with
      | .send j sent, .sending => if j = i then some (.send p.target p.key sent) else none
      | .look j expired, .waiting =>
        if j = i then some (.look ⟨p.cancelled, p.signal, expired⟩) else none
      | _, _ => none := by
    rw [mark?, hp]
    rfl
  rw [hmark]
  split
  · next j sent hphase =>
    by_cases hj : j = i
    · exact .inl ⟨sent, by rw [hj], hphase, if_pos hj⟩
    · refine .inr (.inr ⟨if_neg hj, fun _ h => ?_, nofun⟩)
      cases h
      exact absurd rfl hj
  · next j expired hphase =>
    by_cases hj : j = i
    · exact .inr (.inl ⟨expired, by rw [hj], hphase, if_pos hj⟩)
    · refine .inr (.inr ⟨if_neg hj, nofun, fun _ h => ?_⟩)
      cases h
      exact absurd rfl hj
  · next hsend hlook =>
    exact .inr (.inr ⟨rfl, fun sent he hphase => hsend i sent he hphase,
      fun expired he hphase => hlook i expired he hphase⟩)

theorem step_send (hp : c.probes[i]? = some p) (hphase : p.phase = .sending) (sent : Bool) :
    (c.step (.send i sent)).probes[i]? = some { p with
      phase := if sent then .waiting else .returned (.ok (.unanswered (p.attempts + 1)))
      attempts := p.attempts + 1 } := by
  have hstep : c.step (.send i sent) = c.afterSend i p sent := by
    simp only [step, Event.probe?, hp, stepProbe, hphase]
  rw [hstep, afterSend]
  simp only [modifyProbe_eq hp]
  have hset := getElem?_set_self hp { p with phase := .waiting, attempts := p.attempts + 1 }
  cases sent with
  | true => exact hset
  | false =>
    rw [if_neg Bool.false_ne_true, finish, modifyProbe_eq hset]
    exact getElem?_set_self hset _

theorem step_look (hp : c.probes[i]? = some p) (hphase : p.phase = .waiting) (expired : Bool) :
    ∃ phase, (c.step (.look i expired)).probes[i]? = some { p with phase := phase } ∧
      Look.Leads p.target p.policy.retries p.attempts ⟨p.cancelled, p.signal, expired⟩ phase := by
  have hstep : c.step (.look i expired) = c.looked i p expired := by
    simp only [step, Event.probe?, hp, stepProbe, hphase]
  rw [hstep, looked]
  simp only [finish_eq hp, modifyProbe_eq hp]
  split
  · next hcancelled => exact ⟨_, getElem?_set_self hp _, .withdrawn hcancelled⟩
  next hcancelled =>
  have hcancelled := Bool.eq_false_iff.2 hcancelled
  split
  · next hs => exact ⟨_, getElem?_set_self hp _, .answered ⟨hcancelled, hs⟩⟩
  · next hs => exact ⟨_, getElem?_set_self hp _, .broken ⟨hcancelled, hs⟩⟩
  next hs =>
  cases expired with
  | false => exact ⟨.waiting, by simpa [← hphase] using hp, .idle ⟨hcancelled, hs, rfl⟩⟩
  | true =>
    rw [if_pos rfl]
    split
    · next hle => exact ⟨_, getElem?_set_self hp _, .again ⟨hcancelled, hs, rfl⟩ hle⟩
    · next hlt =>
      exact ⟨_, getElem?_set_self hp _, .exhausted ⟨hcancelled, hs, rfl⟩ (UInt32.not_le.1 hlt)⟩

/-! ## One step -/

theorem earlier_nil (retries : UInt32) : Earlier retries [] := ⟨nofun, nofun⟩

theorem Earlier.concat (h : Earlier retries front) (ha : a.Ends Look.TimesOut)
    (hle : UInt32.ofNat (front.length + 1) ≤ retries) : Earlier retries (front ++ [a]) := by
  refine ⟨fun b hb => ?_, fun n hn => ?_⟩
  · rcases List.mem_append.1 hb with hb | hb
    · exact h.timedOut b hb
    · exact List.mem_singleton.1 hb ▸ ha
  · rw [List.length_append, List.length_singleton] at hn
    rcases Nat.lt_succ_iff_lt_or_eq.1 hn with hn | rfl
    · exact h.within n hn
    · exact hle

theorem recorded_called (target : IpAddress) (policy : Policy) :
    Recorded { target := target, policy := policy } [] where
  counted := rfl
  addressed := nofun
  course := .called

theorem Recorded.send (h : Recorded p as) (hphase : p.phase = .sending) (sent : Bool) :
    Recorded { p with
      phase := if sent then .waiting else .returned (.ok (.unanswered (p.attempts + 1)))
      attempts := p.attempts + 1 } (Mark.add as (.send p.target p.key sent)) where
  counted := by
    rw [Mark.add, List.length_append, List.length_singleton, UInt32.ofNat_add, ← h.counted]
    rfl
  addressed a ha := by
    rcases List.mem_append.1 ha with ha | ha
    · exact h.addressed a ha
    · obtain rfl := List.mem_singleton.1 ha
      exact ⟨rfl, rfl⟩
  course := by
    have hcourse := h.course
    rw [hphase] at hcourse
    cases hcourse with
    | sending hfront =>
      cases sent with
      | true => exact .waiting hfront ⟨rfl, nofun⟩
      | false =>
        have hcount : p.attempts + 1 = UInt32.ofNat (as.length + 1) := by
          rw [h.counted, UInt32.ofNat_add]
          rfl
        rw [hcount]
        exact .ended hfront (.refused rfl rfl)

theorem Course.look (h : Course target retries .waiting as)
    (hl : l.Leads target retries (UInt32.ofNat as.length) phase) :
    Course target retries phase (Mark.add as (.look l)) := by
  cases h with
  | @waiting front a hfront ha =>
    have hends {P : Look → Prop} (hP : P l) :
        ({ a with looks := a.looks ++ [l] } : Attempt).Ends P :=
      ⟨ha.1, a.looks, l, rfl, ha.2, hP⟩
    rw [List.length_append, List.length_singleton] at hl
    rw [Mark.add_look_concat]
    cases hl with
    | withdrawn hl => exact .ended hfront (.seen (hends (.withdrawn hl)))
    | answered hl => exact .ended hfront (.seen (hends (.answered hl)))
    | broken hl => exact .ended hfront (.seen (hends (.broken hl)))
    | again hl hle => exact .sending (hfront.concat (hends hl) hle)
    | exhausted hl hlt => exact .ended hfront (.seen (hends (.exhausted hl hlt)))
    | idle hl =>
      refine .waiting hfront ⟨ha.1, fun l' hl' => ?_⟩
      rcases List.mem_append.1 hl' with hl' | hl'
      · exact ha.2 l' hl'
      · exact List.mem_singleton.1 hl' ▸ hl

theorem Recorded.look (h : Recorded p as) (hphase : p.phase = .waiting)
    (hl : l.Leads p.target p.policy.retries p.attempts phase) :
    Recorded { p with phase := phase } (Mark.add as (.look l)) := by
  have hcourse := h.course
  rw [hphase] at hcourse
  refine ⟨?_, ?_, hcourse.look (h.counted ▸ hl)⟩
  · rw [h.counted, Mark.add, List.length_modify]
  · cases hcourse with
    | @waiting front a =>
      rw [Mark.add_look_concat]
      intro b hb
      rcases List.mem_append.1 hb with hb | hb
      · exact h.addressed b (List.mem_append_left _ hb)
      · obtain rfl := List.mem_singleton.1 hb
        exact h.addressed a List.mem_concat_self

theorem Course.waiting_ne_nil (h : Course target retries .waiting as) : as ≠ [] := by
  cases h
  exact List.concat_ne_nil _ _

theorem Course.drop (h : Course target retries phase as)
    (hphase : ∀ result, phase ≠ .returned result) : Course target retries .dropped as := by
  cases h with
  | called | admitted | registered => exact .dropped (earlier_nil retries)
  | shutOut | ended => exact absurd rfl (hphase _)
  | sending hfront | dropped hfront => exact .dropped hfront
  | waiting hfront ha | droppedWaiting hfront ha => exact .droppedWaiting hfront ha

/-- Steps that leave no mark add nothing to the attempts. -/
theorem Recorded.unmarked (h : Recorded p as) (hf : Fares c i p e p')
    (hsend : ∀ sent, e = .send i sent → p.phase ≠ .sending)
    (hlook : ∀ expired, e = .look i expired → p.phase ≠ .waiting) : Recorded p' as := by
  have hcourse := h.course
  -- Before its first send a probe has no attempts, and its count is zero.
  have hnone {q : Probe} (hattempts : q.attempts = p.attempts) (has : as = [])
      (hq : Course q.target q.policy.retries q.phase []) : Recorded q as := by
    subst has
    exact ⟨hattempts.trans h.counted, nofun, hq⟩
  have hdrop (hphase : ∀ result, p.phase ≠ .returned result) :
      Recorded { p with phase := .dropped } as := ⟨h.counted, h.addressed, hcourse.drop hphase⟩
  cases hf with
  | stays => exact h
  | answered | closes => exact ⟨h.counted, h.addressed, hcourse⟩
  | registers hphase =>
    rw [hphase] at hcourse
    cases hcourse
    exact hnone rfl rfl .registered
  | moves hm =>
    cases hm with
    | admitted hphase =>
      rw [hphase] at hcourse
      cases hcourse
      exact hnone rfl rfl .admitted
    | refused hphase =>
      rw [hphase] at hcourse
      cases hcourse
      exact hnone rfl rfl .shutOut
    | confirmed hphase =>
      rw [hphase] at hcourse
      cases hcourse
      exact hnone rfl rfl (.sending (earlier_nil _))
    | sent hphase => exact absurd hphase (hsend _ rfl)
    | timedOut hphase => exact absurd hphase (hlook _ rfl)
    | withdrawn => exact ⟨h.counted, h.addressed, hcourse⟩
    | dropped hphase =>
      refine hdrop fun result hp => ?_
      rcases hphase with hphase | hphase <;> cases hphase.symm.trans hp
  | ends he =>
    cases he with
    | overtaken hphase =>
      rw [hphase] at hcourse
      cases hcourse
      exact hnone rfl rfl .shutOut
    | sendFailed hphase => exact absurd hphase (hsend _ rfl)
    | cancelled hphase | answered hphase | channelClosed hphase | exhausted hphase =>
      exact absurd hphase (hlook _ rfl)
    | dropped hreg => exact hdrop fun result hp => by simp [Probe.isRegistered, hp] at hreg

theorem Recorded.step (h : Recorded p as) (hp : c.probes[i]? = some p) (e : Event) :
    ∃ p', (c.step e).probes[i]? = some p' ∧
      Recorded p' ((mark? i c e).toList.foldl Mark.add as) := by
  rcases mark?_cases hp e with ⟨sent, rfl, hphase, hmark⟩ | ⟨expired, rfl, hphase, hmark⟩ |
    ⟨hmark, hsend, hlook⟩
  · rw [hmark]
    exact ⟨_, step_send hp hphase sent, h.send hphase sent⟩
  · obtain ⟨phase, hp', hl⟩ := step_look hp hphase expired
    rw [hmark]
    exact ⟨_, hp', h.look hphase hl⟩
  · obtain ⟨p', hp', hf⟩ := fares_step hp e
    rw [hmark]
    exact ⟨p', hp', h.unmarked hf hsend hlook⟩

/-! ## Runs -/

/-- The attempts of every probe are on record, and a probe that has not been called has none. -/
theorem recorded_run (first : Key) (events : List Event) (i : Nat) :
    (((start first).run events).probes[i]? = none → (start first).attempts i events = []) ∧
    ∀ p, ((start first).run events).probes[i]? = some p →
      Recorded p ((start first).attempts i events) := by
  induction events using List.reverseRecOn with
  | nil => exact ⟨fun _ => rfl, fun p hp => by cases hp⟩
  | append_singleton events e ih =>
    obtain ⟨hnone, hsome⟩ := ih
    rw [attempts_append_singleton, run_append_singleton]
    cases hp : ((start first).run events).probes[i]? with
    | none =>
      have hmark : mark? i ((start first).run events) e = none := by
        rw [mark?, hp]
        rfl
      rw [hmark, hnone hp]
      refine ⟨fun _ => rfl, fun p hp' => ?_⟩
      obtain ⟨target, policy, rfl⟩ := called_of_step hp hp'
      exact recorded_called target policy
    | some p =>
      obtain ⟨p', hp', h⟩ := (hsome p hp).step hp e
      refine ⟨fun hgone => absurd (hgone.symm.trans hp') nofun, fun q hq => ?_⟩
      obtain rfl : p' = q := Option.some.inj (hp'.symm.trans hq)
      exact h

end Correlator

end NetWatch.Probing
