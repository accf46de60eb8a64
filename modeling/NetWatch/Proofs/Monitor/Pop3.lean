import NetWatch.Proofs.Monitor.Retry
import NetWatch.Scenario.TcpRun

/-!
# The verdict of the POP3 check

The verdict is carried from attempt to attempt: some failures keep it, others replace it, and two
kinds of outcome end the check. `Course` lists the ways in which a check may go, `course_check` says
that it goes in one of them, and `check_verdict` reads the verdict off the whole sequence of
outcomes.
-/

namespace NetWatch.Monitor.Pop3

open Net (IoError)

variable {outcome outcome' : Nat → Except AttemptFailure PollStatus}
  {o : Except AttemptFailure PollStatus} {status verdict : PollStatus} {n i : Nat}

/-! ## Outcomes -/

/-- The attempt failed with a refused connection or an unreachable host, before it was connected or
after. -/
def GivesUp : Except AttemptFailure PollStatus → Prop
  | .ok _ => False
  | .error e => e.source.fault = .refused ∨ e.source.fault = .noRoute

instance : DecidablePred GivesUp
  | .ok _ => isFalse id
  | .error _ => inferInstanceAs (Decidable (_ ∨ _))

def Decides (o : Except AttemptFailure PollStatus) : Prop := o = .ok .available ∨ GivesUp o

/-- What an attempt that got a connection says: the verdict of its exchange, or that the exchange
broke off. -/
def verdict? : Except AttemptFailure PollStatus → Option PollStatus
  | .ok verdict => some verdict
  | .error e => if e.connected then some .unresponsive else none

/-- The verdict of the last of the first `n` attempts that got a connection. -/
inductive LastVerdict (outcome : Nat → Except AttemptFailure PollStatus) (n : Nat) :
    PollStatus → Prop where
  | connected {i : Nat} {verdict : PollStatus} : i < n → verdict? (outcome i) = some verdict →
      (∀ j, i < j → j < n → verdict? (outcome j) = none) → LastVerdict outcome n verdict
  | never : (∀ i < n, verdict? (outcome i) = none) → LastVerdict outcome n .unavailable

theorem LastVerdict.zero : LastVerdict outcome 0 .unavailable :=
  .never fun _ hi => absurd hi (Nat.not_lt_zero _)

/-- One more attempt has the last word if it got a connection. -/
theorem LastVerdict.succ (h : LastVerdict outcome n status) :
    LastVerdict outcome (n + 1) ((verdict? (outcome n)).getD status) := by
  cases hn : verdict? (outcome n) with
  | some verdict => exact .connected (Nat.lt_succ_self n) hn fun j hj hj' => by omega
  | none => cases h with
    | connected hi hv hlater =>
      refine .connected (Nat.lt_succ_of_lt hi) hv fun j hj hj' => ?_
      rcases Nat.lt_succ_iff_lt_or_eq.1 hj' with hj' | rfl
      · exact hlater j hj hj'
      · exact hn
    | never hnone =>
      refine .never fun j hj => ?_
      rcases Nat.lt_succ_iff_lt_or_eq.1 hj with hj | rfl
      · exact hnone j hj
      · exact hn

/-! ## One attempt -/

/-- An attempt ends the check, or its verdict takes the place of the one so far. -/
theorem judge_cases (status : PollStatus) (o : Except AttemptFailure PollStatus) :
    (o = .ok .available ∧ judge status o = (.available, true)) ∨
    (GivesUp o ∧ judge status o = (.unavailable, true)) ∨
    (¬ Decides o ∧ judge status o = ((verdict? o).getD status, false)) := by
  cases o with
  | ok verdict => cases verdict <;> simp [judge, Decides, GivesUp, verdict?]
  | error e =>
    cases hfault : e.source.fault with
    | refused => exact .inr (.inl ⟨.inl hfault, by simp only [judge, hfault]⟩)
    | noRoute => exact .inr (.inl ⟨.inr hfault, by simp only [judge, hfault]⟩)
    | retryable =>
      refine .inr (.inr ⟨by simp [Decides, GivesUp, hfault], ?_⟩)
      cases hconnected : e.connected <;> simp [judge, hfault, verdict?, hconnected]

/-! ## The course of a check -/

/-- The ways in which a check of up to `n` attempts may go, with its verdict and the number of its
attempts. -/
inductive Course (outcome : Nat → Except AttemptFailure PollStatus) (n : Nat) :
    PollStatus × Nat → Prop where
  | available {i : Nat} : i < n → outcome i = .ok .available → (∀ j < i, ¬ Decides (outcome j)) →
      Course outcome n (.available, i + 1)
  | gaveUp {i : Nat} : i < n → GivesUp (outcome i) → (∀ j < i, ¬ Decides (outcome j)) →
      Course outcome n (.unavailable, i + 1)
  | exhausted {verdict : PollStatus} : (∀ j < n, ¬ Decides (outcome j)) →
      LastVerdict outcome n verdict → Course outcome n (verdict, n)

theorem isLast_iff : IsLast judge outcome status i ↔ Decides (outcome i) := by
  rw [IsLast]
  rcases judge_cases (statusBefore judge outcome status i) (outcome i) with
    ⟨ho, hj⟩ | ⟨ho, hj⟩ | ⟨ho, hj⟩ <;> rw [hj]
  · exact iff_of_true rfl (.inl ho)
  · exact iff_of_true rfl (.inr ho)
  · exact iff_of_false Bool.false_ne_true ho

/-- While no attempt has ended the check, the verdict so far is that of those already made. -/
theorem lastVerdict_statusBefore (h : ∀ j < n, ¬ Decides (outcome j)) :
    LastVerdict outcome n (statusBefore judge outcome .unavailable n) := by
  induction n with
  | zero => exact .zero
  | succ n ih =>
    have hlast := (ih fun j hj => h j (Nat.lt_succ_of_lt hj)).succ
    rcases judge_cases (statusBefore judge outcome .unavailable n) (outcome n) with
      ⟨ho, _⟩ | ⟨ho, _⟩ | ⟨_, hj⟩
    · exact absurd (.inl ho) (h n (Nat.lt_succ_self n))
    · exact absurd (.inr ho) (h n (Nat.lt_succ_self n))
    · rwa [statusBefore, hj]

theorem course_check (retries : UInt32) (outcome : Nat → Except AttemptFailure PollStatus) :
    Course outcome (retries.toNat + 1) (check retries outcome, attempts retries outcome) := by
  have h := retried_retry judge outcome .unavailable (retries.toNat + 1)
  rw [check, attempts, poll]
  generalize retry (m := Id) judge outcome (retries.toNat + 1) 0 .unavailable = course at h
  cases h with
  | @ended i hi hlast hbefore =>
    have hundecided : ∀ j < i, ¬ Decides (outcome j) := fun j hj => mt isLast_iff.2 (hbefore j hj)
    rw [statusBefore]
    rcases judge_cases (statusBefore judge outcome .unavailable i) (outcome i) with
      ⟨ho, hj⟩ | ⟨ho, hj⟩ | ⟨ho, _⟩
    · rw [hj]
      exact .available hi ho hundecided
    · rw [hj]
      exact .gaveUp hi ho hundecided
    · exact absurd (isLast_iff.1 hlast) ho
  | exhausted hnone =>
    have hundecided := fun j hj => mt isLast_iff.2 (hnone j hj)
    exact .exhausted hundecided (lastVerdict_statusBefore hundecided)

/-! ## One exchange -/

theorem attempt_opened {α : Type} (exchange : LineStream → Exchanged α)
    (stream : LineStream) : attempt exchange (.opened stream) = match (exchange stream).result with
      | .ok verdict => .ok verdict
      | .error source => .error ⟨true, source⟩ := by
  rw [attempt]
  cases (exchange stream).result <;> rfl

/-- A connection that stands ends in some verdict: available if both lines pass, unresponsive if the
stream ended before any line or the exchange broke off, and unavailable if a line was wrong. -/
theorem verdict?_attempt_opened (stream : LineStream) :
    ∃ verdict, verdict? (attempt exchange (.opened stream)) = some verdict ∧
      (verdict = .available ↔ ∃ banner answer,
        stream.readLine.1 = .ok (some banner) ∧ isOk banner ∧
        stream.readLine.2.readLine.1 = .ok (some answer) ∧ isOk answer) ∧
      (verdict = .unresponsive ↔ stream.readLine.1 = .ok none ∨
        ∃ e, attempt exchange (.opened stream) = .error ⟨true, e⟩) := by
  have hempty : isOk [] = false := by decide
  obtain ⟨first, rest, hfirst⟩ : ∃ first rest, stream.readLine = (first, rest) := ⟨_, _, rfl⟩
  obtain ⟨second, behind, hsecond⟩ : ∃ second behind, rest.readLine = (second, behind) :=
    ⟨_, _, rfl⟩
  match first with
  | .error e => simp [attempt_opened, exchange, hfirst, verdict?]
  | .ok none => simp [attempt_opened, exchange, hfirst, verdict?]
  | .ok (some banner) =>
    cases hbanner : isOk banner with
    | false => simp [attempt_opened, exchange, hfirst, hbanner, verdict?]
    | true => match second with
      | .error e => simp [attempt_opened, exchange, hfirst, hbanner, hsecond, verdict?]
      | .ok none =>
        simp [attempt_opened, exchange, hfirst, hbanner, hsecond, hempty, verdict?]
      | .ok (some answer) => cases hanswer : isOk answer <;>
          simp [attempt_opened, exchange, hfirst, hbanner, hsecond, hanswer, verdict?]

/-! ## The verdict -/

theorem verdict?_eq_available_iff : verdict? o = some .available ↔ o = .ok .available := by
  cases o with
  | ok verdict => simp [verdict?]
  | error e => cases h : e.connected <;> simp [verdict?, h]

namespace Course

variable {course : PollStatus × Nat}

theorem eq_available_iff (h : Course outcome n course) : course.1 = .available ↔
    ∃ i < n, outcome i = .ok .available ∧ ∀ j < i, ¬ GivesUp (outcome j) := by
  constructor
  · intro havailable
    cases h with
    | available hi ho hbefore => exact ⟨_, hi, ho, fun j hj hup => hbefore j hj (.inr hup)⟩
    | gaveUp => cases havailable
    | exhausted hnone hlast =>
      cases havailable
      cases hlast with
      | connected hi hv _ => exact absurd (.inl (verdict?_eq_available_iff.1 hv)) (hnone _ hi)
  · rintro ⟨i, hi, ho, hbefore⟩
    cases h with
    | available => rfl
    | @gaveUp k hk hup hundecided =>
      -- the attempt that gave up is neither before the available one, nor that one, nor behind it
      rcases Nat.lt_trichotomy k i with hlt | rfl | hlt
      · exact absurd hup (hbefore k hlt)
      · rw [ho] at hup
        cases hup
      · exact absurd (.inl ho) (hundecided i hlt)
    | exhausted hnone => exact absurd (.inl ho) (hnone i hi)

theorem eq_unavailable (h : Course outcome n course) (hne : course.1 ≠ .available)
    (hup : ∃ i < course.2, GivesUp (outcome i)) : course.1 = .unavailable := by
  obtain ⟨i, hi, hup⟩ := hup
  cases h with
  | available => exact absurd rfl hne
  | gaveUp => rfl
  | exhausted hnone => exact absurd (.inr hup) (hnone i hi)

theorem lastVerdict (h : Course outcome n course) (hne : course.1 ≠ .available)
    (hup : ∀ i < course.2, ¬ GivesUp (outcome i)) : LastVerdict outcome n course.1 := by
  cases h with
  | available => exact absurd rfl hne
  | @gaveUp i _ hi _ => exact absurd hi (hup i (Nat.lt_succ_self i))
  | exhausted _ hlast => exact hlast

theorem count_le (h : Course outcome n course) : course.2 ≤ n := by
  cases h with
  | available hi => exact hi
  | gaveUp hi => exact hi
  | exhausted => exact Nat.le_refl _

theorem not_decides (h : Course outcome n course) (hi : i + 1 < course.2) :
    ¬ Decides (outcome i) := by
  cases h with
  | available _ _ hbefore => exact hbefore i (Nat.lt_of_succ_lt_succ hi)
  | gaveUp _ _ hbefore => exact hbefore i (Nat.lt_of_succ_lt_succ hi)
  | exhausted hnone => exact hnone i (Nat.lt_of_succ_lt hi)

theorem count_eq_or (h : Course outcome n course) :
    course.2 = n ∨ ∃ i, course.2 = i + 1 ∧ Decides (outcome i) := by
  cases h with
  | available _ ho => exact .inr ⟨_, rfl, .inl ho⟩
  | gaveUp _ hup => exact .inr ⟨_, rfl, .inr hup⟩
  | exhausted => exact .inl rfl

end Course

/-- The verdict over any outcomes of any number of attempts, and which attempts are made. A server
is available if an attempt says so before one gives up; otherwise it is unavailable if an attempt
that was made gave up; otherwise the last of all attempts that got a connection has the say. A poll
has such a verdict and no error. -/
theorem check_verdict (retries : UInt32) (outcome : Nat → Except AttemptFailure PollStatus) :
    (check retries outcome = .available ↔
      ∃ i ≤ retries.toNat, outcome i = .ok .available ∧ ∀ j < i, ¬ GivesUp (outcome j)) ∧
    (check retries outcome ≠ .available → (∃ i < attempts retries outcome, GivesUp (outcome i)) →
      check retries outcome = .unavailable) ∧
    (check retries outcome ≠ .available → (∀ i < attempts retries outcome, ¬ GivesUp (outcome i)) →
      LastVerdict outcome (retries.toNat + 1) (check retries outcome)) ∧
    attempts retries outcome ≤ retries.toNat + 1 ∧
    (∀ i, i + 1 < attempts retries outcome → ¬ Decides (outcome i)) ∧
    (attempts retries outcome = retries.toNat + 1 ∨
      ∃ i, attempts retries outcome = i + 1 ∧ Decides (outcome i)) ∧
    (∀ outcome', (∀ i < attempts retries outcome, outcome' i = outcome i) →
      check retries outcome' = check retries outcome ∧
      attempts retries outcome' = attempts retries outcome) ∧
    (∀ stream, ∃ verdict, verdict? (attempt exchange (.opened stream)) = some verdict ∧
      (verdict = .available ↔ ∃ banner answer,
        stream.readLine.1 = .ok (some banner) ∧ isOk banner ∧
        stream.readLine.2.readLine.1 = .ok (some answer) ∧ isOk answer) ∧
      (verdict = .unresponsive ↔ stream.readLine.1 = .ok none ∨
        ∃ e, attempt exchange (.opened stream) = .error ⟨true, e⟩)) ∧
    ∀ peer params, (Scenario.pollPop3 peer params).result =
      .ok (check (params.retry defaultRetry) fun i => attempt exchange (peer.connect i)) := by
  have h := course_check retries outcome
  refine ⟨?_, h.eq_unavailable, h.lastVerdict, h.count_le, fun _ => h.not_decides, h.count_eq_or,
    fun outcome' heq => ?_, verdict?_attempt_opened, fun _ _ => rfl⟩
  · simpa only [Nat.lt_succ_iff] using h.eq_available_iff
  · have hrun := (retry_congr heq).2
    exact ⟨congrArg Prod.fst hrun, congrArg Prod.snd hrun⟩

/-- A wrong answer, a stall behind the connection, and a connection that timed out: the stall has
the last word. -/
theorem check_verdict_stalled :
    let outcome : Nat → Except AttemptFailure PollStatus := fun
      | 0 => .ok .unavailable
      | 1 => .error ⟨true, .wouldBlock⟩
      | _ => .error ⟨false, .timedOut⟩
    check 2 outcome ≠ .available ∧ (∀ i < attempts 2 outcome, ¬ GivesUp (outcome i)) ∧
      LastVerdict outcome 3 .unresponsive := by
  intro outcome
  have hne : check 2 outcome ≠ .available := by decide
  have hup : ∀ i < attempts 2 outcome, ¬ GivesUp (outcome i) := by decide
  exact ⟨hne, hup, (check_verdict 2 outcome).2.2.1 hne hup⟩

end NetWatch.Monitor.Pop3
