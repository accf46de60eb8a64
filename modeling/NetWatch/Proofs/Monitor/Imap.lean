import NetWatch.Proofs.Monitor.Retry
import NetWatch.Scenario.TcpRun

/-!
# The verdict of the IMAP check

An attempt decides the check when its exchange is complete, its connection was refused, or there is
no way to the host; every other attempt leads to the next one. The first attempt that decides is the
last one that is made, and it has the say: an unreachable host is an error, all else a verdict.
`Course` lists the ways in which a check may go, and `course_check` says that it goes in one of
them.
-/

namespace NetWatch.Monitor.Imap

open Net (IoError IpAddress)

variable {outcome outcome' : Nat → Except AttemptFailure Bool} {o : Except AttemptFailure Bool}
  {target : IpAddress} {result : Except Error PollStatus} {n i : Nat}

/-! ## Outcomes -/

def Refused (o : Except AttemptFailure Bool) : Prop :=
  ∃ e, o = .error e ∧ e.source = .connectionRefused

/-- The attempt failed because there is no way to the host or to its network. -/
def Unreachable (o : Except AttemptFailure Bool) : Prop :=
  ∃ e, o = .error e ∧ (e.source = .hostUnreachable ∨ e.source = .networkUnreachable)

/-- The exchange was incomplete, or the attempt failed with any other I/O error. -/
def Inconclusive (o : Except AttemptFailure Bool) : Prop :=
  o = .ok false ∨ ∃ e, o = .error e ∧ e.source ≠ .connectionRefused ∧
    e.source ≠ .hostUnreachable ∧ e.source ≠ .networkUnreachable

/-- No attempt follows this one. -/
def Decides (o : Except AttemptFailure Bool) : Prop :=
  o = .ok true ∨ Refused o ∨ Unreachable o

theorem not_decides_iff : ¬ Decides o ↔ Inconclusive o := by
  cases o with
  | ok complete => cases complete <;> simp [Decides, Refused, Unreachable, Inconclusive]
  | error e => simp [Decides, Refused, Unreachable, Inconclusive]

/-! ## One attempt -/

theorem judge_cases (target : IpAddress) (o : Except AttemptFailure Bool) :
    (o = .ok true ∧ judge target o = some (.ok .available)) ∨
    (Refused o ∧ judge target o = some (.ok .unavailable)) ∨
    (Unreachable o ∧ judge target o = some (.error (.noRouteToHost target))) ∨
    (Inconclusive o ∧ judge target o = none) := by
  cases o with
  | ok complete => cases complete <;> simp [judge, Inconclusive]
  | error e =>
    by_cases hrefused : e.source = .connectionRefused
    · exact .inr (.inl ⟨⟨e, rfl, hrefused⟩, by simp [judge, IoError.fault, hrefused]⟩)
    · by_cases hroute : e.source = .hostUnreachable ∨ e.source = .networkUnreachable
      · refine .inr (.inr (.inl ⟨⟨e, rfl, hroute⟩, ?_⟩))
        simp only [judge, IoError.fault, if_neg hrefused, if_pos hroute]
      · refine .inr (.inr (.inr ⟨.inr ⟨e, rfl, hrefused, not_or.1 hroute⟩, ?_⟩))
        simp only [judge, IoError.fault, if_neg hrefused, if_neg hroute]

theorem judge_eq_none_iff : judge target o = none ↔ ¬ Decides o := by
  rcases judge_cases target o with ⟨ho, hj⟩ | ⟨ho, hj⟩ | ⟨ho, hj⟩ | ⟨ho, hj⟩
  · exact iff_of_false (by simp [hj]) (not_not_intro (.inl ho))
  · exact iff_of_false (by simp [hj]) (not_not_intro (.inr (.inl ho)))
  · exact iff_of_false (by simp [hj]) (not_not_intro (.inr (.inr ho)))
  · exact iff_of_true hj (not_decides_iff.2 ho)

theorem judge_eq_available_iff : judge target o = some (.ok .available) ↔ o = .ok true := by
  constructor
  · intro h
    rcases judge_cases target o with ⟨ho, _⟩ | ⟨_, hj⟩ | ⟨_, hj⟩ | ⟨_, hj⟩
    · exact ho
    all_goals cases h.symm.trans hj
  · rintro rfl
    rfl

theorem judge_eq_noRoute_iff :
    judge target o = some (.error (.noRouteToHost target)) ↔ Unreachable o := by
  constructor
  · intro h
    rcases judge_cases target o with ⟨_, hj⟩ | ⟨_, hj⟩ | ⟨ho, _⟩ | ⟨_, hj⟩
    case inr.inr.inl => exact ho
    all_goals cases h.symm.trans hj
  · rintro ⟨e, rfl, hsource | hsource⟩ <;> simp only [judge, hsource] <;> rfl

/-! ## The course of a check -/

/-- The ways in which a check of up to `n` attempts may go, with its result and the number of its
attempts. -/
inductive Course (target : IpAddress) (outcome : Nat → Except AttemptFailure Bool) (n : Nat) :
    Except Error PollStatus × Nat → Prop where
  | decided {i : Nat} {result : Except Error PollStatus} : i < n →
      judge target (outcome i) = some result → (∀ j < i, judge target (outcome j) = none) →
      Course target outcome n (result, i + 1)
  | exhausted : (∀ j < n, judge target (outcome j) = none) →
      Course target outcome n (.ok .unavailable, n)

theorem not_isLast_iff {status : Except Error PollStatus} :
    ¬ IsLast (follow target) outcome status i ↔ judge target (outcome i) = none := by
  rw [IsLast, follow]
  cases judge target (outcome i) <;> simp

theorem statusBefore_of_none (h : ∀ j < n, judge target (outcome j) = none) :
    statusBefore (follow target) outcome (.ok .unavailable) n = .ok .unavailable := by
  induction n with
  | zero => rfl
  | succ n ih =>
    rw [statusBefore, ih fun j hj => h j (Nat.lt_succ_of_lt hj), follow, h n (Nat.lt_succ_self n)]

theorem course_check (target : IpAddress) (retries : UInt32)
    (outcome : Nat → Except AttemptFailure Bool) : Course target outcome (retries.toNat + 1)
      (check target retries outcome, attempts target retries outcome) := by
  have h := retried_retry (follow target) outcome (.ok .unavailable) (retries.toNat + 1)
  rw [check, attempts, poll]
  generalize retry (m := Id) (follow target) outcome (retries.toNat + 1) 0 _ = course at h
  cases h with
  | @ended i hi hlast hbefore =>
    cases hj : judge target (outcome i) with
    | none => exact absurd hlast (not_isLast_iff.2 hj)
    | some result =>
      rw [statusBefore, follow, hj]
      exact .decided hi hj fun j hj => not_isLast_iff.1 (hbefore j hj)
  | exhausted hnone =>
    have hundecided := fun j hj => not_isLast_iff.1 (hnone j hj)
    rw [statusBefore_of_none hundecided]
    exact .exhausted hundecided

namespace Course

variable {course : Except Error PollStatus × Nat}

theorem eq_of_first (h : Course target outcome n course) (hi : i < n)
    (ho : judge target (outcome i) = some result)
    (hbefore : ∀ j < i, judge target (outcome j) = none) : course = (result, i + 1) := by
  cases h with
  | @decided k result' _ hk hbefore' =>
    rcases Nat.lt_trichotomy i k with hlt | rfl | hlt
    · cases ho.symm.trans (hbefore' i hlt)
    · cases ho.symm.trans hk
      rfl
    · cases hk.symm.trans (hbefore k hlt)
  | exhausted hnone => cases ho.symm.trans (hnone i hi)

/-- A result that exhausted attempts do not give comes from the first attempt that decides. -/
theorem result_eq_iff (h : Course target outcome n course) (result : Except Error PollStatus)
    (hne : result ≠ .ok .unavailable) : course.1 = result ↔
      ∃ i < n, judge target (outcome i) = some result ∧
        ∀ j < i, judge target (outcome j) = none := by
  constructor
  · rintro rfl
    cases h with
    | decided hi ho hbefore => exact ⟨_, hi, ho, hbefore⟩
    | exhausted => exact absurd rfl hne
  · rintro ⟨i, hi, ho, hbefore⟩
    exact congrArg Prod.fst (h.eq_of_first hi ho hbefore)

theorem eq_unavailable (h : Course target outcome n course) (havailable : course.1 ≠ .ok .available)
    (hroute : course.1 ≠ .error (.noRouteToHost target)) : course.1 = .ok .unavailable := by
  cases h with
  | @decided i result _ ho =>
    rcases judge_cases target (outcome i) with ⟨_, hj⟩ | ⟨_, hj⟩ | ⟨_, hj⟩ | ⟨_, hj⟩ <;>
      cases ho.symm.trans hj
    · exact absurd rfl havailable
    · rfl
    · exact absurd rfl hroute
  | exhausted => rfl

theorem count_eq (h : Course target outcome n course) (hi : i < n) (ho : Decides (outcome i))
    (hbefore : ∀ j < i, ¬ Decides (outcome j)) : course.2 = i + 1 := by
  cases hj : judge target (outcome i) with
  | none => exact absurd ho (judge_eq_none_iff.1 hj)
  | some result =>
    rw [h.eq_of_first hi hj fun j hj => judge_eq_none_iff.2 (hbefore j hj)]

theorem count_eq_all (h : Course target outcome n course)
    (hnone : ∀ i < n, ¬ Decides (outcome i)) : course.2 = n := by
  cases h with
  | decided hi ho => cases ho.symm.trans (judge_eq_none_iff.2 (hnone _ hi))
  | exhausted => rfl

end Course

/-- The result over any outcomes of any number of attempts, and how many are made. A server is
available if an attempt is complete and all before it were inconclusive; the error is that there is
no way to the host, if that was what the first attempt found that decided anything; in every other
case the server is unavailable. No attempt follows the first one that decides. -/
theorem check_result (target : IpAddress) (retries : UInt32)
    (outcome : Nat → Except AttemptFailure Bool) :
    (check target retries outcome = .ok .available ↔
      ∃ i ≤ retries.toNat, outcome i = .ok true ∧ ∀ j < i, Inconclusive (outcome j)) ∧
    (check target retries outcome = .error (.noRouteToHost target) ↔
      ∃ i ≤ retries.toNat, Unreachable (outcome i) ∧ ∀ j < i, ¬ Decides (outcome j)) ∧
    (check target retries outcome ≠ .ok .available →
      check target retries outcome ≠ .error (.noRouteToHost target) →
      check target retries outcome = .ok .unavailable) ∧
    (∀ i ≤ retries.toNat, Decides (outcome i) → (∀ j < i, ¬ Decides (outcome j)) →
      attempts target retries outcome = i + 1) ∧
    ((∀ i ≤ retries.toNat, ¬ Decides (outcome i)) →
      attempts target retries outcome = retries.toNat + 1) ∧
    (∀ outcome', (∀ i < attempts target retries outcome, outcome' i = outcome i) →
      check target retries outcome' = check target retries outcome ∧
      attempts target retries outcome' = attempts target retries outcome) ∧
    ∀ peer params, (Scenario.pollImap peer target params).result =
      check target (params.retry defaultRetry) fun i => attempt exchange (peer.connect i) := by
  have h := course_check target retries outcome
  refine ⟨?available, ?route, h.eq_unavailable, fun i hi => h.count_eq (Nat.lt_succ_of_le hi),
    fun hnone => h.count_eq_all fun i hi => hnone i (Nat.le_of_lt_succ hi), ?asked, fun _ _ => rfl⟩
  case available =>
    simpa only [Nat.lt_succ_iff, judge_eq_available_iff, judge_eq_none_iff, not_decides_iff]
      using h.result_eq_iff (.ok .available) nofun
  case route =>
    simpa only [Nat.lt_succ_iff, judge_eq_noRoute_iff, judge_eq_none_iff]
      using h.result_eq_iff (.error (.noRouteToHost target)) nofun
  case asked =>
    intro outcome' heq
    have hrun := (retry_congr heq).2
    exact ⟨congrArg Prod.fst hrun, congrArg Prod.snd hrun⟩

/-- A wrong answer, a stall behind the connection, and then no way to the host: the attempt that
would have been complete is not made. -/
theorem check_result_unreachable :
    let outcome : Nat → Except AttemptFailure Bool := fun
      | 0 => .ok false
      | 1 => .error ⟨true, .wouldBlock⟩
      | 2 => .error ⟨false, .hostUnreachable⟩
      | _ => .ok true
    Unreachable (outcome 2) ∧ (∀ j < 2, ¬ Decides (outcome j)) ∧
      check (.v4 .loopback) 3 outcome = .error (.noRouteToHost (.v4 .loopback)) ∧
      attempts (.v4 .loopback) 3 outcome = 3 := by
  intro outcome
  have hroute : Unreachable (outcome 2) := ⟨⟨false, .hostUnreachable⟩, rfl, .inl rfl⟩
  have hbefore : ∀ j < 2, ¬ Decides (outcome j) := by
    intro j hj
    refine not_decides_iff.2 ?_
    match j, hj with
    | 0, _ => exact .inl rfl
    | 1, _ => exact .inr ⟨⟨true, .wouldBlock⟩, rfl, by decide⟩
  obtain ⟨_, herror, _, hcount, _⟩ := check_result (.v4 .loopback) 3 outcome
  exact ⟨hroute, hbefore, herror.2 ⟨2, by decide, hroute, hbefore⟩,
    hcount 2 (by decide) (.inr (.inr hroute)) hbefore⟩

end NetWatch.Monitor.Imap
