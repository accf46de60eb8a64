import NetWatch.Monitor.Attempt

/-!
# The course of a retry loop

A check makes attempts until one has the last word. `Retried` says how that goes when the outcomes
are known beforehand: some attempt is the first to have the last word, or all are made and none has
it. Either way no outcome matters but those of the attempts that are made.
-/

namespace NetWatch.Monitor

variable {judge : β → Except AttemptFailure α → β × Bool}
  {outcome outcome' : Nat → Except AttemptFailure α} {status : β} {left i : Nat}

def statusBefore (judge : β → Except AttemptFailure α → β × Bool)
    (outcome : Nat → Except AttemptFailure α) (status : β) : Nat → β
  | 0 => status
  | i + 1 => (judge (statusBefore judge outcome status i) (outcome i)).1

def IsLast (judge : β → Except AttemptFailure α → β × Bool)
    (outcome : Nat → Except AttemptFailure α) (status : β) (i : Nat) : Prop :=
  (judge (statusBefore judge outcome status i) (outcome i)).2

inductive Retried (judge : β → Except AttemptFailure α → β × Bool)
    (outcome : Nat → Except AttemptFailure α) (status : β) (n : Nat) : β × Nat → Prop where
  | ended {i : Nat} : i < n → IsLast judge outcome status i →
      (∀ j < i, ¬ IsLast judge outcome status j) →
      Retried judge outcome status n (statusBefore judge outcome status (i + 1), i + 1)
  | exhausted : (∀ j < n, ¬ IsLast judge outcome status j) →
      Retried judge outcome status n (statusBefore judge outcome status n, n)

theorem retry_succ : retry (m := Id) judge outcome (left + 1) i status =
    match judge status (outcome i) with
    | (status, true) => (status, i + 1)
    | (status, false) => retry (m := Id) judge outcome left (i + 1) status := rfl

/-- From number `i` on, when no attempt before had the last word. -/
theorem retried_from (hbefore : ∀ j < i, ¬ IsLast judge outcome status j) :
    Retried judge outcome status (i + left)
      (retry (m := Id) judge outcome left i (statusBefore judge outcome status i)) := by
  induction left generalizing i with
  | zero => exact .exhausted hbefore
  | succ left ih =>
    rw [retry_succ]
    cases hi : judge (statusBefore judge outcome status i) (outcome i) with
    | mk next last =>
      have hnext : next = statusBefore judge outcome status (i + 1) := by
        rw [statusBefore, hi]
      cases last with
      | true =>
        rw [hnext]
        exact .ended (by omega) (by rw [IsLast, hi]) hbefore
      | false =>
        rw [hnext, show i + (left + 1) = i + 1 + left by omega]
        refine ih fun j hj => ?_
        rcases Nat.lt_succ_iff_lt_or_eq.1 hj with hj | rfl
        · exact hbefore j hj
        · simp [IsLast, hi]

theorem retried_retry (judge : β → Except AttemptFailure α → β × Bool)
    (outcome : Nat → Except AttemptFailure α) (status : β) (n : Nat) :
    Retried judge outcome status n (retry (m := Id) judge outcome n 0 status) := by
  have h : Retried judge outcome status (0 + n) (retry (m := Id) judge outcome n 0 status) :=
    retried_from fun j hj => absurd hj (Nat.not_lt_zero j)
  rwa [Nat.zero_add] at h

/-- A loop asks for no outcome but those of the attempts that it makes. -/
theorem retry_congr
    (h : ∀ j < (retry (m := Id) judge outcome left i status).2, outcome' j = outcome j) :
    i ≤ (retry (m := Id) judge outcome left i status).2 ∧
      retry (m := Id) judge outcome' left i status = retry (m := Id) judge outcome left i status := by
  induction left generalizing i status with
  | zero => exact ⟨Nat.le_refl _, rfl⟩
  | succ left ih =>
    rw [retry_succ] at h ⊢
    rw [retry_succ]
    cases hi : judge status (outcome i) with
    | mk next last =>
      cases last with
      | true =>
        have hsame : outcome' i = outcome i := h i (by simp [hi])
        simp [hsame, hi]
      | false =>
        simp only [hi] at h ⊢
        -- the rest of the loop counts on from `i + 1`, so attempt `i` is one of those made
        obtain ⟨hle, heq⟩ := ih h
        rw [h i hle, hi]
        exact ⟨Nat.le_of_succ_le hle, heq⟩

end NetWatch.Monitor
