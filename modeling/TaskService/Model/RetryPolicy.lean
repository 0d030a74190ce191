import TaskService.Library.Checks

/-!
# Retry delays

Durations are counted in nanoseconds, up to the largest representable duration
of `2 ^ 64 - 1` seconds and 999 999 999 nanoseconds.  A policy carries the two
facts its constructor checks.
-/

namespace TaskService.Model

open Library

def nanosPerMilli : Nat := 1000000
def nanosPerSecond : Nat := 1000000000

/-- First duration that does not fit the seconds-and-nanoseconds representation. -/
def durationBound : Nat := u64Bound * nanosPerSecond

inductive RetryPolicyError where
  | zeroInitialDelay
  | maximumBelowInitial
  deriving DecidableEq, Repr

structure RetryPolicy where
  initialDelay : Nat
  maxDelay : Nat
  positive : 0 < initialDelay
  ordered : initialDelay ≤ maxDelay
  bounded : maxDelay < durationBound

def RetryPolicy.new (initialDelay maxDelay : Fin durationBound) :
    Except RetryPolicyError RetryPolicy :=
  if zero : initialDelay.val = 0 then .error .zeroInitialDelay
  else if below : maxDelay.val < initialDelay.val then .error .maximumBelowInitial
  else
    .ok
      { initialDelay := initialDelay.val
        maxDelay := maxDelay.val
        positive := Nat.pos_of_ne_zero zero
        ordered := Nat.le_of_not_lt below
        bounded := maxDelay.isLt }

/-- The doubling loop of `delayForAttempt`, on its remaining doublings. -/
def doubleDelay (maxDelay : Nat) : Nat → Nat → Nat
  | 0, delay => delay
  | remaining + 1, delay =>
      if delay < maxDelay then
        doubleDelay maxDelay remaining (min (min (delay * 2) (durationBound - 1)) maxDelay)
      else delay

def RetryPolicy.delayForAttempt (policy : RetryPolicy) (attempt : Nat) : Nat :=
  doubleDelay policy.maxDelay (attempt - 1) policy.initialDelay

theorem double_delay_le_max (maxDelay remaining delay : Nat) (bounded : delay ≤ maxDelay) :
    doubleDelay maxDelay remaining delay ≤ maxDelay := by
  induction remaining generalizing delay with
  | zero => exact bounded
  | succ remaining ih =>
    simp only [doubleDelay]
    split_ifs
    · exact ih _ (Nat.min_le_right _ _)
    · exact bounded

theorem delay_for_attempt_le_max (policy : RetryPolicy) (attempt : Nat) :
    policy.delayForAttempt attempt ≤ policy.maxDelay :=
  double_delay_le_max _ _ _ policy.ordered

theorem double_delay_eq (maxDelay remaining delay : Nat) (bounded : maxDelay < durationBound)
    (capped : delay ≤ maxDelay) :
    doubleDelay maxDelay remaining delay = min (delay * 2 ^ remaining) maxDelay := by
  induction remaining generalizing delay with
  | zero => simp [doubleDelay, capped]
  | succ remaining ih =>
    have grows : 1 ≤ 2 ^ remaining := Nat.one_le_two_pow
    have power : delay * 2 ^ (remaining + 1) = delay * 2 * 2 ^ remaining := by
      rw [pow_succ, Nat.mul_comm (2 ^ remaining) 2, Nat.mul_assoc]
    -- The cap is a duration, so it takes effect before the saturation does.
    simp only [doubleDelay, min_assoc, min_eq_right (Nat.le_sub_one_of_lt bounded)]
    by_cases below : delay < maxDelay
    · rw [if_pos below, ih _ (Nat.min_le_right _ _), power]
      by_cases doubled : delay * 2 ≤ maxDelay
      · rw [min_eq_left doubled]
      · -- The doubled delay passes the cap, and so does every further doubling of it.
        have reached : maxDelay ≤ delay * 2 := by omega
        have exact_past : maxDelay ≤ delay * 2 * 2 ^ remaining :=
          reached.trans (Nat.le_mul_of_pos_right _ grows)
        have capped_past : maxDelay ≤ maxDelay * 2 ^ remaining :=
          Nat.le_mul_of_pos_right _ grows
        rw [min_eq_right reached, min_eq_right capped_past, min_eq_right exact_past]
    · have same : delay = maxDelay := by omega
      have past : maxDelay ≤ delay * 2 ^ (remaining + 1) := by
        rw [same]
        exact Nat.le_mul_of_pos_right _ Nat.one_le_two_pow
      rw [if_neg below, min_eq_right past, same]

/-- The delay is the exact power of two times the initial delay, cut off at the maximum. -/
theorem delay_for_attempt_eq (policy : RetryPolicy) (attempt : Nat) :
    policy.delayForAttempt attempt =
      min (policy.initialDelay * 2 ^ (max attempt 1 - 1)) policy.maxDelay := by
  have doublings : max attempt 1 - 1 = attempt - 1 := by omega
  rw [doublings]
  exact double_delay_eq _ _ _ policy.bounded policy.ordered

theorem delay_for_attempt_pos (policy : RetryPolicy) (attempt : Nat) :
    0 < policy.delayForAttempt attempt := by
  rw [delay_for_attempt_eq]
  apply lt_min
  · exact Nat.mul_pos policy.positive (Nat.two_pow_pos _)
  · exact lt_of_lt_of_le policy.positive policy.ordered

theorem delay_for_attempt_mono (policy : RetryPolicy) (earlier later : Nat)
    (order : earlier ≤ later) :
    policy.delayForAttempt earlier ≤ policy.delayForAttempt later := by
  rw [delay_for_attempt_eq, delay_for_attempt_eq]
  have exponents : max earlier 1 - 1 ≤ max later 1 - 1 := by omega
  have powers := Nat.pow_le_pow_right (Nat.succ_pos 1) exponents
  exact min_le_min_right _ (Nat.mul_le_mul_left _ powers)

theorem new_delays (initialDelay maxDelay : Fin durationBound) (policy : RetryPolicy)
    (accepted : RetryPolicy.new initialDelay maxDelay = .ok policy) :
    policy.initialDelay = initialDelay.val ∧ policy.maxDelay = maxDelay.val := by
  unfold RetryPolicy.new at accepted
  split_ifs at accepted
  cases accepted
  exact ⟨rfl, rfl⟩

/-- Every policy the constructor accepts waits the capped exact power of two, whatever the
durations and the attempt. -/
theorem accepted_policy_delay_closed_form (initialDelay maxDelay : Fin durationBound)
    (policy : RetryPolicy) (accepted : RetryPolicy.new initialDelay maxDelay = .ok policy) :
    (∀ attempt, policy.delayForAttempt attempt =
      min (initialDelay.val * 2 ^ (max attempt 1 - 1)) maxDelay.val) ∧
    (∀ attempt, 0 < policy.delayForAttempt attempt) ∧
    (∀ earlier later, earlier ≤ later →
      policy.delayForAttempt earlier ≤ policy.delayForAttempt later) ∧
    ∀ attempt, policy.delayForAttempt attempt ≤ maxDelay.val := by
  obtain ⟨initial, maximum⟩ := new_delays initialDelay maxDelay policy accepted
  refine ⟨?_, delay_for_attempt_pos policy, delay_for_attempt_mono policy, ?_⟩
  · intro attempt
    rw [delay_for_attempt_eq, initial, maximum]
  · intro attempt
    rw [← maximum]
    exact delay_for_attempt_le_max policy attempt

/-- The longest durations: the first retry waits one second less than the maximum, and the
doubling of the second one saturates. -/
theorem accepted_policy_delay_longest :
    ∃ policy, RetryPolicy.new ⟨durationBound - nanosPerSecond, by decide⟩
        ⟨durationBound - 1, by decide⟩ = .ok policy ∧
      policy.delayForAttempt 2 = durationBound - 1 := by
  refine ⟨⟨durationBound - nanosPerSecond, durationBound - 1, by decide, by decide, by decide⟩,
    rfl, ?_⟩
  rw [(accepted_policy_delay_closed_form ⟨durationBound - nanosPerSecond, by decide⟩
    ⟨durationBound - 1, by decide⟩ _ rfl).1 2]
  decide

end TaskService.Model
