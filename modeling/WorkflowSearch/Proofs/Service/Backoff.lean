import Mathlib.Algebra.Order.BigOperators.Group.List
import Mathlib.Algebra.Order.Field.Basic
import Mathlib.Logic.Function.Iterate
import Mathlib.Tactic.Common
import Mathlib.Tactic.NormNum
import WorkflowSearch.Proofs.Scalar.Exact
import WorkflowSearch.Proofs.Service.Retry

namespace WorkflowSearch

variable {α τ ε β : Type}

theorem RetryPolicy.delayMs_le [Scalar α] (policy : RetryPolicy α) (attempt : ℕ) :
    policy.delayMs attempt ≤ policy.maxDelayMs := by
  unfold delayMs
  split
  · exact Nat.min_le_right ..
  · exact Nat.min_le_right ..

theorem attemptExponent_of_lt {attempt : ℕ} (h : attempt < 2 ^ 31) :
    attemptExponent attempt = attempt := by
  refine Int.bmod_eq_of_le_mul_two ?_ ?_
  · rw [UInt32.size]
    omega
  · rw [UInt32.size]
    omega

theorem RetryPolicy.delayMs_eq [ExactScalar α] {policy : RetryPolicy α}
    (hdouble : policy.multiplier = 2) (hmax : policy.maxDelayMs < UInt64.size) {attempt : ℕ}
    (h : attempt < 2 ^ 31) :
    policy.delayMs attempt = min (policy.initialDelayMs * 2 ^ attempt) policy.maxDelayMs := by
  unfold delayMs
  split
  · next hfirst => rw [hfirst, pow_zero, mul_one]
  · have hproduct : (policy.initialDelayMs : α) * 2 ^ attempt =
        ((policy.initialDelayMs * 2 ^ attempt : ℕ) : α) := by
      push_cast
      rfl
    dsimp only
    rw [attemptExponent_of_lt h, ExactScalar.pow_natCast, hdouble, hproduct,
      ExactScalar.min_eq_min, ← Nat.cast_min, ExactScalar.floorNat_natCast]
    omega

theorem totalMs_eq_sum (times : List ℕ) : totalMs times = times.sum :=
  rfl

def pausedMs (events : List (RetryEvent ε β)) : ℕ :=
  totalMs (events.filterMap fun
    | .called _ => none
    | .paused ms => some ms)

theorem pausedMs_called (events : List (RetryEvent ε β)) (result : Except ε β) :
    pausedMs (events ++ [.called result]) = pausedMs events := by
  simp [pausedMs]

theorem pausedMs_paused (events : List (RetryEvent ε β)) (ms : ℕ) :
    pausedMs (events ++ [.paused ms]) = pausedMs events + ms := by
  simp [pausedMs, totalMs_eq_sum]

/-- A loop that has not paused longer than for the greatest delay before each attempt but the first.
-/
inductive Paced (policy : RetryPolicy α) : RetryLoop τ ε β → Prop
  | calling {attempt : UInt32} {state : τ} {events : List (RetryEvent ε β)}
      (retries : attempt.toNat ≤ policy.maxRetries)
      (pauses : pausedMs events ≤ attempt.toNat * policy.maxDelayMs) :
      Paced policy ⟨.calling attempt, state, events⟩
  | pausing {attempt : UInt32} {state : τ} {events : List (RetryEvent ε β)}
      (retries : attempt.toNat < policy.maxRetries)
      (pauses : pausedMs events ≤ attempt.toNat * policy.maxDelayMs) :
      Paced policy ⟨.pausing attempt, state, events⟩
  | returned {result : Except ε β} {attempts : UInt32} {state : τ}
      {events : List (RetryEvent ε β)}
      (pauses : pausedMs events ≤ policy.maxRetries * policy.maxDelayMs) :
      Paced policy ⟨.returned result attempts, state, events⟩

theorem Paced.pausedMs_le {policy : RetryPolicy α} {loop : RetryLoop τ ε β}
    (h : Paced policy loop) :
    pausedMs loop.events ≤ policy.maxRetries * policy.maxDelayMs := by
  cases h with
  | calling retries pauses => exact pauses.trans (Nat.mul_le_mul_right _ retries)
  | pausing retries pauses => exact pauses.trans (Nat.mul_le_mul_right _ retries.le)
  | returned pauses => exact pauses

section Loop

variable [Scalar α] {policy : RetryPolicy α} {retryable : ε → Bool}
  {operation : τ → Except ε β × τ}

theorem Paced.step {loop : RetryLoop τ ε β} (h : Paced policy loop)
    (hbound : policy.maxRetries < UInt32.size) :
    Paced policy (RetryLoop.step policy retryable operation loop) := by
  have hwhole := h.pausedMs_le
  cases h with
  | @calling attempt state events retries pauses =>
    simp only [RetryLoop.step]
    cases hresult : (operation state).1 with
    | ok b => exact .returned (by rwa [pausedMs_called])
    | error e =>
      dsimp only
      split
      · exact .returned (by rwa [pausedMs_called])
      · split
        · exact .returned (by rwa [pausedMs_called])
        · next hleft => exact .pausing (Nat.not_le.mp hleft) (by rwa [pausedMs_called])
  | @pausing attempt state events retries pauses =>
    -- The number of attempts does not wrap, since it stays within the retries.
    have hnext : (attempt + 1).toNat = attempt.toNat + 1 := by
      rw [UInt32.toNat_add, UInt32.toNat_one]
      exact Nat.mod_eq_of_lt (Nat.lt_of_le_of_lt retries hbound)
    refine .calling (hnext ▸ retries) ?_
    rw [pausedMs_paused, hnext, Nat.succ_mul]
    exact Nat.add_le_add pauses (policy.delayMs_le _)
  | returned pauses => exact .returned pauses

theorem paced_iterate_step (retryable : ε → Bool) (operation : τ → Except ε β × τ) (start : τ)
    (hbound : policy.maxRetries < UInt32.size) (steps : ℕ) :
    Paced policy ((RetryLoop.step policy retryable operation)^[steps] (.initial start)) := by
  induction steps with
  | zero => exact .calling (Nat.zero_le _) (Nat.zero_le _)
  | succ steps ih =>
    rw [Function.iterate_succ_apply']
    exact ih.step hbound

theorem totalMs_retry_le (policy : RetryPolicy α) (retryable : ε → Bool)
    (results : ℕ → Except ε β) :
    totalMs (retry policy retryable results).pausesMs ≤
      policy.maxRetries * policy.maxDelayMs := by
  obtain ⟨last, hends, hfirst⟩ := exists_first_endsRetries policy retryable results
  have hpauses : ∀ ms ∈ (List.range last).map policy.delayMs, ms ≤ policy.maxDelayMs :=
    List.forall_mem_map.mpr fun attempt _ ↦ policy.delayMs_le attempt
  rw [retry_eq hends hfirst]
  calc totalMs ((List.range last).map policy.delayMs)
      ≤ ((List.range last).map policy.delayMs).length • policy.maxDelayMs :=
      List.sum_le_card_nsmul _ _ hpauses
    _ = last * policy.maxDelayMs := by rw [List.length_map, List.length_range, Nat.nsmul_eq_mul]
    _ ≤ policy.maxRetries * policy.maxDelayMs :=
      Nat.mul_le_mul_right _ (le_maxRetries_of_first hfirst)

end Loop

/-- In exact arithmetic the delays of a configuration double up to its greatest backoff, so they
never fall; this holds of attempts whose number is an exponent as it stands. No delay exceeds the
greatest backoff, also where the exponent wraps around. Whatever its calls give, a loop of retries
has at no step paused longer than for the greatest backoff at each retry, and the same holds of the
pauses that `retry` reports. -/
theorem ofConfig_backoff [ExactScalar α] (config : EvaluationConfig α)
    (hretries : config.maxRetries < UInt32.size) (hbackoff : config.maxBackoffMs < UInt64.size)
    (retryable : ε → Bool) (operation : τ → Except ε β × τ) (start : τ) :
    let policy := RetryPolicy.ofConfig config
    let loopAfter (steps : ℕ) :=
      (RetryLoop.step policy retryable operation)^[steps] (RetryLoop.initial start)
    (∀ attempt < 2 ^ 31, policy.delayMs attempt =
        min (config.initialBackoffMs * 2 ^ attempt) config.maxBackoffMs) ∧
      (∀ later < 2 ^ 31, ∀ earlier ≤ later, policy.delayMs earlier ≤ policy.delayMs later) ∧
      (∀ attempt, policy.delayMs attempt ≤ config.maxBackoffMs) ∧
      (∀ steps, pausedMs (loopAfter steps).events ≤ config.maxRetries * config.maxBackoffMs) ∧
      totalMs (retry policy retryable (nthResult operation start)).pausesMs ≤
        config.maxRetries * config.maxBackoffMs := by
  intro policy loopAfter
  have hdouble : policy.multiplier = 2 := by
    change (2.0 : α) = 2
    rw [ExactScalar.ofScientific_eq]
    norm_num
  have hdelay {attempt : ℕ} (h : attempt < 2 ^ 31) : policy.delayMs attempt =
      min (config.initialBackoffMs * 2 ^ attempt) config.maxBackoffMs :=
    RetryPolicy.delayMs_eq hdouble hbackoff h
  refine ⟨fun attempt ↦ hdelay, fun later hlater earlier hle ↦ ?_, policy.delayMs_le,
    fun steps ↦ (paced_iterate_step retryable operation start hretries steps).pausedMs_le,
    totalMs_retry_le ..⟩
  rw [hdelay (hle.trans_lt hlater), hdelay hlater]
  exact min_le_min_right _ (Nat.mul_le_mul_left _ (Nat.pow_le_pow_right two_pos hle))

/-- The default delays reach the greatest backoff after five doublings. -/
theorem default_backoff :
    let config : EvaluationConfig ℚ := .default
    let policy := RetryPolicy.ofConfig config
    config.maxRetries < UInt32.size ∧ config.maxBackoffMs < UInt64.size ∧
      (List.range 7).map policy.delayMs = [50, 100, 200, 400, 800, 1000, 1000] ∧
      policy.delayMs (2 ^ 31) ≤ 1000 ∧
      pausedMs ((RetryLoop.step policy id failingOperation)^[5] (.initial 0)).events ≤ 2000 ∧
      totalMs (retry policy id (nthResult failingOperation 0)).pausesMs ≤ 2000 := by
  intro config policy
  have hretries : config.maxRetries < UInt32.size := by decide
  have hbackoff : config.maxBackoffMs < UInt64.size := by decide
  obtain ⟨hdelays, -, hmost, hloop, hretry⟩ :=
    ofConfig_backoff config hretries hbackoff id failingOperation 0
  have htotal : config.maxRetries * config.maxBackoffMs = 2000 := by decide
  refine ⟨hretries, hbackoff, ?_, hmost _, (hloop 5).trans_eq htotal, hretry.trans_eq htotal⟩
  have hfirst (attempt : ℕ) (h : attempt ∈ List.range 7) :
      policy.delayMs attempt = min (50 * 2 ^ attempt) 1000 := by
    have hlt : attempt < 2 ^ 31 := (List.mem_range.mp h).trans (by norm_num)
    exact hdelays attempt hlt
  rw [List.map_congr_left hfirst]
  decide

end WorkflowSearch
