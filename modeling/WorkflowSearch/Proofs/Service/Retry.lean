import Mathlib.Data.Nat.Find
import Mathlib.Logic.Function.Iterate
import Mathlib.Tactic.Common
import WorkflowSearch.Scalar.Double
import WorkflowSearch.Service.Retry

namespace WorkflowSearch

variable {α τ ε β : Type} [Scalar α]

section Recursion

variable {policy : RetryPolicy α} {retryable : ε → Bool} {operation : ℕ → Except ε β}
  {left attempt : ℕ}

theorem retryFrom_of_ok {b : β} (h : operation attempt = .ok b) :
    retryFrom policy retryable operation left attempt = ⟨.ok b, attempt + 1, []⟩ := by
  cases left with
  | zero => rw [retryFrom, h]
  | succ left => rw [retryFrom, h]

theorem retryFrom_of_last {e : ε} (h : operation attempt = .error e)
    (hlast : ¬ (retryable e = true ∧ 0 < left)) :
    retryFrom policy retryable operation left attempt = ⟨.error e, attempt + 1, []⟩ := by
  cases left with
  | zero => rw [retryFrom, h]
  | succ left =>
    have hgood : ¬ retryable e = true := fun hretry ↦ hlast ⟨hretry, Nat.succ_pos left⟩
    rw [retryFrom, h]
    exact if_neg hgood

theorem retryFrom_of_retryable {e : ε} (h : operation attempt = .error e)
    (hretry : retryable e = true) :
    retryFrom policy retryable operation (left + 1) attempt =
      let rest := retryFrom policy retryable operation left (attempt + 1)
      { rest with pausesMs := policy.delayMs attempt :: rest.pausesMs } := by
  rw [retryFrom, h]
  exact if_pos hretry

theorem retryFrom_attempts (policy : RetryPolicy α) (retryable : ε → Bool)
    (operation : ℕ → Except ε β) (left attempt : ℕ) :
    attempt + 1 ≤ (retryFrom policy retryable operation left attempt).attempts ∧
      (retryFrom policy retryable operation left attempt).attempts ≤ attempt + left + 1 := by
  induction left generalizing attempt with
  | zero => simp [retryFrom]
  | succ left ih =>
    unfold retryFrom
    cases operation attempt with
    | ok b => exact ⟨Nat.le_refl _, by dsimp only; omega⟩
    | error e =>
      by_cases h : retryable e
      · have := ih (attempt + 1)
        simp only [h, if_true]
        omega
      · simp only [if_neg h]
        exact ⟨Nat.le_refl _, by omega⟩

theorem retryFrom_eq_ok {b : β}
    (h : (retryFrom policy retryable operation left attempt).result = .ok b) :
    ∃ number, operation number = .ok b := by
  induction left generalizing attempt with
  | zero => exact ⟨attempt, h⟩
  | succ left ih =>
    unfold retryFrom at h
    cases hoperation : operation attempt with
    | ok found =>
      rw [hoperation] at h
      exact ⟨attempt, hoperation.trans h⟩
    | error error =>
      simp only [hoperation] at h
      split at h
      · exact ih h
      · cases h

end Recursion

/-- The call of a number, counted from zero, is the last one if a loop comes so far: it succeeds, it
fails for good, or no retries are left. -/
inductive EndsRetries (policy : RetryPolicy α) (retryable : ε → Bool) (results : ℕ → Except ε β)
    (number : ℕ) : Prop
  | succeeded {b : β} (result : results number = .ok b)
  | failed {e : ε} (result : results number = .error e) (forGood : retryable e = false)
  | exhausted (number_eq : number = policy.maxRetries)

inductive RetryEvent (ε β : Type) where
  | called (result : Except ε β)
  | paused (ms : ℕ)

/-- What a loop of retries does next; it counts its attempts in 32 bits. -/
inductive RetryPhase (ε β : Type) where
  | calling (attempt : UInt32)
  | pausing (attempt : UInt32)
  | returned (result : Except ε β) (attempts : UInt32)

structure RetryLoop (τ ε β : Type) where
  phase : RetryPhase ε β
  state : τ
  events : List (RetryEvent ε β)

namespace RetryLoop

def initial (start : τ) : RetryLoop τ ε β :=
  ⟨.calling 0, start, []⟩

def step (policy : RetryPolicy α) (retryable : ε → Bool) (operation : τ → Except ε β × τ)
    (loop : RetryLoop τ ε β) : RetryLoop τ ε β :=
  match loop.phase with
  | .calling attempt =>
    let (result, state) := operation loop.state
    let events := loop.events ++ [.called result]
    match result with
    | .ok _ => ⟨.returned result (attempt + 1), state, events⟩
    | .error e =>
      if retryable e = false then ⟨.returned result (attempt + 1), state, events⟩
      else if policy.maxRetries ≤ attempt.toNat then ⟨.returned result (attempt + 1), state, events⟩
      else ⟨.pausing attempt, state, events⟩
  | .pausing attempt =>
    ⟨.calling (attempt + 1), loop.state, loop.events ++ [.paused (policy.delayMs attempt.toNat)]⟩
  | .returned _ _ => loop

end RetryLoop

section Calls

variable (operation : τ → Except ε β × τ) (start : τ)

def stateBefore : ℕ → τ
  | 0 => start
  | number + 1 => (operation (stateBefore number)).2

def nthResult (number : ℕ) : Except ε β :=
  (operation (stateBefore operation start number)).1

theorem operation_stateBefore (number : ℕ) :
    operation (stateBefore operation start number) =
      (nthResult operation start number, stateBefore operation start (number + 1)) :=
  rfl

end Calls

def retryEvents (policy : RetryPolicy α) (results : ℕ → Except ε β) (number : ℕ) :
    List (RetryEvent ε β) :=
  (List.range number).flatMap fun k ↦ [.called (results k), .paused (policy.delayMs k)]

theorem retryEvents_succ (policy : RetryPolicy α) (results : ℕ → Except ε β) (number : ℕ) :
    retryEvents policy results (number + 1) = retryEvents policy results number ++
      [.called (results number)] ++ [.paused (policy.delayMs number)] := by
  simp [retryEvents, List.range_succ]

omit [Scalar α] in
theorem exists_error_of_not_endsRetries {policy : RetryPolicy α} {retryable : ε → Bool}
    {results : ℕ → Except ε β} {number : ℕ} (h : ¬ EndsRetries policy retryable results number) :
    ∃ e, results number = .error e ∧ retryable e = true ∧ number ≠ policy.maxRetries := by
  cases hresult : results number with
  | ok b => exact absurd (.succeeded hresult) h
  | error e =>
    refine ⟨e, rfl, ?_, fun heq ↦ h (.exhausted heq)⟩
    exact eq_true_of_ne_false fun hgood ↦ h (.failed hresult hgood)

omit [Scalar α] in
theorem EndsRetries.congr {policy : RetryPolicy α} {retryable : ε → Bool}
    {results results' : ℕ → Except ε β} {number : ℕ} (h : EndsRetries policy retryable results number)
    (hresult : results' number = results number) : EndsRetries policy retryable results' number := by
  cases h with
  | succeeded hok => exact .succeeded (hresult.trans hok)
  | failed herror hgood => exact .failed (hresult.trans herror) hgood
  | exhausted hnone => exact .exhausted hnone

omit [Scalar α] in
theorem exists_first_endsRetries (policy : RetryPolicy α) (retryable : ε → Bool)
    (results : ℕ → Except ε β) :
    ∃ last, EndsRetries policy retryable results last ∧
      ∀ earlier < last, ¬ EndsRetries policy retryable results earlier := by
  classical
  have hexists : ∃ last, EndsRetries policy retryable results last :=
    ⟨policy.maxRetries, .exhausted rfl⟩
  exact ⟨Nat.find hexists, Nat.find_spec hexists, fun _ ↦ Nat.find_min hexists⟩

section Last

variable {policy : RetryPolicy α} {retryable : ε → Bool} {results : ℕ → Except ε β} {last : ℕ}
  (hlast : EndsRetries policy retryable results last)
  (hfirst : ∀ earlier < last, ¬ EndsRetries policy retryable results earlier)
include hlast hfirst

omit [Scalar α] hlast in
theorem le_maxRetries_of_first : last ≤ policy.maxRetries := by
  by_contra hlt
  exact hfirst policy.maxRetries (not_le.mp hlt) (.exhausted rfl)

/-- From an attempt on, the recursion goes to the first call that is the last. -/
theorem retryFrom_eq {left attempt : ℕ} (hleft : attempt + left = policy.maxRetries)
    (hle : attempt ≤ last) :
    retryFrom policy retryable results left attempt =
      ⟨results last, last + 1, (List.range' attempt (last - attempt)).map policy.delayMs⟩ := by
  induction left generalizing attempt with
  | zero =>
    obtain rfl : attempt = last := by
      have := le_maxRetries_of_first hfirst
      omega
    rw [Nat.sub_self]
    rfl
  | succ left ih =>
    obtain hlt | rfl := Nat.lt_or_eq_of_le hle
    · obtain ⟨e, herror, hretry, -⟩ := exists_error_of_not_endsRetries (hfirst attempt hlt)
      have hsub : last - attempt = last - (attempt + 1) + 1 := by omega
      rw [retryFrom_of_retryable herror hretry, ih (by omega) hlt, hsub, List.range'_succ,
        List.map_cons]
    · rw [Nat.sub_self]
      cases hlast with
      | succeeded hok => rw [retryFrom_of_ok hok, hok, List.range'_zero, List.map_nil]
      | failed herror hgood =>
        rw [retryFrom_of_last herror (by simp [hgood]), herror, List.range'_zero, List.map_nil]
      | exhausted hnone => omega

theorem retry_eq :
    retry policy retryable results =
      ⟨results last, last + 1, (List.range last).map policy.delayMs⟩ := by
  rw [retry, retryFrom_eq hlast hfirst (Nat.zero_add _) (Nat.zero_le _), Nat.sub_zero,
    List.range_eq_range']

end Last

theorem retry_congr {policy : RetryPolicy α} {retryable : ε → Bool}
    {results results' : ℕ → Except ε β}
    (h : ∀ number < (retry policy retryable results).attempts, results' number = results number) :
    retry policy retryable results' = retry policy retryable results := by
  obtain ⟨last, hends, hfirst⟩ := exists_first_endsRetries policy retryable results
  have hretry := retry_eq hends hfirst
  rw [hretry] at h ⊢
  have hlast : results' last = results last := h last (Nat.lt_succ_self last)
  have hfirst' : ∀ earlier < last, ¬ EndsRetries policy retryable results' earlier :=
    fun earlier hlt hends' ↦
      hfirst earlier hlt (hends'.congr (h earlier (Nat.lt_succ_of_lt hlt)).symm)
  rw [retry_eq (hends.congr hlast) hfirst', hlast]

namespace RetryLoop

section Steps

variable {policy : RetryPolicy α} {retryable : ε → Bool} {operation : τ → Except ε β × τ}
  {start : τ} {number last : ℕ}

def before (policy : RetryPolicy α) (operation : τ → Except ε β × τ) (start : τ) (number : ℕ) :
    RetryLoop τ ε β :=
  ⟨.calling (UInt32.ofNat number), stateBefore operation start number,
    retryEvents policy (nthResult operation start) number⟩

def after (policy : RetryPolicy α) (operation : τ → Except ε β × τ) (start : τ) (number : ℕ)
    (phase : RetryPhase ε β) : RetryLoop τ ε β :=
  ⟨phase, stateBefore operation start (number + 1),
    retryEvents policy (nthResult operation start) number ++
      [.called (nthResult operation start number)]⟩

theorem step_before_of_ends
    (h : EndsRetries policy retryable (nthResult operation start) number)
    (hnumber : number < UInt32.size) :
    step policy retryable operation (before policy operation start number) =
      after policy operation start number
        (.returned (nthResult operation start number) (UInt32.ofNat (number + 1))) := by
  have hcount : (UInt32.ofNat number).toNat = number := UInt32.toNat_ofNat_of_lt' hnumber
  rw [UInt32.ofNat_add]
  unfold step before after
  simp only [operation_stateBefore]
  cases h with
  | succeeded hok =>
    simp only [hok]
    rfl
  | failed herror hgood =>
    simp only [herror, if_pos hgood]
    rfl
  | exhausted hnone =>
    cases hresult : nthResult operation start number with
    | ok b => rfl
    | error e =>
      have hleft : policy.maxRetries ≤ (UInt32.ofNat number).toNat := by rw [hcount, hnone]
      simp only [if_pos hleft, ite_self]
      rfl

theorem steps_before_of_not_ends
    (h : ¬ EndsRetries policy retryable (nthResult operation start) number)
    (hretries : number ≤ policy.maxRetries) (hnumber : number < UInt32.size) :
    step policy retryable operation (before policy operation start number) =
        after policy operation start number (.pausing (UInt32.ofNat number)) ∧
      step policy retryable operation
          (step policy retryable operation (before policy operation start number)) =
        before policy operation start (number + 1) := by
  have hcount : (UInt32.ofNat number).toNat = number := UInt32.toNat_ofNat_of_lt' hnumber
  obtain ⟨e, herror, hretry, hne⟩ := exists_error_of_not_endsRetries h
  have hcall : step policy retryable operation (before policy operation start number) =
      after policy operation start number (.pausing (UInt32.ofNat number)) := by
    have hleft : ¬ policy.maxRetries ≤ number := by omega
    unfold step before after
    simp only [operation_stateBefore, herror, hretry, hcount, if_neg hleft, Bool.true_eq_false,
      if_false]
  refine ⟨hcall, ?_⟩
  rw [hcall]
  simp only [step, after, before, hcount, retryEvents_succ, UInt32.ofNat_add]
  rfl

variable (hfirst : ∀ earlier < last, ¬ EndsRetries policy retryable (nthResult operation start) earlier)
  (hbound : policy.maxRetries < UInt32.size)
include hfirst hbound

theorem iterate_step_eq_before (hle : number ≤ last) :
    (step policy retryable operation)^[2 * number] (initial start) =
      before policy operation start number := by
  induction number with
  | zero => rfl
  | succ number ih =>
    have hretries := le_maxRetries_of_first hfirst
    obtain ⟨-, hagain⟩ := steps_before_of_not_ends (hfirst number hle) (by omega) (by omega)
    rw [Nat.mul_succ, Nat.add_comm, Function.iterate_add_apply, ih (by omega)]
    exact hagain

theorem iterate_step_ne_returned {steps : ℕ} (hsteps : steps ≤ 2 * last) (result : Except ε β)
    (attempts : UInt32) :
    ((step policy retryable operation)^[steps] (initial start)).phase ≠
      .returned result attempts := by
  have hretries := le_maxRetries_of_first hfirst
  obtain ⟨number, rfl | rfl⟩ : ∃ number, steps = 2 * number ∨ steps = 2 * number + 1 :=
    ⟨steps / 2, by omega⟩
  · rw [iterate_step_eq_before hfirst hbound (by omega)]
    exact nofun
  · obtain ⟨hpause, -⟩ := steps_before_of_not_ends (hfirst number (by omega)) (by omega) (by omega)
    rw [Function.iterate_succ_apply', iterate_step_eq_before hfirst hbound (by omega), hpause]
    exact nofun

end Steps

end RetryLoop

/-- However its calls turn out, a loop of retries returns with the first call that succeeds, fails for
good or has no retries left. It gives the result of this call, and its number counted from one as the
attempts; it has called as often, and paused for the delay of each earlier call right after it. This
is what `retry` says of the results that the calls would give. -/
theorem retry_stops_first (policy : RetryPolicy α) (retryable : ε → Bool)
    (operation : τ → Except ε β × τ) (start : τ) (hbound : policy.maxRetries < UInt32.size - 1) :
    let results := nthResult operation start
    let loopAfter (steps : ℕ) :=
      (RetryLoop.step policy retryable operation)^[steps] (RetryLoop.initial start)
    ∃ last, EndsRetries policy retryable results last ∧
      (∀ earlier < last, ¬ EndsRetries policy retryable results earlier) ∧
      retry policy retryable results =
        ⟨results last, last + 1, (List.range last).map policy.delayMs⟩ ∧
      (∀ steps ≤ 2 * last, ∀ result attempts,
        (loopAfter steps).phase ≠ .returned result attempts) ∧
      ∃ attempts : UInt32, attempts.toNat = last + 1 ∧
        loopAfter (2 * last + 1) =
          { phase := .returned (results last) attempts
            state := stateBefore operation start (last + 1)
            events := retryEvents policy results last ++ [.called (results last)] } := by
  intro results loopAfter
  obtain ⟨last, hends, hfirst⟩ := exists_first_endsRetries policy retryable results
  have hretries := le_maxRetries_of_first hfirst
  have hsize : policy.maxRetries < UInt32.size := by omega
  refine ⟨last, hends, hfirst, retry_eq hends hfirst,
    fun _ hsteps ↦ RetryLoop.iterate_step_ne_returned hfirst hsize hsteps,
    UInt32.ofNat (last + 1), UInt32.toNat_ofNat_of_lt' (by omega), ?_⟩
  have hbefore := RetryLoop.iterate_step_eq_before hfirst hsize le_rfl
  exact (Function.iterate_succ_apply' ..).trans
    ((congrArg _ hbefore).trans (RetryLoop.step_before_of_ends hends (by omega)))

def failingOperation (calls : ℕ) : Except Bool Unit × ℕ :=
  (.error (decide (calls < 2)), calls + 1)

def twoRetries : RetryPolicy Double where
  maxRetries := 2
  initialDelayMs := 50
  maxDelayMs := 80
  multiplier := 2.0

/-- An error that is for good ends the loop at the last attempt as well. -/
theorem failingOperation_stops_third :
    twoRetries.maxRetries < UInt32.size - 1 ∧
      (retry twoRetries id (nthResult failingOperation 0)).attempts = 3 ∧
      ∃ attempts : UInt32, attempts.toNat = 3 ∧
        (RetryLoop.step twoRetries id failingOperation)^[5] (RetryLoop.initial 0) =
          { phase := .returned (.error false) attempts
            state := 3
            events := [.called (.error true), .paused (twoRetries.delayMs 0),
              .called (.error true), .paused (twoRetries.delayMs 1), .called (.error false)] } := by
  have hbound : twoRetries.maxRetries < UInt32.size - 1 := by decide
  obtain ⟨last, hends, hfirst, hretry, -, attempts, hattempts, hloop⟩ :=
    retry_stops_first twoRetries id failingOperation 0 hbound
  -- The first two calls are not the last one.
  obtain rfl : last = 2 := by
    have hle : last ≤ 2 := le_maxRetries_of_first hfirst
    by_contra hne
    have hlt : last < 2 := by omega
    have hresult : nthResult failingOperation 0 last = .error true := by
      obtain rfl | rfl : last = 0 ∨ last = 1 := by omega
      · rfl
      · rfl
    cases hends with
    | succeeded hok =>
      rw [hresult] at hok
      cases hok
    | failed herror hgood =>
      rw [hresult] at herror
      obtain rfl := Except.error.inj herror
      cases hgood
    | exhausted hnone => exact hne hnone
  exact ⟨hbound, congrArg Retried.attempts hretry, attempts, hattempts, hloop⟩

end WorkflowSearch
