import Mathlib.Tactic.Common
import WorkflowSearch.Service.Breaker

namespace WorkflowSearch

/-- What happens at a breaker. A call is known by the number of events before its arrival. -/
inductive BreakerEvent where
  | arrival
  | start (call : ℕ)
  | completion (call : ℕ) (success : Bool)
  deriving DecidableEq

structure BreakerEntry where
  time : ℕ
  event : BreakerEvent
  deriving DecidableEq

abbrev BreakerLog := List BreakerEntry

namespace Breaker

variable {config : BreakerConfig} {now : ℕ} {breaker : Breaker}

inductive Arrives (config : BreakerConfig) (now : ℕ) (breaker : Breaker) :
    Admission × Breaker → Prop
  | admitted (hstate : breaker.state ≠ .open) : Arrives config now breaker (.admitted, breaker)
  | rejected (hstate : breaker.state = .open)
      (hearly : (breaker.openedAt.map (now - ·)).getD 0 < config.resetTime) :
      Arrives config now breaker
        (.rejected (config.resetTime - (breaker.openedAt.map (now - ·)).getD 0), breaker)
  | halfOpened (hstate : breaker.state = .open)
      (hlate : config.resetTime ≤ (breaker.openedAt.map (now - ·)).getD 0) :
      Arrives config now breaker
        (.admitted, { breaker with state := .halfOpen, successCount := 0 })

theorem arrives_arrive (config : BreakerConfig) (now : ℕ) (breaker : Breaker) :
    Arrives config now breaker (breaker.arrive config now) := by
  unfold arrive
  split
  · next hstate =>
    dsimp only
    split
    · next hlate => exact .halfOpened hstate hlate
    · next hearly => exact .rejected hstate (Nat.lt_of_not_le hearly)
  · next hstate => exact .admitted hstate

inductive Completes (config : BreakerConfig) (now : ℕ) (breaker : Breaker) : Bool → Breaker → Prop
  | succeeded (hstate : breaker.state ≠ .halfOpen) :
      Completes config now breaker true { breaker with failureCount := 0 }
  | counted (hstate : breaker.state = .halfOpen)
      (hfew : breaker.successCount + 1 < config.successThreshold) :
      Completes config now breaker true
        { breaker with successCount := breaker.successCount + 1 }
  | closed (hstate : breaker.state = .halfOpen)
      (henough : config.successThreshold ≤ breaker.successCount + 1) :
      Completes config now breaker true initial
  | failed (hstate : breaker.state ≠ .halfOpen)
      (hfew : breaker.state = .closed → breaker.failureCount + 1 < config.failureThreshold) :
      Completes config now breaker false { breaker with failureCount := breaker.failureCount + 1 }
  | opened (hstate : breaker.state = .closed)
      (henough : config.failureThreshold ≤ breaker.failureCount + 1) :
      Completes config now breaker false
        { breaker with
          state := .open
          failureCount := breaker.failureCount + 1
          openedAt := some now }
  | reopened (hstate : breaker.state = .halfOpen) :
      Completes config now breaker false
        { breaker with state := .open, openedAt := some now, successCount := 0 }

theorem completes_complete (config : BreakerConfig) (now : ℕ) (success : Bool) (breaker : Breaker) :
    Completes config now breaker success (breaker.complete config now success) := by
  obtain ⟨state, failures, successes, openedAt⟩ := breaker
  cases success with
  | true =>
    cases state with
    | closed => exact .succeeded (by simp)
    | «open» => exact .succeeded (by simp)
    | halfOpen =>
      simp only [complete, succeed, if_true]
      split
      · next henough => exact .closed rfl henough
      · next hfew => exact .counted rfl (Nat.lt_of_not_le hfew)
  | false =>
    cases state with
    | closed =>
      simp only [complete, fail, Bool.false_eq_true, if_false]
      split
      · next henough => exact .opened rfl henough
      · next hfew => exact .failed (by simp) fun _ ↦ Nat.lt_of_not_le hfew
    | «open» => exact .failed (by simp) (by simp)
    | halfOpen => exact .reopened rfl

theorem admitted_of_ne_open (h : (breaker.arrive config now).2.state ≠ .open) :
    (breaker.arrive config now).1 = .admitted := by
  have harrives := arrives_arrive config now breaker
  generalize breaker.arrive config now = answer at harrives h ⊢
  cases harrives with
  | admitted hstate => rfl
  | rejected hstate hearly => exact absurd hstate h
  | halfOpened hstate hlate => rfl

theorem arrive_of_ne_open (h : breaker.state ≠ .open) :
    breaker.arrive config now = (.admitted, breaker) := by
  unfold arrive
  split
  · contradiction
  · rfl

theorem complete_of_open (h : breaker.state = .open) (config : BreakerConfig) (now : ℕ)
    (success : Bool) :
    (breaker.complete config now success).state = .open ∧
      (breaker.complete config now success).openedAt = breaker.openedAt := by
  have hcompletes := completes_complete config now success breaker
  generalize breaker.complete config now success = breaker' at hcompletes ⊢
  cases hcompletes with
  | succeeded hstate => exact ⟨h, rfl⟩
  | failed hstate hfew => exact ⟨h, rfl⟩
  | counted hstate hfew => simp [h] at hstate
  | closed hstate henough => simp [h] at hstate
  | opened hstate henough => simp [h] at hstate
  | reopened hstate => simp [h] at hstate

/-- The breaker after an event. It is not asked again when an operation starts. -/
def next (config : BreakerConfig) (entry : BreakerEntry) (breaker : Breaker) : Breaker :=
  match entry.event with
  | .arrival => (breaker.arrive config entry.time).2
  | .start _ => breaker
  | .completion _ success => breaker.complete config entry.time success

theorem next_of_closed (h : breaker.state = .closed) (config : BreakerConfig)
    (entry : BreakerEntry) : (next config entry breaker).state ≠ .halfOpen := by
  obtain ⟨now, event⟩ := entry
  cases event with
  | arrival => simp [next, arrive_of_ne_open, h]
  | start call => simp [next, h]
  | completion call success =>
    have hcompletes := completes_complete config now success breaker
    dsimp only [next]
    generalize breaker.complete config now success = breaker' at hcompletes ⊢
    cases hcompletes with
    | succeeded hstate => exact hstate
    | failed hstate hfew => exact hstate
    | counted hstate hfew => simp [h] at hstate
    | closed hstate henough => simp [initial]
    | opened hstate henough => simp
    | reopened hstate => simp

end Breaker

section Logs

variable (config : BreakerConfig)

def breakerAfter (log : BreakerLog) : Breaker :=
  log.foldr (Breaker.next config) .initial

def admittedCalls : BreakerLog → List ℕ
  | [] => []
  | ⟨now, .arrival⟩ :: past =>
    if ((breakerAfter config past).arrive config now).1 = .admitted then
      past.length :: admittedCalls past
    else admittedCalls past
  | ⟨_, .start _⟩ :: past => admittedCalls past
  | ⟨_, .completion ..⟩ :: past => admittedCalls past

def startedCalls (log : BreakerLog) : List ℕ :=
  log.filterMap fun entry ↦
    match entry.event with
    | .start call => some call
    | _ => none

def completedCalls (log : BreakerLog) : List ℕ :=
  log.filterMap fun entry ↦
    match entry.event with
    | .completion call _ => some call
    | _ => none

/-- The logs of calls that overlap in any way: time does not go back; only a call that was admitted
starts, once and at any time after that, and only one that started completes, once. -/
inductive Interleaving : BreakerLog → Prop
  | nil : Interleaving []
  | arrival {log : BreakerLog} {now : ℕ} (h : Interleaving log)
      (hnow : ∀ entry ∈ log, entry.time ≤ now) : Interleaving (⟨now, .arrival⟩ :: log)
  | start {log : BreakerLog} {now call : ℕ} (h : Interleaving log)
      (hnow : ∀ entry ∈ log, entry.time ≤ now) (hadmitted : call ∈ admittedCalls config log)
      (hwaiting : call ∉ startedCalls log) : Interleaving (⟨now, .start call⟩ :: log)
  | completion {log : BreakerLog} {now call : ℕ} (success : Bool) (h : Interleaving log)
      (hnow : ∀ entry ∈ log, entry.time ≤ now) (hstarted : call ∈ startedCalls log)
      (hrunning : call ∉ completedCalls log) :
      Interleaving (⟨now, .completion call success⟩ :: log)

def Opens (entry : BreakerEntry) (log : BreakerLog) : Prop :=
  (breakerAfter config log).state ≠ .open ∧ (breakerAfter config (entry :: log)).state = .open

instance (entry : BreakerEntry) (log : BreakerLog) : Decidable (Opens config entry log) :=
  inferInstanceAs (Decidable (_ ∧ _))

end Logs

variable {config : BreakerConfig} {entry : BreakerEntry} {recent log : BreakerLog} {now : ℕ}

theorem breakerAfter_arrival (config : BreakerConfig) (now : ℕ) (log : BreakerLog) :
    breakerAfter config (⟨now, .arrival⟩ :: log) =
      ((breakerAfter config log).arrive config now).2 :=
  rfl

theorem breakerAfter_start (config : BreakerConfig) (now call : ℕ) (log : BreakerLog) :
    breakerAfter config (⟨now, .start call⟩ :: log) = breakerAfter config log :=
  rfl

theorem breakerAfter_completion (config : BreakerConfig) (now call : ℕ) (success : Bool)
    (log : BreakerLog) :
    breakerAfter config (⟨now, .completion call success⟩ :: log) =
      (breakerAfter config log).complete config now success :=
  rfl

theorem exists_completes (config : BreakerConfig) (now call : ℕ) (success : Bool)
    (log : BreakerLog) :
    ∃ breaker, breakerAfter config (⟨now, .completion call success⟩ :: log) = breaker ∧
      Breaker.Completes config now (breakerAfter config log) success breaker :=
  ⟨_, rfl, Breaker.completes_complete config now success (breakerAfter config log)⟩

theorem startedCalls_append (recent log : BreakerLog) :
    startedCalls (recent ++ log) = startedCalls recent ++ startedCalls log :=
  List.filterMap_append

theorem lt_length_of_mem_admittedCalls {call : ℕ} (h : call ∈ admittedCalls config log) :
    call < log.length := by
  induction log with
  | nil => cases h
  | cons entry past ih =>
    obtain ⟨now, event⟩ := entry
    cases event with
    | arrival =>
      rw [admittedCalls] at h
      split at h
      · obtain rfl | hpast := List.mem_cons.mp h
        · exact Nat.lt_succ_self _
        · exact Nat.lt_succ_of_lt (ih hpast)
      · exact Nat.lt_succ_of_lt (ih h)
    | start _ | completion _ _ => exact Nat.lt_succ_of_lt (ih h)

theorem admittedCalls_subset_cons (entry : BreakerEntry) (log : BreakerLog) :
    admittedCalls config log ⊆ admittedCalls config (entry :: log) := by
  obtain ⟨now, event⟩ := entry
  cases event with
  | arrival =>
    rw [admittedCalls]
    split
    · exact List.subset_cons_self ..
    · exact List.Subset.refl _
  | start _ | completion _ _ => exact List.Subset.refl _

theorem admittedCalls_subset_append (recent log : BreakerLog) :
    admittedCalls config log ⊆ admittedCalls config (recent ++ log) := by
  induction recent with
  | nil => exact List.Subset.refl _
  | cons entry recent ih => exact List.Subset.trans ih (admittedCalls_subset_cons entry _)

namespace Interleaving

theorem tail (h : Interleaving config (entry :: log)) : Interleaving config log := by
  cases h with
  | arrival h => exact h
  | start h => exact h
  | completion success h => exact h

theorem of_append (h : Interleaving config (recent ++ log)) : Interleaving config log := by
  induction recent with
  | nil => exact h
  | cons entry recent ih => exact ih h.tail

theorem time_le (h : Interleaving config (entry :: log)) :
    ∀ earlier ∈ log, earlier.time ≤ entry.time := by
  cases h with
  | arrival _ hnow => exact hnow
  | start _ hnow => exact hnow
  | completion _ _ hnow => exact hnow

theorem startedCalls_subset (h : Interleaving config log) :
    startedCalls log ⊆ admittedCalls config log := by
  induction h with
  | nil => exact List.Subset.refl _
  | arrival h hnow ih => exact List.Subset.trans ih (admittedCalls_subset_cons _ _)
  | start h hnow hadmitted hwaiting ih => exact List.cons_subset.mpr ⟨hadmitted, ih⟩
  | completion success h hnow hstarted hrunning ih => exact ih

theorem completedCalls_subset (h : Interleaving config log) :
    completedCalls log ⊆ startedCalls log := by
  induction h with
  | nil => exact List.Subset.refl _
  | arrival h hnow ih => exact ih
  | start h hnow hadmitted hwaiting ih => exact List.subset_cons_of_subset _ ih
  | completion success h hnow hstarted hrunning ih => exact List.cons_subset.mpr ⟨hstarted, ih⟩

end Interleaving

section Nested

/-- Events at one time after a log, where only calls that arrive in them start. -/
structure Extends (config : BreakerConfig) (now : ℕ) (log recent : BreakerLog) : Prop where
  interleaving : Interleaving config (recent ++ log)
  times : ∀ entry ∈ recent, entry.time = now
  own : ∀ call ∈ startedCalls recent, log.length ≤ call

theorem Extends.trans {first second : BreakerLog} (h : Extends config now log first)
    (h' : Extends config now (first ++ log) second) : Extends config now log (second ++ first) := by
  refine ⟨?_, ?_, ?_⟩
  · rw [List.append_assoc]
    exact h'.interleaving
  · exact List.forall_mem_append.mpr ⟨h'.times, h.times⟩
  · rw [startedCalls_append, List.forall_mem_append]
    refine ⟨fun call hcall ↦ ?_, h.own⟩
    have hlength := h'.own call hcall
    rw [List.length_append] at hlength
    omega

theorem Extends.time_le (h : Extends config now log recent)
    (hnow : ∀ entry ∈ log, entry.time ≤ now) : ∀ entry ∈ recent ++ log, entry.time ≤ now :=
  List.forall_mem_append.mpr ⟨fun entry hentry ↦ Nat.le_of_eq (h.times entry hentry), hnow⟩

theorem Extends.completion (h : Extends config now log recent)
    (hnow : ∀ entry ∈ log, entry.time ≤ now)
    (hadmitted : log.length ∈ admittedCalls config (recent ++ log))
    (hwaiting : log.length ∉ startedCalls recent) (success : Bool) :
    Extends config now log
      (⟨now, .completion log.length success⟩ :: ⟨now, .start log.length⟩ :: recent) := by
  have hnever : log.length ∉ startedCalls (recent ++ log) := by
    rw [startedCalls_append, List.mem_append]
    rintro (hrecent | hlog)
    · exact hwaiting hrecent
    · have hknown := h.interleaving.of_append.startedCalls_subset hlog
      exact absurd (lt_length_of_mem_admittedCalls hknown) (Nat.lt_irrefl _)
  have hstart := h.interleaving.start (h.time_le hnow) hadmitted hnever
  have htimes : ∀ entry ∈ ⟨now, .start log.length⟩ :: (recent ++ log), entry.time ≤ now :=
    List.forall_mem_cons.mpr ⟨Nat.le_refl now, h.time_le hnow⟩
  refine ⟨hstart.completion success htimes List.mem_cons_self fun hcompleted ↦ ?_, ?_, ?_⟩
  · exact hnever (h.interleaving.completedCalls_subset hcompleted)
  · exact List.forall_mem_cons.mpr ⟨rfl, List.forall_mem_cons.mpr ⟨rfl, h.times⟩⟩
  · exact List.forall_mem_cons.mpr ⟨Nat.le_refl _, h.own⟩

mutual

/-- A call and those inside it are events at a breaker, in this order. The operation of a call may
start after all of those. -/
theorem exists_extends_make {log : BreakerLog} (call : BreakerCall) (h : Interleaving config log)
    (hnow : ∀ entry ∈ log, entry.time ≤ now) :
    ∃ recent, Extends config now log recent ∧
      breakerAfter config (recent ++ log) = ((breakerAfter config log).make config now call).2 := by
  match call with
  | .call succeeds inner =>
    have harrival : Extends config now log [⟨now, .arrival⟩] :=
      ⟨h.arrival hnow, by simp, by simp [startedCalls]⟩
    have hafter := breakerAfter_arrival config now log
    rw [Breaker.make]
    split
    · next remaining breaker hrejected =>
      rw [hrejected] at hafter
      exact ⟨_, harrival, hafter⟩
    · next breaker hanswer =>
      rw [hanswer] at hafter
      obtain ⟨during, hduring, hbreaker⟩ :=
        exists_extends_makeAll inner harrival.interleaving (harrival.time_le hnow)
      have hadmitted : log.length ∈ admittedCalls config (⟨now, .arrival⟩ :: log) := by
        rw [admittedCalls, hanswer]
        exact List.mem_cons_self
      have hwaiting : log.length ∉ startedCalls (during ++ [⟨now, .arrival⟩]) := by
        rw [startedCalls_append]
        intro hmem
        have hlength := hduring.own _ (by simpa [startedCalls] using hmem)
        rw [List.singleton_append, List.length_cons] at hlength
        exact absurd hlength (Nat.not_succ_le_self _)
      have hcall := (harrival.trans hduring).completion hnow
        (by simpa using admittedCalls_subset_append during _ hadmitted) hwaiting succeeds
      refine ⟨_, hcall, ?_⟩
      rw [List.cons_append, breakerAfter_completion, List.cons_append, breakerAfter_start,
        List.append_assoc, hbreaker]
      exact congrArg (fun b ↦ (b.makeAll config now inner).complete config now succeeds) hafter

theorem exists_extends_makeAll {log : BreakerLog} (calls : List BreakerCall)
    (h : Interleaving config log) (hnow : ∀ entry ∈ log, entry.time ≤ now) :
    ∃ recent, Extends config now log recent ∧
      breakerAfter config (recent ++ log) = (breakerAfter config log).makeAll config now calls := by
  match calls with
  | [] => exact ⟨[], ⟨h, by simp, by simp [startedCalls]⟩, rfl⟩
  | call :: calls =>
    obtain ⟨first, hfirst, hbreaker⟩ := exists_extends_make call h hnow
    obtain ⟨rest, hrest, hall⟩ :=
      exists_extends_makeAll calls hfirst.interleaving (hfirst.time_le hnow)
    refine ⟨rest ++ first, hfirst.trans hrest, ?_⟩
    rw [List.append_assoc, hall, hbreaker, Breaker.makeAll]

end

end Nested

end WorkflowSearch
